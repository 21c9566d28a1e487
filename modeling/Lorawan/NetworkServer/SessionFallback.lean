import Lorawan.Lib.Machine
import Lorawan.NetworkServer.Serving

/-!
# Falling back to an older session (common.c:1222-1340, 1835-1860, fNS.c:597-659, 1225-1245, sNS.c:2255-2308)

The MIC of an uplink of LoRaWAN 1.1 and of a rejoin request is checked under the
newest session. When it is wrong and `getSession` saw another row, the next one is
taken and checked. The query asks for one row, so there never is another one.
-/

namespace Lorawan.NetworkServer
open Lorawan Lorawan.Backend

variable (A : BlockCipher)

namespace Fallback

/-- The members of `mote_t` and of `session_t` that the loops use. History: the row that was
read. -/
structure Memory where
  session : Session
  next : Bool
  nth : ℕ
  read : Option SessionRow

/-- Freshly allocated memory. -/
def Memory.zero : Memory := ⟨Session.zero, false, 0, none⟩

/-- `getSession`: `rows` are those that the condition of the query selects, and
`LIMIT nth,1` takes one of them. Without a row `next` is left as it was. -/
def getSession (rows : List SessionRow) (nth now : ℕ) (m : Memory) : Memory :=
  match (rows.drop nth).take 1 with
  | [] => { m with session := { m.session with until_ := .none, expired := true }, read := none }
  | row :: result =>
    { m with
      session := Session.ofRow now row m.session
      next := result.head?.isSome
      read := some row }

/-- The loops `ftry` and `rejoinTry`: whether the MIC is right in the end. -/
def retry (check : Session → Bool) (rows : List SessionRow) (now : ℕ) :
    ℕ → Memory → Option (Bool × Memory)
  | 0, _ => none
  | fuel + 1, m =>
    if check m.session then some (true, m)
    else if m.next then
      retry check rows now fuel (getSession rows (m.nth + 1) now { m with nth := m.nth + 1 })
    else some (false, m)

/-- Which of the two loops checks the frame. -/
inductive Loop
  | ftry
  | rejoinTry
deriving DecidableEq

/-- A frame of the device and the table at that time, newest row first. -/
structure Uplink where
  loop : Loop
  ID : ℕ
  devAddr : ℕ
  ULPayloadBin : Octets
  ULPHYPayloadLen : ℕ
  table : List SessionRow
  now : ℕ

/-- The rows that are asked for: of a data frame's DevAddr, of a rejoining device's ID. -/
def Uplink.stored (u : Uplink) : List SessionRow :=
  match u.loop with
  | .ftry => u.table.filter (·.DevAddr = u.devAddr)
  | .rejoinTry => u.table.filter (·.ID = u.ID)

/-- `rx_fhdr->FCnt` and `rx_fhdr->DevAddr`. -/
def Uplink.rxFCnt (u : Uplink) : ℕ := Octets.toNat (Octets.slice u.ULPayloadBin 6 2)

def Uplink.rxDevAddr (u : Uplink) : ℕ := Octets.toNat (Octets.slice u.ULPayloadBin 1 4)

def check_cmacF (phyPayload : Octets) (phyLen fCntUp DevAddr : ℕ) (fNwkSIntKey : Octets) : Bool :=
  let lenMsg := (phyLen + 252) % 256
  let block : block_t :=
    { header := 0x49, confFCnt := 0, dr := 0, ch := 0, dir := 0, DevAddr := DevAddr,
      FCnt := fCntUp, zero8 := 0, lenMsg := lenMsg }
  let ctx := AES_CMAC_Update A fNwkSIntKey AES_CMAC_Init block.octets
  let ctx := AES_CMAC_Update A fNwkSIntKey ctx (phyPayload.take lenMsg)
  decide ((AES_CMAC_Final A fNwkSIntKey ctx).take 2 = Octets.slice phyPayload (phyLen - 2) 2)

/-- The MIC of the frame under a key and the counter of the session. -/
def Uplink.verifies (u : Uplink) (key : Octets) (FCntUp : ℕ) : Bool :=
  match u.loop with
  | .ftry =>
    check_cmacF A u.ULPayloadBin u.ULPHYPayloadLen (FCntUp32 FCntUp u.rxFCnt) u.rxDevAddr key
  | .rejoinTry =>
    decide (LoRa_GenerateJoinFrameIntegrityCode A key (u.ULPayloadBin.take (u.ULPHYPayloadLen - 4)) =
      Octets.slice u.ULPayloadBin (u.ULPHYPayloadLen - 4) 4)

/-- The key in memory that the loop uses. -/
def Uplink.memoryKey (u : Uplink) (n : Session) : Octets :=
  match u.loop with
  | .ftry => n.FNwkSIntKeyBin
  | .rejoinTry => n.SNwkSIntKeyBin

/-- The key of a stored session that the loop uses. -/
def Uplink.storedKey (u : Uplink) (r : SessionRow) : Option Octets :=
  match u.loop with
  | .ftry => r.FNwkSIntKey
  | .rejoinTry => r.SNwkSIntKey

def Uplink.check (u : Uplink) (n : Session) : Bool := u.verifies A (u.memoryKey n) n.FCntUp

/-- The session is read with `nth = 0`, and the loop runs. -/
def take (u : Uplink) (m : Memory) : Option (Bool × Memory) :=
  retry (u.check A) u.stored u.now (u.stored.length + 1)
    (getSession u.stored 0 u.now { m with nth := 0 })

/-- The memory after an uplink; a loop that did not end would leave nothing. -/
def step (m : Memory) (u : Uplink) : Memory := ((take A u m).map (·.2)).getD m

/-! ### What the loops should do -/

/-- The MIC of the frame is valid under the stored session. -/
def Uplink.validUnder (u : Uplink) (r : SessionRow) : Bool :=
  (u.storedKey r).any fun key => u.verifies A key (r.FCntUp.getD 0)

/-- The loop ends with the newest session under which the MIC is valid, and without accepting when
there is none. -/
def FallsBack (u : Uplink) (out : Option (Bool × Memory)) : Prop :=
  match u.stored.find? (u.validUnder A) with
  | some r => ∃ m old, out = some (true, m) ∧ m.read = some r ∧
      m.session = Session.ofRow u.now r old
  | none => ∃ m, out = some (false, m)

/-- The MIC verifies under a key that an earlier session left in memory, where the newest row has
none. -/
def StaleKey (u : Uplink) (m : Memory) : Prop :=
  match u.stored.head? with
  | none => u.check A m.session = true
  | some r =>
    u.storedKey r = none ∧ u.verifies A (u.memoryKey m.session) (r.FCntUp.getD 0) = true

/-- The newest session decides: the MIC is valid under it, or under no stored one and under no key
left in memory. -/
def NewestDecides (u : Uplink) (m : Memory) : Prop :=
  (∃ r, u.stored.head? = some r ∧ u.validUnder A r = true) ∨
    (∀ r ∈ u.stored, u.validUnder A r = false) ∧ ¬ StaleKey A u m

/-! ### Only one row is asked for -/

theorem next_getSession (rows : List SessionRow) (nth now : ℕ) {m : Memory}
    (h : m.next = false) : (getSession rows nth now m).next = false := by
  unfold getSession
  split
  · exact h
  · rename_i row result heq
    have hlen : ((rows.drop nth).take 1).length ≤ 1 := List.length_take_le 1 _
    rw [heq, List.length_cons] at hlen
    have hnil : result = [] := List.length_eq_zero_iff.mp (by omega)
    rw [hnil]
    rfl

theorem getSession_zero (rows : List SessionRow) (now : ℕ) (m : Memory) :
    (getSession rows 0 now m).session = NetworkServer.getSession rows.head? now m.session ∧
      (getSession rows 0 now m).read = rows.head? := by
  cases rows with
  | nil => exact ⟨rfl, rfl⟩
  | cons row rows => exact ⟨rfl, rfl⟩

theorem retry_of_next {check : Session → Bool} {rows : List SessionRow} {now fuel : ℕ}
    {m : Memory} (h : m.next = false) :
    retry check rows now (fuel + 1) m = some (check m.session, m) := by
  unfold retry
  rw [h]
  cases hcheck : check m.session with
  | true => rw [if_pos rfl]
  | false => rw [if_neg Bool.false_ne_true, if_neg Bool.false_ne_true]

theorem take_of_next (u : Uplink) {m : Memory} (h : m.next = false) :
    take A u m = some (u.check A (getSession u.stored 0 u.now { m with nth := 0 }).session,
      getSession u.stored 0 u.now { m with nth := 0 }) :=
  retry_of_next (next_getSession _ _ _ h)

theorem next_step {m : Memory} (u : Uplink) (h : m.next = false) : (step A m u).next = false := by
  rw [step, take_of_next A u h]
  exact next_getSession _ _ _ h

/-! ### The MIC under the session that was read -/

theorem memoryKey_ofRow (u : Uplink) (now : ℕ) (r : SessionRow) (old : Session) :
    u.memoryKey (Session.ofRow now r old) = (u.storedKey r).getD (u.memoryKey old) := by
  unfold Uplink.memoryKey Uplink.storedKey
  split <;> rfl

theorem check_ofRow (u : Uplink) (now : ℕ) (r : SessionRow) (old : Session) :
    u.check A (Session.ofRow now r old) = true ↔
      u.validUnder A r = true ∨
        u.storedKey r = none ∧ u.verifies A (u.memoryKey old) (r.FCntUp.getD 0) = true := by
  rw [Uplink.check, memoryKey_ofRow, Uplink.validUnder]
  show u.verifies A _ (r.FCntUp.getD 0) = true ↔ _
  cases u.storedKey r with
  | none => simp
  | some key => simp

theorem check_getSession (u : Uplink) (m : Memory) :
    u.check A (getSession u.stored 0 u.now { m with nth := 0 }).session = true ↔
      (∃ r, u.stored.head? = some r ∧ u.validUnder A r = true) ∨ StaleKey A u m := by
  rw [(getSession_zero _ _ _).1, StaleKey]
  cases u.stored.head? with
  | none =>
    have hkeys : u.check A (NetworkServer.getSession none u.now m.session) =
        u.check A m.session := by
      unfold Uplink.check Uplink.memoryKey
      cases u.loop <;> rfl
    dsimp only
    rw [hkeys]
    simp
  | some r =>
    show u.check A (Session.ofRow u.now r m.session) = true ↔ _
    rw [check_ofRow]
    simp

/-- The newest session is the one that is found exactly when the MIC is valid under it. -/
theorem find_eq_head {rows : List SessionRow} {valid : SessionRow → Bool} {r : SessionRow}
    (hfind : rows.find? valid = some r) :
    rows.head? = some r ↔ ∃ q, rows.head? = some q ∧ valid q = true := by
  cases rows with
  | nil => exact absurd hfind nofun
  | cons q rows =>
    rw [List.find?_cons] at hfind
    constructor
    · intro h
      obtain rfl := Option.some.inj h
      exact ⟨q, rfl, by
        cases hq : valid q with
        | true => rfl
        | false =>
          rw [hq] at hfind
          have := List.find?_some hfind
          rw [hq] at this
          exact this⟩
    · rintro ⟨q', hq', hvalid⟩
      obtain rfl := Option.some.inj hq'
      rw [hvalid] at hfind
      exact hfind

theorem fallsBack_iff {u : Uplink} {m : Memory} (h : m.next = false) :
    FallsBack A u (take A u m) ↔ NewestDecides A u m := by
  have hcheck := check_getSession A u m
  obtain ⟨hsession, hread⟩ := getSession_zero u.stored u.now { m with nth := 0 }
  rw [take_of_next A u h, FallsBack, NewestDecides]
  generalize getSession u.stored 0 u.now { m with nth := 0 } = m₁ at hcheck hsession hread ⊢
  cases hfind : u.stored.find? (u.validUnder A) with
  | none =>
    have hnone : ∀ r ∈ u.stored, u.validUnder A r = false := fun r hr =>
      Bool.eq_false_iff.mpr (List.find?_eq_none.mp hfind r hr)
    have hhead : ¬ ∃ r, u.stored.head? = some r ∧ u.validUnder A r = true := by
      rintro ⟨r, hr, hvalid⟩
      rw [hnone r (List.mem_of_mem_head? hr)] at hvalid
      exact Bool.false_ne_true hvalid
    dsimp only
    constructor
    · rintro ⟨m', heq⟩
      have hfalse : u.check A m₁.session = false := congrArg Prod.fst (Option.some.inj heq)
      refine Or.inr ⟨hnone, fun hstale => ?_⟩
      rw [hcheck.mpr (Or.inr hstale)] at hfalse
      exact Bool.false_ne_true hfalse.symm
    · rintro (hvalid | ⟨-, hfresh⟩)
      · exact absurd hvalid hhead
      · have hfalse : u.check A m₁.session = false := by
          rw [Bool.eq_false_iff]
          exact fun htrue => (hcheck.mp htrue).elim hhead hfresh
        exact ⟨m₁, by rw [hfalse]⟩
  | some r =>
    have hvalid := List.find?_some hfind
    have hmem := List.mem_of_find?_eq_some hfind
    dsimp only
    constructor
    · rintro ⟨m', old, heq, hr, -⟩
      obtain ⟨-, rfl⟩ := Prod.mk.inj (Option.some.inj heq)
      exact Or.inl ⟨r, hread.symm.trans hr, hvalid⟩
    · rintro (hdecides | ⟨hnone, -⟩)
      · have hhead := (find_eq_head hfind).mpr hdecides
        rw [hhead] at hsession hread
        exact ⟨m₁, m.session, by rw [hcheck.mpr (Or.inl hdecides)], hread, hsession⟩
      · rw [hnone r hmem] at hvalid
        exact absurd hvalid Bool.false_ne_true

theorem next_run (us : List Uplink) : (Machine.run (step A) Memory.zero us).next = false := by
  have hstep : ∀ m u, (fun m : Memory => m.next = false) m →
      (fun m : Memory => m.next = false) (step A m u) := fun m u h => next_step A u h
  exact Machine.run_invariant_always (step A) hstep rfl us

/-- After any uplinks before, the loop falls back as it should exactly when the newest session
decides. -/
theorem fallsBack_iff_newestDecides (us : List Uplink) (u : Uplink) :
    FallsBack A u (take A u (Machine.run (step A) Memory.zero us)) ↔
      NewestDecides A u (Machine.run (step A) Memory.zero us) :=
  fallsBack_iff A (next_run A us)

/-! ### A device that still uses the session before -/

def otherKey : Octets := List.replicate 16 0x77

/-- Rows of LoRaWAN 1.1 with one key each for `FNwkSIntKey`. -/
def newerRow : SessionRow :=
  ⟨1, none, sampleDevAddr, some 0, some 0, some otherKey, some sampleKey, some sampleKey, 1, 1⟩

def olderRow : SessionRow :=
  ⟨1, none, sampleDevAddr, some 0, some 0, some sampleKey, some otherKey, some otherKey, 0, 0⟩

/-- A data frame whose MIC is valid under the older session. -/
def olderUplink : Uplink where
  loop := .ftry
  ID := 1
  devAddr := sampleDevAddr
  ULPayloadBin :=
    let msg := [0x40] ++ Octets.ofNat 4 sampleDevAddr ++ [0] ++ Octets.ofNat 2 1
    let block := block_t.mk 0x49 0 0 0 0 sampleDevAddr 1 0 8
    msg ++ [0, 0] ++ (LoRa_GenerateDataFrameIntegrityCode BlockCipher.xorKey block sampleKey msg).take 2
  ULPHYPayloadLen := 12
  table := [newerRow, olderRow]
  now := 0

/-- The frame is not accepted though the older session is stored. -/
theorem older_session_not_tried :
    ¬ FallsBack BlockCipher.xorKey olderUplink
      (take BlockCipher.xorKey olderUplink (Machine.run (step BlockCipher.xorKey) Memory.zero [])) := by
  have hfind : olderUplink.stored.find? (olderUplink.validUnder BlockCipher.xorKey) =
      some olderRow := by
    decide +kernel
  have hout : (take BlockCipher.xorKey olderUplink
      (Machine.run (step BlockCipher.xorKey) Memory.zero [])).map (·.1) = some false := by
    decide +kernel
  rw [FallsBack, hfind]
  rintro ⟨m, old, heq, -⟩
  rw [heq] at hout
  exact Bool.false_ne_true (Option.some.inj hout).symm

end Fallback

end Lorawan.NetworkServer

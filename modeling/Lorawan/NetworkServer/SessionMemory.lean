import Lorawan.NetworkServer.RowUpdates
import Lorawan.NetworkServer.SessionFallback

/-!
# What getSession leaves in memory (network_server/common.c:694-833, 1222-1340, fNS.c:735-823)

`getSession` writes into the `session_t` of the mote. It skips a key column that
is `NULL`, and without a row it writes two members only, so that keys of the
session that was read before stay there. A row without keys is what a roaming
partner's answer inserts.
-/

namespace Lorawan.NetworkServer
open Lorawan Lorawan.Backend Backend.mtype_e

variable (A : BlockCipher)

/-! ### getSession -/

structure SessionTables where
  motes : List MotesRow
  sessions : List SessionRow
deriving DecidableEq

/-- The arguments of `getSession`, the time, and which of its two queries succeed. -/
structure SessionQuery where
  devEui : ℕ
  devAddr : ℕ
  nth : ℕ
  now : ℕ
  motesOk : Bool
  sessionsOk : Bool
deriving DecidableEq

/-- The rows that the condition of the second query selects; `none` when the function fails. -/
def SessionQuery.selects (q : SessionQuery) (db : SessionTables) : Option (List SessionRow) :=
  if q.devEui ≠ NONE_DEVEUI then
    if q.motesOk then
      match db.motes.find? (·.DevEUI = some q.devEui) with
      | none => none
      | some m => if q.sessionsOk then some (db.sessions.filter (·.ID = m.ID)) else none
    else none
  else if q.sessionsOk then some (db.sessions.filter (·.DevAddr = q.devAddr)) else none

/-- `getSession`, and whether it returns zero. -/
def SessionQuery.getSession (q : SessionQuery) (db : SessionTables) (m : Fallback.Memory) :
    Bool × Fallback.Memory :=
  match q.selects db with
  | none => (false, { m with session := { m.session with until_ := .none } })
  | some rows => (true, Fallback.getSession rows q.nth q.now m)

/-! ### Rows without keys -/

def SessionRow.HasKeys (r : SessionRow) : Prop :=
  r.FNwkSIntKey.isSome = true ∧ r.SNwkSIntKey.isSome = true ∧ r.NwkSEncKey.isSome = true

instance (r : SessionRow) : Decidable r.HasKeys := inferInstanceAs (Decidable (_ ∧ _))

/-- `get_nsns_key`; without the object the result is a null pointer. -/
inductive NsnsKey
  | key (keyBin : Octets)
  | missing
  | failed
deriving DecidableEq

/-- What `PRStartAnsCallback` reads of an answer. -/
structure PRStartAns where
  rxResult : Result
  Lifetime : ℕ
  FCntUp : Option ℕ
  key : NsnsKey
deriving DecidableEq

/-- The row of an `add_database_session` with a lifetime and an address only. -/
def blankRow (ID devAddr until_ createdAt serial : ℕ) : SessionRow :=
  ⟨ID, some until_, devAddr, none, none, none, none, none, createdAt, serial⟩

/-- The session that `PRStartAnsCallback` adds to `blank`, if any. -/
def PRStartAns.session (ans : PRStartAns) (devEui : ℕ) (blank : SessionRow) : Option SessionRow :=
  if ans.Lifetime = 0 ∨ devEui = NONE_DEVEUI then none
  else
    match ans.rxResult with
    | .Success =>
      match ans.FCntUp, ans.key with
      | some n, .key keyBin => some { blank with FCntUp := some n, FNwkSIntKey := some keyBin }
      | some n, .missing => some { blank with FCntUp := some n }
      | none, .key keyBin =>
        some { blank with
          FNwkSIntKey := some keyBin
          SNwkSIntKey := some keyBin
          NwkSEncKey := some keyBin }
      | none, .missing => some blank
      | _, .failed => none
    | .Deferred => if blank.DevAddr = NONE_DEVADDR then none else some blank
    | _ => none

theorem session_hasKeys_iff {ans : PRStartAns} {devEui ID devAddr until_ createdAt serial : ℕ}
    {r : SessionRow}
    (h : ans.session devEui (blankRow ID devAddr until_ createdAt serial) = some r) :
    r.HasKeys ↔ ans.rxResult = .Success ∧ ans.FCntUp = none ∧ ∃ keyBin, ans.key = .key keyBin := by
  obtain ⟨rxResult, Lifetime, FCntUp, key⟩ := ans
  unfold PRStartAns.session at h
  split at h
  · cases h
  · cases rxResult with
    | Success =>
      cases FCntUp with
      | some n => cases key <;> simp [blankRow] at h <;> subst h <;> simp [SessionRow.HasKeys]
      | none => cases key <;> simp [blankRow] at h <;> subst h <;> simp [SessionRow.HasKeys]
    | Deferred =>
      have hdeferred : Result.Deferred ≠ .Success := by decide
      dsimp only at h
      split at h
      · cases h
      · obtain rfl := Option.some.inj h
        simp [SessionRow.HasKeys, blankRow, hdeferred]
    | _ => cases h

/-! ### The property -/

/-- Arrays of sixteen octets. -/
def Session.WfKeys (n : Session) : Prop :=
  n.FNwkSIntKeyBin.length = 16 ∧ n.SNwkSIntKeyBin.length = 16 ∧ n.NwkSEncKeyBin.length = 16

instance (n : Session) : Decidable n.WfKeys := inferInstanceAs (Decidable (_ ∧ _))

/-- What is used of a session: its members without the history, and `next`. -/
def used (m : Fallback.Memory) : Session × Bool := ({ m.session with row := 0 }, m.next)

/-- When the function succeeds, what it leaves does not depend on what was there. -/
def DatabaseOnly (q : SessionQuery) (db : SessionTables) : Prop :=
  ∀ m m' : Fallback.Memory, m.session.WfKeys → m'.session.WfKeys → (q.getSession db m).1 = true →
    used (q.getSession db m).2 = used (q.getSession db m').2

/-- No check of a MIC and no downlink tells two prior contents apart. -/
def NoLeftOverKey (q : SessionQuery) (db : SessionTables) : Prop :=
  ∀ m m' : Fallback.Memory, m.session.WfKeys → m'.session.WfKeys → (q.getSession db m).1 = true →
    let n := (q.getSession db m).2.session
    let n' := (q.getSession db m').2.session
    (∀ u : Fallback.Uplink, u.check A n = u.check A n') ∧
    (∀ (env : UplinkEnv) (mote : Mote) (FCntUp : ℕ),
      (checkMic A env { mote with session := n } FCntUp).1 =
        (checkMic A env { mote with session := n' } FCntUp).1) ∧
    ∀ (junk : Octets) (mote : Mote),
      (sNS_schedule_downlink A junk { mote with session := n }).map (·.s) =
        (sNS_schedule_downlink A junk { mote with session := n' }).map (·.s)

/-- The condition: a row is read, and it has its three keys; or the function fails. -/
def KeysRead (q : SessionQuery) (db : SessionTables) : Prop :=
  ∀ rows, q.selects db = some rows → ∃ r, rows[q.nth]? = some r ∧ r.HasKeys

/-! ### A deferred roaming start -/

/-- The device's own session, and a newer one that was added when the start was deferred. -/
def deferredTables : SessionTables :=
  let deferred := PRStartAns.session ⟨.Deferred, 90, none, .missing⟩ 5
    (blankRow 1 sampleDevAddr 100 9 1)
  ⟨[], deferred.toList ++ [{ sampleRow with FCntUp := some 7 }]⟩

def byDevAddr (nth : ℕ) : SessionQuery := ⟨NONE_DEVEUI, sampleDevAddr, nth, 10, true, true⟩

/-- The memory after the older session was read, and the frame of an uplink with the counter 3. -/
def readBefore : Fallback.Memory := ((byDevAddr 1).getSession deferredTables .zero).2

def replayedTo (m : Fallback.Memory) : Mote :=
  receive (sampleUplink MTYPE_UNCONF_UP 0 3) 3
    { Mote.init 1 sampleDevAddr with session := ((byDevAddr 0).getSession deferredTables m).2.session }

/-- The uplink of the older session, whose counter is 7, is taken under its key in the newer one. -/
theorem left_over_key_verifies :
    ¬DatabaseOnly (byDevAddr 0) deferredTables ∧
      ¬NoLeftOverKey BlockCipher.xorKey (byDevAddr 0) deferredTables ∧
      verifies BlockCipher.xorKey plainUplink (replayedTo readBefore) = true ∧
      verifies BlockCipher.xorKey plainUplink (replayedTo .zero) = false := by
  have hread : readBefore.session.WfKeys := by decide
  have hzero : Fallback.Memory.zero.session.WfKeys := by decide
  refine ⟨?_, ?_, by decide +kernel, by decide +kernel⟩
  · intro h
    exact absurd (h readBefore .zero hread hzero (by decide)) (by decide)
  · intro h
    have hmic := (h readBefore .zero hread hzero (by decide)).2.1 plainUplink (replayedTo .zero) 3
    revert hmic
    decide +kernel

/-! ### When the keys are read -/

variable {A} {q : SessionQuery} {db : SessionTables} {rows : List SessionRow}

theorem limit_one {n : ℕ} {r : SessionRow} (h : rows[n]? = some r) :
    (rows.drop n).take 1 = [r] := by
  obtain ⟨hlt, hget⟩ := List.getElem?_eq_some_iff.mp h
  rw [List.drop_eq_getElem_cons hlt, hget]
  rfl

theorem used_of_keysRead (h : KeysRead q db) {m : Fallback.Memory} (m' : Fallback.Memory)
    (hok : (q.getSession db m).1 = true) :
    (q.getSession db m).2.session = (q.getSession db m').2.session ∧
      (q.getSession db m).2.next = (q.getSession db m').2.next := by
  unfold SessionQuery.getSession at hok ⊢
  cases hrows : q.selects db with
  | none =>
    rw [hrows] at hok
    cases hok
  | some rows =>
    obtain ⟨r, hr, hF, hS, hN⟩ := h rows hrows
    obtain ⟨fNwk, hfNwk⟩ := Option.isSome_iff_exists.mp hF
    obtain ⟨sNwk, hsNwk⟩ := Option.isSome_iff_exists.mp hS
    obtain ⟨nwkSEnc, hnwkSEnc⟩ := Option.isSome_iff_exists.mp hN
    simp only [Fallback.getSession, limit_one hr, Session.ofRow, hfNwk, hsNwk, hnwkSEnc, Option.getD_some,
      List.head?_nil, Option.isSome_none, and_self]

theorem isSome_of_getD {α : Type*} {o : Option α} {a b : α} (hne : a ≠ b)
    (h : o.getD a = o.getD b) : o.isSome = true := by
  cases o with
  | none => exact absurd h hne
  | some x => rfl

/-- Memory in which every key consists of one octet. -/
def filledWith (b : UInt8) : Fallback.Memory :=
  { Fallback.Memory.zero with session := { Session.zero with
      FNwkSIntKeyBin := List.replicate 16 b
      SNwkSIntKeyBin := List.replicate 16 b
      NwkSEncKeyBin := List.replicate 16 b } }

theorem databaseOnly_iff : DatabaseOnly q db ↔ KeysRead q db := by
  constructor
  · intro h rows hrows
    have hok : (q.getSession db (filledWith 0)).1 = true := by
      rw [SessionQuery.getSession, hrows]
    have hsame := h (filledWith 0) (filledWith 1) (by decide) (by decide) hok
    have hne : List.replicate 16 (0 : UInt8) ≠ List.replicate 16 1 := by decide
    simp only [SessionQuery.getSession, hrows, used, Prod.mk.injEq] at hsame
    cases hr : rows[q.nth]? with
    | none =>
      have hnone : (rows.drop q.nth).take 1 = [] := by
        rw [List.drop_eq_nil_of_le (List.getElem?_eq_none_iff.mp hr), List.take_nil]
      simp only [Fallback.getSession, hnone] at hsame
      exact absurd (congrArg Session.FNwkSIntKeyBin hsame.1) hne
    | some r =>
      simp only [Fallback.getSession, limit_one hr] at hsame
      exact ⟨r, rfl, isSome_of_getD hne (congrArg Session.FNwkSIntKeyBin hsame.1),
        isSome_of_getD hne (congrArg Session.SNwkSIntKeyBin hsame.1),
        isSome_of_getD hne (congrArg Session.NwkSEncKeyBin hsame.1)⟩
  · intro h m m' _ _ hok
    obtain ⟨hsession, hnext⟩ := used_of_keysRead h m' hok
    rw [used, used, hsession, hnext]

theorem noLeftOverKey_of_keysRead (h : KeysRead q db) : NoLeftOverKey A q db := by
  intro m m' _ _ hok
  obtain ⟨hsession, -⟩ := used_of_keysRead h m' hok
  rw [hsession]
  exact ⟨fun u => rfl, fun env mote FCntUp => rfl, fun junk mote => rfl⟩

/-- A session that a roaming partner's answer brought, read as the device's newest one. -/
theorem databaseOnly_after_answer {ans : PRStartAns} {devEui ID devAddr until_ createdAt serial : ℕ}
    {r : SessionRow} (hr : ans.session devEui (blankRow ID devAddr until_ createdAt serial) = some r)
    (hnewest : q.selects db = some (r :: rows)) (hnth : q.nth = 0) :
    DatabaseOnly q db ↔
      ans.rxResult = .Success ∧ ans.FCntUp = none ∧ ∃ keyBin, ans.key = .key keyBin := by
  rw [databaseOnly_iff, ← session_hasKeys_iff hr]
  constructor
  · intro h
    obtain ⟨r', hr', hkeys⟩ := h _ hnewest
    rw [hnth] at hr'
    obtain rfl := Option.some.inj hr'
    exact hkeys
  · intro hkeys rows' hrows
    rw [hnewest] at hrows
    obtain rfl := Option.some.inj hrows
    exact ⟨r, by rw [hnth]; rfl, hkeys⟩

/-- `getSession` reads everything from the database, and no key that was there before is used, if
and only if it fails or the row that it reads has its three keys. -/
theorem getSession_iff (A : BlockCipher) (q : SessionQuery) (db : SessionTables) :
    DatabaseOnly q db ∧ NoLeftOverKey A q db ↔ KeysRead q db :=
  ⟨fun h => databaseOnly_iff.mp h.1, fun h => ⟨databaseOnly_iff.mpr h, noLeftOverKey_of_keysRead h⟩⟩

end Lorawan.NetworkServer

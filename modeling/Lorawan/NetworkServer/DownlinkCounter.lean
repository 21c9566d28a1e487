import Lorawan.NetworkServer.Frames
import Lorawan.NetworkServer.UplinkReplay
import Mathlib.Data.List.Pairwise

/-!
# Freshness of NFCntDown

A frame is built under the NFCntDown of the session in memory, and the counter
is advanced later: by an ACK, or when the frame was sent. The copy in memory is
read again for every uplink, the table is changed by the queue. As long as a
frame is only built when the copy is what the table will hold and the frame
before it was counted, a counter is used once: the frames sent with it are equal
and it encrypts one FOpts.
-/

namespace Lorawan.NetworkServer
open Lorawan Lorawan.Backend Backend.mtype_e

variable (A : BlockCipher)

/-! ### The property -/

/-- Frames of one session that were sent with one NFCntDown are equal. -/
def FramesAgree (ns : NS) : Prop :=
  ns.sent.Pairwise fun x y => ∀ o ∈ x.origin, o.NFCntDown ≠ none → y.origin = some o →
    x.octets = y.octets

/-- The FOpts that a call encrypted. -/
def encryptedFOpts (m : Mote) : Option Octets :=
  if m.session.OptNeg ∧ queuedFOpts m ≠ [] then some (queuedFOpts m) else none

/-- Of one session no two FOpts were encrypted under one key, DevAddr and NFCntDown. -/
def FOptsAgree (ns : NS) : Prop :=
  ns.calls.Pairwise fun c d => c.before.session.row = d.before.session.row →
    c.before.session.NwkSEncKeyBin = d.before.session.NwkSEncKeyBin →
    c.before.devAddr = d.before.devAddr →
    c.before.session.NFCntDown = d.before.session.NFCntDown →
    ∀ f ∈ encryptedFOpts c.before, ∀ g ∈ encryptedFOpts d.before, f = g

/-! ### The condition -/

/-- The session in memory is the newest one with the DevAddr, with the NFCntDown that the table
will hold when the queue is drained. -/
def Synced (ns : NS) : Prop :=
  ∃ r ∈ newestByDevAddr ns.mote.devAddr ns.settled, r.ID = ns.mote.ID ∧
    r.serial = ns.mote.session.row ∧
    ns.mote.session.nullNFCntDown = r.NFCntDown.isNone ∧
    ns.mote.session.NFCntDown = r.NFCntDown.getD 0

/-- The frame before was counted, or this is the first one of a newer session. -/
def Continues (calls : List Call) (m : Mote) : Prop :=
  ∀ c ∈ calls, c.before.session.row < m.session.row ∨
    (c.before.session.row = m.session.row ∧ m.s.incrNFCntDown = false)

/-- What has to hold when a frame is built; `m` is the state that it is built from. -/
def Buildable (ns : NS) (m : Mote) : Prop :=
  Synced ns ∧ Continues ns.calls m ∧ (usesAFCntDown m = true → queuedFOpts m = [])

/-- What has to hold when NFCntDown is advanced: it is the newest session of which a frame was
built, and the statement reaches the queue. -/
def Countable (mqOk : Bool) (ns : NS) : Prop :=
  mqOk = true ∧ Synced ns ∧ ns.mote.session.NFCntDown + 1 < 2 ^ 32 ∧
    (∃ c ∈ ns.calls, c.before.session.row = ns.mote.session.row) ∧
    ∀ c ∈ ns.calls, c.before.session.row ≤ ns.mote.session.row

/-- Whether sending what is in `PHYPayloadBin` advances NFCntDown. -/
def Counts (env : SendEnv) (s : S) : Prop :=
  s.PHYPayloadLen ≠ 0 ∧ env.aborted = false ∧ env.result = some true ∧
    s.incrNFCntDown = true ∧ MType (s.PHYPayloadBin.headD 0) = MTYPE_UNCONF_DN

/-- The condition on a downlink of class B or C: on the frame that is built, or else on the one
that is left. -/
def SentCounted (env : DownlinkEnv) (ns : NS) (m : Mote) : Prop :=
  if needsDownlink m then
    m.session.nullNFCntDown = false ∧ Buildable ns m ∧
      (usesAFCntDown m = false → env.send.aborted = false → env.send.result = some true →
        env.send.mqOk = true ∧ m.session.NFCntDown + 1 < 2 ^ 32)
  else Counts env.send m.s → Countable env.send.mqOk ns

/-- The condition on an event. -/
def CountedInTurn (ns : NS) : Event → Prop
  | .uplink env => ∀ m ∈ scheduled A ns (.uplink env),
    (ns.mote.session.nullNFCntDown = true → env.mqOk.zeroNFCntDown = true ∧ Synced ns) ∧
    (rxACK ns.mote = true → ns.mote.s.incrNFCntDown = true →
      Countable env.mqOk.incrNFCntDown ns) ∧
    (needsDownlink m = true → Buildable ns m)
  | .rejoin _ => needsDownlink ns.mote = true →
    ns.mote.session.nullNFCntDown = false ∧ Buildable ns ns.mote
  | .send env => Counts env ns.mote.s → Countable env.mqOk ns
  | .downlink env md payload => ∀ m ∈ scheduled A ns (.downlink env md payload),
    SentCounted env ns m
  | .resend env failed => ∀ m ∈ scheduled A ns (.resend env failed), SentCounted env ns m
  | .other (.zeroNFCntDown devAddr) =>
    ∀ r ∈ newestByDevAddr devAddr ns.settled, r.ID ≠ ns.mote.ID
  | _ => True

instance (ns : NS) : Decidable (FramesAgree ns) := inferInstanceAs (Decidable (List.Pairwise _ _))

instance (ns : NS) : Decidable (FOptsAgree ns) := inferInstanceAs (Decidable (List.Pairwise _ _))

instance (ns : NS) : Decidable (Synced ns) := by
  unfold Synced
  infer_instance

instance (calls : List Call) (m : Mote) : Decidable (Continues calls m) := by
  unfold Continues
  infer_instance

instance (ns : NS) (m : Mote) : Decidable (Buildable ns m) := inferInstanceAs (Decidable (_ ∧ _))

instance (mqOk : Bool) (ns : NS) : Decidable (Countable mqOk ns) := by
  unfold Countable
  infer_instance

instance (env : SendEnv) (s : S) : Decidable (Counts env s) := inferInstanceAs (Decidable (_ ∧ _))

instance (env : DownlinkEnv) (ns : NS) (m : Mote) : Decidable (SentCounted env ns m) := by
  unfold SentCounted
  infer_instance

instance (ns : NS) : ∀ e, Decidable (CountedInTurn A ns e)
  | .uplink _ | .rejoin _ | .send _ | .downlink .. | .resend .. | .other (.zeroNFCntDown _) => by
    dsimp only [CountedInTurn]
    infer_instance
  | .window | .receive .. | .load .. | .macCmds _ | .joinReq _ | .address _ | .joinAns _
  | .other (.setFCntUp ..) | .other (.incrNFCntDown _) | .other (.insert _)
  | .other (.deleteNeverUsed _) | .other (.deleteOld ..) | .writer => .isTrue trivial

/-! ### The invariant -/

/-- A frame was built under the NFCntDown `n` of the session. -/
def Spent (calls : List Call) (session n : ℕ) : Prop :=
  ∃ c ∈ calls, usesAFCntDown c.before = false ∧ c.before.session.row = session ∧
    c.before.session.NFCntDown = n

/-- The counter of the session may still have to be advanced; or nothing more is built for it. -/
def Owed (ns : NS) (session : ℕ) : Prop :=
  ns.overrun = true ∨ ns.mote.s.incrNFCntDown = true ∨
    ∃ c ∈ ns.calls, session < c.before.session.row

/-- What was spent of a session is below the counter of its row, and the counter itself only as
long as it is owed. -/
structure Counters (ns : NS) : Prop where
  serials_nodup : (serials ns.store.table ns.store.queue).Nodup
  serials_lt : ∀ n ∈ serials ns.store.table ns.store.queue, n < ns.nextSerial
  session_lt : ∀ session n, Spent ns.calls session n → session < ns.nextSerial
  rows : ∀ session n, Spent ns.calls session n → ∀ r ∈ ns.settled, r.serial = session →
    r.ID = ns.mote.ID ∧ ∃ m, r.NFCntDown = some m ∧ n ≤ m ∧ (n = m → Owed ns session)
  once : ns.calls.Pairwise fun c d => usesAFCntDown c.before = false →
    usesAFCntDown d.before = false → c.before.session.row = d.before.session.row →
    c.before.session.NFCntDown ≠ d.before.session.NFCntDown
  fopts : ∀ c ∈ ns.calls, usesAFCntDown c.before = true → queuedFOpts c.before = []

/-- The octets are those of a frame that was built under the NFCntDown. -/
def BuiltAs (calls : List Call) (origin : Option Origin) (octets : Octets) : Prop :=
  ∀ session n, origin = some ⟨session, some n⟩ → ∃ c ∈ calls, ∃ m', c.after = some m' ∧
    usesAFCntDown c.before = false ∧ c.before.session.row = session ∧
    c.before.session.NFCntDown = n ∧ octets = m'.s.PHYPayloadBin.take m'.s.PHYPayloadLen

/-- What the arrays hold was built, or is no data frame. -/
structure Buffered (calls : List Call) (s : S) : Prop where
  bin : s.PHYPayloadBin.length = 256
  conf : s.confDLPHYPayloadBin.length = 256
  confLen : s.confDLPHYPayloadLen ≤ 256
  frame : s.PHYPayloadLen ≠ 0 → BuiltAs calls s.frame (s.PHYPayloadBin.take s.PHYPayloadLen)
  confFrame : s.confDLPHYPayloadLen ≠ 0 →
    BuiltAs calls s.confFrame (s.confDLPHYPayloadBin.take s.confDLPHYPayloadLen)

structure Fresh (ns : NS) : Prop where
  counters : Counters ns
  buffered : Buffered ns.calls ns.mote.s
  sent : ∀ x ∈ ns.sent, BuiltAs ns.calls x.origin x.octets

/-- What the invariant looks at in `s_t`. -/
def S.kept (s : S) : S :=
  { S.zero with
    PHYPayloadBin := s.PHYPayloadBin
    PHYPayloadLen := s.PHYPayloadLen
    frame := s.frame
    confDLPHYPayloadBin := s.confDLPHYPayloadBin
    confDLPHYPayloadLen := s.confDLPHYPayloadLen
    confFrame := s.confFrame
    incrNFCntDown := s.incrNFCntDown }

/-- What the invariant looks at. -/
def NS.kept (ns : NS) : NS :=
  { ns with mote := { Mote.init ns.mote.ID 0 with s := ns.mote.s.kept }, accepted := [] }

variable {ns ns' : NS}

theorem Fresh.congr (h : Fresh ns) (heq : ns'.kept = ns.kept) : Fresh ns' := by
  have hkept : Fresh ns.kept :=
    ⟨⟨h.counters.serials_nodup, h.counters.serials_lt, h.counters.session_lt, h.counters.rows,
      h.counters.once, h.counters.fopts⟩, ⟨h.buffered.bin, h.buffered.conf, h.buffered.confLen,
      h.buffered.frame, h.buffered.confFrame⟩, h.sent⟩
  rw [← heq] at hkept
  obtain ⟨⟨h1, h2, h3, h4, h5, h6⟩, ⟨h7, h8, h9, h10, h11⟩, h12⟩ := hkept
  exact ⟨⟨h1, h2, h3, h4, h5, h6⟩, ⟨h7, h8, h9, h10, h11⟩, h12⟩

theorem fresh_mapS (h : Fresh ns) {f : S → S} (hf : ∀ s, (f s).kept = s.kept) :
    Fresh (mapS f ns) := by
  refine h.congr ?_
  simp only [NS.kept, mapS, hf]

theorem fresh_mapSession (h : Fresh ns) (f : Session → Session) : Fresh (mapSession f ns) :=
  h.congr rfl

theorem fresh_clearLength (h : Fresh ns) :
    Fresh (mapS (fun s => { s with PHYPayloadLen := 0 }) ns) := by
  obtain ⟨⟨h1, h2, h3, h4, h5, h6⟩, ⟨h7, h8, h9, -, h11⟩, h12⟩ := h
  exact ⟨⟨h1, h2, h3, h4, h5, h6⟩, ⟨h7, h8, h9, fun hne => absurd rfl hne, h11⟩, h12⟩

/-! ### Statements -/

theorem Counters.settled_nodup (h : Counters ns) : (ns.settled.map (·.serial)).Nodup := by
  obtain ⟨l, hperm, hsub⟩ := serials_drained ns.store.table ns.store.queue
  exact hperm.nodup_iff.mp (h.serials_nodup.sublist hsub)

theorem Counters.settled_lt (h : Counters ns) {r : SessionRow} (hr : r ∈ ns.settled) :
    r.serial < ns.nextSerial :=
  h.serials_lt _ ((serials_drained _ _).subset (List.mem_map_of_mem hr))

/-- The statement leaves the rows of the sessions that were used, and lowers no counter. -/
def Preserves (ns : NS) (u : Statement) : Prop :=
  ∀ r' ∈ execute ns.settled u, ∀ n, Spent ns.calls r'.serial n → ∃ r ∈ ns.settled,
    r.serial = r'.serial ∧ r.ID = r'.ID ∧
      ∀ m, r.NFCntDown = some m → ∃ m', r'.NFCntDown = some m' ∧ m ≤ m'

theorem fresh_enqueue (h : Fresh ns) (mqOk : Bool) {u : Statement} (hnew : u.newSerial = none)
    (hu : Preserves ns u) : Fresh (enqueue mqOk u ns) := by
  unfold enqueue
  split
  · have hserials : serials (ns.store.enqueue u).table (ns.store.enqueue u).queue =
        serials ns.store.table ns.store.queue := by
      rw [serials_enqueue, hnew]
      simp
    refine ⟨⟨?_, ?_, h.counters.session_lt, ?_, h.counters.once, h.counters.fopts⟩, h.buffered,
      h.sent⟩
    · rw [hserials]
      exact h.counters.serials_nodup
    · rw [hserials]
      exact h.counters.serials_lt
    · intro session n hspent r' hr' hser
      rw [settled_enqueue] at hr'
      obtain ⟨r, hr, hser', hID, hmono⟩ := hu r' hr' n (hser ▸ hspent)
      obtain ⟨hown, m, hm, hle, howed⟩ := h.counters.rows session n hspent r hr (hser'.trans hser)
      obtain ⟨m', hm', hle'⟩ := hmono m hm
      exact ⟨hID ▸ hown, m', hm', hle.trans hle', fun heq => howed (by omega)⟩
  · exact h

theorem preserves_filter {u : Statement} {p : SessionRow → Bool}
    (hu : ∀ rows, execute rows u = rows.filter p) : Preserves ns u := by
  intro r' hr' n _
  rw [hu] at hr'
  exact ⟨r', (List.mem_filter.mp hr').1, rfl, rfl, fun m hm => ⟨m, hm, le_refl m⟩⟩

/-- A statement that changes the newest row with a DevAddr. -/
theorem preserves_modifyNewest {u : Statement} {devAddr : ℕ} {f : SessionRow → SessionRow}
    (hu : ∀ rows, execute rows u = modifyNewest devAddr f rows)
    (hser : ∀ r, (f r).serial = r.serial) (hID : ∀ r, (f r).ID = r.ID)
    (hmono : ∀ r, newestByDevAddr devAddr ns.settled = some r → ∀ n, Spent ns.calls r.serial n →
      ∀ m, r.NFCntDown = some m → ∃ m', (f r).NFCntDown = some m' ∧ m ≤ m') :
    Preserves ns u := by
  intro r' hr' n hspent
  rw [hu] at hr'
  rcases mem_modifyNewest hr' with hold | ⟨r, hr, rfl⟩
  · exact ⟨r', hold, rfl, rfl, fun m hm => ⟨m, hm, le_refl m⟩⟩
  · rw [hser] at hspent
    exact ⟨r, (newestByDevAddr_mem hr).1, (hser r).symm, (hID r).symm, hmono r hr n hspent⟩

theorem preserves_setFCntUp (n devAddr : ℕ) : Preserves ns (.setFCntUp n devAddr) :=
  preserves_modifyNewest (fun _ => rfl) (fun _ => rfl) (fun _ => rfl)
    fun _ _ _ _ m hm => ⟨m, hm, le_refl m⟩

theorem preserves_incrNFCntDown (devAddr : ℕ) : Preserves ns (.incrNFCntDown devAddr) := by
  refine preserves_modifyNewest (fun _ => rfl) (fun _ => rfl) (fun _ => rfl) ?_
  intro r _ _ _ m hm
  refine ⟨if m + 1 < 2 ^ 32 then m + 1 else m, ?_, ?_⟩
  · simp only [SessionRow.incrNFCntDown, hm, Option.map_some]
  · split <;> omega

theorem preserves_zeroNFCntDown (h : Fresh ns) {devAddr : ℕ}
    (hzero : ∀ r, newestByDevAddr devAddr ns.settled = some r →
      r.NFCntDown = none ∨ r.ID ≠ ns.mote.ID) : Preserves ns (.zeroNFCntDown devAddr) := by
  refine preserves_modifyNewest (fun _ => rfl) (fun _ => rfl) (fun _ => rfl) ?_
  intro r hr n hspent m hm
  obtain ⟨hown, -⟩ := h.counters.rows r.serial n hspent r (newestByDevAddr_mem hr).1 rfl
  rcases hzero r hr with hnull | hother
  · rw [hnull] at hm
    cases hm
  · exact absurd hown hother

theorem preserves_deleteOld (id : ℕ) (before : Option ℕ) : Preserves ns (.deleteOld id before) :=
  preserves_filter fun _ => rfl

theorem preserves_deleteNeverUsed (id : ℕ) : Preserves ns (.deleteNeverUsed id) :=
  preserves_filter fun _ => rfl

/-! ### The counter is advanced -/

/-- After a change of the newest row with the DevAddr the session of that row has the changed
row. -/
theorem eq_modified {rows : List SessionRow} (hnodup : (rows.map (·.serial)).Nodup) {devAddr : ℕ}
    {f : SessionRow → SessionRow} (hser : ∀ r, (f r).serial = r.serial)
    (haddr : ∀ r, (f r).DevAddr = r.DevAddr) {r r' : SessionRow}
    (hr : newestByDevAddr devAddr rows = some r) (hr' : r' ∈ modifyNewest devAddr f rows)
    (heq : r'.serial = r.serial) :
    r' = f r ∧ newestByDevAddr devAddr (modifyNewest devAddr f rows) = some r' := by
  have hnew : newestByDevAddr devAddr (modifyNewest devAddr f rows) = some (f r) := by
    rw [newest_modifyNewest devAddr f haddr, hr]
    rfl
  have hnodup' : ((modifyNewest devAddr f rows).map (·.serial)).Nodup := by
    rw [map_serial_modifyNewest devAddr f hser]
    exact hnodup
  have hsame : r' = f r :=
    eq_of_serial hnodup' hr' (newestByDevAddr_mem hnew).1 (heq.trans (hser r).symm)
  exact ⟨hsame, hsame ▸ hnew⟩

/-- Every session whose counter is owed is advanced, or a newer one has taken its place. -/
def CountsLast (ns : NS) : Prop :=
  ∀ session n, Spent ns.calls session n → ∀ r ∈ ns.settled, r.serial = session →
    r.NFCntDown = some n → (∃ c ∈ ns.calls, session < c.before.session.row) ∨
      (newestByDevAddr ns.mote.devAddr ns.settled = some r ∧ n + 1 < 2 ^ 32)

theorem incrNFCntDown_of_lt {r : SessionRow} {n : ℕ} (hr : r.NFCntDown = some n)
    (hlt : n + 1 < 2 ^ 32) : r.incrNFCntDown.NFCntDown = some (n + 1) := by
  simp only [SessionRow.incrNFCntDown, hr, Option.map_some, if_pos hlt]

theorem incrNFCntDown_of_not_lt {r : SessionRow} {n : ℕ} (hr : r.NFCntDown = some n)
    (hlt : ¬n + 1 < 2 ^ 32) : r.incrNFCntDown.NFCntDown = some n := by
  simp only [SessionRow.incrNFCntDown, hr, Option.map_some, if_neg hlt]

/-- What was spent is below the counter once it is advanced. -/
theorem rows_incrNFCntDown (h : Counters ns) (hlast : CountsLast ns) {session n : ℕ}
    (hspent : Spent ns.calls session n) {r' : SessionRow}
    (hr' : r' ∈ modifyNewest ns.mote.devAddr SessionRow.incrNFCntDown ns.settled)
    (hser : r'.serial = session) :
    r'.ID = ns.mote.ID ∧ ∃ m, r'.NFCntDown = some m ∧ n ≤ m ∧
      (n = m → ∃ c ∈ ns.calls, session < c.before.session.row) := by
  rcases mem_modifyNewest hr' with hold | ⟨r, hr, rfl⟩
  · obtain ⟨hID, m, hm, hle, -⟩ := h.rows session n hspent r' hold hser
    refine ⟨hID, m, hm, hle, ?_⟩
    rintro rfl
    rcases hlast session n hspent r' hold hser hm with hnewer | ⟨hnew, hlt⟩
    · exact hnewer
    · -- the newest row does not stay as it was
      have hsame := (eq_modified (f := SessionRow.incrNFCntDown) h.settled_nodup
        (fun _ => rfl) (fun _ => rfl) hnew hr' rfl).1
      have hm' := incrNFCntDown_of_lt hm hlt
      rw [← hsame, hm] at hm'
      have := Option.some.inj hm'
      omega
  · have hmem := (newestByDevAddr_mem hr).1
    obtain ⟨hID, m, hm, hle, -⟩ := h.rows session n hspent r hmem hser
    refine ⟨hID, ?_⟩
    by_cases hlt : m + 1 < 2 ^ 32
    · exact ⟨m + 1, incrNFCntDown_of_lt hm hlt, by omega, by omega⟩
    · refine ⟨m, incrNFCntDown_of_not_lt hm hlt, hle, ?_⟩
      rintro rfl
      rcases hlast session n hspent r hmem hser hm with hnewer | ⟨-, hlt'⟩
      · exact hnewer
      · exact absurd hlt' hlt

theorem fresh_countNFCntDown (h : Fresh ns) {mqOk : Bool} (hmq : mqOk = true)
    (hlast : CountsLast ns) : Fresh (countNFCntDown mqOk ns) := by
  subst hmq
  have hqueued : Fresh (enqueue true (.incrNFCntDown ns.mote.devAddr) ns) :=
    fresh_enqueue h true rfl (preserves_incrNFCntDown _)
  refine ⟨⟨hqueued.counters.serials_nodup, hqueued.counters.serials_lt,
    hqueued.counters.session_lt, ?_, hqueued.counters.once, hqueued.counters.fopts⟩,
    ⟨h.buffered.bin, h.buffered.conf, h.buffered.confLen, h.buffered.frame,
      h.buffered.confFrame⟩, h.sent⟩
  intro session n hspent r' hr' hser
  have hsettled : (countNFCntDown true ns).settled =
      execute ns.settled (.incrNFCntDown ns.mote.devAddr) := settled_enqueue ns _
  rw [hsettled] at hr'
  obtain ⟨hID, m, hm, hle, howed⟩ := rows_incrNFCntDown h.counters hlast hspent hr' hser
  exact ⟨hID, m, hm, hle, fun heq => Or.inr (Or.inr (howed heq))⟩

theorem row_of_synced (h : Counters ns) (hs : Synced ns) {r : SessionRow} (hr : r ∈ ns.settled)
    (hser : r.serial = ns.mote.session.row) : r.ID = ns.mote.ID ∧
      newestByDevAddr ns.mote.devAddr ns.settled = some r ∧
      ns.mote.session.nullNFCntDown = r.NFCntDown.isNone ∧
      ns.mote.session.NFCntDown = r.NFCntDown.getD 0 := by
  obtain ⟨q, hq, hID, hqser, hnull, hcount⟩ := hs
  have hsame : r = q :=
    eq_of_serial h.settled_nodup hr (newestByDevAddr_mem hq).1 (hser.trans hqser.symm)
  subst hsame
  exact ⟨hID, hq, hnull, hcount⟩

/-! ### A frame is built -/

/-- The session in memory: its row, if it is still there, is the newest one with the DevAddr and
has the counter of the copy. -/
structure Tracked (ns : NS) : Prop where
  row_lt : ns.mote.session.row < ns.nextSerial
  row : ∀ r ∈ ns.settled, r.serial = ns.mote.session.row → r.ID = ns.mote.ID ∧
    newestByDevAddr ns.mote.devAddr ns.settled = some r ∧
    ns.mote.session.nullNFCntDown = r.NFCntDown.isNone ∧
    ns.mote.session.NFCntDown = r.NFCntDown.getD 0
  ahead : ∀ n, Spent ns.calls ns.mote.session.row n → n ≤ ns.mote.session.NFCntDown ∧
    (n = ns.mote.session.NFCntDown → Owed ns ns.mote.session.row)

theorem tracked_of_synced (h : Counters ns) (hs : Synced ns) : Tracked ns := by
  refine ⟨?_, fun r hr hser => row_of_synced h hs hr hser, ?_⟩
  · obtain ⟨r, hr, -, hser, -⟩ := hs
    exact hser ▸ h.settled_lt (newestByDevAddr_mem hr).1
  · intro n hspent
    obtain ⟨r, hr, -, hser, -, hcount⟩ := hs
    obtain ⟨-, m, hm, hle, howed⟩ := h.rows _ n hspent r (newestByDevAddr_mem hr).1 hser
    rw [hm, Option.getD_some] at hcount
    rw [hcount]
    exact ⟨hle, howed⟩

theorem countsLast_of_row
    (hrow : ∀ r ∈ ns.settled, r.serial = ns.mote.session.row →
      newestByDevAddr ns.mote.devAddr ns.settled = some r ∧
        ns.mote.session.NFCntDown = r.NFCntDown.getD 0)
    (hlt : ns.mote.session.NFCntDown + 1 < 2 ^ 32)
    (hbuilt : ∃ c ∈ ns.calls, c.before.session.row = ns.mote.session.row)
    (hle : ∀ c ∈ ns.calls, c.before.session.row ≤ ns.mote.session.row) : CountsLast ns := by
  rintro session n ⟨d, hd, -, hdrow, -⟩ r hr hser hn
  rcases Nat.lt_or_ge session ns.mote.session.row with hold | hnow
  · obtain ⟨c, hc, hrow⟩ := hbuilt
    exact Or.inl ⟨c, hc, hrow ▸ hold⟩
  · have hsame : session = ns.mote.session.row := Nat.le_antisymm (hdrow ▸ hle d hd) hnow
    obtain ⟨hnew, hcount⟩ := hrow r hr (hser.trans hsame)
    rw [hn, Option.getD_some] at hcount
    exact Or.inr ⟨hnew, hcount ▸ hlt⟩

theorem Tracked.newest (ht : Tracked ns) : ∀ r ∈ ns.settled, r.serial = ns.mote.session.row →
    newestByDevAddr ns.mote.devAddr ns.settled = some r ∧
      ns.mote.session.NFCntDown = r.NFCntDown.getD 0 := by
  intro r hr hser
  obtain ⟨-, hnew, -, hcount⟩ := ht.row r hr hser
  exact ⟨hnew, hcount⟩

theorem countsLast_of_countable {mqOk : Bool} (h : Counters ns) (hc : Countable mqOk ns) :
    mqOk = true ∧ CountsLast ns := by
  obtain ⟨hmq, hs, hlt, hbuilt, hle⟩ := hc
  exact ⟨hmq, countsLast_of_row (tracked_of_synced h hs).newest hlt hbuilt hle⟩

/-- The row of the session in memory after the newest row with the DevAddr is changed. -/
theorem Tracked.modified (ht : Tracked ns) (h : Counters ns) {f : SessionRow → SessionRow}
    (hser : ∀ r, (f r).serial = r.serial) (haddr : ∀ r, (f r).DevAddr = r.DevAddr)
    {r' : SessionRow} (hr' : r' ∈ modifyNewest ns.mote.devAddr f ns.settled)
    (hrow : r'.serial = ns.mote.session.row) :
    newestByDevAddr ns.mote.devAddr (modifyNewest ns.mote.devAddr f ns.settled) = some r' ∧
      ∃ r ∈ ns.settled, r.serial = ns.mote.session.row ∧ r' = f r := by
  rcases mem_modifyNewest hr' with hold | ⟨r, hr, rfl⟩
  · obtain ⟨-, hnew, -⟩ := ht.row r' hold hrow
    obtain ⟨hsame, hnew'⟩ := eq_modified h.settled_nodup hser haddr hnew hr' rfl
    exact ⟨hnew', r', hold, hrow, hsame⟩
  · refine ⟨(eq_modified h.settled_nodup hser haddr hr hr' (hser r)).2, r,
      (newestByDevAddr_mem hr).1, ?_, rfl⟩
    rw [← hser r, hrow]

theorem Tracked.count (ht : Tracked ns) (hnull : ns.mote.session.nullNFCntDown = false)
    {r : SessionRow} (hr : r ∈ ns.settled) (hser : r.serial = ns.mote.session.row) :
    r.ID = ns.mote.ID ∧ r.NFCntDown = some ns.mote.session.NFCntDown := by
  obtain ⟨hID, -, hisNone, hcount⟩ := ht.row r hr hser
  rw [hnull] at hisNone
  cases hm : r.NFCntDown with
  | none =>
    rw [hm] at hisNone
    cases hisNone
  | some m =>
    rw [hm, Option.getD_some] at hcount
    exact ⟨hID, by rw [hcount]⟩

theorem spent_concat {calls : List Call} {c : Call} {session n : ℕ}
    (h : Spent (calls ++ [c]) session n) : Spent calls session n ∨
      usesAFCntDown c.before = false ∧ c.before.session.row = session ∧
        c.before.session.NFCntDown = n := by
  obtain ⟨d, hd, hspends⟩ := h
  rcases List.mem_append.mp hd with hold | hnew
  · exact Or.inl ⟨d, hold, hspends⟩
  · rw [List.mem_singleton.mp hnew] at hspends
    exact Or.inr hspends

theorem owed_call (hover : ns.overrun = false) (hcont : Continues ns.calls ns.mote) {c : Call}
    (hbefore : c.before = ns.mote) (hcalls : ns'.calls = ns.calls ++ [c]) {session n : ℕ}
    (hspent : Spent ns.calls session n) (ho : Owed ns session) : Owed ns' session := by
  have hmem : c ∈ ns'.calls := by simp [hcalls]
  obtain ⟨d, hd, -, hrow, -⟩ := hspent
  refine Or.inr (Or.inr ?_)
  rcases ho with ho | ho | ⟨e, he, hlt⟩
  · rw [hover] at ho
    cases ho
  · rcases hcont d hd with hlt | ⟨-, hflag⟩
    · exact ⟨c, hmem, by rw [hbefore, ← hrow]; exact hlt⟩
    · rw [hflag] at ho
      cases ho
  · exact ⟨e, by rw [hcalls]; exact List.mem_append_left _ he, hlt⟩

theorem not_spent_next (hover : ns.overrun = false) (ht : Tracked ns)
    (hcont : Continues ns.calls ns.mote) :
    ¬Spent ns.calls ns.mote.session.row ns.mote.session.NFCntDown := by
  intro hspent
  rcases (ht.ahead _ hspent).2 rfl with ho | ho | ⟨e, he, hlt⟩
  · rw [hover] at ho
    cases ho
  · obtain ⟨d, hd, -, hrow, -⟩ := hspent
    rcases hcont d hd with hlt | ⟨-, hflag⟩
    · omega
    · rw [hflag] at ho
      cases ho
  · rcases hcont e he with hlt' | ⟨heq, -⟩ <;> omega

theorem counters_call (h : Counters ns) (hover : ns.overrun = false)
    (hnull : ns.mote.session.nullNFCntDown = false) (ht : Tracked ns)
    (hcont : Continues ns.calls ns.mote)
    (hfopts : usesAFCntDown ns.mote = true → queuedFOpts ns.mote = []) {c : Call}
    (hbefore : c.before = ns.mote) (hstore : ns'.store = ns.store)
    (hnext : ns'.nextSerial = ns.nextSerial) (hID : ns'.mote.ID = ns.mote.ID)
    (hcalls : ns'.calls = ns.calls ++ [c])
    (howed : usesAFCntDown ns.mote = false →
      ns'.overrun = true ∨ ns'.mote.s.incrNFCntDown = true) : Counters ns' := by
  have hsettled : ns'.settled = ns.settled := by rw [NS.settled, NS.settled, hstore]
  refine ⟨by rw [hstore]; exact h.serials_nodup, by rw [hstore, hnext]; exact h.serials_lt,
    ?_, ?_, ?_, ?_⟩
  · intro session n hspent
    rw [hcalls] at hspent
    rw [hnext]
    rcases spent_concat hspent with hold | ⟨-, hrow, -⟩
    · exact h.session_lt session n hold
    · rw [← hrow, hbefore]
      exact ht.row_lt
  · intro session n hspent r hr hser
    rw [hcalls] at hspent
    rw [hsettled] at hr
    rw [hID]
    rcases spent_concat hspent with hold | ⟨huses, hrow, hcount⟩
    · obtain ⟨hown, m, hm, hle, ho⟩ := h.rows session n hold r hr hser
      exact ⟨hown, m, hm, hle, fun heq => owed_call hover hcont hbefore hcalls hold (ho heq)⟩
    · rw [hbefore] at huses hrow hcount
      obtain ⟨hown, hm⟩ := ht.count hnull hr (hser.trans hrow.symm)
      refine ⟨hown, n, by rw [hm, hcount], le_refl n, fun _ => ?_⟩
      rcases howed huses with ho | ho
      · exact Or.inl ho
      · exact Or.inr (Or.inl ho)
  · rw [hcalls]
    refine List.pairwise_append.mpr ⟨h.once, List.pairwise_singleton _ _, ?_⟩
    intro d hd e he hduses _ hrow hcount
    rw [List.mem_singleton.mp he, hbefore] at hrow hcount
    exact not_spent_next hover ht hcont ⟨d, hd, hduses, hrow, hcount⟩
  · intro d hd
    rw [hcalls] at hd
    rcases List.mem_append.mp hd with hold | hnew
    · exact h.fopts d hold
    · rw [List.mem_singleton.mp hnew, hbefore]
      exact hfopts

theorem BuiltAs.mono {calls calls' : List Call} (hsub : calls ⊆ calls') {origin : Option Origin}
    {octets : Octets} (h : BuiltAs calls origin octets) : BuiltAs calls' origin octets := by
  intro session n ho
  obtain ⟨c, hc, hrest⟩ := h session n ho
  exact ⟨c, hsub hc, hrest⟩

theorem Buffered.mono {calls calls' : List Call} (hsub : calls ⊆ calls') {s : S}
    (h : Buffered calls s) : Buffered calls' s :=
  ⟨h.bin, h.conf, h.confLen, fun hne => (h.frame hne).mono hsub,
    fun hne => (h.confFrame hne).mono hsub⟩

variable {A}

theorem buffered_built {junk : Octets} {m m' : Mote} {calls : List Call} (h : Buffered calls m.s)
    (hb : Built A junk m m') : Buffered (calls ++ [⟨m, some m'⟩]) m'.s := by
  have hlt : m'.s.PHYPayloadLen < 256 := by
    rw [hb.state]
    exact Nat.mod_lt _ (by omega)
  have hframe : BuiltAs (calls ++ [⟨m, some m'⟩]) m'.s.frame
      (m'.s.PHYPayloadBin.take m'.s.PHYPayloadLen) := by
    intro session n ho
    rw [show m'.s.frame = some ⟨m.session.row,
      if usesAFCntDown m then none else some m.session.NFCntDown⟩ by rw [hb.state]] at ho
    simp only [Option.some.injEq, Origin.mk.injEq] at ho
    obtain ⟨hrow, hcount⟩ := ho
    cases huses : usesAFCntDown m with
    | true => simp [huses] at hcount
    | false =>
      simp only [huses, Bool.false_eq_true, if_false, Option.some.injEq] at hcount
      exact ⟨⟨m, some m'⟩, by simp, m', rfl, huses, hrow, hcount, rfl⟩
  have htake : (m'.s.PHYPayloadBin.take m'.s.PHYPayloadLen).length = m'.s.PHYPayloadLen := by
    rw [List.length_take, hb.bin]
    omega
  refine ⟨hb.bin, hb.conf.trans h.conf, ?_, fun _ => hframe, fun hne => ?_⟩
  · rcases hb.kept with hzero | ⟨hlen, -⟩ | ⟨hlen, -⟩
    · omega
    · omega
    · rw [hlen]
      exact h.confLen
  · rcases hb.kept with hzero | ⟨hlen, hcopy, hbin⟩ | ⟨hlen, hcopy, hbin⟩
    · exact absurd hzero hne
    · rw [htake] at hbin
      rw [hlen, hcopy, hbin]
      exact hframe
    · rw [hlen] at hne ⊢
      rw [hcopy, hbin]
      exact (h.confFrame hne).mono (List.subset_append_left _ _)

theorem fresh_schedule (h : Fresh ns) (hover : ns.overrun = false) (junk : Octets)
    (hbuild : needsDownlink ns.mote = true → ns.mote.session.nullNFCntDown = false ∧ Tracked ns ∧
      Continues ns.calls ns.mote ∧ (usesAFCntDown ns.mote = true → queuedFOpts ns.mote = [])) :
    Fresh (schedule A junk ns) := by
  by_cases hneeds : needsDownlink ns.mote = true
  · obtain ⟨hnull, ht, hcont, hfopts⟩ := hbuild hneeds
    have hcall := fun (after : NS) (out : Option Mote) => @counters_call ns after h.counters hover
      hnull ht hcont hfopts ⟨ns.mote, out⟩ rfl
    have hsched : sNS_schedule_downlink A junk ns.mote = buildFrame A junk ns.mote := by
      rw [sNS_schedule_downlink, if_pos hneeds]
    unfold schedule
    simp only [hsched, if_pos hneeds]
    cases hout : buildFrame A junk ns.mote with
    | none =>
      exact ⟨hcall _ none rfl rfl rfl rfl fun _ => Or.inl rfl,
        h.buffered.mono (List.subset_append_left _ _),
        fun x hx => (h.sent x hx).mono (List.subset_append_left _ _)⟩
    | some m' =>
      have hb := buildFrame_some A h.buffered.bin hout
      refine ⟨hcall _ (some m') rfl rfl ?_ rfl fun huses => Or.inr ?_, buffered_built h.buffered hb,
        fun x hx => (h.sent x hx).mono (List.subset_append_left _ _)⟩
      · show m'.ID = ns.mote.ID
        rw [hb.mote]
      · show m'.s.incrNFCntDown = true
        rw [hb.state, huses]
        rfl
  · have hsched : sNS_schedule_downlink A junk ns.mote = some ns.mote := by
      rw [sNS_schedule_downlink, if_neg hneeds]
    refine h.congr ?_
    unfold schedule
    simp only [hsched, if_neg hneeds, Option.getD_some, Option.isNone_some, NS.kept, hover]

/-! ### Uplinks -/

/-- While an uplink that came in the state `start` is handled. -/
structure Handling (start : NS) (null : Bool) (ns : NS) : Prop where
  fresh : Fresh ns
  overrun : ns.overrun = false
  calls : ns.calls = start.calls
  null : ns.mote.session.nullNFCntDown = null
  tracked : Synced start → Tracked ns

/-- What the counting of an ACK depends on. -/
structure SameFlags (ns ns' : NS) : Prop where
  calls : ns'.calls = ns.calls
  frame : ns'.mote.ULPayloadBin = ns.mote.ULPayloadBin
  count : ns'.mote.session.NFCntDown = ns.mote.session.NFCntDown
  row : ns'.mote.session.row = ns.mote.session.row
  flag : ns'.mote.s.incrNFCntDown = ns.mote.s.incrNFCntDown

theorem SameFlags.trans {ns'' : NS} (h : SameFlags ns ns') (h' : SameFlags ns' ns'') : SameFlags ns ns'' :=
  ⟨h'.calls.trans h.calls, h'.frame.trans h.frame, h'.count.trans h.count, h'.row.trans h.row,
    h'.flag.trans h.flag⟩

variable {start : NS} {null : Bool}

theorem flag_of_kept {s s' : S} (h : s'.kept = s.kept) : s'.incrNFCntDown = s.incrNFCntDown := by
  have hflag : s'.kept.incrNFCntDown = s.kept.incrNFCntDown := by rw [h]
  exact hflag

theorem tracked_mapS (h : Tracked ns) {f : S → S}
    (hflag : (f ns.mote.s).incrNFCntDown = ns.mote.s.incrNFCntDown) : Tracked (mapS f ns) := by
  refine ⟨h.row_lt, h.row, fun n hspent => ?_⟩
  obtain ⟨hle, howed⟩ := h.ahead n hspent
  refine ⟨hle, fun heq => ?_⟩
  unfold Owed
  simp only [mapS, hflag]
  exact howed heq

theorem handling_mapS (h : Handling start null ns) {f : S → S} (hf : ∀ s, (f s).kept = s.kept) :
    Handling start null (mapS f ns) :=
  ⟨fresh_mapS h.fresh hf, h.overrun, h.calls, h.null,
    fun hs => tracked_mapS (h.tracked hs) (flag_of_kept (hf _))⟩

theorem sameFlags_mapS {f : S → S} (hf : ∀ s, (f s).kept = s.kept) : SameFlags ns (mapS f ns) :=
  ⟨rfl, rfl, rfl, rfl, flag_of_kept (hf _)⟩

theorem tracked_enqueue (h : Tracked ns) {u : Statement}
    (hu : ∀ r' ∈ execute ns.settled u, r'.serial = ns.mote.session.row → ∃ r ∈ ns.settled,
      r.serial = ns.mote.session.row ∧ r'.ID = r.ID ∧ r'.NFCntDown = r.NFCntDown ∧
      newestByDevAddr ns.mote.devAddr (execute ns.settled u) = some r') :
    Tracked { ns with store := ns.store.enqueue u } := by
  refine ⟨h.row_lt, ?_, h.ahead⟩
  intro r' hr' hser
  rw [settled_enqueue] at hr' ⊢
  obtain ⟨r, hr, hrser, hID, hcount, hnew⟩ := hu r' hr' hser
  obtain ⟨hown, -, hisNone, hget⟩ := h.row r hr hrser
  exact ⟨hID.trans hown, hnew, hcount ▸ hisNone, hcount ▸ hget⟩

theorem handling_deleteOld (h : Handling start null ns) (mqOk : Bool) (id : ℕ)
    (before : Option ℕ) : Handling start null (enqueue mqOk (.deleteOld id before) ns) := by
  have hfresh := fresh_enqueue h.fresh mqOk (u := .deleteOld id before) rfl
    (preserves_deleteOld id before)
  unfold enqueue at hfresh ⊢
  split
  · rename_i hmq
    rw [if_pos hmq] at hfresh
    refine ⟨hfresh, h.overrun, h.calls, h.null, fun hs => tracked_enqueue (h.tracked hs) ?_⟩
    intro r' hr' hser
    obtain ⟨hmem, hkept⟩ := List.mem_filter.mp hr'
    obtain ⟨-, hnew, -⟩ := (h.tracked hs).row r' hmem hser
    exact ⟨r', hmem, hser, rfl, rfl, newest_filter hnew hkept⟩
  · exact h

theorem handling_setFCntUp (h : Handling start null ns) (mqOk : Bool) (n : ℕ) :
    Handling start null (enqueue mqOk (.setFCntUp n ns.mote.devAddr) ns) := by
  have hfresh := fresh_enqueue h.fresh mqOk (u := .setFCntUp n ns.mote.devAddr) rfl
    (preserves_setFCntUp n ns.mote.devAddr)
  unfold enqueue at hfresh ⊢
  split
  · rename_i hmq
    rw [if_pos hmq] at hfresh
    refine ⟨hfresh, h.overrun, h.calls, h.null, fun hs => tracked_enqueue (h.tracked hs) ?_⟩
    intro r' hr' hser
    obtain ⟨hnew, r, hr, hrow, rfl⟩ := (h.tracked hs).modified h.fresh.counters
      (f := fun r => { r with FCntUp := some n }) (fun _ => rfl) (fun _ => rfl) hr' hser
    exact ⟨r, hr, hrow, rfl, rfl, hnew⟩
  · exact h

theorem sameFlags_enqueue (mqOk : Bool) (u : Statement) : SameFlags ns (enqueue mqOk u ns) := by
  unfold enqueue
  split <;> exact ⟨rfl, rfl, rfl, rfl, rfl⟩

theorem handling_answer (h : Handling start null ns) (answerOk : Bool) :
    Handling start null (answer_app_downlink answerOk ns) := by
  unfold answer_app_downlink
  split
  · exact handling_mapS h fun _ => rfl
  · exact h

theorem sameFlags_answer (answerOk : Bool) : SameFlags ns (answer_app_downlink answerOk ns) := by
  unfold answer_app_downlink
  split
  · exact sameFlags_mapS fun _ => rfl
  · exact ⟨rfl, rfl, rfl, rfl, rfl⟩

theorem handling_expire (env : UplinkEnv) (h : Handling start null ns) :
    Handling start null (expire env ns) := by
  unfold expire
  split
  · split
    · exact handling_mapS h fun _ => rfl
    · have hdel := handling_deleteOld h env.mqOk.expired ns.mote.ID none
      dsimp only
      split
      · exact handling_answer hdel _
      · exact hdel
  · exact h

theorem sameFlags_expire (env : UplinkEnv) : SameFlags ns (expire env ns) := by
  unfold expire
  split
  · split
    · exact sameFlags_mapS fun _ => rfl
    · have hdel : SameFlags ns (enqueue env.mqOk.expired (.deleteOld ns.mote.ID none) ns) :=
        sameFlags_enqueue _ _
      dsimp only
      split
      · exact hdel.trans (sameFlags_answer _)
      · exact hdel
  · exact ⟨rfl, rfl, rfl, rfl, rfl⟩

theorem handling_checkOldSessions (env : UplinkEnv) (wanted : Bool)
    (h : Handling start null ns) : Handling start null (checkOldSessions env wanted ns) := by
  have hdel : Handling start null (deleteOldSessions env.mqOk.deleteOld env.newest ns) := by
    unfold deleteOldSessions
    split
    · exact h
    · exact handling_deleteOld h _ _ _
  unfold checkOldSessions
  split
  · exact handling_mapS hdel fun _ => rfl
  · exact h

theorem sameFlags_checkOldSessions (env : UplinkEnv) (wanted : Bool) :
    SameFlags ns (checkOldSessions env wanted ns) := by
  have hdel : SameFlags ns (deleteOldSessions env.mqOk.deleteOld env.newest ns) := by
    unfold deleteOldSessions
    split
    · exact ⟨rfl, rfl, rfl, rfl, rfl⟩
    · exact sameFlags_enqueue _ _
  unfold checkOldSessions
  split
  · exact hdel.trans (sameFlags_mapS fun _ => rfl)
  · exact ⟨rfl, rfl, rfl, rfl, rfl⟩

theorem counters_mapS (h : Counters ns) {f : S → S}
    (hflag : (f ns.mote.s).incrNFCntDown = ns.mote.s.incrNFCntDown) : Counters (mapS f ns) := by
  refine ⟨h.serials_nodup, h.serials_lt, h.session_lt, ?_, h.once, h.fopts⟩
  intro session n hspent r hr hser
  obtain ⟨hID, m, hm, hle, howed⟩ := h.rows session n hspent r hr hser
  refine ⟨hID, m, hm, hle, fun heq => ?_⟩
  unfold Owed
  simp only [mapS, hflag]
  exact howed heq

theorem buffered_restoreConfirmed {calls : List Call} {s : S} (h : Buffered calls s)
    (hlen : s.confDLPHYPayloadLen ≠ 0) : Buffered calls (restoreConfirmed s) := by
  have hconf : (s.confDLPHYPayloadBin.take s.confDLPHYPayloadLen).length =
      s.confDLPHYPayloadLen := by
    have h1 := h.conf
    have h2 := h.confLen
    rw [List.length_take]
    omega
  refine ⟨?_, h.conf, h.confLen, fun _ => ?_, h.confFrame⟩
  · have h1 := h.bin
    have h2 := h.confLen
    simp only [restoreConfirmed, List.length_append, List.length_drop, hconf]
    omega
  · have htake : (restoreConfirmed s).PHYPayloadBin.take (restoreConfirmed s).PHYPayloadLen =
        s.confDLPHYPayloadBin.take s.confDLPHYPayloadLen := List.take_left' hconf
    rw [htake]
    exact h.confFrame hlen

theorem checkMic_state (env : UplinkEnv) (m : Mote) (n : ℕ) :
    (checkMic A env m n).2 = m.s ∨
      (checkMic A env m n).2 = { m.s with ConfFCntDown := 0 } ∨
      m.s.confDLPHYPayloadLen ≠ 0 ∧ (checkMic A env m n).2 = restoreConfirmed m.s := by
  unfold checkMic
  split
  · split
    · exact Or.inl rfl
    · unfold checkMic1v1
      dsimp only
      split
      · exact Or.inr (Or.inl rfl)
      · split
        · rename_i hpos
          exact Or.inr (Or.inr ⟨Nat.pos_iff_ne_zero.mp hpos, rfl⟩)
        · exact Or.inl rfl
  · exact Or.inl rfl

theorem checkMic_flag (env : UplinkEnv) (m : Mote) (n : ℕ) :
    (checkMic A env m n).2.incrNFCntDown = m.s.incrNFCntDown := by
  rcases checkMic_state env m n with heq | heq | ⟨-, heq⟩ <;> rw [heq]
  rfl

theorem buffered_checkMic (env : UplinkEnv) {calls : List Call} {m : Mote}
    (h : Buffered calls m.s) (n : ℕ) : Buffered calls (checkMic A env m n).2 := by
  rcases checkMic_state env m n with heq | heq | ⟨hlen, heq⟩ <;> rw [heq]
  · exact h
  · exact ⟨h.bin, h.conf, h.confLen, h.frame, h.confFrame⟩
  · exact buffered_restoreConfirmed h hlen

theorem handling_setS (h : Handling start null ns) {s : S} (hs : Buffered ns.calls s)
    (hflag : s.incrNFCntDown = ns.mote.s.incrNFCntDown) :
    Handling start null (mapS (fun _ => s) ns) :=
  ⟨⟨counters_mapS (f := fun _ => s) h.fresh.counters hflag, hs, h.fresh.sent⟩, h.overrun, h.calls, h.null,
    fun hstart => tracked_mapS (f := fun _ => s) (h.tracked hstart) hflag⟩

theorem handling_checkedUplink (env : UplinkEnv) (n : ℕ) (h : Handling start null ns) :
    Handling start null (checkedUplink A env n ns) := by
  have hnew : Handling start null (mapS (fun s => { s with newFCntUp := true }) (expire env ns)) :=
    handling_mapS (handling_expire env h) fun _ => rfl
  exact handling_setS hnew (buffered_checkMic env hnew.fresh.buffered n) (checkMic_flag env _ n)

theorem sameFlags_checkedUplink (env : UplinkEnv) (n : ℕ) (ns : NS) :
    SameFlags ns (checkedUplink A env n ns) := by
  have hnew : SameFlags ns (mapS (fun s => { s with newFCntUp := true }) (expire env ns)) :=
    (sameFlags_expire env).trans (sameFlags_mapS fun _ => rfl)
  refine hnew.trans ⟨rfl, rfl, rfl, rfl, ?_⟩
  exact checkMic_flag env _ n

theorem settled_expire (env : UplinkEnv) (ns : NS) : (expire env ns).settled = ns.settled ∨
    (expire env ns).settled = execute ns.settled (.deleteOld ns.mote.ID none) := by
  have hdel : (enqueue env.mqOk.expired (.deleteOld ns.mote.ID none) ns).settled = ns.settled ∨
      (enqueue env.mqOk.expired (.deleteOld ns.mote.ID none) ns).settled =
        execute ns.settled (.deleteOld ns.mote.ID none) := by
    unfold enqueue
    split
    · exact Or.inr (settled_enqueue ns _)
    · exact Or.inl rfl
  unfold expire
  split
  · split
    · exact Or.inl rfl
    · dsimp only
      split
      · unfold answer_app_downlink
        split <;> exact hdel
      · exact hdel
  · exact Or.inl rfl

/-- A `NULL` counter was read from the newest row with the DevAddr; an expired session takes all
rows of the device along. -/
theorem null_expire (env : UplinkEnv) (hs : Synced ns)
    (hnull : ns.mote.session.nullNFCntDown = true) {r : SessionRow}
    (hr : newestByDevAddr ns.mote.devAddr (expire env ns).settled = some r) :
    r.NFCntDown = none ∨ r.ID ≠ ns.mote.ID := by
  rcases settled_expire env ns with hsame | hdel
  · obtain ⟨q, hq, -, -, hisNone, -⟩ := hs
    rw [hsame] at hr
    rw [Option.mem_unique hr hq]
    rw [hnull, eq_comm, Option.isNone_iff_eq_none] at hisNone
    exact Or.inl hisNone
  · rw [hdel] at hr
    obtain ⟨-, hkept⟩ := List.mem_filter.mp (newestByDevAddr_mem hr).1
    refine Or.inr fun hID => ?_
    simp [Statement.deletes, hID] at hkept

theorem handling_initNFCntDown (env : UplinkEnv) (h : Handling start null ns)
    (hstart : null = true → env.mqOk.zeroNFCntDown = true)
    (hzero : null = true → ∀ r, newestByDevAddr ns.mote.devAddr ns.settled = some r →
      r.NFCntDown = none ∨ r.ID ≠ ns.mote.ID) :
    Handling start false (initNFCntDown env ns) := by
  have hnull := h.null
  unfold initNFCntDown
  split
  · rename_i hset
    rw [hset] at hnull
    have hmq := hstart hnull.symm
    have hfresh := fresh_enqueue h.fresh env.mqOk.zeroNFCntDown (u := .zeroNFCntDown ns.mote.devAddr) rfl
      (preserves_zeroNFCntDown h.fresh fun r hr => hzero hnull.symm r hr)
    rw [hmq] at hfresh ⊢
    refine ⟨fresh_mapSession hfresh _, h.overrun, h.calls, rfl, fun hs => ?_⟩
    have ht := h.tracked hs
    refine ⟨ht.row_lt, ?_, ht.ahead⟩
    intro r' hr' hser
    have hsettled : (mapSession (fun n => { n with nullNFCntDown := false })
        (enqueue true (.zeroNFCntDown ns.mote.devAddr) ns)).settled =
          execute ns.settled (.zeroNFCntDown ns.mote.devAddr) := settled_enqueue ns _
    rw [hsettled] at hr' ⊢
    obtain ⟨hnew, r, hr, hrow, rfl⟩ := ht.modified h.fresh.counters
      (f := fun r => { r with NFCntDown := some 0 }) (fun _ => rfl) (fun _ => rfl) hr' hser
    obtain ⟨hID, -, hisNone, hget⟩ := ht.row r hr hrow
    refine ⟨hID, hnew, rfl, ?_⟩
    rw [hset, eq_comm, Option.isNone_iff_eq_none] at hisNone
    rw [hisNone] at hget
    exact hget
  · rename_i hset
    rw [Bool.not_eq_true] at hset
    exact ⟨h.fresh, h.overrun, h.calls, hset, h.tracked⟩

theorem sameFlags_initNFCntDown (env : UplinkEnv) : SameFlags ns (initNFCntDown env ns) := by
  unfold initNFCntDown
  split
  · have hzero : SameFlags ns (enqueue env.mqOk.zeroNFCntDown (.zeroNFCntDown ns.mote.devAddr) ns) :=
      sameFlags_enqueue _ _
    exact ⟨hzero.calls, hzero.frame, hzero.count, hzero.row, hzero.flag⟩
  · exact ⟨rfl, rfl, rfl, rfl, rfl⟩

theorem handling_countNFCntDown {mqOk : Bool} (h : Handling start false ns) (hmq : mqOk = true)
    (hlast : CountsLast ns) (hlt : ns.mote.session.NFCntDown + 1 < 2 ^ 32) :
    Handling start false (countNFCntDown mqOk ns) := by
  subst hmq
  refine ⟨fresh_countNFCntDown h.fresh rfl hlast, h.overrun, h.calls, h.null, fun hs => ?_⟩
  have ht := h.tracked hs
  have hcount : (countNFCntDown true ns).mote.session.NFCntDown =
      ns.mote.session.NFCntDown + 1 := Nat.mod_eq_of_lt hlt
  refine ⟨ht.row_lt, ?_, ?_⟩
  · intro r' hr' hser
    have hsettled : (countNFCntDown true ns).settled =
        execute ns.settled (.incrNFCntDown ns.mote.devAddr) := settled_enqueue ns _
    rw [hsettled] at hr' ⊢
    obtain ⟨hnew, r, hr, hrow, rfl⟩ := ht.modified h.fresh.counters
      (f := SessionRow.incrNFCntDown) (fun _ => rfl) (fun _ => rfl) hr' hser
    obtain ⟨hID, hold⟩ := ht.count h.null hr hrow
    have hincr := incrNFCntDown_of_lt hold hlt
    rw [hincr, hcount]
    exact ⟨hID, hnew, h.null, rfl⟩
  · intro n hspent
    have hle := (ht.ahead n hspent).1
    rw [hcount]
    exact ⟨by omega, by omega⟩

theorem handling_handleACK (env : UplinkEnv) (h : Handling start false ns)
    (hack : rxACK ns.mote = true → ns.mote.s.incrNFCntDown = true →
      env.mqOk.incrNFCntDown = true ∧ CountsLast ns ∧ ns.mote.session.NFCntDown + 1 < 2 ^ 32) :
    Handling start false (handleACK env ns) := by
  unfold handleACK
  split
  · rename_i hrx
    have hcount : Handling start false
        (if ns.mote.s.incrNFCntDown then countNFCntDown env.mqOk.incrNFCntDown ns else ns) := by
      split
      · rename_i hflag
        obtain ⟨hmq, hlast, hlt⟩ := hack hrx hflag
        exact handling_countNFCntDown h hmq hlast hlt
      · exact h
    refine handling_mapS hcount fun s => ?_
    split <;> rfl
  · exact h

theorem handling_queueMacCmds (h : Handling start null ns) (ops : List MacOp) :
    Handling start null (queueMacCmds ops ns) := by
  unfold queueMacCmds
  exact handling_mapS h fun _ => rfl

theorem handling_handleCommands (env : UplinkEnv) (h : Handling start null ns) :
    Handling start null (handleCommands env ns) := by
  unfold handleCommands
  refine handling_mapS (handling_checkOldSessions env _ (handling_queueMacCmds ?_ _))
    fun _ => rfl
  split
  · refine handling_queueMacCmds (handling_mapS h ?_) _
    exact fun _ => rfl
  · exact h

theorem handling_storeFCntUp (env : UplinkEnv) (n : ℕ) (h : Handling start null ns) :
    Handling start null (storeFCntUp env n ns) := by
  have hacc : Handling start null { ns with
      accepted := ns.accepted ++ [⟨ns.mote.session.row, n, ns.mote.counter⟩] } :=
    ⟨h.fresh.congr rfl, h.overrun, h.calls, h.null, fun hs =>
      ⟨(h.tracked hs).row_lt, (h.tracked hs).row, (h.tracked hs).ahead⟩⟩
  unfold storeFCntUp
  dsimp only
  split
  · exact handling_mapS hacc fun _ => rfl
  · exact handling_mapS (handling_setFCntUp hacc _ _) fun _ => rfl

/-- The condition on an uplink that is accepted, as far as NFCntDown is changed. -/
def TakenInTurn (env : UplinkEnv) (ns : NS) : Prop :=
  (ns.mote.session.nullNFCntDown = true → env.mqOk.zeroNFCntDown = true ∧ Synced ns) ∧
    (rxACK ns.mote = true → ns.mote.s.incrNFCntDown = true →
      Countable env.mqOk.incrNFCntDown ns)

theorem handling_takeUplink (env : UplinkEnv) (n FCntUp : ℕ)
    (h : Handling ns ns.mote.session.nullNFCntDown ns) (hc : TakenInTurn env ns) :
    Handling ns false (takeUplink env FCntUp (checkedUplink A env n ns)) := by
  obtain ⟨hzero, hack⟩ := hc
  have hchecked := handling_checkedUplink (A := A) env n h
  obtain ⟨queue, len, hmote⟩ := expire_mote env ns
  have hinit := handling_initNFCntDown env hchecked (fun hnull => (hzero hnull).1)
    (by
      intro hnull r hr
      have haddr : (checkedUplink A env n ns).mote.devAddr = ns.mote.devAddr := by
        simp only [checkedUplink, mapS, hmote]
      have hID : (checkedUplink A env n ns).mote.ID = ns.mote.ID := by
        simp only [checkedUplink, mapS, hmote]
      rw [haddr] at hr
      rw [hID]
      exact null_expire env (hzero hnull).2 hnull hr)
  have hold := handling_checkOldSessions env (!env.OptNeg) hinit
  have hsame := ((sameFlags_checkedUplink (A := A) env n ns).trans (sameFlags_initNFCntDown env)).trans
    (sameFlags_checkOldSessions env (!env.OptNeg))
  refine handling_storeFCntUp env FCntUp (handling_handleCommands env
    (handling_handleACK env hold ?_))
  intro hrx hflag
  rw [rxACK, rxFCtrl, hsame.frame, ← rxFCtrl, ← rxACK] at hrx
  rw [hsame.flag] at hflag
  obtain ⟨hmq, hs, hlt, hbuilt, hle⟩ := hack hrx hflag
  rw [← hsame.count] at hlt
  rw [← hsame.calls, ← hsame.row] at hbuilt hle
  exact ⟨hmq, countsLast_of_row (hold.tracked hs).newest hlt hbuilt hle, hlt⟩

theorem fresh_uplink (env : UplinkEnv) (h : Fresh ns) (hover : ns.overrun = false)
    (hlen : ns.mote.ULPHYPayloadLen ≠ 0) (hc : CountedInTurn A ns (.uplink env)) :
    Fresh (sNS_uplink A env ns).2 := by
  have hstart : Handling ns ns.mote.session.nullNFCntDown ns :=
    ⟨h, hover, rfl, rfl, tracked_of_synced h.counters⟩
  have hreceived := receiveUplink_received (A := A) env ns
  unfold sNS_uplink
  generalize heq : receiveUplink A env ns = received at hreceived
  cases hreceived with
  | noSession hnone => exact h
  | replay hlive hreplay => exact (handling_expire env hstart).fresh
  | taken hlive hnew hmic =>
    have hsched : scheduled A ns (.uplink env) = some (takeUplink env (takenFCntUp ns.mote)
        (checkedUplink A env (takenFCntUp ns.mote) ns)).mote := by
      simp only [scheduled, if_neg hlen, heq]
    obtain ⟨hzero, hack, hbuild⟩ := hc _ hsched
    have htaken := handling_takeUplink (A := A) env (takenFCntUp ns.mote) (takenFCntUp ns.mote)
      hstart ⟨hzero, hack⟩
    refine fresh_schedule htaken.fresh htaken.overrun env.junk fun hneeds => ?_
    obtain ⟨hs, hcont, hfopts⟩ := hbuild hneeds
    refine ⟨htaken.null, htaken.tracked hs, ?_, hfopts⟩
    rw [htaken.calls]
    exact hcont
  | refused hlive hnew hmic =>
    exact (handling_checkedUplink (A := A) env (takenFCntUp ns.mote) hstart).fresh.congr rfl

/-! ### Sending -/

theorem CountsLast.congr (h : CountsLast ns) (hstore : ns'.store = ns.store)
    (hcalls : ns'.calls = ns.calls) (haddr : ns'.mote.devAddr = ns.mote.devAddr) :
    CountsLast ns' := by
  unfold CountsLast NS.settled at h ⊢
  rw [hstore, hcalls, haddr]
  exact h

theorem fresh_answer (h : Fresh ns) (answerOk : Bool) : Fresh (answer_app_downlink answerOk ns) := by
  unfold answer_app_downlink
  split
  · exact fresh_mapS h fun _ => rfl
  · exact h

theorem fresh_answerPending (env : SendEnv) (h : Fresh ns) : Fresh (answerPending env ns) := by
  unfold answerPending
  split
  · refine fresh_answer (fresh_mapS h ?_) _
    exact fun _ => rfl
  · exact h

theorem fresh_answerUnconfirmed (env : SendEnv) (h : Fresh ns) :
    Fresh (answerUnconfirmed env ns) := by
  unfold answerUnconfirmed
  split
  · exact fresh_mapS (fresh_answer h _) fun _ => rfl
  · exact h

theorem fresh_sNSDownlinkSent (env : SendEnv) (success : Bool) (h : Fresh ns)
    (hcount : success = true → MType (ns.mote.s.PHYPayloadBin.headD 0) = MTYPE_UNCONF_DN →
      ns.mote.s.incrNFCntDown = true → env.mqOk = true ∧ CountsLast ns) :
    Fresh (sNSDownlinkSent env success ns) := by
  refine fresh_answerUnconfirmed env ?_
  split
  · rename_i hsuccess
    refine fresh_clearLength ?_
    split
    · rename_i hunconf
      obtain ⟨hmq, hlast⟩ := hcount hsuccess hunconf.1 hunconf.2
      exact fresh_countNFCntDown h hmq hlast
    · exact h
  · exact h

theorem fresh_transmit (env : SendEnv) (h : Fresh ns) (hlen : ns.mote.s.PHYPayloadLen ≠ 0) :
    Fresh (transmit env ns) := by
  have hair : Fresh (if env.air then { ns with
      sent := ns.sent ++ [⟨ns.mote.s.frame,
        ns.mote.s.PHYPayloadBin.take ns.mote.s.PHYPayloadLen⟩] } else ns) := by
    split
    · refine ⟨⟨h.counters.serials_nodup, h.counters.serials_lt, h.counters.session_lt,
        h.counters.rows, h.counters.once, h.counters.fopts⟩, h.buffered, ?_⟩
      intro x hx
      rcases List.mem_append.mp hx with hold | hnew
      · exact h.sent x hold
      · rw [List.mem_singleton.mp hnew]
        exact h.buffered.frame hlen
    · exact h
  unfold transmit
  dsimp only
  split
  · exact fresh_clearLength hair
  · exact hair

theorem transmit_same (env : SendEnv) (ns : NS) : (transmit env ns).store = ns.store ∧
    (transmit env ns).calls = ns.calls ∧
    ∃ len, (transmit env ns).mote = { ns.mote with s := { ns.mote.s with PHYPayloadLen := len } } := by
  unfold transmit
  dsimp only
  split <;> split <;> exact ⟨rfl, rfl, _, rfl⟩

theorem fresh_finish (env : SendEnv) (h : Fresh ns)
    (hcount : Counts env ns.mote.s → env.mqOk = true ∧ CountsLast ns) :
    Fresh (sNS_finish_phy_downlink env ns) := by
  unfold sNS_finish_phy_downlink
  split
  · exact fresh_answerPending env h
  · rename_i hlen
    split
    · exact h
    · rename_i habort
      have hsent := fresh_transmit env h hlen
      obtain ⟨hstore, hcalls, len, hmote⟩ := transmit_same env ns
      refine fresh_answerPending env ?_
      split
      · exact hsent
      · rename_i success hresult
        refine fresh_sNSDownlinkSent env success hsent ?_
        intro hsuccess htype hflag
        rw [hmote] at htype hflag
        rw [hsuccess] at hresult
        obtain ⟨hmq, hlast⟩ := hcount
          ⟨hlen, Bool.eq_false_iff.mpr habort, hresult, hflag, htype⟩
        exact ⟨hmq, hlast.congr hstore hcalls (by rw [hmote])⟩

/-! ### Downlinks of class B and C -/

theorem schedule_of_not_needs (ns : NS) (junk : Octets) (hneeds : needsDownlink ns.mote = false) :
    (schedule A junk ns).mote = ns.mote ∧ (schedule A junk ns).calls = ns.calls := by
  have hsched : sNS_schedule_downlink A junk ns.mote = some ns.mote := by
    rw [sNS_schedule_downlink, hneeds]
    rfl
  simp only [schedule, hsched, hneeds, Option.getD_some, Bool.false_eq_true, if_false, and_self]

theorem countsLast_schedule (h : Fresh ns) (ht : Tracked ns) (hcont : Continues ns.calls ns.mote)
    (hlt : usesAFCntDown ns.mote = false → ns.mote.session.NFCntDown + 1 < 2 ^ 32) (junk : Octets)
    (hneeds : needsDownlink ns.mote = true) (hover : (schedule A junk ns).overrun = false)
    (hflag : (schedule A junk ns).mote.s.incrNFCntDown = true) :
    usesAFCntDown ns.mote = false ∧ CountsLast (schedule A junk ns) := by
  have hsched : sNS_schedule_downlink A junk ns.mote = buildFrame A junk ns.mote := by
    rw [sNS_schedule_downlink, if_pos hneeds]
  unfold schedule at hover hflag ⊢
  simp only [hsched, if_pos hneeds] at hover hflag ⊢
  cases hout : buildFrame A junk ns.mote with
  | none =>
    rw [hout] at hover
    cases hover
  | some m' =>
    have hb := buildFrame_some A h.buffered.bin hout
    rw [hout, Option.getD_some, hb.state, Bool.not_eq_true'] at hflag
    refine ⟨hflag, countsLast_of_row ?_ ?_ ?_ ?_⟩
    · show ∀ r ∈ ns.settled, r.serial = m'.session.row →
        newestByDevAddr m'.devAddr ns.settled = some r ∧ m'.session.NFCntDown = r.NFCntDown.getD 0
      rw [hb.mote]
      exact ht.newest
    · show m'.session.NFCntDown + 1 < 2 ^ 32
      rw [hb.mote]
      exact hlt hflag
    · refine ⟨⟨ns.mote, some m'⟩, by simp, ?_⟩
      show ns.mote.session.row = m'.session.row
      rw [hb.mote]
    · intro c hc
      have hrow : m'.session.row = ns.mote.session.row := by rw [hb.mote]
      show c.before.session.row ≤ m'.session.row
      rw [hrow]
      rcases List.mem_append.mp hc with hold | hnew
      · rcases hcont c hold with hlt' | ⟨heq, -⟩ <;> omega
      · rw [List.mem_singleton.mp hnew]

theorem fresh_downlinkBC (env : DownlinkEnv) (h : Fresh ns) (hover : ns.overrun = false)
    (hc : env.now = true →
      SentCounted env ns { ns.mote with s := { ns.mote.s with resend := false } }) :
    Fresh (downlinkBC A env ns) := by
  have hclear : Fresh (mapS (fun s => { s with resend := false }) ns) := fresh_mapS h fun _ => rfl
  unfold downlinkBC
  dsimp only
  split
  · rename_i hnow
    have hcond := hc hnow
    unfold SentCounted at hcond
    split at hcond
    · rename_i hneeds
      obtain ⟨hnull, ⟨hs, hcont, hfopts⟩, hsent⟩ := hcond
      have ht : Tracked (mapS (fun s => { s with resend := false }) ns) :=
        tracked_mapS (tracked_of_synced h.counters hs) rfl
      have hsched := fresh_schedule (A := A) hclear hover env.junk fun _ => ⟨hnull, ht, hcont, hfopts⟩
      split
      · exact hsched
      · rename_i hbuilt
        have hfin := fresh_finish env.send hsched fun hcounts => by
          obtain ⟨-, habort, hresult, hflag, -⟩ := hcounts
          obtain ⟨huses, hlast⟩ := countsLast_schedule (A := A) hclear ht hcont
            (fun huses => (hsent huses habort hresult).2) env.junk hneeds
            (Bool.eq_false_iff.mpr hbuilt) hflag
          exact ⟨(hsent huses habort hresult).1, hlast⟩
        split
        · exact fresh_mapS hfin fun _ => rfl
        · exact hfin
    · rename_i hneeds
      rw [Bool.not_eq_true] at hneeds
      obtain ⟨hmote, hcalls⟩ := schedule_of_not_needs (A := A)
        (mapS (fun s => { s with resend := false }) ns) env.junk hneeds
      have hsched := fresh_schedule (A := A) hclear hover env.junk fun hneeds' =>
        absurd (hneeds.symm.trans hneeds') Bool.false_ne_true
      split
      · exact hsched
      · have hfin := fresh_finish env.send hsched fun hcounts => by
          rw [hmote] at hcounts
          obtain ⟨hmq, hlast⟩ := countsLast_of_countable h.counters (hcond hcounts)
          exact ⟨hmq, hlast.congr rfl hcalls (by rw [hmote]; rfl)⟩
        split
        · exact fresh_mapS hfin fun _ => rfl
        · exact hfin
  · exact hclear

theorem fresh_downlink (env : DownlinkEnv) (md : DLMetaData) (payload : Octets) (h : Fresh ns)
    (hover : ns.overrun = false) (hc : CountedInTurn A ns (.downlink env md payload)) :
    Fresh (hNS_to_sNS_downlink A env md payload ns) := by
  unfold hNS_to_sNS_downlink
  split
  · exact h
  · rename_i hright
    split
    · refine ⟨⟨h.counters.serials_nodup, h.counters.serials_lt, h.counters.session_lt, ?_,
        h.counters.once, h.counters.fopts⟩, h.buffered, h.sent⟩
      intro session n hspent r hr hser
      obtain ⟨hID, m, hm, hle, -⟩ := h.counters.rows session n hspent r hr hser
      exact ⟨hID, m, hm, hle, fun _ => Or.inl rfl⟩
    · rename_i s' hs'
      obtain ⟨bin, -, rfl⟩ := Option.map_eq_some_iff.mp hs'
      have hsaved : Fresh (mapS (fun _ => { ns.mote.s with
          FRMPayloadBin := bin, FRMPayloadLen := payload.length, md := md,
          accepted := payload }) ns) := h.congr rfl
      refine fresh_downlinkBC env hsaved hover fun hnow => ?_
      have hsched : scheduled A ns (.downlink env md payload) = some { ns.mote with s := {
          { ns.mote.s with
            FRMPayloadBin := bin, FRMPayloadLen := payload.length, md := md,
            accepted := payload } with resend := false } } := by
        simp only [scheduled]
        rw [if_pos ⟨hnow, hright⟩, hs']
        rfl
      exact hc _ hsched

theorem fresh_resend (env : DownlinkEnv) (failed : Bool) (h : Fresh ns)
    (hover : ns.overrun = false) (hc : CountedInTurn A ns (.resend env failed)) :
    Fresh (resend A env failed ns) := by
  unfold resend
  split
  · rename_i hresend
    have hbc : Fresh (downlinkBC A env ns) := by
      refine fresh_downlinkBC env h hover fun hnow => hc _ ?_
      simp only [scheduled]
      rw [if_pos ⟨hnow, hresend⟩]
      rfl
    dsimp only
    split
    · exact fresh_answer hbc _
    · exact hbc
  · exact h

/-! ### Joins -/

theorem fresh_insert (h : Fresh ns) {row : SessionRow} (hserial : row.serial = ns.nextSerial) :
    Fresh { ns with
      store := ns.store.enqueue (.insert row), nextSerial := ns.nextSerial + 1 } := by
  have hserials : serials (ns.store.enqueue (.insert row)).table
      (ns.store.enqueue (.insert row)).queue =
        serials ns.store.table ns.store.queue ++ [ns.nextSerial] := by
    rw [serials_enqueue, ← hserial]
    rfl
  refine ⟨⟨?_, ?_, ?_, ?_, h.counters.once, h.counters.fopts⟩, h.buffered, h.sent⟩
  · rw [hserials, List.nodup_append]
    refine ⟨h.counters.serials_nodup, List.nodup_singleton _, ?_⟩
    intro n hn m hm heq
    have hlt := h.counters.serials_lt n hn
    rw [List.mem_singleton.mp hm] at heq
    omega
  · rw [hserials]
    intro n hn
    rcases List.mem_append.mp hn with hn | hn
    · exact Nat.lt_succ_of_lt (h.counters.serials_lt n hn)
    · rw [List.mem_singleton.mp hn]
      exact Nat.lt_succ_self _
  · exact fun session n hspent => Nat.lt_succ_of_lt (h.counters.session_lt session n hspent)
  · intro session n hspent r hr hser
    have hsettled : NS.settled { ns with
        store := ns.store.enqueue (.insert row), nextSerial := ns.nextSerial + 1 } =
          row :: ns.settled := settled_enqueue ns (.insert row)
    rw [hsettled] at hr
    rcases List.mem_cons.mp hr with rfl | hold
    · have hlt := h.counters.session_lt session n hspent
      omega
    · exact h.counters.rows session n hspent r hold hser

theorem fresh_bump (h : Fresh ns) : Fresh { ns with nextSerial := ns.nextSerial + 1 } :=
  ⟨⟨h.counters.serials_nodup, fun n hn => Nat.lt_succ_of_lt (h.counters.serials_lt n hn),
    fun session n hspent => Nat.lt_succ_of_lt (h.counters.session_lt session n hspent),
    h.counters.rows, h.counters.once, h.counters.fopts⟩, h.buffered, h.sent⟩

theorem fresh_add_database_session (env : JoinAnsEnv) (h : Fresh ns) :
    Fresh (add_database_session env ns) := by
  have hdel := fresh_enqueue h env.mqOk.deleteNeverUsed (u := .deleteNeverUsed ns.mote.ID) rfl
    (preserves_deleteNeverUsed _)
  have hserial := enqueue_nextSerial env.mqOk.deleteNeverUsed (.deleteNeverUsed ns.mote.ID) ns
  unfold add_database_session
  generalize enqueue env.mqOk.deleteNeverUsed (.deleteNeverUsed ns.mote.ID) ns = ns₁ at *
  unfold enqueue
  split
  · exact fresh_insert hdel hserial.symm
  · exact fresh_bump hdel

theorem fresh_take_JoinAns (env : JoinAnsEnv) (h : Fresh ns) : Fresh (take_JoinAns env ns) := by
  have hkeys : Fresh (takeKeys env ns) := h.congr rfl
  unfold take_JoinAns
  split
  · exact h
  · split
    · refine fresh_add_database_session env (fresh_mapS hkeys ?_)
      exact fun _ => rfl
    · exact fresh_mapS hkeys fun _ => rfl

theorem fresh_forgetSession (h : Fresh ns) : Fresh (mapS forgetSession ns) :=
  ⟨counters_mapS h.counters rfl, ⟨h.buffered.bin, h.buffered.conf, Nat.zero_le _,
    h.buffered.frame, fun hne => absurd rfl hne⟩, h.sent⟩

theorem fresh_saveJoinAccept (env : JoinAnsEnv) (h : Fresh ns) {s' : S}
    (hs : saveJoinAccept env ns.mote.s = some s') : Fresh (mapS (fun _ => s') ns) := by
  obtain ⟨bin, hbin, rfl⟩ := Option.map_eq_some_iff.mp hs
  refine ⟨counters_mapS h.counters rfl, ⟨(Octets.write_length hbin).trans h.buffered.bin,
    h.buffered.conf, h.buffered.confLen, ?_, h.buffered.confFrame⟩, h.sent⟩
  intro _ session n ho
  cases ho

theorem fresh_overrun (h : Fresh ns) : Fresh { ns with overrun := true } := by
  refine ⟨⟨h.counters.serials_nodup, h.counters.serials_lt, h.counters.session_lt, ?_,
    h.counters.once, h.counters.fopts⟩, h.buffered, h.sent⟩
  intro session n hspent r hr hser
  obtain ⟨hID, m, hm, hle, -⟩ := h.counters.rows session n hspent r hr hser
  exact ⟨hID, m, hm, hle, fun _ => Or.inl rfl⟩

theorem fresh_sendJoinAccept (env : JoinAnsEnv) (h : Fresh ns) :
    Fresh (sendJoinAccept env ns) := by
  unfold sendJoinAccept
  split
  · split
    · split
      · exact fresh_overrun h
      · rename_i s' hs'
        have hsaved := fresh_saveJoinAccept env h hs'
        split
        · exact fresh_forgetSession hsaved
        · exact hsaved
    · exact h
  · have hdel : Fresh (deleteOldSessions env.mqOk.deleteOld env.newest ns) := by
      unfold deleteOldSessions
      split
      · exact h
      · exact fresh_enqueue h _ rfl (preserves_deleteOld _ _)
    dsimp only
    split
    · exact fresh_forgetSession hdel
    · exact hdel

theorem fresh_joinAns (env : JoinAnsEnv) (h : Fresh ns) : Fresh (hNs_to_sNS_JoinAns env ns) := by
  refine fresh_sendJoinAccept env (fresh_mapS ?_ fun _ => rfl)
  split
  · exact fresh_take_JoinAns env h
  · exact h

/-! ### Runs -/

theorem fresh_other (h : Fresh ns) {u : Statement} (hc : CountedInTurn A ns (.other u)) :
    Fresh { ns with
      store := ns.store.enqueue (u.number ns.nextSerial), nextSerial := ns.nextSerial + 1 } := by
  cases u with
  | setFCntUp n devAddr =>
    exact fresh_bump (fresh_enqueue h true rfl (preserves_setFCntUp n devAddr))
  | zeroNFCntDown devAddr =>
    exact fresh_bump (fresh_enqueue h true (u := .zeroNFCntDown devAddr) rfl
      (preserves_zeroNFCntDown h fun r hr => Or.inr (hc r hr)))
  | incrNFCntDown devAddr =>
    exact fresh_bump (fresh_enqueue h true rfl (preserves_incrNFCntDown devAddr))
  | insert row => exact fresh_insert h rfl
  | deleteNeverUsed id =>
    exact fresh_bump (fresh_enqueue h true rfl (preserves_deleteNeverUsed id))
  | deleteOld id before =>
    exact fresh_bump (fresh_enqueue h true rfl (preserves_deleteOld id before))

theorem fresh_writer (h : Fresh ns) : Fresh { ns with store := ns.store.writeNext execute } := by
  have hserials : (serials (ns.store.writeNext execute).table
      (ns.store.writeNext execute).queue).Subperm (serials ns.store.table ns.store.queue) := by
    unfold WriteBehind.Store.writeNext
    split
    · exact List.Subperm.refl _
    · rename_i u us hqueue
      rw [hqueue]
      exact serials_execute _ u us
  have hsettled : NS.settled { ns with store := ns.store.writeNext execute } = ns.settled :=
    WriteBehind.Store.drained_writeNext execute ns.store
  refine ⟨⟨?_, ?_, h.counters.session_lt, ?_, h.counters.once, h.counters.fopts⟩, h.buffered,
    h.sent⟩
  · obtain ⟨l, hperm, hsub⟩ := hserials
    exact hperm.nodup_iff.mp (h.counters.serials_nodup.sublist hsub)
  · exact fun n hn => h.counters.serials_lt n (hserials.subset hn)
  · rw [hsettled]
    exact h.counters.rows

theorem fresh_step {e : Event} (h : Fresh ns) (hc : CountedInTurn A ns e) :
    Fresh (step A ns e) := by
  unfold step
  split
  · exact h
  · rename_i hrun
    have hover : ns.overrun = false := Bool.eq_false_iff.mpr hrun
    cases e with
    | window => exact h.congr rfl
    | receive frame counter => exact h.congr rfl
    | load byID sqlOk now =>
      unfold handle loadSession
      dsimp only
      split
      · exact fresh_mapSession h _
      · exact h
    | uplink env =>
      unfold handle
      dsimp only
      split
      · exact h
      · rename_i hlen
        exact fresh_uplink env h hover hlen hc
    | rejoin junk =>
      refine fresh_schedule h hover junk fun hneeds => ?_
      obtain ⟨hnull, hs, hcont, hfopts⟩ := hc hneeds
      exact ⟨hnull, tracked_of_synced h.counters hs, hcont, hfopts⟩
    | send env => exact fresh_finish env h fun hcounts =>
        countsLast_of_countable h.counters (hc hcounts)
    | downlink env md payload => exact fresh_downlink env md payload h hover hc
    | resend env failed => exact fresh_resend env failed h hover hc
    | macCmds ops =>
      show Fresh (queueMacCmds ops ns)
      exact h.congr rfl
    | joinReq devAddr => exact h.congr rfl
    | address devAddr => exact h.congr rfl
    | joinAns env => exact fresh_joinAns env h
    | other u => exact fresh_other h hc
    | writer => exact fresh_writer h

theorem Counters.eq_of_spent (h : Counters ns) {c d : Call} (hc : c ∈ ns.calls)
    (hd : d ∈ ns.calls) (hcuses : usesAFCntDown c.before = false)
    (hduses : usesAFCntDown d.before = false)
    (hrow : c.before.session.row = d.before.session.row)
    (hcount : c.before.session.NFCntDown = d.before.session.NFCntDown) : c = d := by
  by_contra hne
  have hsymm : Std.Symm fun c d : Call => usesAFCntDown c.before = false →
      usesAFCntDown d.before = false → c.before.session.row = d.before.session.row →
      c.before.session.NFCntDown ≠ d.before.session.NFCntDown :=
    ⟨fun _ _ h hb ha hr => (h ha hb hr.symm).symm⟩
  exact h.once.forall hc hd hne hcuses hduses hrow hcount

theorem framesAgree_of_fresh (h : Fresh ns) : FramesAgree ns := by
  have hall : ns.sent.Pairwise fun _ _ => True := List.pairwise_of_forall fun _ _ => trivial
  refine hall.imp_of_mem ?_
  intro x y hx hy _ o ho hcounted hy'
  obtain ⟨session, count⟩ := o
  obtain ⟨n, rfl⟩ := Option.ne_none_iff_exists'.mp hcounted
  obtain ⟨c, hc, m, hm, hcuses, hcrow, hccount, hcx⟩ := h.sent x hx session n ho
  obtain ⟨d, hd, m', hm', hduses, hdrow, hdcount, hdy⟩ := h.sent y hy session n hy'
  have hsame := h.counters.eq_of_spent hc hd hcuses hduses (hcrow.trans hdrow.symm)
    (hccount.trans hdcount.symm)
  rw [hsame, hm'] at hm
  rw [hcx, hdy, Option.some.inj hm]

theorem queuedFOpts_of_encrypted {m : Mote} {f : Octets} (h : encryptedFOpts m = some f) :
    queuedFOpts m ≠ [] := by
  unfold encryptedFOpts at h
  split at h
  · rename_i hboth
    exact hboth.2
  · cases h

theorem fOptsAgree_of_fresh (h : Fresh ns) : FOptsAgree ns := by
  have huses : ∀ c ∈ ns.calls, queuedFOpts c.before ≠ [] → usesAFCntDown c.before = false := by
    intro c hc hne
    cases hu : usesAFCntDown c.before with
    | false => rfl
    | true => exact absurd (h.counters.fopts c hc hu) hne
  refine h.counters.once.imp_of_mem ?_
  intro c d hc hd honce hrow _ _ hcount f hf g hg
  exact absurd hcount (honce (huses c hc (queuedFOpts_of_encrypted hf))
    (huses d hd (queuedFOpts_of_encrypted hg)) hrow)

variable (A)

/-- An uplink that wants an answer, another one, and what happens between them. -/
def hearsTwice (between : List Event) : List Event :=
  hears MTYPE_CONF_UP 0 1 ++ .send plainSend :: between ++ hears MTYPE_UNCONF_UP 0x40 2 ++
    [.send plainSend]

end Lorawan.NetworkServer

import Lorawan.NetworkServer.Serving
import Mathlib.Data.List.Nodup

/-!
# Replay protection of uplinks

The counter of an uplink is compared with the one in the sessions table, which
the queue updates later. As long as the session in memory is what the table will
hold, and no header counter lies so far below the stored one that it passes for
a roll-over, an accepted counter is never undercut, and the stored counter never
decreases.
-/

namespace Lorawan.NetworkServer
open Lorawan Lorawan.Backend Backend.mtype_e

variable (A : BlockCipher)

/-! ### The property -/

/-- After a frame with the counter `n` no frame that the device sent with a smaller one is
accepted under the session. -/
def UplinksProtected (ns : NS) : Prop :=
  ns.accepted.Pairwise fun a b => a.session = b.session → a.FCntUp ≤ b.counter

/-- What is stored for a session of the device does not decrease. -/
def NeverLowers (ns ns' : NS) : Prop :=
  ∀ r ∈ ns.store.table, r.ID = ns.mote.ID → ∀ r' ∈ ns'.store.table, r'.serial = r.serial →
    r.FCntUp.getD 0 ≤ r'.FCntUp.getD 0

/-! ### The condition -/

/-- The table once the queue is drained. -/
def NS.settled (ns : NS) : List SessionRow := ns.store.drained execute

/-- The session in memory is the newest one with the DevAddr, with the counter that the table
will hold when the queue is drained. -/
def Current (ns : NS) : Prop :=
  ∃ r ∈ newestByDevAddr ns.mote.devAddr ns.settled, r.ID = ns.mote.ID ∧
    r.serial = ns.mote.session.row ∧ r.FCntUp.getD 0 = ns.mote.session.FCntUp

/-- The counter that the server takes the frame to have. -/
def takenFCntUp (m : Mote) : ℕ := FCntUp32 m.session.FCntUp (rxFCnt m)

/-- The counter in the header is not so far below the stored one that it passes both tests. -/
def NoRollOver (m : Mote) : Prop := m.session.FCntUp % 0x10000 < rxFCnt m + 0xC000

/-- What has to hold when the MIC of a frame verifies. The last part is about the MIC: it does so
only under the counter that the device used. -/
def TakenInSequence (ns : NS) (env : UplinkEnv) : Prop :=
  env.mqOk.setFCntUp = true ∧ Current ns ∧ NoRollOver ns.mote ∧ takenFCntUp ns.mote = ns.mote.counter

/-- A statement of another handler sets no FCntUp of the device, and a row that it inserts is the
newest one. -/
def OtherInSequence (ns : NS) : Statement → Prop
  | .setFCntUp _ devAddr => ∀ r ∈ newestByDevAddr devAddr ns.settled, r.ID ≠ ns.mote.ID
  | .insert row => ∀ r ∈ ns.settled, r.createdAt ≤ row.createdAt
  | _ => True

/-- The condition on an event. -/
def InSequence (ns : NS) : Event → Prop
  | .uplink env =>
    ns.mote.ULPHYPayloadLen ≠ 0 → ns.mote.session.until_ ≠ .none →
      (checkMic A env ns.mote (takenFCntUp ns.mote)).1 = true → TakenInSequence ns env
  | .joinAns env => ∀ r ∈ ns.settled, r.createdAt ≤ env.createdAt
  | .other u => OtherInSequence ns u
  | _ => True

instance (ns : NS) : Decidable (Current ns) := by
  unfold Current
  infer_instance

instance (m : Mote) : Decidable (NoRollOver m) := inferInstanceAs (Decidable (_ < _))

instance (ns : NS) (env : UplinkEnv) : Decidable (TakenInSequence ns env) :=
  inferInstanceAs (Decidable (_ ∧ _))

instance (ns : NS) (u : Statement) : Decidable (OtherInSequence ns u) := by
  unfold OtherInSequence
  split <;> infer_instance

instance (ns : NS) (e : Event) : Decidable (InSequence A ns e) := by
  unfold InSequence
  split <;> infer_instance

/-! ### The test of the gap -/

theorem le_FCntUp32 {stored rx : ℕ} (hroll : stored % 0x10000 < rx + 0xC000)
    (h : isReplay stored rx = false) : stored ≤ FCntUp32 stored rx := by
  have hsplit := Nat.div_add_mod stored 0x10000
  by_contra hlt
  have hgap : MAX_FCNT_GAP = 0x4000 := rfl
  have hreplay : isReplay stored rx = true := by
    simp only [isReplay, Bool.or_eq_true, Bool.and_eq_true, decide_eq_true_eq]
    unfold FCntUp32 at *
    omega
  rw [hreplay] at h
  cases h

theorem checkMic_congr (env : UplinkEnv) {m m' : Mote} (hsession : m'.session = m.session)
    (hbin : m'.ULPayloadBin = m.ULPayloadBin) (hlen : m'.ULPHYPayloadLen = m.ULPHYPayloadLen)
    (hconf : m'.s.ConfFCntDown = m.s.ConfFCntDown)
    (hconfLen : m'.s.confDLPHYPayloadLen = m.s.confDLPHYPayloadLen) (n : ℕ) :
    (checkMic A env m' n).1 = (checkMic A env m n).1 := by
  have hblock : ∀ c dr ch, uplinkBlock m' c dr ch n = uplinkBlock m c dr ch n := by
    intro c dr ch
    simp only [uplinkBlock, rxDevAddr, rxLenMsg, hbin, hlen]
  have hcheck : ∀ block, check_cmacS A m' block = check_cmacS A m block := by
    intro block
    simp only [check_cmacS, hsession, hbin]
  unfold checkMic
  split
  · split
    · rfl
    · unfold checkMic1v1
      simp only [hblock, hcheck, hconf, hconfLen]
      split
      · rfl
      · split <;> rfl
  · simp only [checkMic1v0, hblock, hsession, hbin, hlen]

/-! ### The invariant -/

/-- A queued counter is not below the stored one. -/
def Rises (ID : ℕ) (rows : List SessionRow) : Statement → Prop
  | .setFCntUp n devAddr =>
    ∀ r ∈ newestByDevAddr devAddr rows, r.ID = ID → r.FCntUp.getD 0 ≤ n
  | _ => True

/-- The invariant, while the table is `rows`. -/
structure Counted (rows : List SessionRow) (ns : NS) : Prop where
  table : ns.store.table = rows
  serials_nodup : (serials ns.store.table ns.store.queue).Nodup
  serials_lt : ∀ n ∈ serials ns.store.table ns.store.queue, n < ns.nextSerial
  newestFirst : NewestFirst ns.settled
  queued : ns.store.Queued execute (Rises ns.mote.ID)
  accepted_lt : ∀ a ∈ ns.accepted, a.session < ns.nextSerial
  own : ∀ a ∈ ns.accepted, ∀ r ∈ ns.settled, r.serial = a.session → r.ID = ns.mote.ID
  counted : ∀ a ∈ ns.accepted, ∀ r ∈ ns.settled, r.serial = a.session →
    a.FCntUp ≤ r.FCntUp.getD 0
  protected_ : UplinksProtected ns

/-- What the invariant looks at. -/
structure SameCounting (ns ns' : NS) : Prop where
  store : ns'.store = ns.store
  nextSerial : ns'.nextSerial = ns.nextSerial
  accepted : ns'.accepted = ns.accepted
  ID : ns'.mote.ID = ns.mote.ID

variable {rows : List SessionRow}

theorem Counted.congr {ns ns' : NS} (h : Counted rows ns) (heq : SameCounting ns ns') :
    Counted rows ns' := by
  obtain ⟨h1, h2, h3, h4⟩ := heq
  have hs : ns'.settled = ns.settled := by rw [NS.settled, NS.settled, h1]
  refine ⟨?_, ?_, ?_, ?_, ?_, ?_, ?_, ?_, ?_⟩
  · rw [h1]; exact h.table
  · rw [h1]; exact h.serials_nodup
  · rw [h1, h2]; exact h.serials_lt
  · rw [hs]; exact h.newestFirst
  · rw [h1, h4]; exact h.queued
  · rw [h2, h3]; exact h.accepted_lt
  · rw [h3, hs, h4]; exact h.own
  · rw [h3, hs]; exact h.counted
  · unfold UplinksProtected
    rw [h3]
    exact h.protected_

theorem settled_enqueue (ns : NS) (u : Statement) :
    NS.settled { ns with store := ns.store.enqueue u } = execute ns.settled u :=
  WriteBehind.Store.drained_enqueue execute ns.store u

theorem Counted.bump {ns : NS} (h : Counted rows ns) :
    Counted rows { ns with nextSerial := ns.nextSerial + 1 } :=
  ⟨h.table, h.serials_nodup, fun n hn => Nat.lt_succ_of_lt (h.serials_lt n hn), h.newestFirst,
    h.queued, fun a ha => Nat.lt_succ_of_lt (h.accepted_lt a ha), h.own, h.counted, h.protected_⟩

theorem settled_serials_nodup {ns : NS} (h : Counted rows ns) :
    (ns.settled.map (·.serial)).Nodup := by
  obtain ⟨l, hperm, hsub⟩ := serials_drained ns.store.table ns.store.queue
  exact hperm.nodup_iff.mp (h.serials_nodup.sublist hsub)

theorem settled_serial_lt {ns : NS} (h : Counted rows ns) {r : SessionRow} (hr : r ∈ ns.settled) :
    r.serial < ns.nextSerial :=
  h.serials_lt _ ((serials_drained _ _).subset (List.mem_map_of_mem hr))

theorem eq_of_serial (h : (rows.map (·.serial)).Nodup)
    {r r' : SessionRow} (hr : r ∈ rows) (hr' : r' ∈ rows) (hs : r.serial = r'.serial) : r = r' :=
  List.inj_on_of_nodup_map h hr hr' hs

/-- A statement that inserts nothing keeps the invariant when it does not lower a counter. -/
theorem counted_enqueue {ns : NS} (h : Counted rows ns) {u : Statement} (hnew : u.newSerial = none)
    (hrise : Rises ns.mote.ID ns.settled u) :
    Counted rows { ns with store := ns.store.enqueue u } := by
  have hserials : serials (ns.store.enqueue u).table (ns.store.enqueue u).queue =
      serials ns.store.table ns.store.queue := by
    rw [serials_enqueue, hnew]
    simp
  have hnoinsert : ∀ row, u ≠ .insert row := by
    rintro row rfl
    cases hnew
  have hrows : ∀ r' ∈ execute ns.settled u, ∀ a ∈ ns.accepted, r'.serial = a.session →
      r'.ID = ns.mote.ID ∧ a.FCntUp ≤ r'.FCntUp.getD 0 := by
    intro r' hr' a ha hser
    rcases execute_cases hr' with ⟨r, hr, hsame⟩ | hins | ⟨n, devAddr, r, rfl, hr, rfl⟩
    · have hser' : r.serial = a.session := by rw [← hsame.serial, hser]
      rw [hsame.ID, hsame.FCntUp]
      exact ⟨h.own a ha r hr hser', h.counted a ha r hr hser'⟩
    · exact absurd hins (hnoinsert r')
    · have hmem := (newestByDevAddr_mem hr).1
      have hown := h.own a ha r hmem hser
      exact ⟨hown, (h.counted a ha r hmem hser).trans (hrise r hr hown)⟩
  refine ⟨h.table, ?_, ?_, ?_, ?_, h.accepted_lt, ?_, ?_, h.protected_⟩
  · rw [hserials]; exact h.serials_nodup
  · rw [hserials]; exact h.serials_lt
  · rw [settled_enqueue]
    exact newestFirst_execute h.newestFirst fun row hrow => absurd hrow (hnoinsert row)
  · exact WriteBehind.Store.queued_enqueue execute h.queued hrise
  · intro a ha r' hr' hser
    rw [settled_enqueue] at hr'
    exact (hrows r' hr' a ha hser).1
  · intro a ha r' hr' hser
    rw [settled_enqueue] at hr'
    exact (hrows r' hr' a ha hser).2

theorem counted_insert {ns : NS} (h : Counted rows ns) {row : SessionRow}
    (hserial : row.serial = ns.nextSerial) (hnewest : ∀ r ∈ ns.settled, r.createdAt ≤ row.createdAt) :
    Counted rows { ns with
      store := ns.store.enqueue (.insert row), nextSerial := ns.nextSerial + 1 } := by
  have hserials : serials (ns.store.enqueue (.insert row)).table
      (ns.store.enqueue (.insert row)).queue =
        serials ns.store.table ns.store.queue ++ [ns.nextSerial] := by
    rw [serials_enqueue, ← hserial]
    rfl
  have hsettled : NS.settled { ns with
      store := ns.store.enqueue (.insert row), nextSerial := ns.nextSerial + 1 } =
        row :: ns.settled := settled_enqueue ns (.insert row)
  have hold : ∀ a ∈ ns.accepted, row.serial ≠ a.session := by
    intro a ha heq
    have := h.accepted_lt a ha
    omega
  refine ⟨h.table, ?_, ?_, ?_, ?_, ?_, ?_, ?_, h.protected_⟩
  · rw [hserials, List.nodup_append]
    refine ⟨h.serials_nodup, List.nodup_singleton _, ?_⟩
    intro n hn m hm heq
    have := h.serials_lt n hn
    rw [List.mem_singleton.mp hm] at heq
    omega
  · rw [hserials]
    intro n hn
    rcases List.mem_append.mp hn with hn | hn
    · exact Nat.lt_succ_of_lt (h.serials_lt n hn)
    · rw [List.mem_singleton.mp hn]
      exact Nat.lt_succ_self _
  · rw [hsettled]
    exact List.pairwise_cons.mpr ⟨hnewest, h.newestFirst⟩
  · exact WriteBehind.Store.queued_enqueue execute h.queued trivial
  · exact fun a ha => Nat.lt_succ_of_lt (h.accepted_lt a ha)
  · intro a ha r hr hser
    rw [hsettled] at hr
    rcases List.mem_cons.mp hr with rfl | hmem
    · exact absurd hser (hold a ha)
    · exact h.own a ha r hmem hser
  · intro a ha r hr hser
    rw [hsettled] at hr
    rcases List.mem_cons.mp hr with rfl | hmem
    · exact absurd hser (hold a ha)
    · exact h.counted a ha r hmem hser

/-! ### The session of an uplink -/

/-- The newest row with the DevAddr is the one in memory; or the device's rows were deleted. -/
def Holds (m : Mote) (rows : List SessionRow) : Prop :=
  (∃ r ∈ newestByDevAddr m.devAddr rows, r.ID = m.ID ∧ r.serial = m.session.row ∧
    r.FCntUp.getD 0 = m.session.FCntUp) ∨
  ∀ r ∈ rows, (r.DevAddr = m.devAddr → r.ID ≠ m.ID) ∧ r.serial ≠ m.session.row

/-- The statements that the handling of an uplink queues before the counter is stored. -/
def BeforeStore (m : Mote) (u : Statement) : Prop :=
  u = .zeroNFCntDown m.devAddr ∨ u = .incrNFCntDown m.devAddr ∨ ∃ before, u = .deleteOld m.ID before

theorem createdAt_le_newest {rows : List SessionRow} (h : NewestFirst rows) {devAddr : ℕ}
    {r r' : SessionRow} (hr : newestByDevAddr devAddr rows = some r) (hr' : r' ∈ rows)
    (haddr : r'.DevAddr = devAddr) : r'.createdAt ≤ r.createdAt := by
  induction rows with
  | nil => cases hr'
  | cons q qs ih =>
    obtain ⟨hhead, htail⟩ := List.pairwise_cons.mp h
    by_cases hq : q.DevAddr = devAddr
    · have hqr : q = r := by simpa [newestByDevAddr, hq] using hr
      subst hqr
      rcases List.mem_cons.mp hr' with rfl | hmem
      · exact le_refl _
      · exact hhead r' hmem
    · have hrest : newestByDevAddr devAddr qs = some r := by
        simpa [newestByDevAddr, hq] using hr
      rcases List.mem_cons.mp hr' with rfl | hmem
      · exact absurd haddr hq
      · exact ih htail hrest hmem

theorem newest_filter {rows : List SessionRow} {p : SessionRow → Bool} {devAddr : ℕ}
    {r : SessionRow} (hr : newestByDevAddr devAddr rows = some r) (hp : p r = true) :
    newestByDevAddr devAddr (rows.filter p) = some r := by
  induction rows with
  | nil => cases hr
  | cons q qs ih =>
    by_cases hq : q.DevAddr = devAddr
    · have hqr : q = r := by simpa [newestByDevAddr, hq] using hr
      subst hqr
      simp [newestByDevAddr, hp, hq]
    · have hrest : newestByDevAddr devAddr qs = some r := by
        simpa [newestByDevAddr, hq] using hr
      have hfilter := ih hrest
      by_cases hpq : p q = true
      · simpa [newestByDevAddr, hpq, hq] using hfilter
      · simpa [newestByDevAddr, hpq] using hfilter

theorem holds_modifyNewest {m : Mote} {rows : List SessionRow} (h : Holds m rows)
    {f : SessionRow → SessionRow} (hf : ∀ r, SameRow r (f r)) :
    Holds m (modifyNewest m.devAddr f rows) := by
  rcases h with ⟨r, hr, hID, hserial, hcnt⟩ | hgone
  · refine Or.inl ⟨f r, ?_, ?_, ?_, ?_⟩
    · rw [Option.mem_def] at hr ⊢
      rw [newest_modifyNewest _ f (fun r => (hf r).DevAddr), hr]
      rfl
    · rw [(hf r).ID, hID]
    · rw [(hf r).serial, hserial]
    · rw [(hf r).FCntUp, hcnt]
  · refine Or.inr fun r' hr' => ?_
    rcases mem_modifyNewest hr' with hold | ⟨r, hr, rfl⟩
    · exact hgone r' hold
    · rw [(hf r).DevAddr, (hf r).ID, (hf r).serial]
      exact hgone r (newestByDevAddr_mem hr).1

/-- When the newest row goes, all of the device's rows with the address do: they are older. -/
theorem holds_deleteOld {m : Mote} {rows : List SessionRow} (h : Holds m rows)
    (hnodup : (rows.map (·.serial)).Nodup) (hnewest : NewestFirst rows) (before : Option ℕ) :
    Holds m (execute rows (.deleteOld m.ID before)) := by
  rcases h with ⟨r, hr, hID, hserial, hcnt⟩ | hgone
  · cases hdel : (Statement.deleteOld m.ID before).deletes r with
    | false =>
      refine Or.inl ⟨r, ?_, hID, hserial, hcnt⟩
      exact newest_filter hr (by rw [hdel]; rfl)
    | true =>
      refine Or.inr fun r' hr' => ?_
      obtain ⟨hmem, hkept⟩ := List.mem_filter.mp hr'
      refine ⟨fun haddr hID' => ?_, fun hser => ?_⟩
      · have hle := createdAt_le_newest hnewest hr hmem haddr
        cases before with
        | none => simp [Statement.deletes, hID'] at hkept
        | some t =>
          simp only [Statement.deletes, hID', hID, Option.all_some, decide_true, Bool.true_and,
            decide_eq_true_eq, Bool.not_eq_true', decide_eq_false_iff_not] at hdel hkept
          omega
      · have heq := eq_of_serial hnodup hmem (newestByDevAddr_mem hr).1 (hser.trans hserial.symm)
        rw [heq, hdel] at hkept
        cases hkept
  · exact Or.inr fun r' hr' => hgone r' (List.mem_filter.mp hr').1

theorem holds_execute {m : Mote} {rows : List SessionRow} (h : Holds m rows)
    (hnodup : (rows.map (·.serial)).Nodup) (hnewest : NewestFirst rows) {u : Statement}
    (hu : BeforeStore m u) : Holds m (execute rows u) := by
  rcases hu with rfl | rfl | ⟨before, rfl⟩
  · exact holds_modifyNewest h fun r => ⟨rfl, rfl, rfl, rfl, rfl⟩
  · exact holds_modifyNewest h fun r => ⟨rfl, rfl, rfl, rfl, rfl⟩
  · exact holds_deleteOld h hnodup hnewest before

/-- While an uplink is handled whose counter `n` passed the tests. -/
structure Taking (rows : List SessionRow) (n : ℕ) (ns : NS) : Prop where
  counted : Counted rows ns
  holds : Holds ns.mote ns.settled
  row_lt : ns.mote.session.row < ns.nextSerial
  stored : ∀ a ∈ ns.accepted, a.session = ns.mote.session.row → a.FCntUp ≤ ns.mote.session.FCntUp
  le : ns.mote.session.FCntUp ≤ n
  counter : n = ns.mote.counter

theorem counted_mapS {ns : NS} (h : Counted rows ns) (f : S → S) : Counted rows (mapS f ns) :=
  h.congr ⟨rfl, rfl, rfl, rfl⟩

theorem counted_mapSession {ns : NS} (h : Counted rows ns) (f : Session → Session) :
    Counted rows (mapSession f ns) :=
  h.congr ⟨rfl, rfl, rfl, rfl⟩

theorem counted_answer {ns : NS} (h : Counted rows ns) (answerOk : Bool) :
    Counted rows (answer_app_downlink answerOk ns) := by
  unfold answer_app_downlink
  split
  · exact counted_mapS h _
  · exact h

theorem counted_beforeStore {ns : NS} (h : Counted rows ns) (mqOk : Bool) {m : Mote}
    {u : Statement} (hu : BeforeStore m u) : Counted rows (enqueue mqOk u ns) := by
  unfold enqueue
  split
  · rcases hu with rfl | rfl | ⟨before, rfl⟩ <;> exact counted_enqueue h rfl trivial
  · exact h

theorem taking_mapS {n : ℕ} {ns : NS} (h : Taking rows n ns) (f : S → S) :
    Taking rows n (mapS f ns) :=
  ⟨counted_mapS h.counted f, h.holds, h.row_lt, h.stored, h.le, h.counter⟩

theorem taking_mapSession {n : ℕ} {ns : NS} (h : Taking rows n ns) {f : Session → Session}
    (hrow : (f ns.mote.session).row = ns.mote.session.row)
    (hcnt : (f ns.mote.session).FCntUp = ns.mote.session.FCntUp) :
    Taking rows n (mapSession f ns) := by
  refine ⟨counted_mapSession h.counted f, ?_, ?_, ?_, ?_, h.counter⟩
  · have := h.holds
    unfold Holds at this ⊢
    simp only [mapSession, hrow, hcnt]
    exact this
  · simp only [mapSession, hrow]
    exact h.row_lt
  · simp only [mapSession, hrow, hcnt]
    exact h.stored
  · simp only [mapSession, hcnt]
    exact h.le

theorem taking_enqueue {n : ℕ} {ns : NS} (h : Taking rows n ns) (mqOk : Bool) {u : Statement}
    (hu : BeforeStore ns.mote u) : Taking rows n (enqueue mqOk u ns) := by
  have hcounted := counted_beforeStore h.counted mqOk hu
  unfold enqueue at hcounted ⊢
  split
  · rename_i hmq
    rw [if_pos hmq] at hcounted
    refine ⟨hcounted, ?_, h.row_lt, h.stored, h.le, h.counter⟩
    rw [settled_enqueue]
    exact holds_execute h.holds (settled_serials_nodup h.counted) h.counted.newestFirst hu
  · exact h

theorem taking_initNFCntDown {n : ℕ} (env : UplinkEnv) {ns : NS} (h : Taking rows n ns) :
    Taking rows n (initNFCntDown env ns) := by
  unfold initNFCntDown
  split
  · refine taking_mapSession (taking_enqueue h env.mqOk.zeroNFCntDown (Or.inl rfl)) ?_ ?_ <;> rfl
  · exact h

theorem taking_checkOldSessions {n : ℕ} (env : UplinkEnv) (wanted : Bool) {ns : NS}
    (h : Taking rows n ns) : Taking rows n (checkOldSessions env wanted ns) := by
  have hdel : Taking rows n (deleteOldSessions env.mqOk.deleteOld env.newest ns) := by
    unfold deleteOldSessions
    split
    · exact h
    · exact taking_enqueue h _ (Or.inr (Or.inr ⟨_, rfl⟩))
  unfold checkOldSessions
  split
  · exact taking_mapS hdel _
  · exact h

theorem taking_handleACK {n : ℕ} (env : UplinkEnv) {ns : NS} (h : Taking rows n ns) :
    Taking rows n (handleACK env ns) := by
  unfold handleACK
  split
  · refine taking_mapS ?_ _
    split
    · refine taking_mapS (taking_mapSession (taking_enqueue h _ (Or.inr (Or.inl rfl))) ?_ ?_) _ <;>
        rfl
    · exact h
  · exact h

theorem taking_handleCommands {n : ℕ} (env : UplinkEnv) {ns : NS} (h : Taking rows n ns) :
    Taking rows n (handleCommands env ns) := by
  unfold handleCommands
  refine taking_mapS (taking_checkOldSessions env _ (taking_mapS ?_ _)) _
  split
  · exact taking_mapS (taking_mapS h _) _
  · exact h

/-! ### The counter is stored -/

/-- History grows by an uplink that no row contradicts. -/
theorem counted_accept {ns : NS} (h : Counted rows ns) {a : Accepted}
    (hlt : a.session < ns.nextSerial)
    (hrows : ∀ r ∈ ns.settled, r.serial = a.session → r.ID = ns.mote.ID ∧
      a.FCntUp ≤ r.FCntUp.getD 0)
    (hbefore : ∀ b ∈ ns.accepted, b.session = a.session → b.FCntUp ≤ a.counter) :
    Counted rows { ns with accepted := ns.accepted ++ [a] } := by
  refine ⟨h.table, h.serials_nodup, h.serials_lt, h.newestFirst, h.queued, ?_, ?_, ?_, ?_⟩
  · intro b hb
    rcases List.mem_append.mp hb with hold | hnew
    · exact h.accepted_lt b hold
    · rw [List.mem_singleton.mp hnew]
      exact hlt
  · intro b hb r hr hser
    rcases List.mem_append.mp hb with hold | hnew
    · exact h.own b hold r hr hser
    · rw [List.mem_singleton.mp hnew] at hser
      exact (hrows r hr hser).1
  · intro b hb r hr hser
    rcases List.mem_append.mp hb with hold | hnew
    · exact h.counted b hold r hr hser
    · rw [List.mem_singleton.mp hnew] at hser ⊢
      exact (hrows r hr hser).2
  · refine List.pairwise_append.mpr ⟨h.protected_, List.pairwise_singleton _ _, ?_⟩
    intro b hb c hc hser
    rw [List.mem_singleton.mp hc] at hser ⊢
    exact hbefore b hb hser

theorem taking_rises {n : ℕ} {ns : NS} (h : Taking rows n ns) :
    Rises ns.mote.ID ns.settled (.setFCntUp n ns.mote.devAddr) := by
  intro r hr hID
  rcases h.holds with ⟨q, hq, -, -, hcnt⟩ | hgone
  · rw [Option.mem_unique hr hq, hcnt]
    exact h.le
  · obtain ⟨hmem, haddr⟩ := newestByDevAddr_mem hr
    exact absurd hID ((hgone r hmem).1 haddr)

theorem row_of_setFCntUp {n : ℕ} {ns : NS} (h : Taking rows n ns)
    {r : SessionRow} (hr : r ∈ execute ns.settled (.setFCntUp n ns.mote.devAddr))
    (hser : r.serial = ns.mote.session.row) : r.ID = ns.mote.ID ∧ n ≤ r.FCntUp.getD 0 := by
  have hserials : ((execute ns.settled (.setFCntUp n ns.mote.devAddr)).map (·.serial)).Nodup := by
    rw [execute, map_serial_modifyNewest _ _ (by intro r; rfl)]
    exact settled_serials_nodup h.counted
  rcases h.holds with ⟨q, hq, hID, hqser, -⟩ | hgone
  · have hnewest : newestByDevAddr ns.mote.devAddr
        (execute ns.settled (.setFCntUp n ns.mote.devAddr)) = some { q with FCntUp := some n } := by
      rw [execute, newest_modifyNewest _ _ (by intro r; rfl), Option.mem_def.mp hq]
      rfl
    have heq := eq_of_serial hserials hr (newestByDevAddr_mem hnewest).1 (hser.trans hqser.symm)
    rw [heq]
    exact ⟨hID, le_refl n⟩
  · rcases mem_modifyNewest hr with hold | ⟨q, hq, rfl⟩
    · exact absurd hser (hgone r hold).2
    · exact absurd hser (hgone q (newestByDevAddr_mem hq).1).2

theorem counted_storeFCntUp {n : ℕ} (env : UplinkEnv) (hmq : env.mqOk.setFCntUp = true) {ns : NS}
    (h : Taking rows n ns) : Counted rows (storeFCntUp env n ns) := by
  have hbefore : ∀ b ∈ ns.accepted, b.session = ns.mote.session.row → b.FCntUp ≤ ns.mote.counter := by
    intro b hb hser
    have h1 := h.stored b hb hser
    have h2 := h.le
    have h3 := h.counter
    omega
  unfold storeFCntUp
  dsimp only
  split
  · rename_i hsame
    refine counted_mapS (counted_accept h.counted h.row_lt ?_ hbefore) _
    intro r hr hser
    rcases h.holds with ⟨q, hq, hID, hqser, hcnt⟩ | hgone
    · rw [eq_of_serial (settled_serials_nodup h.counted) hr (newestByDevAddr_mem hq).1
        (hser.trans hqser.symm)]
      exact ⟨hID, (hsame.trans hcnt.symm).le⟩
    · exact absurd hser (hgone r hr).2
  · have hqueued := counted_enqueue h.counted (u := .setFCntUp n ns.mote.devAddr) rfl (taking_rises h)
    refine counted_mapS ?_ _
    simp only [enqueue, if_pos hmq]
    refine (counted_accept hqueued (a := ⟨ns.mote.session.row, n, ns.mote.counter⟩) h.row_lt ?_
      hbefore).congr ⟨rfl, rfl, rfl, rfl⟩
    intro r hr hser
    rw [settled_enqueue] at hr
    exact row_of_setFCntUp h hr hser

/-! ### Uplinks -/

theorem answer_mote (answerOk : Bool) (ns : NS) : ∃ len, (answer_app_downlink answerOk ns).mote =
    { ns.mote with s := { ns.mote.s with FRMPayloadLen := len } } := by
  unfold answer_app_downlink
  split
  · exact ⟨0, rfl⟩
  · exact ⟨ns.mote.s.FRMPayloadLen, rfl⟩

theorem enqueue_mote (mqOk : Bool) (u : Statement) (ns : NS) :
    (enqueue mqOk u ns).mote = ns.mote := by
  unfold enqueue
  split <;> rfl

theorem expire_mote (env : UplinkEnv) (ns : NS) : ∃ queue len, (expire env ns).mote =
    { ns.mote with s := { ns.mote.s with mac_cmd_queue := queue, FRMPayloadLen := len } } := by
  unfold expire
  split
  · split
    · exact ⟨_, _, rfl⟩
    · dsimp only
      split
      · obtain ⟨len, hlen⟩ :=
          answer_mote env.answerOk (enqueue env.mqOk.expired (.deleteOld ns.mote.ID none) ns)
        rw [enqueue_mote] at hlen
        exact ⟨_, len, hlen⟩
      · exact ⟨_, _, enqueue_mote _ _ _⟩
  · exact ⟨_, _, rfl⟩

theorem counted_expire (env : UplinkEnv) {ns : NS} (h : Counted rows ns) :
    Counted rows (expire env ns) := by
  unfold expire
  split
  · split
    · exact counted_mapS h _
    · have hdel := counted_beforeStore (m := ns.mote) h env.mqOk.expired (Or.inr (Or.inr ⟨none, rfl⟩))
      dsimp only
      split
      · exact counted_answer hdel _
      · exact hdel
  · exact h

theorem taking_expire {n : ℕ} (env : UplinkEnv) {ns : NS} (h : Taking rows n ns) :
    Taking rows n (expire env ns) := by
  unfold expire
  split
  · split
    · exact taking_mapS h _
    · have hdel := taking_enqueue h env.mqOk.expired (u := .deleteOld ns.mote.ID none)
        (Or.inr (Or.inr ⟨none, rfl⟩))
      dsimp only
      split
      · unfold answer_app_downlink
        split
        · exact taking_mapS hdel _
        · exact hdel
      · exact hdel
  · exact h

theorem taking_of_current {ns : NS} {env : UplinkEnv} (h : Counted rows ns)
    (htaken : TakenInSequence ns env)
    (hreplay : isReplay ns.mote.session.FCntUp (rxFCnt ns.mote) = false) :
    Taking rows (takenFCntUp ns.mote) ns := by
  obtain ⟨-, ⟨r, hr, hID, hserial, hcnt⟩, hroll, hcounter⟩ := htaken
  have hmem := (newestByDevAddr_mem hr).1
  refine ⟨h, Or.inl ⟨r, hr, hID, hserial, hcnt⟩, ?_, ?_, le_FCntUp32 hroll hreplay, hcounter⟩
  · rw [← hserial]
    exact settled_serial_lt h hmem
  · intro a ha hser
    rw [← hcnt]
    exact h.counted a ha r hmem (hserial.trans hser.symm)

/-- `sNS_uplink` up to the check of the MIC, whatever its result. -/
def checkedUplink (A : BlockCipher) (env : UplinkEnv) (n : ℕ) (ns : NS) : NS :=
  let ns := mapS (fun s => { s with newFCntUp := true }) (expire env ns)
  mapS (fun _ => (checkMic A env ns.mote n).2) ns

theorem checkMic_afterExpire (env : UplinkEnv) (ns : NS) (n : ℕ) :
    (checkMic A env (mapS (fun s => { s with newFCntUp := true }) (expire env ns)).mote n).1 =
      (checkMic A env ns.mote n).1 := by
  obtain ⟨queue, len, hmote⟩ := expire_mote env ns
  apply checkMic_congr <;> simp only [mapS, hmote]

/-- What `sNS_uplink` comes to, up to the scheduling of a downlink. -/
inductive Received (A : BlockCipher) (env : UplinkEnv) (ns : NS) : Result × NS → Prop
  | noSession (h : ns.mote.session.until_ = .none) : Received A env ns (.Other, ns)
  | replay (hlive : ns.mote.session.until_ ≠ .none)
      (h : isReplay ns.mote.session.FCntUp (rxFCnt ns.mote) = true) :
      Received A env ns (.Other, expire env ns)
  | taken (hlive : ns.mote.session.until_ ≠ .none)
      (h : isReplay ns.mote.session.FCntUp (rxFCnt ns.mote) = false)
      (hmic : (checkMic A env ns.mote (takenFCntUp ns.mote)).1 = true) :
      Received A env ns (.Success, takeUplink env (takenFCntUp ns.mote)
        (checkedUplink A env (takenFCntUp ns.mote) ns))
  | refused (hlive : ns.mote.session.until_ ≠ .none)
      (h : isReplay ns.mote.session.FCntUp (rxFCnt ns.mote) = false)
      (hmic : (checkMic A env ns.mote (takenFCntUp ns.mote)).1 = false) :
      Received A env ns (.MICFailed, refuseUplink env
        (checkedUplink A env (takenFCntUp ns.mote) ns))

theorem receiveUplink_received (env : UplinkEnv) (ns : NS) :
    Received A env ns (receiveUplink A env ns) := by
  obtain ⟨queue, len, hmote⟩ := expire_mote env ns
  have hsession : (expire env ns).mote.session = ns.mote.session := by rw [hmote]
  have hrx : rxFCnt (expire env ns).mote = rxFCnt ns.mote := by
    rw [hmote]
    rfl
  unfold receiveUplink
  split
  · rename_i hnone
    exact .noSession hnone
  · rename_i hlive
    dsimp only
    rw [hsession, hrx, ← takenFCntUp]
    split
    · rename_i hreplay
      exact .replay hlive hreplay
    · rename_i hreplay
      have hnew := Bool.eq_false_iff.mpr hreplay
      split
      · rename_i hok
        rw [checkMic_afterExpire] at hok
        exact .taken hlive hnew hok
      · rename_i hfails
        rw [checkMic_afterExpire] at hfails
        exact .refused hlive hnew (Bool.eq_false_iff.mpr hfails)

theorem taking_checkedUplink {n : ℕ} (env : UplinkEnv) {ns : NS} (h : Taking rows n ns) :
    Taking rows n (checkedUplink A env n ns) := by
  have hnew := taking_mapS (taking_expire env h) fun s => { s with newFCntUp := true }
  exact taking_mapS hnew fun _ => (checkMic A env _ n).2

theorem counted_checkedUplink (env : UplinkEnv) (n : ℕ) {ns : NS} (h : Counted rows ns) :
    Counted rows (checkedUplink A env n ns) := by
  have hnew := counted_mapS (counted_expire env h) fun s => { s with newFCntUp := true }
  exact counted_mapS hnew fun _ => (checkMic A env _ n).2

theorem counted_refuseUplink (env : UplinkEnv) {ns : NS} (h : Counted rows ns) :
    Counted rows (refuseUplink env ns) := h.congr ⟨rfl, rfl, rfl, rfl⟩

theorem counted_takeUplink {n : ℕ} (env : UplinkEnv) (hmq : env.mqOk.setFCntUp = true) {ns : NS}
    (h : Taking rows n ns) : Counted rows (takeUplink env n ns) := by
  have hinit := taking_initNFCntDown env h
  have hpruned := taking_checkOldSessions env (!env.OptNeg) hinit
  exact counted_storeFCntUp env hmq (taking_handleCommands env (taking_handleACK env hpruned))

theorem counted_receiveUplink {ns : NS} {env : UplinkEnv} (h : Counted rows ns)
    (hseq : ns.mote.session.until_ ≠ .none →
      (checkMic A env ns.mote (takenFCntUp ns.mote)).1 = true → TakenInSequence ns env) :
    Counted rows (receiveUplink A env ns).2 := by
  have hreceived := receiveUplink_received (A := A) env ns
  generalize receiveUplink A env ns = received at hreceived ⊢
  cases hreceived with
  | noSession hnone => exact h
  | replay hlive hreplay => exact counted_expire env h
  | taken hlive hnew hmic =>
    have htaken := hseq hlive hmic
    have htaking := taking_of_current h htaken hnew
    exact counted_takeUplink env htaken.1 (taking_checkedUplink A env htaking)
  | refused hlive hnew hmic =>
    exact counted_refuseUplink env (counted_checkedUplink A env (takenFCntUp ns.mote) h)

theorem schedule_ID {junk : Octets} {m m' : Mote} (h : sNS_schedule_downlink A junk m = some m') :
    m'.ID = m.ID := by
  unfold sNS_schedule_downlink at h
  split at h
  · simp only [buildFrame, Option.bind_eq_bind, Option.bind_eq_some_iff, Option.pure_def,
      Option.some.injEq] at h
    obtain ⟨_, _, _, _, _, _, _, _, rfl⟩ := h
    rfl
  · rw [Option.some.inj h]

theorem counted_schedule {ns : NS} (h : Counted rows ns) (junk : Octets) :
    Counted rows (schedule A junk ns) := by
  refine h.congr ⟨rfl, rfl, rfl, ?_⟩
  simp only [schedule]
  cases hsched : sNS_schedule_downlink A junk ns.mote with
  | none => rfl
  | some m' => exact schedule_ID A hsched

theorem counted_uplink {ns : NS} {env : UplinkEnv} (h : Counted rows ns)
    (hseq : ns.mote.session.until_ ≠ .none →
      (checkMic A env ns.mote (takenFCntUp ns.mote)).1 = true → TakenInSequence ns env) :
    Counted rows (sNS_uplink A env ns).2 := by
  have hrecv := counted_receiveUplink A h hseq
  unfold sNS_uplink
  split
  · rename_i heq
    rw [heq] at hrecv
    exact counted_schedule A hrecv env.junk
  · rename_i heq
    rw [heq] at hrecv
    exact hrecv

/-! ### Downlinks -/

theorem counted_countNFCntDown {ns : NS} (h : Counted rows ns) (mqOk : Bool) :
    Counted rows (countNFCntDown mqOk ns) :=
  counted_mapS (counted_mapSession
    (counted_beforeStore (m := ns.mote) h mqOk (Or.inr (Or.inl rfl))) _) _

theorem counted_answerPending (env : SendEnv) {ns : NS} (h : Counted rows ns) :
    Counted rows (answerPending env ns) := by
  unfold answerPending
  split
  · exact counted_answer (counted_mapS h _) _
  · exact h

theorem counted_frameSent (env : SendEnv) {ns : NS} (h : Counted rows ns) :
    Counted rows (frameSent env ns) := by
  refine counted_mapS ?_ _
  split
  · exact counted_countNFCntDown h _
  · exact h

theorem counted_answerUnconfirmed (env : SendEnv) {ns : NS} (h : Counted rows ns) :
    Counted rows (answerUnconfirmed env ns) := by
  unfold answerUnconfirmed
  split
  · exact counted_mapS (counted_answer h _) _
  · exact h

theorem counted_sNSDownlinkSent (env : SendEnv) (success : Bool) {ns : NS} (h : Counted rows ns) :
    Counted rows (sNSDownlinkSent env success ns) := by
  refine counted_answerUnconfirmed env ?_
  split
  · exact counted_frameSent env h
  · exact h

theorem counted_transmit (env : SendEnv) {ns : NS} (h : Counted rows ns) :
    Counted rows (transmit env ns) := by
  unfold transmit
  dsimp only
  split <;> split <;> exact h.congr ⟨rfl, rfl, rfl, rfl⟩

theorem counted_finish (env : SendEnv) {ns : NS} (h : Counted rows ns) :
    Counted rows (sNS_finish_phy_downlink env ns) := by
  unfold sNS_finish_phy_downlink
  split
  · exact counted_answerPending env h
  · split
    · exact h
    · refine counted_answerPending env ?_
      split
      · exact counted_transmit env h
      · exact counted_sNSDownlinkSent env _ (counted_transmit env h)

theorem counted_downlinkBC (env : DownlinkEnv) {ns : NS} (h : Counted rows ns) :
    Counted rows (downlinkBC A env ns) := by
  have hclear := counted_mapS h fun s => { s with resend := false }
  unfold downlinkBC
  dsimp only
  split
  · have hsched := counted_schedule A hclear env.junk
    split
    · exact hsched
    · split
      · exact counted_mapS (counted_finish env.send hsched) _
      · exact counted_finish env.send hsched
  · exact hclear

theorem counted_downlink (env : DownlinkEnv) (md : DLMetaData) (payload : Octets) {ns : NS}
    (h : Counted rows ns) : Counted rows (hNS_to_sNS_downlink A env md payload ns) := by
  unfold hNS_to_sNS_downlink
  split
  · exact h
  · split
    · exact h.congr ⟨rfl, rfl, rfl, rfl⟩
    · exact counted_downlinkBC A env (counted_mapS h _)

theorem counted_resend (env : DownlinkEnv) (failed : Bool) {ns : NS} (h : Counted rows ns) :
    Counted rows (resend A env failed ns) := by
  unfold resend
  split
  · dsimp only
    split
    · exact counted_answer (counted_downlinkBC A env h) _
    · exact counted_downlinkBC A env h
  · exact h

/-! ### Joins -/

theorem enqueue_nextSerial (mqOk : Bool) (u : Statement) (ns : NS) :
    (enqueue mqOk u ns).nextSerial = ns.nextSerial := by
  cases mqOk <;> rfl

theorem counted_add_database_session (env : JoinAnsEnv) {ns : NS} (h : Counted rows ns)
    (hnewest : ∀ r ∈ ns.settled, r.createdAt ≤ env.createdAt) :
    Counted rows (add_database_session env ns) := by
  have hdel : Counted rows (enqueue env.mqOk.deleteNeverUsed (.deleteNeverUsed ns.mote.ID) ns) := by
    unfold enqueue
    split
    · exact counted_enqueue h rfl trivial
    · exact h
  have hleft : ∀ r ∈ (enqueue env.mqOk.deleteNeverUsed (.deleteNeverUsed ns.mote.ID) ns).settled,
      r.createdAt ≤ env.createdAt := by
    intro r hr
    unfold enqueue at hr
    split at hr
    · rw [settled_enqueue] at hr
      exact hnewest r (List.mem_filter.mp hr).1
    · exact hnewest r hr
  have hserial := enqueue_nextSerial env.mqOk.deleteNeverUsed (.deleteNeverUsed ns.mote.ID) ns
  unfold add_database_session
  generalize enqueue env.mqOk.deleteNeverUsed (.deleteNeverUsed ns.mote.ID) ns = ns₁ at *
  unfold enqueue
  split
  · exact counted_insert hdel hserial.symm hleft
  · exact hdel.bump

theorem counted_take_JoinAns (env : JoinAnsEnv) {ns : NS} (h : Counted rows ns)
    (hnewest : ∀ r ∈ ns.settled, r.createdAt ≤ env.createdAt) : Counted rows (take_JoinAns env ns) := by
  have hkeys : Counted rows (takeKeys env ns) := h.congr ⟨rfl, rfl, rfl, rfl⟩
  unfold take_JoinAns
  split
  · exact h
  · split
    · exact counted_add_database_session env (counted_mapS hkeys _) hnewest
    · exact counted_mapS hkeys _

theorem counted_sendJoinAccept (env : JoinAnsEnv) {ns : NS} (h : Counted rows ns) :
    Counted rows (sendJoinAccept env ns) := by
  unfold sendJoinAccept
  split
  · split
    · split
      · exact h.congr ⟨rfl, rfl, rfl, rfl⟩
      · split <;> exact counted_mapS h _
    · exact h
  · have hdel : Counted rows (deleteOldSessions env.mqOk.deleteOld env.newest ns) := by
      unfold deleteOldSessions
      split
      · exact h
      · exact counted_beforeStore (m := ns.mote) h _ (Or.inr (Or.inr ⟨_, rfl⟩))
    dsimp only
    split
    · exact counted_mapS hdel _
    · exact hdel

theorem counted_joinAns (env : JoinAnsEnv) {ns : NS} (h : Counted rows ns)
    (hnewest : ∀ r ∈ ns.settled, r.createdAt ≤ env.createdAt) :
    Counted rows (hNs_to_sNS_JoinAns env ns) := by
  refine counted_sendJoinAccept env (counted_mapS ?_ _)
  split
  · exact counted_take_JoinAns env h hnewest
  · exact h

/-! ### Statements of other handlers, and the writer -/

theorem counted_other {ns : NS} (h : Counted rows ns) {u : Statement} (hother : OtherInSequence ns u) :
    Counted rows { ns with
      store := ns.store.enqueue (u.number ns.nextSerial), nextSerial := ns.nextSerial + 1 } := by
  cases u with
  | setFCntUp n devAddr =>
    exact (counted_enqueue h (u := .setFCntUp n devAddr) rfl
      fun r hr hID => absurd hID (hother r hr)).bump
  | zeroNFCntDown devAddr =>
    exact (counted_enqueue h (u := .zeroNFCntDown devAddr) rfl trivial).bump
  | incrNFCntDown devAddr =>
    exact (counted_enqueue h (u := .incrNFCntDown devAddr) rfl trivial).bump
  | insert row => exact counted_insert h rfl hother
  | deleteNeverUsed id => exact (counted_enqueue h (u := .deleteNeverUsed id) rfl trivial).bump
  | deleteOld id before => exact (counted_enqueue h (u := .deleteOld id before) rfl trivial).bump

theorem counted_writer {ns : NS} (h : Counted rows ns) :
    Counted (ns.store.writeNext execute).table { ns with store := ns.store.writeNext execute } := by
  have hserials : (serials (ns.store.writeNext execute).table
      (ns.store.writeNext execute).queue).Subperm (serials ns.store.table ns.store.queue) := by
    unfold WriteBehind.Store.writeNext
    split
    · exact List.Subperm.refl _
    · rename_i u us hqueue
      rw [hqueue]
      exact serials_execute _ u us
  have hsettled : NS.settled { ns with store := ns.store.writeNext execute } = ns.settled :=
    WriteBehind.Store.drained_writeNext execute ns.store
  refine ⟨rfl, ?_, ?_, ?_, WriteBehind.Store.queued_writeNext execute h.queued, h.accepted_lt, ?_, ?_,
    h.protected_⟩
  · obtain ⟨l, hperm, hsub⟩ := hserials
    exact hperm.nodup_iff.mp (h.serials_nodup.sublist hsub)
  · exact fun n hn => h.serials_lt n (hserials.subset hn)
  · rw [hsettled]; exact h.newestFirst
  · rw [hsettled]; exact h.own
  · rw [hsettled]; exact h.counted

theorem neverLowers_writer {ns : NS} (h : Counted rows ns) :
    NeverLowers ns { ns with store := ns.store.writeNext execute } := by
  intro r hr hID r' hr' hser
  have hnodup := h.serials_nodup
  have htable : (ns.store.table.map (·.serial)).Nodup := (List.nodup_append.mp hnodup).1
  have hqueued := h.queued
  unfold WriteBehind.Store.writeNext at hr'
  unfold WriteBehind.Store.Queued at hqueued
  split at hr'
  · rw [eq_of_serial htable hr hr' hser.symm]
  · rename_i u us hqueue
    rw [hqueue] at hqueued hnodup
    rcases execute_cases hr' with ⟨q, hq, hsame⟩ | rfl | ⟨n, devAddr, q, rfl, hq, rfl⟩
    · rw [hsame.FCntUp, eq_of_serial htable hr hq (hser.symm.trans hsame.serial)]
    · -- the serial number of a new session is not in the table
      have hnew : r'.serial ∈ (Statement.insert r' :: us).filterMap Statement.newSerial := by
        simp [Statement.newSerial]
      exact absurd hser.symm
        ((List.nodup_append.mp hnodup).2.2 _ (List.mem_map_of_mem hr) _ hnew)
    · have heq := eq_of_serial htable hr (newestByDevAddr_mem hq).1 hser.symm
      rw [heq] at hID ⊢
      exact hqueued.1 q hq hID

/-! ### Runs -/

theorem counted_handle {ns : NS} {e : Event} (h : Counted rows ns) (hseq : InSequence A ns e)
    (hwriter : e ≠ .writer) : Counted rows (handle A ns e) := by
  cases e with
  | window => exact h.congr ⟨rfl, rfl, rfl, rfl⟩
  | receive frame counter => exact h.congr ⟨rfl, rfl, rfl, rfl⟩
  | load byID sqlOk now =>
    unfold handle loadSession
    dsimp only
    split
    · exact counted_mapSession h _
    · exact h
  | uplink env =>
    unfold handle
    dsimp only
    split
    · exact h
    · rename_i hlen
      exact counted_uplink A h (hseq hlen)
  | rejoin junk => exact counted_schedule A h junk
  | send env => exact counted_finish env h
  | downlink env md payload => exact counted_downlink A env md payload h
  | resend env failed => exact counted_resend A env failed h
  | macCmds ops =>
    show Counted rows (queueMacCmds ops ns)
    exact counted_mapS h _
  | joinReq devAddr => exact h.congr ⟨rfl, rfl, rfl, rfl⟩
  | address devAddr => exact h.congr ⟨rfl, rfl, rfl, rfl⟩
  | joinAns env => exact counted_joinAns env h hseq
  | other u => exact counted_other h hseq
  | writer => exact absurd rfl hwriter

theorem counted_step {ns : NS} {e : Event} (h : Counted ns.store.table ns)
    (hseq : InSequence A ns e) :
    Counted (step A ns e).store.table (step A ns e) ∧ NeverLowers ns (step A ns e) := by
  have hsame : ∀ ns' : NS, Counted ns.store.table ns' →
      Counted ns'.store.table ns' ∧ NeverLowers ns ns' := by
    intro ns' h'
    refine ⟨by rw [h'.table]; exact h', ?_⟩
    intro r hr _ r' hr' hser
    rw [h'.table] at hr'
    rw [eq_of_serial (List.nodup_append.mp h.serials_nodup).1 hr' hr hser]
  unfold step
  split
  · exact hsame ns h
  · by_cases hwriter : e = .writer
    · rw [hwriter]
      exact ⟨counted_writer h, neverLowers_writer h⟩
    · exact hsame _ (counted_handle A h hseq hwriter)

/-- In every run whose frames are taken in sequence no uplink is accepted after a later one, and
what is stored does not decrease. -/
theorem uplinksProtected_of_inSequence {sessions : List SessionRow} {nextSerial : ℕ}
    (ID devAddr : ℕ) (hnewest : NewestFirst sessions)
    (hnodup : (sessions.map (·.serial)).Nodup) (hlt : ∀ r ∈ sessions, r.serial < nextSerial)
    {es : List Event}
    (hseq : Machine.Along (step A) (InSequence A)
      (.init sessions nextSerial (.init ID devAddr)) es) :
    UplinksProtected (Machine.run (step A) (.init sessions nextSerial (.init ID devAddr)) es) ∧
      Machine.Along (step A) (fun ns e => NeverLowers ns (step A ns e))
        (.init sessions nextSerial (.init ID devAddr)) es := by
  have hserials : serials sessions [] = sessions.map (·.serial) := List.append_nil _
  have hinit : Counted sessions (NS.init sessions nextSerial (.init ID devAddr)) := by
    refine ⟨rfl, ?_, ?_, hnewest, trivial, ?_, ?_, ?_, List.Pairwise.nil⟩
    · simpa only [NS.init, hserials] using hnodup
    · intro n hn
      simp only [NS.init, hserials] at hn
      obtain ⟨r, hr, rfl⟩ := List.mem_map.mp hn
      exact hlt r hr
    all_goals
      intro a ha
      cases ha
  have hstep := fun ns e (h : Counted (NS.store ns).table ns) hc => counted_step A (e := e) h hc
  exact ⟨(Machine.run_invariant _ (fun ns e h hc => (hstep ns e h hc).1) hinit hseq).protected_,
    Machine.along_of_invariant _ hstep hinit hseq⟩

/-! ### A roll-over that is none -/

/-- Frames of one session, each stored before the next one comes. -/
def hearsAll (counters : List ℕ) : List Event :=
  counters.flatMap fun n => hears MTYPE_UNCONF_UP 0 n ++ [.writer]

instance (ns : NS) : Decidable (UplinksProtected ns) :=
  inferInstanceAs (Decidable (List.Pairwise _ _))

/-- Once the counter has grown by `0xC000` the first frame is accepted again. -/
theorem replayed_after_0xC000 :
    ¬UplinksProtected (Machine.run (step BlockCipher.xorKey) sampleServer
      (hearsAll [5, 0x4005, 0x8005, 0xC005, 5])) := by
  decide +kernel

/-- One less, and the copy of the first frame is refused. -/
theorem protected_before_0xC000 :
    let es := hearsAll [5, 0x4005, 0x8005, 0xC004, 5]
    UplinksProtected (Machine.run (step BlockCipher.xorKey) sampleServer es) ∧
      Machine.Along (step BlockCipher.xorKey)
        (fun ns e => NeverLowers ns (step BlockCipher.xorKey ns e)) sampleServer es :=
  @uplinksProtected_of_inSequence BlockCipher.xorKey [sampleRow] 1 1 sampleDevAddr
    (List.pairwise_singleton _ _) (by decide) (by decide) _ (by decide +kernel)

end Lorawan.NetworkServer

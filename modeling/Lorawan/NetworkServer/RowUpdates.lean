import Lorawan.NetworkServer.RefusedUplinks

/-!
# The row that an update reaches (network_server/sNS.c:1487-1498, 1957-1980, 2053-2064)

A counter is stored under a DevAddr, in the newest row that has it when the
statement is executed. What the handling of an uplink queues reaches the row
that was read for it as long as every statement before it leaves that row the
newest one with its address.
-/

namespace Lorawan.NetworkServer
open Lorawan Lorawan.Backend Backend.mtype_e

variable (A : BlockCipher)

/-! ### Statements -/

/-- The session that a statement stores FCntUp or NFCntDown for; the outer `none` is a statement
that stores neither. -/
def Statement.updates (rows : List SessionRow) : Statement → Option (Option ℕ)
  | .setFCntUp _ devAddr | .zeroNFCntDown devAddr | .incrNFCntDown devAddr =>
    some ((newestByDevAddr devAddr rows).map (·.serial))
  | _ => none

/-- The sessions that statements store counters for, executed one after the other. -/
def updatesOf (rows : List SessionRow) : List Statement → List (Option ℕ)
  | [] => []
  | u :: us => (u.updates rows).toList ++ updatesOf (execute rows u) us

/-- The row `q`, whatever its counters, is the newest one with its DevAddr. -/
def Newest (q : SessionRow) (rows : List SessionRow) : Prop :=
  ∃ r ∈ newestByDevAddr q.DevAddr rows,
    r.ID = q.ID ∧ r.createdAt = q.createdAt ∧ r.serial = q.serial

instance (q : SessionRow) (rows : List SessionRow) : Decidable (Newest q rows) := by
  unfold Newest
  infer_instance

/-- The statement leaves `q` the newest row, and stores counters nowhere else. -/
def Addressed (q : SessionRow) (u : Statement) : Prop :=
  ∀ rows, Newest q rows → Newest q (execute rows u) ∧ ∀ t ∈ u.updates rows, t = some q.serial

variable {A} {q : SessionRow} {rows : List SessionRow}

theorem newest_modifyNewest_any (devAddr : ℕ) {f : SessionRow → SessionRow}
    (hf : ∀ r, (f r).DevAddr = r.DevAddr ∧ (f r).ID = r.ID ∧ (f r).createdAt = r.createdAt ∧
      (f r).serial = r.serial) (h : Newest q rows) : Newest q (modifyNewest devAddr f rows) := by
  induction rows with
  | nil => exact h
  | cons r rs ih =>
    obtain ⟨n, hn, hID, hcreated, hserial⟩ := h
    rw [Option.mem_def] at hn
    obtain ⟨faddr, fID, fcreated, fserial⟩ := hf r
    by_cases hown : r.DevAddr = q.DevAddr
    · have hnr : r = n := by simpa [newestByDevAddr, hown] using hn
      subst hnr
      by_cases hmod : r.DevAddr = devAddr
      · refine ⟨f r, ?_, fID.trans hID, fcreated.trans hcreated, fserial.trans hserial⟩
        rw [modifyNewest, if_pos hmod, Option.mem_def, newestByDevAddr, List.find?_cons_of_pos]
        exact decide_eq_true (faddr.trans hown)
      · refine ⟨r, ?_, hID, hcreated, hserial⟩
        rw [modifyNewest, if_neg hmod, Option.mem_def, newestByDevAddr, List.find?_cons_of_pos]
        exact decide_eq_true hown
    · have hrest : Newest q rs := by
        refine ⟨n, ?_, hID, hcreated, hserial⟩
        simpa [newestByDevAddr, hown] using hn
      by_cases hmod : r.DevAddr = devAddr
      · obtain ⟨n', hn', hsame⟩ := hrest
        refine ⟨n', ?_, hsame⟩
        rw [modifyNewest, if_pos hmod, Option.mem_def, newestByDevAddr, List.find?_cons_of_neg]
        · exact hn'
        · rw [faddr]
          simpa using hown
      · obtain ⟨n', hn', hsame⟩ := ih hrest
        refine ⟨n', ?_, hsame⟩
        rw [modifyNewest, if_neg hmod, Option.mem_def, newestByDevAddr, List.find?_cons_of_neg]
        · exact hn'
        · simpa using hown

/-- A statement that does not delete the row leaves it the newest one, unless it inserts another
one with the address. -/
theorem newest_execute {u : Statement} (h : Newest q rows)
    (hins : ∀ row, u = .insert row → row.DevAddr ≠ q.DevAddr)
    (hdel : ∀ r ∈ newestByDevAddr q.DevAddr rows, u.deletes r = false) :
    Newest q (execute rows u) := by
  cases u with
  | setFCntUp n devAddr =>
    exact newest_modifyNewest_any devAddr (fun r => ⟨rfl, rfl, rfl, rfl⟩) h
  | zeroNFCntDown devAddr =>
    exact newest_modifyNewest_any devAddr (fun r => ⟨rfl, rfl, rfl, rfl⟩) h
  | incrNFCntDown devAddr =>
    exact newest_modifyNewest_any devAddr (fun r => ⟨rfl, rfl, rfl, rfl⟩) h
  | insert row =>
    obtain ⟨r, hr, hsame⟩ := h
    refine ⟨r, ?_, hsame⟩
    rw [execute, Option.mem_def, newestByDevAddr, List.find?_cons_of_neg]
    · exact hr
    · simpa using hins row rfl
  | deleteNeverUsed id =>
    obtain ⟨r, hr, hsame⟩ := h
    exact ⟨r, newest_filter hr (by rw [hdel r hr]; rfl), hsame⟩
  | deleteOld id before =>
    obtain ⟨r, hr, hsame⟩ := h
    exact ⟨r, newest_filter hr (by rw [hdel r hr]; rfl), hsame⟩

theorem updates_of_newest {u : Statement} (h : Newest q rows)
    (hu : (∃ n, u = .setFCntUp n q.DevAddr) ∨ u = .zeroNFCntDown q.DevAddr ∨
      u = .incrNFCntDown q.DevAddr) : ∀ t ∈ u.updates rows, t = some q.serial := by
  obtain ⟨r, hr, -, -, hserial⟩ := h
  rw [Option.mem_def] at hr
  have hrow : (newestByDevAddr q.DevAddr rows).map (·.serial) = some q.serial := by
    rw [hr, Option.map_some, hserial]
  intro t ht
  rcases hu with ⟨n, rfl⟩ | rfl | rfl <;>
  · rw [Statement.updates, hrow, Option.mem_some_iff] at ht
    exact ht.symm

theorem addressed_counter {u : Statement} (hu : (∃ n, u = .setFCntUp n q.DevAddr) ∨
    u = .zeroNFCntDown q.DevAddr ∨ u = .incrNFCntDown q.DevAddr) : Addressed q u := by
  intro rows h
  refine ⟨newest_execute h ?_ ?_, updates_of_newest h hu⟩
  · intro row hrow
    rcases hu with ⟨n, rfl⟩ | rfl | rfl <;> cases hrow
  · intro r hr
    rcases hu with ⟨n, rfl⟩ | rfl | rfl <;> rfl

theorem addressed_setFCntUp (n : ℕ) : Addressed q (.setFCntUp n q.DevAddr) :=
  addressed_counter (Or.inl ⟨n, rfl⟩)

theorem addressed_zeroNFCntDown : Addressed q (.zeroNFCntDown q.DevAddr) :=
  addressed_counter (Or.inr (Or.inl rfl))

theorem addressed_incrNFCntDown : Addressed q (.incrNFCntDown q.DevAddr) :=
  addressed_counter (Or.inr (Or.inr rfl))

theorem addressed_deleteOld {id t : ℕ} (h : q.ID = id → t ≤ q.createdAt) :
    Addressed q (.deleteOld id (some t)) := by
  intro rows hrows
  have hnone : ∀ u ∈ (Statement.deleteOld id (some t)).updates rows, u = some q.serial := by
    intro u hu
    cases hu
  refine ⟨newest_execute hrows ?_ ?_, hnone⟩
  · intro row hrow
    cases hrow
  · intro r hr
    obtain ⟨r', hr', hID, hcreated, -⟩ := hrows
    obtain rfl := Option.mem_unique hr hr'
    by_cases hid : r.ID = id
    · have hlate := h (hID.symm.trans hid)
      simp only [Statement.deletes, hid, decide_true, Bool.true_and, Option.all_some,
        decide_eq_false_iff_not]
      omega
    · simp only [Statement.deletes, hid, decide_false, Bool.false_and]

theorem updatesOf_addressed {us : List Statement} (h : Newest q rows)
    (hus : ∀ u ∈ us, Addressed q u) :
    Newest q (Machine.run execute rows us) ∧ ∀ t ∈ updatesOf rows us, t = some q.serial := by
  induction us generalizing rows with
  | nil =>
    refine ⟨h, ?_⟩
    intro t ht
    cases ht
  | cons u us ih =>
    obtain ⟨hkept, hown⟩ := hus u List.mem_cons_self rows h
    obtain ⟨hrun, hrest⟩ := ih hkept fun v hv => hus v (List.mem_cons_of_mem u hv)
    refine ⟨hrun, ?_⟩
    intro t ht
    rcases List.mem_append.mp ht with hhead | htail
    · exact hown t (Option.mem_toList.mp hhead)
    · exact hrest t htail

/-! ### What a function queues -/

/-- From `ns` to `ns'` only statements that meet `P` were queued, and the device keeps its address,
the received frame and the session that was read; with `c` the frame may be dropped. -/
structure Queues (P : Statement → Prop) (c : Bool) (ns ns' : NS) : Prop where
  ID : ns'.mote.ID = ns.mote.ID
  devAddr : ns'.mote.devAddr = ns.mote.devAddr
  ULPayloadBin : ns'.mote.ULPayloadBin = ns.mote.ULPayloadBin
  ULPHYPayloadLen : c = true ∨ ns'.mote.ULPHYPayloadLen = ns.mote.ULPHYPayloadLen
  until_ : ns'.mote.session.until_ = ns.mote.session.until_
  row : ns'.mote.session.row = ns.mote.session.row
  store : ∃ us, (∀ u ∈ us, P u) ∧
    ns'.store = { ns.store with queue := ns.store.queue ++ us }

variable {P : Statement → Prop} {c : Bool} {ns ns' ns'' : NS}

theorem Queues.of_eq (hmote : ns'.mote = { ns.mote with
      session := ns'.mote.session, s := ns'.mote.s, ULPHYPayloadLen := ns'.mote.ULPHYPayloadLen })
    (hlen : c = true ∨ ns'.mote.ULPHYPayloadLen = ns.mote.ULPHYPayloadLen)
    (hsession : ns'.mote.session.until_ = ns.mote.session.until_ ∧
      ns'.mote.session.row = ns.mote.session.row) (hstore : ns'.store = ns.store) :
    Queues P c ns ns' := by
  refine ⟨?_, ?_, ?_, hlen, hsession.1, hsession.2, [], ?_, ?_⟩
  · rw [hmote]
  · rw [hmote]
  · rw [hmote]
  · intro u hu
    cases hu
  · rw [hstore, List.append_nil]

theorem Queues.refl (ns : NS) : Queues P c ns ns := .of_eq rfl (Or.inr rfl) ⟨rfl, rfl⟩ rfl

theorem Queues.trans (h : Queues P c ns ns') (h' : Queues P c ns' ns'') :
    Queues P c ns ns'' := by
  obtain ⟨us, hus, hstore⟩ := h.store
  obtain ⟨vs, hvs, hstore'⟩ := h'.store
  have hlen : c = true ∨ ns''.mote.ULPHYPayloadLen = ns.mote.ULPHYPayloadLen := by
    rcases h.ULPHYPayloadLen with hrefuses | hlen
    · exact Or.inl hrefuses
    · exact h'.ULPHYPayloadLen.imp_right fun hlen' => hlen'.trans hlen
  refine ⟨h'.ID.trans h.ID, h'.devAddr.trans h.devAddr, h'.ULPayloadBin.trans h.ULPayloadBin,
    hlen, h'.until_.trans h.until_, h'.row.trans h.row, us ++ vs, ?_, ?_⟩
  · intro u hu
    rcases List.mem_append.mp hu with hold | hnew
    · exact hus u hold
    · exact hvs u hnew
  · rw [hstore', hstore, List.append_assoc]

/-- Statements that leave `q` the newest row are queued, and executed after what waits. -/
theorem Queues.newest (h : Queues (Addressed q) c ns ns') (hq : Newest q ns.settled) :
    Newest q ns'.settled ∧
      ∀ t ∈ updatesOf ns.settled (ns'.store.queue.drop ns.store.queue.length),
        t = some q.serial := by
  obtain ⟨us, hus, hstore⟩ := h.store
  have hsettled : ns'.settled = Machine.run execute ns.settled us := by
    rw [NS.settled, hstore]
    exact Machine.run_append execute ns.store.table ns.store.queue us
  have hqueued : ns'.store.queue.drop ns.store.queue.length = us := by
    rw [hstore]
    exact List.drop_left
  rw [hsettled, hqueued]
  exact updatesOf_addressed hq hus

/-- The counters that are stored under the address of the device. -/
structure StoresCounters (P : Statement → Prop) (devAddr : ℕ) : Prop where
  FCntUp : ∀ n, P (.setFCntUp n devAddr)
  zero : P (.zeroNFCntDown devAddr)
  incr : P (.incrNFCntDown devAddr)

theorem queues_mapS (f : S → S) (ns : NS) : Queues P c ns (mapS f ns) :=
  .of_eq rfl (Or.inr rfl) ⟨rfl, rfl⟩ rfl

theorem queues_enqueue (mqOk : Bool) {u : Statement} (hu : mqOk = true → P u) (ns : NS) :
    Queues P c ns (enqueue mqOk u ns) := by
  unfold enqueue
  split
  · rename_i hmq
    refine ⟨rfl, rfl, rfl, Or.inr rfl, rfl, rfl, [u], ?_, rfl⟩
    intro v hv
    rw [List.mem_singleton.mp hv]
    exact hu hmq
  · exact .refl ns

theorem queues_answer (answerOk : Bool) (ns : NS) :
    Queues P c ns (answer_app_downlink answerOk ns) := by
  unfold answer_app_downlink
  split
  · exact queues_mapS _ ns
  · exact .refl ns

theorem queues_countNFCntDown (mqOk : Bool) (hP : P (.incrNFCntDown ns.mote.devAddr)) :
    Queues P c ns (countNFCntDown mqOk ns) :=
  (queues_enqueue mqOk (fun _ => hP) ns).trans (.of_eq rfl (Or.inr rfl) ⟨rfl, rfl⟩ rfl)

/-! ### Uplinks -/

variable {env : UplinkEnv}

theorem queues_expire (hlive : ns.mote.session.until_ ≠ .none)
    (hP : ns.mote.sessionExpired = true → env.OptNeg = false → env.mqOk.expired = true →
      P (.deleteOld ns.mote.ID none)) : Queues P c ns (expire env ns) := by
  cases hexp : ns.mote.sessionExpired with
  | false =>
    rw [expire_live hlive hexp]
    exact .refl ns
  | true =>
    cases hneg : env.OptNeg with
    | true =>
      rw [expire_rejoin hexp hneg]
      exact queues_mapS _ ns
    | false =>
      have hdel : Queues P c ns (enqueue env.mqOk.expired (.deleteOld ns.mote.ID none) ns) :=
        queues_enqueue env.mqOk.expired (hP hexp hneg) ns
      have hboots : Queues P c (enqueue env.mqOk.expired (.deleteOld ns.mote.ID none) ns)
          (expire env ns) := by
        rw [expire_boots hexp hneg]
        unfold enqueue
        split <;> exact .of_eq rfl (Or.inr rfl) ⟨rfl, rfl⟩ rfl
      exact hdel.trans hboots

theorem queues_initNFCntDown (hP : StoresCounters P ns.mote.devAddr) :
    Queues P c ns (initNFCntDown env ns) := by
  unfold initNFCntDown
  split
  · have hzero := queues_enqueue (c := c) env.mqOk.zeroNFCntDown (fun _ => hP.zero) ns
    exact hzero.trans (.of_eq rfl (Or.inr rfl) ⟨rfl, rfl⟩ rfl)
  · exact .refl ns

theorem queues_deleteOldSessions {mqOk : Bool} {newest : Option ℕ}
    (hP : mqOk = true → ∀ t ∈ newest, P (.deleteOld ns.mote.ID (some t))) :
    Queues P c ns (deleteOldSessions mqOk newest ns) := by
  unfold deleteOldSessions
  split
  · exact .refl ns
  · rename_i t
    exact queues_enqueue mqOk (fun hmq => hP hmq t rfl) ns

theorem queues_checkOldSessions {wanted : Bool}
    (hP : wanted = true → ns.mote.s.checkOldSessions = true → ∀ t ∈ env.newest,
      P (.deleteOld ns.mote.ID (some t))) : Queues P c ns (checkOldSessions env wanted ns) := by
  unfold checkOldSessions
  split
  · rename_i hboth
    rw [Bool.and_eq_true] at hboth
    exact (queues_deleteOldSessions fun _ => hP hboth.1 hboth.2).trans (queues_mapS _ _)
  · exact .refl ns

theorem queues_handleACK (hP : StoresCounters P ns.mote.devAddr) : Queues P c ns (handleACK env ns) := by
  unfold handleACK
  split
  · refine Queues.trans ?_ (queues_mapS _ _)
    split
    · exact queues_countNFCntDown env.mqOk.incrNFCntDown hP.incr
    · exact .refl ns
  · exact .refl ns

theorem queues_handleCommands (hP : env.RekeyInd = true → ns.mote.s.checkOldSessions = true →
    ∀ t ∈ env.newest, P (.deleteOld ns.mote.ID (some t))) :
    Queues P c ns (handleCommands env ns) := by
  have hstart : Queues P c ns (queueMacCmds env.cmdOps
      (if ns.mote.s.session_start_at_uplink then queueMacCmds env.sessionOps
        (mapS (fun s => { s with session_start_at_uplink := false }) ns) else ns)) := by
    refine Queues.trans ?_ (queues_mapS _ _)
    split
    · exact (queues_mapS _ ns).trans (queues_mapS _ _)
    · exact .refl ns
  have hflag : (queueMacCmds env.cmdOps
      (if ns.mote.s.session_start_at_uplink then queueMacCmds env.sessionOps
        (mapS (fun s => { s with session_start_at_uplink := false }) ns)
      else ns)).mote.s.checkOldSessions = ns.mote.s.checkOldSessions := by
    split <;> rfl
  unfold handleCommands
  refine hstart.trans (Queues.trans (queues_checkOldSessions ?_) (queues_mapS _ _))
  intro hwanted hcheck t ht
  rw [hstart.ID]
  exact hP hwanted (hflag ▸ hcheck) t ht

theorem queues_storeFCntUp (n : ℕ) (hP : StoresCounters P ns.mote.devAddr) :
    Queues P c ns (storeFCntUp env n ns) := by
  have haccepted : Queues P c ns { ns with
      accepted := ns.accepted ++ [⟨ns.mote.session.row, n, ns.mote.counter⟩] } :=
    .of_eq rfl (Or.inr rfl) ⟨rfl, rfl⟩ rfl
  unfold storeFCntUp
  dsimp only
  split
  · exact haccepted.trans (queues_mapS _ _)
  · have hstore := queues_enqueue (P := P) (c := c) env.mqOk.setFCntUp (fun _ => hP.FCntUp n) { ns with
      accepted := ns.accepted ++ [⟨ns.mote.session.row, n, ns.mote.counter⟩] }
    exact (haccepted.trans hstore).trans (queues_mapS _ _)

/-- Whether sessions older than the newest one of all are deleted, once the MIC verifies. -/
def prunes (env : UplinkEnv) (m : Mote) : Bool :=
  m.s.checkOldSessions && (!env.OptNeg || env.RekeyInd)

theorem checkOldSessions_flag {wanted : Bool}
    (h : (checkOldSessions env wanted ns).mote.s.checkOldSessions = true) :
    ns.mote.s.checkOldSessions = true := by
  unfold checkOldSessions at h
  split at h
  · cases h
  · exact h

theorem handleACK_flag :
    (handleACK env ns).mote.s.checkOldSessions = ns.mote.s.checkOldSessions := by
  have hACK : ∀ s : S, (if s.md.Confirmed ∧ 0 < s.FRMPayloadLen then
      { s with
        answer_app_downlink := true
        FRMPayloadLen := if s.resend then 0 else s.FRMPayloadLen
        resend := false }
      else s).checkOldSessions = s.checkOldSessions := by
    intro s
    split <;> rfl
  have hcount : (if ns.mote.s.incrNFCntDown then countNFCntDown env.mqOk.incrNFCntDown ns
      else ns).mote.s.checkOldSessions = ns.mote.s.checkOldSessions := by
    split
    · unfold countNFCntDown enqueue
      split <;> rfl
    · rfl
  unfold handleACK
  split
  · exact (hACK _).trans hcount
  · rfl

theorem queues_takeUplink (n : ℕ) (hP : StoresCounters P ns.mote.devAddr)
    (hold : prunes env ns.mote = true → ∀ t ∈ env.newest, P (.deleteOld ns.mote.ID (some t))) :
    Queues P c ns (takeUplink env n ns) := by
  have hinit : Queues P c ns (initNFCntDown env ns) := queues_initNFCntDown hP
  have hflag : (initNFCntDown env ns).mote.s.checkOldSessions = ns.mote.s.checkOldSessions := by
    unfold initNFCntDown
    split
    · unfold enqueue
      split <;> rfl
    · rfl
  have hdelete : Queues P c ns (checkOldSessions env (!env.OptNeg) (initNFCntDown env ns)) := by
    refine hinit.trans (queues_checkOldSessions ?_)
    intro hwanted hcheck t ht
    rw [hinit.ID]
    rw [hflag] at hcheck
    exact hold (by simp [prunes, hcheck, hwanted]) t ht
  have hACK : Queues P c ns
      (handleACK env (checkOldSessions env (!env.OptNeg) (initNFCntDown env ns))) :=
    hdelete.trans (queues_handleACK (hdelete.devAddr ▸ hP))
  have hcommands := hACK.trans (queues_handleCommands (by
    intro hwanted hcheck t ht
    rw [hACK.ID]
    rw [handleACK_flag] at hcheck
    have hcheck' := checkOldSessions_flag hcheck
    rw [hflag] at hcheck'
    exact hold (by simp [prunes, hcheck', hwanted]) t ht))
  exact hcommands.trans (queues_storeFCntUp n (hcommands.devAddr ▸ hP))

/-- The frame passes the test of the gap and its MIC verifies. -/
def verifies (A : BlockCipher) (env : UplinkEnv) (m : Mote) : Bool :=
  !isReplay m.session.FCntUp (rxFCnt m) && (checkMic A env m (takenFCntUp m)).1

theorem receiveUplink_verifies (hlive : ns.mote.session.until_ ≠ .none) :
    (receiveUplink A env ns).1 = .Success ↔ verifies A env ns.mote = true := by
  have hreceived := receiveUplink_received (A := A) env ns
  generalize receiveUplink A env ns = received at hreceived ⊢
  unfold verifies
  cases hreceived with
  | noSession hnone => exact absurd hnone hlive
  | replay _ hreplay => simp [hreplay]
  | taken _ hnew hmic => simp [hnew, hmic]
  | refused _ hnew hmic => simp [hnew, hmic]

theorem sNS_uplink_result (env : UplinkEnv) (ns : NS) :
    (sNS_uplink A env ns).1 = (receiveUplink A env ns).1 := by
  unfold sNS_uplink
  split
  · rename_i heq
    rw [heq]
  · rename_i heq
    rw [heq]

theorem checkedUplink_flag (n : ℕ) :
    (checkedUplink A env n ns).mote.s.checkOldSessions = ns.mote.s.checkOldSessions := by
  obtain ⟨queue, len, hmote⟩ := expire_mote env ns
  have hexpire : (expire env ns).mote.s.checkOldSessions = ns.mote.s.checkOldSessions := by
    rw [hmote]
  rw [← hexpire]
  show (checkMic A env _ n).2.checkOldSessions = _
  rcases checkMic_state (A := A) env
    (mapS (fun s => { s with newFCntUp := true }) (expire env ns)).mote n with heq | heq | ⟨-, heq⟩
  · rw [heq]
    rfl
  · rw [heq]
    rfl
  · rw [heq]
    rfl

theorem queues_receiveUplink
    (hexp : ns.mote.sessionExpired = true → env.OptNeg = false → env.mqOk.expired = true →
      P (.deleteOld ns.mote.ID none))
    (htaken : (receiveUplink A env ns).1 = .Success → StoresCounters P ns.mote.devAddr ∧
      (prunes env ns.mote = true → ∀ t ∈ env.newest, P (.deleteOld ns.mote.ID (some t)))) :
    Queues P true ns (receiveUplink A env ns).2 := by
  have hchecked : ns.mote.session.until_ ≠ .none →
      ∀ n, Queues P true ns (checkedUplink A env n ns) := by
    intro hlive n
    refine ((queues_expire hlive hexp).trans
      (queues_mapS (fun s => { s with newFCntUp := true }) _)).trans ?_
    exact queues_mapS (fun _ => (checkMic A env _ n).2) _
  have hreceived := receiveUplink_received (A := A) env ns
  generalize receiveUplink A env ns = received at hreceived htaken ⊢
  cases hreceived with
  | noSession hnone => exact .refl ns
  | replay hlive hreplay => exact queues_expire hlive hexp
  | taken hlive hnew hmic =>
    have hbefore := hchecked hlive (takenFCntUp ns.mote)
    obtain ⟨hP, hold⟩ := htaken rfl
    refine hbefore.trans (queues_takeUplink (takenFCntUp ns.mote) (hbefore.devAddr ▸ hP) ?_)
    intro hprunes t ht
    rw [hbefore.ID]
    refine hold ?_ t ht
    rwa [prunes, checkedUplink_flag] at hprunes
  | refused hlive hnew hmic =>
    exact (hchecked hlive (takenFCntUp ns.mote)).trans (.of_eq rfl (Or.inl rfl) ⟨rfl, rfl⟩ rfl)

theorem queues_schedule (junk : Octets) (ns : NS) : Queues P c ns (schedule A junk ns) := by
  obtain ⟨s, hs⟩ : ∃ s, (schedule A junk ns).mote = { ns.mote with s := s } := by
    unfold schedule
    cases h : sNS_schedule_downlink A junk ns.mote with
    | none => exact ⟨_, rfl⟩
    | some m =>
      unfold sNS_schedule_downlink at h
      split at h
      · simp only [buildFrame, Option.bind_eq_bind, Option.bind_eq_some_iff, Option.pure_def,
          Option.some.injEq] at h
        obtain ⟨_, _, _, _, s, _, _, _, rfl⟩ := h
        exact ⟨_, rfl⟩
      · obtain rfl := Option.some.inj h
        exact ⟨_, rfl⟩
  refine .of_eq ?_ (Or.inr ?_) ?_ rfl
  · rw [hs]
  · rw [hs]
  · rw [hs]
    exact ⟨rfl, rfl⟩

theorem queues_sNS_uplink
    (hexp : ns.mote.sessionExpired = true → env.OptNeg = false → env.mqOk.expired = true →
      P (.deleteOld ns.mote.ID none))
    (htaken : (receiveUplink A env ns).1 = .Success → StoresCounters P ns.mote.devAddr ∧
      (prunes env ns.mote = true → ∀ t ∈ env.newest, P (.deleteOld ns.mote.ID (some t)))) :
    Queues P true ns (sNS_uplink A env ns).2 := by
  have hreceive := queues_receiveUplink hexp htaken
  unfold sNS_uplink
  split
  · rename_i heq
    rw [heq] at hreceive
    exact hreceive.trans (queues_schedule env.junk _)
  · rename_i heq
    rw [heq] at hreceive
    exact hreceive

/-! ### Sending -/

variable {send : SendEnv}

theorem queues_answerPending (ns : NS) : Queues P c ns (answerPending send ns) := by
  unfold answerPending
  split
  · exact (queues_mapS _ ns).trans (queues_answer _ _)
  · exact .refl ns

theorem queues_answerUnconfirmed (ns : NS) : Queues P c ns (answerUnconfirmed send ns) := by
  unfold answerUnconfirmed
  split
  · exact (queues_answer _ ns).trans (queues_mapS _ _)
  · exact .refl ns

theorem queues_sNSDownlinkSent (success : Bool) (hP : P (.incrNFCntDown ns.mote.devAddr)) :
    Queues P c ns (sNSDownlinkSent send success ns) := by
  have hcount : Queues P c ns (if MType (ns.mote.s.PHYPayloadBin.headD 0) = MTYPE_UNCONF_DN ∧
      ns.mote.s.incrNFCntDown then countNFCntDown send.mqOk ns else ns) := by
    split
    · exact queues_countNFCntDown send.mqOk hP
    · exact .refl ns
  have hframe : Queues P c ns (if success then frameSent send ns else ns) := by
    split
    · exact hcount.trans (queues_mapS _ _)
    · exact .refl ns
  exact hframe.trans (queues_answerUnconfirmed _)

theorem queues_transmit (ns : NS) : Queues P c ns (transmit send ns) := by
  unfold transmit
  dsimp only
  split <;> split <;> exact .of_eq rfl (Or.inr rfl) ⟨rfl, rfl⟩ rfl

theorem queues_finish (send : SendEnv) (hP : P (.incrNFCntDown ns.mote.devAddr)) :
    Queues P c ns (sNS_finish_phy_downlink send ns) := by
  have htransmit : Queues P c ns (transmit send ns) := queues_transmit ns
  unfold sNS_finish_phy_downlink
  split
  · exact queues_answerPending ns
  · split
    · exact .refl ns
    · refine Queues.trans ?_ (queues_answerPending _)
      split
      · exact htransmit
      · exact htransmit.trans (queues_sNSDownlinkSent _ (htransmit.devAddr ▸ hP))

/-! ### Downlinks of the application -/

theorem queues_downlinkBC (down : DownlinkEnv) (hP : P (.incrNFCntDown ns.mote.devAddr)) :
    Queues P c ns (downlinkBC A down ns) := by
  have hresend := queues_mapS (P := P) (c := c) (fun s => { s with resend := false }) ns
  unfold downlinkBC
  dsimp only
  split
  · have hbuilt := hresend.trans (queues_schedule (A := A) down.junk _)
    split
    · exact hbuilt
    · have hsent := hbuilt.trans (queues_finish down.send (hbuilt.devAddr ▸ hP))
      split
      · exact hsent.trans (queues_mapS _ _)
      · exact hsent
  · exact hresend

theorem queues_downlink (down : DownlinkEnv) (md : DLMetaData) (payload : Octets)
    (hP : P (.incrNFCntDown ns.mote.devAddr)) :
    Queues P c ns (hNS_to_sNS_downlink A down md payload ns) := by
  unfold hNS_to_sNS_downlink
  split
  · exact .refl ns
  · split
    · exact .of_eq rfl (Or.inr rfl) ⟨rfl, rfl⟩ rfl
    · rename_i s _
      have hsaved := queues_mapS (P := P) (c := c) (fun _ => s) ns
      exact hsaved.trans (queues_downlinkBC down hP)

theorem queues_resend (down : DownlinkEnv) (failed : Bool) (hP : P (.incrNFCntDown ns.mote.devAddr)) :
    Queues P c ns (resend A down failed ns) := by
  unfold resend
  split
  · have hsent := queues_downlinkBC (A := A) (c := c) down hP
    dsimp only
    split
    · exact hsent.trans (queues_answer _ _)
    · exact hsent
  · exact .refl ns

/-! ### Join answers -/

variable {ans : JoinAnsEnv}

theorem queues_sendJoinAccept (hP : ans.isLocal = false → ans.mqOk.deleteOld = true →
      ∀ t ∈ ans.newest, P (.deleteOld ns.mote.ID (some t))) :
    Queues P c ns (sendJoinAccept ans ns) := by
  unfold sendJoinAccept
  split
  · split
    · split
      · exact .of_eq rfl (Or.inr rfl) ⟨rfl, rfl⟩ rfl
      · split
        · exact queues_mapS _ _
        · exact queues_mapS _ _
    · exact .refl _
  · rename_i hremote
    have hdelete := queues_deleteOldSessions (c := c) (hP (eq_false_of_ne_true hremote))
    dsimp only
    split
    · exact hdelete.trans (queues_mapS _ _)
    · exact hdelete

theorem queues_joinAns (h : ans.lifetime = none ∨ ans.lifetime = some 0)
    (hP : ans.isLocal = false → ans.mqOk.deleteOld = true →
      ∀ t ∈ ans.newest, P (.deleteOld ns.mote.ID (some t))) :
    Queues P c ns (hNs_to_sNS_JoinAns ans ns) := by
  have htake : (if ans.lifetime.isSome then take_JoinAns ans ns else ns) = ns := by
    rcases h with hnone | hzero
    · rw [hnone]
      rfl
    · rw [take_JoinAns, if_pos hzero, ite_self]
  have hstart := queues_mapS (P := P) (c := c) (fun s => { s with session_start_at_uplink := true })
    ns
  rw [hNs_to_sNS_JoinAns, htake]
  exact hstart.trans (queues_sendJoinAccept hP)

theorem joinAns_frame (ans : JoinAnsEnv) (ns : NS) :
    (hNs_to_sNS_JoinAns ans ns).mote.ULPayloadBin = ns.mote.ULPayloadBin ∧
      (hNs_to_sNS_JoinAns ans ns).mote.ULPHYPayloadLen = ns.mote.ULPHYPayloadLen := by
  have hrow : ∀ ns : NS, (add_database_session ans ns).mote = ns.mote := by
    intro ns
    unfold add_database_session
    dsimp only
    rw [enqueue_mote, enqueue_mote]
  have htake : (take_JoinAns ans ns).mote.ULPayloadBin = ns.mote.ULPayloadBin ∧
      (take_JoinAns ans ns).mote.ULPHYPayloadLen = ns.mote.ULPHYPayloadLen := by
    unfold take_JoinAns
    split
    · exact ⟨rfl, rfl⟩
    · split
      · rw [hrow]
        exact ⟨rfl, rfl⟩
      · exact ⟨rfl, rfl⟩
  have hsend : ∀ ns : NS, Queues (fun _ => True) false ns (sendJoinAccept ans ns) :=
    fun _ => queues_sendJoinAccept fun _ _ _ _ => trivial
  have hlen : ∀ ns : NS, (sendJoinAccept ans ns).mote.ULPHYPayloadLen = ns.mote.ULPHYPayloadLen :=
    fun ns => (hsend ns).ULPHYPayloadLen.resolve_left (by decide)
  unfold hNs_to_sNS_JoinAns
  rw [(hsend _).ULPayloadBin, hlen]
  split
  · exact htake
  · exact ⟨rfl, rfl⟩

end Lorawan.NetworkServer

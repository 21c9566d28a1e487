import Lorawan.NetworkServer.AlikeServers
import Lorawan.NetworkServer.Frames

/-!
# Nothing of the previous session

When a join answer is taken, the device starts a session. What belonged to the
previous one has no part in what follows when the server goes on as if none of it
had been there.
-/

namespace Lorawan.NetworkServer
open Lorawan Lorawan.Backend Backend.mtype_e

variable (A : BlockCipher)

/-- `take_JoinAns` has a Lifetime and the keys. `rfLen` is a `uint8_t`. -/
def JoinAnsEnv.taken (env : JoinAnsEnv) : Bool :=
  decide (env.lifetime.getD 0 ≠ 0) && env.keysOk && decide (env.rfBuf.length < 256)

/-- The join answer that the event brings, when it is taken successfully. -/
def SessionEvent.takes : SessionEvent → Option JoinAnsEnv
  | .own (.joinAns env) => if env.taken then some env else none
  | .hrStartAns env =>
    if env.stale = false ∧ env.hasAccept ∧ env.joinAns.taken then some env.joinAns else none
  | _ => none

/-- Nothing of a session: no payload, no frame, no command, no confirmed frame. -/
def S.forgotten (s : S) : S :=
  { s with
    FRMPayloadLen := 0
    PHYPayloadLen := 0
    mac_cmd_queue := []
    confDLPHYPayloadLen := 0
    ConfFCntDown := 0
    incrNFCntDown := false }

def forget (ns : NS) : NS := mapS S.forgotten ns

/-- In the events `es` after the answer nothing tells whether the previous session had left
anything. -/
def Isolated (ns : NS) (e : SessionEvent) (es : List SessionEvent) : Prop :=
  shown (Machine.run (sessionStep A) (sessionStep A ns e) es) =
    shown (Machine.run (sessionStep A) (sessionStep A (forget ns) e) es)

instance (ns : NS) (e : SessionEvent) (es : List SessionEvent) : Decidable (Isolated A ns e es) :=
  inferInstanceAs (Decidable (_ = _))

/-! ### The condition -/

/-- The accept went out, and the commands and the confirmed frame were removed. -/
def JoinAnsEnv.acceptSent (env : JoinAnsEnv) : Bool :=
  if env.isLocal then decide (env.rfBuf ≠ []) && decide (env.result = some true) else env.remoteOk

def SessionEvent.acceptSent : SessionEvent → Bool
  | .own (.joinAns env) => env.acceptSent
  | _ => false

/-- The accept takes the place of the frame in `PHYPayloadBin`. -/
def SessionEvent.overwrites : SessionEvent → Bool
  | .own (.joinAns env) => env.isLocal
  | _ => false

/-- What the answer does not remove is not there. -/
structure LeavesNothing (s : S) (e : SessionEvent) : Prop where
  payload : s.FRMPayloadLen = 0
  frame : s.PHYPayloadLen = 0 ∨ e.overwrites = true
  commands : are_mac_cmds_queued s.mac_cmd_queue = false ∨ e.acceptSent = true
  confirmed : s.confDLPHYPayloadLen = 0 ∨ e.acceptSent = true
  flag : s.incrNFCntDown = false

/-- The counter of the confirmed downlink is zero after the answer, or no uplink is checked with
it. -/
def CounterUnread (s : S) (env : JoinAnsEnv) (es : List SessionEvent) : Prop :=
  s.ConfFCntDown = 0 ∨ env.OptNeg = true ∨ ∀ e ∈ es, e.uplink1v1 = false

/-! ### What an answer does -/

def tookAnswer (env : JoinAnsEnv) (s : S) : S :=
  { s with
    checkOldSessions := true
    ConfFCntDown := if env.OptNeg then 0 else s.ConfFCntDown }

def savedAccept (env : JoinAnsEnv) (s : S) : S :=
  { s with
    PHYPayloadBin := (Octets.write s.PHYPayloadBin 0 env.rfBuf).getD s.PHYPayloadBin
    PHYPayloadLen := if env.rfBuf ≠ [] ∧ env.result ≠ some false then 0
      else env.rfBuf.length % 256
    frame := none }

/-- The state of the device after an answer that was taken. -/
def SessionEvent.answered : SessionEvent → S → S
  | .own (.joinAns env), s =>
    let s := { tookAnswer env s with session_start_at_uplink := true }
    let s := if env.isLocal then savedAccept env s else s
    if env.acceptSent then forgetSession s else s
  | .hrStartAns env, s => tookAnswer env.joinAns s
  | _, s => s

/-- `sNS_JoinAnsJson` deletes the older sessions. -/
def dropOldSessions (env : JoinAnsEnv) (ns : NS) : NS :=
  if env.isLocal then ns else deleteOldSessions env.mqOk.deleteOld env.newest ns

/-- The keys are taken and the session is stored. -/
def SessionEvent.started : SessionEvent → NS → NS
  | .own (.joinAns env), ns => dropOldSessions env (add_database_session env (takeKeys env ns))
  | .hrStartAns env, ns =>
    let ns := add_database_session env.joinAns (takeKeys env.joinAns ns)
    { ns with mote := { ns.mote with
        devAddr := env.joinAns.DevAddr.getD ns.mote.devAddr
        ID := env.ID.getD ns.mote.ID } }
  | _, ns => ns

theorem enqueue_mapS (mqOk : Bool) (u : Statement) (f : S → S) (ns : NS) :
    enqueue mqOk u (mapS f ns) = mapS f (enqueue mqOk u ns) := by
  cases mqOk <;> rfl

theorem add_database_session_mapS (env : JoinAnsEnv) (f : S → S) (ns : NS) :
    add_database_session env (mapS f ns) = mapS f (add_database_session env ns) := by
  unfold add_database_session
  rw [enqueue_mapS]
  exact congrArg (fun ns => { ns with nextSerial := ns.nextSerial + 1 })
    (enqueue_mapS env.mqOk.insert _ f _)

theorem dropOldSessions_mapS (env : JoinAnsEnv) (f : S → S) (ns : NS) :
    dropOldSessions env (mapS f ns) = mapS f (dropOldSessions env ns) := by
  unfold dropOldSessions deleteOldSessions
  split
  · rfl
  · split
    · rfl
    · exact enqueue_mapS ..

theorem take_JoinAns_taken {env : JoinAnsEnv} (hzero : env.lifetime ≠ some 0)
    (hkeys : env.keysOk = true) (ns : NS) :
    take_JoinAns env ns = mapS (tookAnswer env) (add_database_session env (takeKeys env ns)) := by
  unfold take_JoinAns
  rw [if_neg hzero, if_pos hkeys, ← add_database_session_mapS]
  rfl

theorem started_mapS (e : SessionEvent) (f : S → S) (ns : NS) :
    e.started (mapS f ns) = mapS f (e.started ns) := by
  cases e with
  | own e =>
    cases e with
    | joinAns env =>
      exact (congrArg (dropOldSessions env)
        (add_database_session_mapS env f (takeKeys env ns))).trans (dropOldSessions_mapS env f _)
    | _ => rfl
  | hrStartAns env =>
    have hrow : add_database_session env.joinAns (takeKeys env.joinAns (mapS f ns)) =
        mapS f (add_database_session env.joinAns (takeKeys env.joinAns ns)) :=
      add_database_session_mapS env.joinAns f (takeKeys env.joinAns ns)
    unfold SessionEvent.started
    dsimp only
    rw [hrow]
    rfl

/-- The two differ in the store at most. -/
structure OnlyStore (ns ns' : NS) : Prop where
  mote : ns'.mote = ns.mote
  calls : ns'.calls = ns.calls
  sent : ns'.sent = ns.sent
  overrun : ns'.overrun = ns.overrun

theorem OnlyStore.trans {ns ns' ns'' : NS} (h : OnlyStore ns ns') (h' : OnlyStore ns' ns'') :
    OnlyStore ns ns'' :=
  ⟨h'.mote.trans h.mote, h'.calls.trans h.calls, h'.sent.trans h.sent,
    h'.overrun.trans h.overrun⟩

theorem onlyStore_enqueue (mqOk : Bool) (u : Statement) (ns : NS) :
    OnlyStore ns (enqueue mqOk u ns) := by
  cases mqOk <;> exact ⟨rfl, rfl, rfl, rfl⟩

theorem onlyStore_add_database_session (env : JoinAnsEnv) (ns : NS) :
    OnlyStore ns (add_database_session env ns) := by
  have hdelete := onlyStore_enqueue env.mqOk.deleteNeverUsed (.deleteNeverUsed ns.mote.ID) ns
  have hinsert := hdelete.trans
    (onlyStore_enqueue env.mqOk.insert (.insert (sessionRow env ns)) _)
  exact ⟨hinsert.mote, hinsert.calls, hinsert.sent, hinsert.overrun⟩

theorem onlyStore_dropOldSessions (env : JoinAnsEnv) (ns : NS) :
    OnlyStore ns (dropOldSessions env ns) := by
  unfold dropOldSessions deleteOldSessions
  split
  · exact ⟨rfl, rfl, rfl, rfl⟩
  · split
    · exact ⟨rfl, rfl, rfl, rfl⟩
    · exact onlyStore_enqueue ..

theorem started_frame (e : SessionEvent) (ns : NS) :
    (e.started ns).mote.s = ns.mote.s ∧ (e.started ns).calls = ns.calls ∧
      (e.started ns).sent = ns.sent ∧ (e.started ns).overrun = ns.overrun := by
  cases e with
  | own e =>
    cases e with
    | joinAns env =>
      have h := (onlyStore_add_database_session env (takeKeys env ns)).trans
        (onlyStore_dropOldSessions env _)
      exact ⟨(congrArg Mote.s h.mote).trans rfl, h.calls, h.sent, h.overrun⟩
    | _ => exact ⟨rfl, rfl, rfl, rfl⟩
  | hrStartAns env =>
    have h := onlyStore_add_database_session env.joinAns (takeKeys env.joinAns ns)
    exact ⟨(congrArg Mote.s h.mote).trans rfl, h.calls, h.sent, h.overrun⟩

theorem taken_some {env : JoinAnsEnv} (h : env.taken = true) :
    env.lifetime = some (env.lifetime.getD 0) ∧ env.lifetime ≠ some 0 ∧ env.keysOk = true ∧
      env.rfBuf.length < 256 := by
  unfold JoinAnsEnv.taken at h
  simp only [Bool.and_eq_true, decide_eq_true_iff] at h
  obtain ⟨⟨hlife, hkeys⟩, hlen⟩ := h
  cases hl : env.lifetime with
  | none => exact absurd (by rw [hl]; rfl) hlife
  | some n =>
    rw [hl] at hlife
    exact ⟨rfl, fun h => hlife (Option.some.inj h), hkeys, hlen⟩

theorem sendJoinAccept_taken {env : JoinAnsEnv} (htaken : env.taken = true) {ns : NS}
    (hbin : ns.mote.s.PHYPayloadBin.length = 256) :
    sendJoinAccept env ns = mapS (fun s =>
      let s := if env.isLocal then savedAccept env s else s
      if env.acceptSent then forgetSession s else s) (dropOldSessions env ns) := by
  obtain ⟨hlife, -, -, hlen⟩ := taken_some htaken
  have hsome : env.lifetime.isSome = true := by rw [hlife]; rfl
  have hwrite : ∃ bin, Octets.write ns.mote.s.PHYPayloadBin 0 env.rfBuf = some bin :=
    Option.isSome_iff_exists.mp (Octets.write_isSome.mpr (by omega))
  obtain ⟨bin, hwrite⟩ := hwrite
  have hsaved : saveJoinAccept env ns.mote.s = some (savedAccept env ns.mote.s) := by
    unfold saveJoinAccept savedAccept
    rw [hwrite]
    rfl
  unfold sendJoinAccept dropOldSessions
  by_cases hlocal : env.isLocal = true
  · rw [if_pos hlocal, if_pos hlocal, if_pos hsome, hsaved]
    simp only [mapS, JoinAnsEnv.acceptSent, hlocal, if_true, Bool.and_eq_true, decide_eq_true_iff]
    split
    · rfl
    · rfl
  · rw [if_neg hlocal, if_neg hlocal]
    simp only [mapS, JoinAnsEnv.acceptSent, hlocal, if_false, Bool.false_eq_true]
    split
    · rfl
    · rfl

variable {A}

theorem sessionStep_taken {e : SessionEvent} {env : JoinAnsEnv} (htakes : e.takes = some env)
    {ns : NS} (hoverrun : ns.overrun = false) (hbin : ns.mote.s.PHYPayloadBin.length = 256) :
    sessionStep A ns e = mapS e.answered (e.started ns) := by
  cases e with
  | own e =>
    cases e with
    | joinAns env' =>
      simp only [SessionEvent.takes, Option.ite_none_right_eq_some] at htakes
      obtain ⟨htaken, -⟩ := htakes
      obtain ⟨hlife, hzero, hkeys, -⟩ := taken_some htaken
      have hsome : env'.lifetime.isSome = true := by rw [hlife]; rfl
      have hstart : mapS (fun s => { s with session_start_at_uplink := true })
          (if env'.lifetime.isSome then take_JoinAns env' ns else ns) =
            mapS (fun s => { tookAnswer env' s with session_start_at_uplink := true })
              (add_database_session env' (takeKeys env' ns)) := by
        rw [if_pos hsome, take_JoinAns_taken hzero hkeys]
        rfl
      have hs : (add_database_session env' (takeKeys env' ns)).mote.s = ns.mote.s :=
        (congrArg Mote.s (onlyStore_add_database_session env' (takeKeys env' ns)).mote).trans rfl
      show (if ns.overrun then ns else hNs_to_sNS_JoinAns env' ns) = _
      rw [hoverrun, if_neg Bool.false_ne_true]
      unfold hNs_to_sNS_JoinAns
      rw [hstart, sendJoinAccept_taken htaken (by rw [← hbin, ← hs]; rfl),
        dropOldSessions_mapS]
      rfl
    | _ => cases htakes
  | hrStartAns env' =>
    simp only [SessionEvent.takes, Option.ite_none_right_eq_some] at htakes
    obtain ⟨⟨hstale, haccept, htaken⟩, -⟩ := htakes
    obtain ⟨hlife, hzero, hkeys, -⟩ := taken_some htaken
    have hsame : { env'.joinAns with lifetime := some (env'.joinAns.lifetime.getD 0) } =
        env'.joinAns := by
      rw [← hlife]
    show (if ns.overrun then ns else sNS_HRStartAnsCallback env' ns) = _
    unfold sNS_HRStartAnsCallback
    rw [hoverrun, if_neg Bool.false_ne_true, hstale, if_neg Bool.false_ne_true, haccept,
      if_pos rfl, hsame, take_JoinAns_taken hzero hkeys]
    rfl

/-! ### Nothing is left -/

theorem alikeState_of_eq {compared : Bool} {s s' : S}
    (heq : s' = s.holding s'.mac_cmd_queue s'.ConfFCntDown)
    (hqueue : SameCmds s.mac_cmd_queue s'.mac_cmd_queue)
    (hcnt : compared = true → s'.ConfFCntDown = s.ConfFCntDown) : AlikeState compared s s' := by
  rw [heq]
  exact .mk hqueue hcnt

theorem answered_queue {e : SessionEvent} {env : JoinAnsEnv} (htakes : e.takes = some env) (s : S) :
    (e.answered s).mac_cmd_queue =
        (if e.acceptSent then wipe_queued_mac_cmds s.mac_cmd_queue else s.mac_cmd_queue) ∧
      (e.answered s).ConfFCntDown = (if env.OptNeg then 0 else s.ConfFCntDown) ∧
      (e.answered s).FRMPayloadLen = s.FRMPayloadLen ∧
      (e.answered s).confDLPHYPayloadLen = (if e.acceptSent then 0 else s.confDLPHYPayloadLen) ∧
      (e.answered s).incrNFCntDown = s.incrNFCntDown ∧
      (e.answered s).FRMPayloadBin = s.FRMPayloadBin ∧
      (e.overwrites = false → (e.answered s).PHYPayloadLen = s.PHYPayloadLen) := by
  cases e with
  | own e =>
    cases e with
    | joinAns env' =>
      simp only [SessionEvent.takes, Option.ite_none_right_eq_some, Option.some.injEq] at htakes
      obtain ⟨-, rfl⟩ := htakes
      cases hlocal : env'.isLocal <;> cases hsent : env'.acceptSent <;>
        simp [SessionEvent.answered, SessionEvent.acceptSent, SessionEvent.overwrites, hlocal,
          hsent, tookAnswer, savedAccept, forgetSession]
    | _ => cases htakes
  | hrStartAns env' =>
    simp only [SessionEvent.takes, Option.ite_none_right_eq_some, Option.some.injEq] at htakes
    obtain ⟨-, rfl⟩ := htakes
    exact ⟨rfl, rfl, rfl, rfl, rfl, rfl, fun _ => rfl⟩

theorem answered_forgotten {e : SessionEvent} {env : JoinAnsEnv} (htakes : e.takes = some env)
    {s : S} (h : LeavesNothing s e) :
    e.answered s.forgotten = (e.answered s).holding (e.answered s.forgotten).mac_cmd_queue
      (e.answered s.forgotten).ConfFCntDown := by
  have hpayload := h.payload
  have hflag := h.flag
  have hframe := h.frame
  have hconf := h.confirmed
  cases e with
  | own e =>
    cases e with
    | joinAns env' =>
      simp only [SessionEvent.overwrites, SessionEvent.acceptSent] at hframe hconf
      unfold SessionEvent.answered
      cases hlocal : env'.isLocal <;> cases hsent : env'.acceptSent <;>
        simp_all [S.forgotten, S.holding, tookAnswer, savedAccept, forgetSession]
    | _ => cases htakes
  | hrStartAns env' =>
    have hframe := hframe.resolve_right Bool.false_ne_true
    have hconf := hconf.resolve_right Bool.false_ne_true
    simp only [SessionEvent.answered, tookAnswer, S.forgotten, S.holding, hpayload, hflag, hframe,
      hconf]

theorem answered_alike {e : SessionEvent} {env : JoinAnsEnv} (htakes : e.takes = some env) {s : S}
    (h : LeavesNothing s e) {compared : Bool}
    (hcnt : compared = true → s.ConfFCntDown = 0 ∨ env.OptNeg = true) :
    AlikeState compared (e.answered s) (e.answered s.forgotten) := by
  obtain ⟨hqueue, hc, -⟩ := answered_queue htakes s
  obtain ⟨hqueue', hc', -⟩ := answered_queue htakes s.forgotten
  refine alikeState_of_eq (answered_forgotten htakes h) ?_ ?_
  · rw [hqueue, hqueue']
    show waitingCmds _ = waitingCmds _
    split
    · rw [waitingCmds_wipe, waitingCmds_wipe]
    · rename_i hsent
      exact waitingCmds_of_none (h.commands.resolve_right hsent)
  · intro hcompared
    rw [hc, hc']
    split
    · rfl
    · rename_i hopt
      exact ((hcnt hcompared).resolve_right hopt).symm

theorem run_overrun {ns : NS} (h : ns.overrun = true) (es : List SessionEvent) :
    Machine.run (sessionStep A) ns es = ns := by
  induction es with
  | nil => rfl
  | cons e es ih =>
    have hstep : sessionStep A ns e = ns := by
      cases e with
      | own e => exact if_pos h
      | hrStartAns env => exact if_pos h
    rw [Machine.run_cons, hstep, ih]

/-- After the answer the server is the one that had forgotten, but for what an answer leaves. -/
theorem forget_taken {e : SessionEvent} {env : JoinAnsEnv} (htakes : e.takes = some env) {ns : NS}
    (hoverrun : ns.overrun = false) (hbin : ns.mote.s.PHYPayloadBin.length = 256) :
    sessionStep A (forget ns) e = mapS e.answered (mapS S.forgotten (e.started ns)) := by
  have hforget : sessionStep A (forget ns) e = mapS e.answered (e.started (forget ns)) :=
    sessionStep_taken htakes hoverrun hbin
  rw [hforget, forget, started_mapS]

theorem isolated_of_leavesNothing {e : SessionEvent} {env : JoinAnsEnv}
    (htakes : e.takes = some env) {ns : NS} (hbin : ns.mote.s.PHYPayloadBin.length = 256)
    (h : LeavesNothing ns.mote.s e) {es : List SessionEvent}
    (hunread : CounterUnread ns.mote.s env es) : Isolated A ns e es := by
  unfold Isolated
  cases hoverrun : ns.overrun with
  | true =>
    have hforget : (forget ns).overrun = true := hoverrun
    rw [← Machine.run_cons, ← Machine.run_cons, run_overrun hoverrun, run_overrun hforget]
    rfl
  | false =>
    have hs := (started_frame e ns).1
    have htwin : ∀ compared : Bool,
        (compared = true → ns.mote.s.ConfFCntDown = 0 ∨ env.OptNeg = true) →
          Twin compared (sessionStep A ns e) (sessionStep A (forget ns) e) := by
      intro compared hcnt
      have halike := answered_alike htakes h hcnt
      rw [← hs] at halike
      rw [sessionStep_taken htakes hoverrun hbin, forget_taken htakes hoverrun hbin]
      exact @Twin.mk compared (mapS e.answered (e.started ns)) _ (e.started ns).calls halike rfl
    rcases hunread with hzero | hopt | hnone
    · exact (unwinding_twin A true).shown_run (htwin true fun _ => Or.inl hzero)
        fun _ _ => Or.inl rfl
    · exact (unwinding_twin A true).shown_run (htwin true fun _ => Or.inr hopt)
        fun _ _ => Or.inl rfl
    · exact (unwinding_twin A false).shown_run (htwin false fun h => absurd h Bool.false_ne_true)
        fun e he => Or.inr (hnone e he)

/-! ### Something is left -/

/-- The frame that waits goes to a gateway, which answers later. -/
def flush : SessionEvent := .own (.send ⟨true, false, none, true, true, false⟩)

/-- A rejoin request is heard. -/
def rejoins : List SessionEvent :=
  [.own (.receive [mhdr MTYPE_REJOIN_REQ] 0), .own (.rejoin [])]

/-- The application sends an octet for the next counter of LoRaWAN 1.0. -/
def asks (FCntDown : ℕ) : SessionEvent :=
  .own (.downlink ⟨false, false, true, false, [], ⟨true, true, none, false, true, false⟩⟩
    ⟨1, FCntDown, false⟩ [0])

theorem flush_step {ns : NS} (hoverrun : ns.overrun = false) :
    ∃ b, sessionStep A ns flush =
      mapS (fun s => { s with PHYPayloadLen := 0, answer_app_downlink := b }) { ns with
        sent := if ns.mote.s.PHYPayloadLen = 0 then ns.sent
          else ns.sent ++ [⟨ns.mote.s.frame,
            ns.mote.s.PHYPayloadBin.take ns.mote.s.PHYPayloadLen⟩] } := by
  have hpending : ∀ ns : NS, ∃ b, answerPending ⟨true, false, none, true, true, false⟩ ns =
      mapS (fun s => { s with answer_app_downlink := b }) ns := by
    intro ns
    unfold answerPending
    split
    · exact ⟨false, rfl⟩
    · exact ⟨ns.mote.s.answer_app_downlink, rfl⟩
  have hstep : sessionStep A ns flush =
      sNS_finish_phy_downlink ⟨true, false, none, true, true, false⟩ ns := by
    show (if ns.overrun then ns else _) = _
    rw [hoverrun, if_neg Bool.false_ne_true]
    rfl
  rw [hstep]
  unfold sNS_finish_phy_downlink
  by_cases hzero : ns.mote.s.PHYPayloadLen = 0
  · obtain ⟨b, hb⟩ := hpending ns
    have hsame : mapS (fun s => { s with PHYPayloadLen := 0 }) ns = ns := by
      unfold mapS
      rw [← hzero]
    refine ⟨b, ?_⟩
    rw [if_pos hzero, if_pos hzero, hb]
    exact congrArg (mapS fun s => { s with answer_app_downlink := b }) hsame.symm
  · obtain ⟨b, hb⟩ := hpending (transmit ⟨true, false, none, true, true, false⟩ ns)
    refine ⟨b, ?_⟩
    rw [if_neg hzero, if_neg hzero, if_neg Bool.false_ne_true]
    exact hb

theorem schedule_calls (junk : Octets) (ns : NS) :
    (schedule A junk ns).calls.length =
      ns.calls.length + if needsDownlink ns.mote = true then 1 else 0 := by
  unfold schedule
  dsimp only
  split
  · exact List.length_append
  · rfl

theorem needsDownlink_of_payload {m : Mote} (hlen : m.s.PHYPayloadLen = 0)
    (hpayload : m.s.FRMPayloadLen ≠ 0) : needsDownlink m = true := by
  unfold needsDownlink
  rw [hlen]
  simp [hpayload]

/-- After the flush a rejoin request makes the server build a frame when something waits. -/
theorem rejoins_calls {ns : NS} (hoverrun : ns.overrun = false)
    (hlen : ns.mote.s.PHYPayloadLen = 0) :
    (Machine.run (sessionStep A) ns rejoins).calls.length = ns.calls.length +
      if 0 < ns.mote.s.confDLPHYPayloadLen ∨ are_mac_cmds_queued ns.mote.s.mac_cmd_queue = true ∨
        ns.mote.s.FRMPayloadLen ≠ 0 then 1 else 0 := by
  let heard : NS := { ns with mote := receive [mhdr MTYPE_REJOIN_REQ] 0 ns.mote }
  have hreceive : sessionStep A ns (.own (.receive [mhdr MTYPE_REJOIN_REQ] 0)) = heard :=
    if_neg (hoverrun ▸ Bool.false_ne_true)
  have hrejoin : sessionStep A heard (.own (.rejoin [])) = schedule A [] heard :=
    if_neg (hoverrun ▸ Bool.false_ne_true)
  have htype : rxMType heard.mote = MTYPE_REJOIN_REQ := by
    show MType (mhdr MTYPE_REJOIN_REQ) = _
    decide
  have hneeds : needsDownlink heard.mote = true ↔
      (0 < ns.mote.s.confDLPHYPayloadLen ∨ are_mac_cmds_queued ns.mote.s.mac_cmd_queue = true ∨
        ns.mote.s.FRMPayloadLen ≠ 0) := by
    have hs : heard.mote.s = ns.mote.s := rfl
    unfold needsDownlink has_rx_fhdr
    rw [htype, hs, hlen]
    simp [or_assoc]
  rw [rejoins, Machine.run_cons, hreceive, Machine.run_cons, hrejoin, Machine.run_nil,
    schedule_calls]
  simp only [hneeds]
  rfl

theorem asks_refused {ns : NS} (hoverrun : ns.overrun = false)
    (hflag : ns.mote.s.incrNFCntDown = true) :
    sessionStep A ns (asks ns.mote.session.NFCntDown) = ns := by
  have hwrong : ns.mote.session.NFCntDown ≠ (ns.mote.session.NFCntDown + 1) % 2 ^ 32 := by omega
  have hneeded : ∀ env : DownlinkEnv, env.classC = false →
      neededFCntDown env ns.mote = (ns.mote.session.NFCntDown + 1) % 2 ^ 32 :=
    fun env hclass => if_pos ⟨hclass, hflag⟩
  show (if ns.overrun then ns else hNS_to_sNS_downlink A _ _ _ ns) = ns
  rw [hoverrun, if_neg Bool.false_ne_true]
  exact if_pos ⟨rfl, by rw [hneeded _ rfl]; exact hwrong⟩

theorem downlinkBC_calls {env : DownlinkEnv} (hnow : env.now = true) (ns : NS) :
    (downlinkBC A env ns).calls =
      (schedule A env.junk (mapS (fun s => { s with resend := false }) ns)).calls := by
  unfold downlinkBC
  dsimp only
  rw [if_pos hnow]
  split
  · rfl
  · have hfinish := (leads_finish (A := A) env.send
      (schedule A env.junk (mapS (fun s => { s with resend := false }) ns))).calls
    split
    · exact hfinish
    · exact hfinish

theorem asks_calls {ns : NS} (hoverrun : ns.overrun = false)
    (hflag : ns.mote.s.incrNFCntDown = false) (hlen : ns.mote.s.PHYPayloadLen = 0)
    (hfrm : ns.mote.s.FRMPayloadBin.length = 244) :
    (sessionStep A ns (asks ns.mote.session.NFCntDown)).calls.length = ns.calls.length + 1 := by
  have hneeded : ∀ env : DownlinkEnv,
      neededFCntDown env ns.mote = ns.mote.session.NFCntDown := fun env =>
    if_neg fun h => Bool.false_ne_true (hflag.symm.trans h.2)
  have hwrite : ∃ bin, Octets.write ns.mote.s.FRMPayloadBin 0 [0] = some bin :=
    Option.isSome_iff_exists.mp (Octets.write_isSome.mpr (by rw [hfrm]; decide))
  obtain ⟨bin, hwrite⟩ := hwrite
  show (if ns.overrun then ns else hNS_to_sNS_downlink A _ _ _ ns).calls.length = _
  rw [hoverrun, if_neg Bool.false_ne_true]
  unfold hNS_to_sNS_downlink
  rw [if_neg (by rw [hneeded]; exact fun h => h.2 rfl)]
  unfold savePayload
  rw [hwrite]
  simp only [Option.map_some]
  rw [downlinkBC_calls rfl, schedule_calls, if_pos]
  · rfl
  · exact needsDownlink_of_payload hlen Nat.one_ne_zero

theorem flushed {ns : NS} (hoverrun : ns.overrun = false) :
    (sessionStep A ns flush).overrun = false ∧
      (sessionStep A ns flush).calls = ns.calls ∧
      (sessionStep A ns flush).mote.session = ns.mote.session ∧
      ∃ b, (sessionStep A ns flush).mote.s =
        { ns.mote.s with PHYPayloadLen := 0, answer_app_downlink := b } := by
  obtain ⟨b, hb⟩ := flush_step (A := A) hoverrun
  rw [hb]
  exact ⟨hoverrun, rfl, rfl, b, rfl⟩

theorem frames_length {ns ns' : NS} (h : shown ns = shown ns') :
    ns.calls.length = ns'.calls.length := by
  have hframes := congrArg (fun x => x.frames.length) h
  simpa only [shown, List.length_map] using hframes

theorem frame_of_isolated {ns ns' : NS} (hoverrun : ns.overrun = false)
    (hoverrun' : ns'.overrun = false) (hsent : ns.sent = ns'.sent)
    (hlen : ns'.mote.s.PHYPayloadLen = 0)
    (h : shown (sessionStep A ns flush) = shown (sessionStep A ns' flush)) :
    ns.mote.s.PHYPayloadLen = 0 := by
  obtain ⟨b, hb⟩ := flush_step (A := A) hoverrun
  obtain ⟨b', hb'⟩ := flush_step (A := A) hoverrun'
  have hlengths := congrArg (fun x => x.sent.length) h
  rw [hb, hb'] at hlengths
  by_contra hleft
  simp only [shown, mapS, if_neg hleft, if_pos hlen, List.length_append, List.length_singleton,
    hsent] at hlengths
  omega

/-- What makes the server build a frame after the flush. -/
def Waiting (s : S) : Prop :=
  0 < s.confDLPHYPayloadLen ∨ are_mac_cmds_queued s.mac_cmd_queue = true ∨ s.FRMPayloadLen ≠ 0

instance (s : S) : Decidable (Waiting s) := inferInstanceAs (Decidable (_ ∨ _ ∨ _))

theorem waiting_of_isolated {ns ns' : NS} (hoverrun : ns.overrun = false)
    (hoverrun' : ns'.overrun = false) (hcalls : ns.calls = ns'.calls) (hnone : ¬Waiting ns'.mote.s)
    (h : shown (Machine.run (sessionStep A) ns (flush :: rejoins)) =
      shown (Machine.run (sessionStep A) ns' (flush :: rejoins))) : ¬Waiting ns.mote.s := by
  obtain ⟨hover, hc, -, b, hs⟩ := flushed (A := A) hoverrun
  obtain ⟨hover', hc', -, b', hs'⟩ := flushed (A := A) hoverrun'
  have hlengths := frames_length h
  rw [Machine.run_cons, Machine.run_cons, rejoins_calls hover (by rw [hs]),
    rejoins_calls hover' (by rw [hs']), hc, hc', hs, hs', hcalls] at hlengths
  intro hleft
  have hone : (if Waiting ns.mote.s then 1 else 0) = 1 := if_pos hleft
  have hzero : (if Waiting ns'.mote.s then 1 else 0) = 0 := if_neg hnone
  have heq : ns'.calls.length + (if Waiting ns.mote.s then 1 else 0) =
      ns'.calls.length + (if Waiting ns'.mote.s then 1 else 0) := hlengths
  omega

theorem flag_of_isolated {ns ns' : NS} (hoverrun : ns.overrun = false)
    (hoverrun' : ns'.overrun = false) (hcalls : ns.calls = ns'.calls)
    (hsession : ns.mote.session = ns'.mote.session) (hflag : ns'.mote.s.incrNFCntDown = false)
    (hfrm : ns'.mote.s.FRMPayloadBin.length = 244)
    (h : shown (Machine.run (sessionStep A) ns [flush, asks ns.mote.session.NFCntDown]) =
      shown (Machine.run (sessionStep A) ns' [flush, asks ns.mote.session.NFCntDown])) :
    ns.mote.s.incrNFCntDown = false := by
  obtain ⟨hover, hc, hn, b, hs⟩ := flushed (A := A) hoverrun
  obtain ⟨hover', hc', hn', b', hs'⟩ := flushed (A := A) hoverrun'
  have hlengths := frames_length h
  by_contra hleft
  have hset : (sessionStep A ns flush).mote.s.incrNFCntDown = true := by
    rw [hs]
    exact eq_true_of_ne_false hleft
  have hrefused := asks_refused (A := A) hover hset
  have haccepted := asks_calls (A := A) hover' (by rw [hs']; exact hflag) (by rw [hs'])
    (by rw [hs']; exact hfrm)
  rw [hn] at hrefused
  rw [hn', ← hsession] at haccepted
  rw [Machine.run_cons, Machine.run_cons, Machine.run_nil, hrefused, Machine.run_cons,
    Machine.run_cons, Machine.run_nil, haccepted, hc, hc', hcalls] at hlengths
  omega

theorem leavesNothing_of_isolated {e : SessionEvent} {env : JoinAnsEnv}
    (htakes : e.takes = some env) {ns : NS} (hoverrun : ns.overrun = false) (w : ns.mote.s.Wf)
    (h : ∀ es, Isolated A ns e es) : LeavesNothing ns.mote.s e := by
  obtain ⟨hs, -, -, hover⟩ := started_frame e ns
  rw [hoverrun] at hover
  have hreal := sessionStep_taken (A := A) htakes hoverrun w.bin
  have hforgot := forget_taken (A := A) htakes hoverrun w.bin
  unfold Isolated at h
  rw [hreal, hforgot] at h
  rw [← hs] at w ⊢
  generalize e.started ns = base at hs hover h w ⊢
  obtain ⟨hqueue, -, hpayload, hconf, hflag, -, hframe⟩ := answered_queue htakes base.mote.s
  obtain ⟨hqueue', -, hpayload', hconf', hflag', hfrm', hframe'⟩ :=
    answered_queue htakes base.mote.s.forgotten
  have hnone : ¬Waiting (e.answered base.mote.s.forgotten) := by
    unfold Waiting
    rw [hqueue', hconf', hpayload']
    cases e.acceptSent <;> simp [S.forgotten, are_mac_cmds_queued, wipe_queued_mac_cmds]
  have hempty : ¬Waiting (e.answered base.mote.s) :=
    @waiting_of_isolated A (mapS e.answered base) (mapS e.answered (mapS S.forgotten base))
      hover hover rfl hnone (h (flush :: rejoins))
  have hcleared : (e.answered base.mote.s).incrNFCntDown = false :=
    @flag_of_isolated A (mapS e.answered base) (mapS e.answered (mapS S.forgotten base))
      hover hover rfl rfl hflag' (hfrm' ▸ w.frm) (h [flush, asks base.mote.session.NFCntDown])
  rw [Waiting, not_or, not_or, not_not] at hempty
  obtain ⟨hconfirmed, hcommands, hFRM⟩ := hempty
  refine ⟨hpayload ▸ hFRM, ?_, ?_, ?_, hflag ▸ hcleared⟩
  · cases hkept : e.overwrites with
    | true => exact Or.inr rfl
    | false =>
      have hgone := @frame_of_isolated A (mapS e.answered base)
        (mapS e.answered (mapS S.forgotten base)) hover hover rfl (hframe' hkept) (h [flush])
      exact Or.inl ((hframe hkept).symm.trans hgone)
  · cases hsent : e.acceptSent with
    | true => exact Or.inr rfl
    | false =>
      rw [hqueue, hsent, if_neg Bool.false_ne_true] at hcommands
      exact Or.inl (eq_false_of_ne_true hcommands)
  · cases hsent : e.acceptSent with
    | true => exact Or.inr rfl
    | false =>
      rw [hconf, hsent, if_neg Bool.false_ne_true] at hconfirmed
      exact Or.inl (Nat.eq_zero_of_not_pos hconfirmed)

/-! ### Runs -/

theorem wf_sessionStep {ns : NS} (w : ns.mote.s.Wf) (e : SessionEvent) :
    (sessionStep A ns e).mote.s.Wf := by
  cases e with
  | own e => exact wf_step w e
  | hrStartAns env =>
    have htake : ∀ env : JoinAnsEnv, (take_JoinAns env ns).mote.s.Wf := fun env =>
      keeps_of_change (A := A) (fun _ _ h w => wf_change h w) (leads_take_JoinAns env ns).changes w
    show (if ns.overrun then ns else sNS_HRStartAnsCallback env ns).mote.s.Wf
    unfold sNS_HRStartAnsCallback
    split
    · exact w
    · split
      · exact w
      · dsimp only
        split
        · exact htake _
        · exact w

variable (A)

/-- In every run and for every join answer that is taken: an answer that leaves nothing isolates
the sessions, and every other answer leaves something that a run finds out. -/
theorem sessions_isolated (rows : List SessionRow) (nextSerial ID devAddr : ℕ)
    (es₀ : List SessionEvent) (e : SessionEvent) (env : JoinAnsEnv) (htakes : e.takes = some env) :
    let ns := Machine.run (sessionStep A) (.init rows nextSerial (.init ID devAddr)) es₀
    (LeavesNothing ns.mote.s e →
      ∀ es, CounterUnread ns.mote.s env es → Isolated A ns e es) ∧
    (ns.overrun = false → (∀ es, Isolated A ns e es) → LeavesNothing ns.mote.s e) := by
  have hstep : ∀ (ns : NS) (e : SessionEvent), ns.mote.s.Wf → (sessionStep A ns e).mote.s.Wf :=
    fun _ e w => wf_sessionStep w e
  have hinit : (NS.init rows nextSerial (.init ID devAddr)).mote.s.Wf := S.zero_wf
  have w := Machine.run_invariant_always (sessionStep A) hstep hinit es₀
  exact ⟨fun h es => isolated_of_leavesNothing htakes w.bin h,
    fun hoverrun => leavesNothing_of_isolated htakes hoverrun w⟩

/-! ### A device that joins again -/

def newKey : Octets := List.replicate 16 0x7e

/-- LoRaWAN 1.0; the accept goes out by the server that forwarded the request. -/
def newSession : JoinAnsEnv :=
  ⟨some 3600, none, newKey, newKey, newKey, false, true, .all true, 3600, 1, false, [], none, true, none⟩

/-- The first frame of the new session. -/
def newUplink : Octets :=
  let msg := [mhdr MTYPE_UNCONF_UP] ++ Octets.ofNat 4 sampleDevAddr ++ [0] ++ Octets.ofNat 2 0
  let block := block_t.mk 0x49 0 0 0 0 sampleDevAddr 0 0 8
  msg ++ LoRa_GenerateDataFrameIntegrityCode BlockCipher.xorKey block newKey msg

/-- The session is stored, the frame is heard, and what was scheduled is sent. -/
def newRound : List SessionEvent :=
  [.own .writer, .own .writer, .own .window, .own (.receive newUplink 0),
    .own (.load false true 0), .own (.uplink plainUplink), .own (.send plainSend)]

/-- A command waits for an uplink. -/
def commandWaits : NS :=
  Machine.run (sessionStep BlockCipher.xorKey) sampleServer [.own (.macCmds [.put [0x06] true])]

theorem new_session_isolated :
    LeavesNothing commandWaits.mote.s (.own (.joinAns newSession)) ∧
      Isolated BlockCipher.xorKey commandWaits (.own (.joinAns newSession)) newRound := by
  have hnothing : LeavesNothing commandWaits.mote.s (.own (.joinAns newSession)) :=
    ⟨by decide +kernel, Or.inl (by decide +kernel), Or.inr (by decide +kernel),
      Or.inl (by decide +kernel), by decide +kernel⟩
  exact ⟨hnothing, (sessions_isolated BlockCipher.xorKey [sampleRow] 1 1 sampleDevAddr
    [.own (.macCmds [.put [0x06] true])] (.own (.joinAns newSession)) newSession
    (by decide +kernel)).1 hnothing newRound (Or.inl (by decide +kernel))⟩

/-- The application's payload waits for an uplink. -/
def payloadWaits : NS :=
  Machine.run (sessionStep BlockCipher.xorKey) sampleServer
    [.own (.downlink plainDownlink ⟨5, 0, false⟩ [1, 2, 3])]

/-- The payload goes into the first frame of the new session. -/
theorem old_payload_sent :
    (SessionEvent.own (.joinAns newSession)).takes = some newSession ∧
      ((Machine.run (sessionStep BlockCipher.xorKey)
        (sessionStep BlockCipher.xorKey payloadWaits (.own (.joinAns newSession)))
        newRound).sent.map fun f => Octets.slice f.octets 8 4) = [[5, 1, 2, 3]] ∧
      (Machine.run (sessionStep BlockCipher.xorKey)
        (sessionStep BlockCipher.xorKey (forget payloadWaits) (.own (.joinAns newSession)))
        newRound).sent = [] ∧
      ¬Isolated BlockCipher.xorKey payloadWaits (.own (.joinAns newSession)) newRound := by
  decide +kernel

end Lorawan.NetworkServer

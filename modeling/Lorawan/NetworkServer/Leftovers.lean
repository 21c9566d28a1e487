import Lorawan.NetworkServer.FrameLayout
import Lorawan.NetworkServer.Serving

/-!
# What is left of a session (network_server/sNS.c:107-268, 866-980)

`s_t` belongs to the device and outlives its sessions. Two states of a device are
alike when they differ in the empty slots of the command queue only, or also in
the counter of the confirmed downlink; every function keeps them alike.
-/

namespace Lorawan.NetworkServer
open Lorawan Lorawan.Backend Backend.mtype_e

variable (A : BlockCipher)

/-! ### Join answers in a handover -/

/-- An answer to `HRStartReq`. -/
structure HRStartAnsEnv where
  /-- The result is StaleDeviceProfile. -/
  stale : Bool
  /-- The result is Success. -/
  success : Bool
  /-- The device that the DevEUI of the answer names. -/
  ID : Option ℕ
  /-- What the answer has in common with a join answer; `rfBuf` is its PHYPayload. -/
  joinAns : JoinAnsEnv
deriving DecidableEq

/-- The answer brings a join accept. -/
def HRStartAnsEnv.hasAccept (env : HRStartAnsEnv) : Bool :=
  env.success && decide (env.joinAns.rfBuf ≠ []) &&
    decide (MType (env.joinAns.rfBuf.headD 0) = MTYPE_JOIN_ACC)

/-- `sNS_HRStartAnsCallback` and what `xRStartAnsCallback` does to the device (sNS.c:210-268): a
missing Lifetime is zero, and the accept is not kept. -/
def sNS_HRStartAnsCallback (env : HRStartAnsEnv) (ns : NS) : NS :=
  if env.stale then ns
  else
    let ns := if env.hasAccept then
        take_JoinAns { env.joinAns with lifetime := some (env.joinAns.lifetime.getD 0) } ns
      else ns
    { ns with mote := { ns.mote with
        devAddr := env.joinAns.DevAddr.getD ns.mote.devAddr
        ID := env.ID.getD ns.mote.ID } }

inductive SessionEvent
  | own (e : Event)
  | hrStartAns (env : HRStartAnsEnv)
deriving DecidableEq

def sessionStep (ns : NS) : SessionEvent → NS
  | .own e => step A ns e
  | .hrStartAns env => if ns.overrun then ns else sNS_HRStartAnsCallback env ns

/-! ### Empty slots of the queue -/

/-- The queue from the first slot with a command on. -/
def waitingCmds (queue : List MacCmd) : List MacCmd :=
  queue.dropWhile fun c => decide (c.buf = [])

theorem waitingCmds_empty {c : MacCmd} (h : c.buf = []) (cs : List MacCmd) :
    waitingCmds (c :: cs) = waitingCmds cs :=
  List.dropWhile_cons_of_pos (decide_eq_true h)

theorem waitingCmds_command {c : MacCmd} (h : c.buf ≠ []) (cs : List MacCmd) :
    waitingCmds (c :: cs) = c :: cs :=
  List.dropWhile_cons_of_neg (by simpa using h)

theorem waitingCmds_of_none {queue : List MacCmd} (h : are_mac_cmds_queued queue = false) :
    waitingCmds queue = [] := by
  induction queue with
  | nil => rfl
  | cons c cs ih =>
    simp only [are_mac_cmds_queued, List.any_cons, Bool.or_eq_false_iff, decide_eq_false_iff_not,
      not_not] at h
    rw [waitingCmds_empty h.1, ih h.2]

theorem waitingCmds_wipe (queue : List MacCmd) : waitingCmds (wipe_queued_mac_cmds queue) = [] := by
  induction queue with
  | nil => rfl
  | cons c cs ih => exact (waitingCmds_empty rfl _).trans ih

theorem are_mac_cmds_queued_waiting (queue : List MacCmd) :
    are_mac_cmds_queued (waitingCmds queue) = are_mac_cmds_queued queue := by
  induction queue with
  | nil => rfl
  | cons c cs ih =>
    by_cases hc : c.buf = []
    · rw [waitingCmds_empty hc, ih, are_mac_cmds_queued, are_mac_cmds_queued, List.any_cons, hc]
      rfl
    · rw [waitingCmds_command hc]

theorem dropFinished_waiting (queue : List MacCmd) :
    (waitingCmds queue).dropWhile (·.isFinished) = queue.dropWhile (·.isFinished) := by
  induction queue with
  | nil => rfl
  | cons c cs ih =>
    by_cases hc : c.buf = []
    · have hfinished : c.isFinished = true := by rw [MacCmd.isFinished, hc]; rfl
      rw [waitingCmds_empty hc, ih, List.dropWhile_cons_of_pos hfinished]
    · rw [waitingCmds_command hc]

theorem put_waiting (queue : List MacCmd) (cmd_buf : Octets) (needs_answer : Bool) :
    put_queue_mac_cmds (waitingCmds queue) cmd_buf needs_answer =
      put_queue_mac_cmds queue cmd_buf needs_answer := by
  unfold put_queue_mac_cmds
  rw [dropFinished_waiting]

theorem clear_waiting (queue : List MacCmd) (cmd : UInt8) :
    waitingCmds (clear_queued_mac_cmd cmd (waitingCmds queue)) =
      waitingCmds (clear_queued_mac_cmd cmd queue) := by
  induction queue with
  | nil => rfl
  | cons c cs ih =>
    by_cases hc : c.buf = []
    · rw [waitingCmds_empty hc, ih, clear_queued_mac_cmd, if_neg (fun h => h.1 hc),
        waitingCmds_empty hc]
    · rw [waitingCmds_command hc]

theorem takeMacCmds_empty {c : MacCmd} (h : c.buf = []) (room : ℕ) (cs : List MacCmd) :
    (takeMacCmds room (c :: cs)).1 = (takeMacCmds room cs).1 ∧
      waitingCmds (takeMacCmds room (c :: cs)).2 = waitingCmds (takeMacCmds room cs).2 := by
  have hslot : (if c.needs_answer then c else .cleared).buf = [] := by
    split
    · exact h
    · rfl
  simp only [takeMacCmds, h, List.length_nil, Nat.not_lt_zero, if_false, List.nil_append,
    Nat.sub_zero, true_and]
  exact waitingCmds_empty hslot _

theorem takeMacCmds_waiting (room : ℕ) (queue : List MacCmd) :
    (takeMacCmds room (waitingCmds queue)).1 = (takeMacCmds room queue).1 ∧
      waitingCmds (takeMacCmds room (waitingCmds queue)).2 =
        waitingCmds (takeMacCmds room queue).2 := by
  induction queue with
  | nil => exact ⟨rfl, rfl⟩
  | cons c cs ih =>
    by_cases hc : c.buf = []
    · obtain ⟨hocts, hrest⟩ := takeMacCmds_empty hc room cs
      rw [waitingCmds_empty hc, hocts, hrest]
      exact ih
    · rw [waitingCmds_command hc]
      exact ⟨rfl, rfl⟩

/-- The same commands wait in the two queues. -/
def SameCmds (queue queue' : List MacCmd) : Prop := waitingCmds queue = waitingCmds queue'

theorem SameCmds.queued {queue queue' : List MacCmd} (h : SameCmds queue queue') :
    are_mac_cmds_queued queue = are_mac_cmds_queued queue' := by
  rw [← are_mac_cmds_queued_waiting, h, are_mac_cmds_queued_waiting]

theorem SameCmds.octets {queue queue' : List MacCmd} (h : SameCmds queue queue') (room : ℕ) :
    (takeMacCmds room queue).1 = (takeMacCmds room queue').1 := by
  rw [← (takeMacCmds_waiting room queue).1, h, (takeMacCmds_waiting room queue').1]

theorem SameCmds.taken {queue queue' : List MacCmd} (h : SameCmds queue queue') (room : ℕ) :
    SameCmds (takeMacCmds room queue).2 (takeMacCmds room queue').2 := by
  show waitingCmds _ = waitingCmds _
  rw [← (takeMacCmds_waiting room queue).2, h, (takeMacCmds_waiting room queue').2]

theorem SameCmds.apply {queue queue' : List MacCmd} (h : SameCmds queue queue') (op : MacOp) :
    SameCmds (op.apply queue) (op.apply queue') := by
  show waitingCmds _ = waitingCmds _
  cases op with
  | put cmd_buf needs_answer =>
    rw [MacOp.apply, ← put_waiting, h, put_waiting]
    rfl
  | clear cmd =>
    rw [MacOp.apply, ← clear_waiting, h, clear_waiting]
    rfl
  | wipe => exact (waitingCmds_wipe queue).trans (waitingCmds_wipe queue').symm

theorem SameCmds.foldl {queue queue' : List MacCmd} (h : SameCmds queue queue')
    (ops : List MacOp) : SameCmds (ops.foldl MacOp.apply queue) (ops.foldl MacOp.apply queue') := by
  induction ops generalizing queue queue' with
  | nil => exact h
  | cons op ops ih => exact ih (h.apply op)

/-! ### Devices that are alike -/

def S.holding (s : S) (queue : List MacCmd) (ConfFCntDown : ℕ) : S :=
  { s with mac_cmd_queue := queue, ConfFCntDown := ConfFCntDown }

/-- The states differ in the empty slots of the queue only, and in `ConfFCntDown` when it is not
compared. -/
inductive AlikeState (compared : Bool) : S → S → Prop
  | mk {s : S} {queue : List MacCmd} {cnt : ℕ} (hqueue : SameCmds s.mac_cmd_queue queue)
      (hcnt : compared = true → cnt = s.ConfFCntDown) : AlikeState compared s (s.holding queue cnt)

variable {A}

theorem get_queued_mac_cmds_holding {junk key : Octets} {devAddr FCnt : ℕ} {OptNeg : Bool} {s : S}
    {queue : List MacCmd} (cnt : ℕ) (h : SameCmds s.mac_cmd_queue queue) :
    get_queued_mac_cmds A junk key devAddr FCnt OptNeg (s.holding queue cnt) =
      (get_queued_mac_cmds A junk key devAddr FCnt OptNeg s).map
        (·.holding (takeMacCmds 15 queue).2 cnt) := by
  have hocts := h.octets 15
  simp only [get_queued_mac_cmds, bind, Option.map_bind, Function.comp_def, hocts]
  rfl

theorem addPayload_holding (m : Mote) (s : S) (queue mine : List MacCmd) (cnt own : ℕ) :
    addPayload { m with s := m.s.holding mine own } (s.holding queue cnt) =
      (addPayload m s).map fun p => (p.1.holding queue cnt, p.2) := by
  unfold addPayload
  simp only [bind, apply_ite (Option.map _), Option.map_bind, Function.comp_def]
  rfl

theorem sealFrame_holding (m : Mote) (s : S) (u : Bool) (queue mine : List MacCmd) (cnt own : ℕ) :
    sealFrame A { m with s := m.s.holding mine own } (s.holding queue cnt) u =
      (sealFrame A m s u).map (·.holding queue cnt) := by
  unfold sealFrame
  simp only [bind, Option.map_bind, Function.comp_def]
  rfl

theorem keepConfirmed_alike {compared : Bool} (FCntDown : ℕ) {s t : S} (h : AlikeState compared s t) :
    Option.Rel (AlikeState compared) (keepConfirmed FCntDown s) (keepConfirmed FCntDown t) := by
  cases h with
  | mk hqueue hcnt =>
    unfold keepConfirmed
    dsimp only [S.holding]
    split
    · exact .some (.mk hqueue fun _ => rfl)
    · cases Octets.write s.confDLPHYPayloadBin 0 (s.PHYPayloadBin.take s.PHYPayloadLen) with
      | none => exact .none
      | some conf => exact .some (.mk hqueue fun _ => rfl)
    · exact .some (.mk hqueue hcnt)

/-- Two devices whose states are alike. -/
inductive AlikeMote (compared : Bool) : Mote → Mote → Prop
  | mk {m : Mote} {s : S} (h : AlikeState compared m.s s) : AlikeMote compared m { m with s := s }

theorem needsDownlink_alike {compared : Bool} {m m' : Mote} (h : AlikeMote compared m m') :
    needsDownlink m = needsDownlink m' := by
  cases h with
  | mk hs =>
    cases hs with
    | mk hqueue hcnt =>
      unfold needsDownlink
      rw [hqueue.queued]
      rfl

theorem alikeMote_of_state {compared : Bool} (m : Mote) (own : S) {o o' : Option S}
    (h : Option.Rel (AlikeState compared) o o') :
    Option.Rel (AlikeMote compared) (o.bind fun s => some { m with s := s })
      (o'.bind fun s => some { { m with s := own } with s := s }) := by
  cases h with
  | none => exact .none
  | @some a b hab => exact .some (.mk (m := { m with s := a }) hab)

theorem buildFrame_alike {compared : Bool} (junk : Octets) {m m' : Mote}
    (h : AlikeMote compared m m') :
    Option.Rel (AlikeMote compared) (buildFrame A junk m) (buildFrame A junk m') := by
  cases h with
  | mk hs =>
    cases hs with
    | @mk queue cnt hqueue hcnt =>
      simp only [buildFrame, bind]
      rw [get_queued_mac_cmds_holding cnt hqueue]
      cases h1 : get_queued_mac_cmds A junk m.session.NwkSEncKeyBin m.devAddr m.session.NFCntDown
          m.session.OptNeg m.s with
      | none => exact .none
      | some s1 =>
        simp only [Option.map_some, Option.bind_some, addPayload_holding]
        cases h2 : addPayload m s1 with
        | none => exact .none
        | some p2 =>
          obtain ⟨s2, using_AFCntDwn⟩ := p2
          simp only [Option.map_some, Option.bind_some, sealFrame_holding]
          cases h3 : sealFrame A m s2 using_AFCntDwn with
          | none => exact .none
          | some s3 =>
            have e1 := (get_queued_mac_cmds_some A h1).1
            have e2 := (addPayload_some h2).1
            have e3 := (sealFrame_some A h3).1
            have hqueue3 : s3.mac_cmd_queue = (takeMacCmds 15 m.s.mac_cmd_queue).2 := by
              rw [e3, e2, e1]
            have hcnt3 : s3.ConfFCntDown = m.s.ConfFCntDown := by rw [e3, e2, e1]
            have h3 : AlikeState compared s3 (s3.holding (takeMacCmds 15 queue).2 cnt) :=
              .mk (hqueue3 ▸ hqueue.taken 15) fun hc => (hcnt hc).trans hcnt3.symm
            exact alikeMote_of_state m _ (keepConfirmed_alike (txFCntDown m s2 using_AFCntDwn) h3)

section
variable {compared : Bool}

theorem AlikeState.update {f : S → S} {s s' : S} (h : AlikeState compared s s')
    (hf : ∀ s queue cnt, f (S.holding s queue cnt) = (f s).holding queue cnt) :
    AlikeState compared (f s) (f s') := by
  cases h with
  | mk hqueue hcnt =>
    have hown : f s = (f s).holding s.mac_cmd_queue s.ConfFCntDown :=
      hf s s.mac_cmd_queue s.ConfFCntDown
    have hqueue' : (f s).mac_cmd_queue = s.mac_cmd_queue := (congrArg S.mac_cmd_queue hown).trans rfl
    have hcnt' : (f s).ConfFCntDown = s.ConfFCntDown := (congrArg S.ConfFCntDown hown).trans rfl
    rw [hf]
    exact .mk (hqueue' ▸ hqueue) fun hc => (hcnt hc).trans hcnt'.symm

theorem AlikeState.forget {s s' : S} (h : AlikeState compared s s') :
    AlikeState compared (forgetSession s) (forgetSession s') := by
  cases h with
  | @mk queue cnt hqueue hcnt =>
    have hwiped : SameCmds (wipe_queued_mac_cmds s.mac_cmd_queue) (wipe_queued_mac_cmds queue) :=
      hqueue.apply .wipe
    exact .mk (s := forgetSession s) hwiped hcnt

theorem saveJoinAccept_alike (env : JoinAnsEnv) {s s' : S} (h : AlikeState compared s s') :
    Option.Rel (AlikeState compared) (saveJoinAccept env s) (saveJoinAccept env s') := by
  cases h with
  | mk hqueue hcnt =>
    unfold saveJoinAccept
    dsimp only [S.holding]
    cases Octets.write s.PHYPayloadBin 0 env.rfBuf with
    | none => exact .none
    | some bin =>
      exact .some (.mk (s := { s with
        PHYPayloadBin := bin
        PHYPayloadLen := if env.rfBuf ≠ [] ∧ env.result ≠ some false then 0
          else env.rfBuf.length % 256
        frame := none }) hqueue hcnt)

theorem savePayload_alike (md : DLMetaData) (payload : Octets) {s s' : S}
    (h : AlikeState compared s s') :
    Option.Rel (AlikeState compared) (savePayload md payload s) (savePayload md payload s') := by
  cases h with
  | mk hqueue hcnt =>
    unfold savePayload
    dsimp only [S.holding]
    cases Octets.write s.FRMPayloadBin 0 payload with
    | none => exact .none
    | some bin =>
      exact .some (.mk (s := { s with
        FRMPayloadBin := bin
        FRMPayloadLen := payload.length
        md := md
        accepted := payload }) hqueue hcnt)

theorem schedule_downlink_alike (junk : Octets) {m m' : Mote} (h : AlikeMote compared m m') :
    Option.Rel (AlikeMote compared) (sNS_schedule_downlink A junk m)
      (sNS_schedule_downlink A junk m') := by
  unfold sNS_schedule_downlink
  rw [← needsDownlink_alike h]
  split
  · exact buildFrame_alike junk h
  · exact .some h

theorem checkMic1v1_alike (env : UplinkEnv) (ch : UInt8) (FCntUp : ℕ) {m m' : Mote}
    (h : AlikeMote true m m') :
    (checkMic1v1 A env ch m FCntUp).1 = (checkMic1v1 A env ch m' FCntUp).1 ∧
      AlikeState true (checkMic1v1 A env ch m FCntUp).2 (checkMic1v1 A env ch m' FCntUp).2 := by
  cases h with
  | mk hs =>
    cases hs with
    | @mk queue cnt hqueue hcnt =>
      obtain rfl := hcnt rfl
      let m' := { m with s := m.s.holding queue m.s.ConfFCntDown }
      have hs : AlikeState true m.s m'.s := .mk hqueue hcnt
      -- the frame and the keys are the same, and so is every check
      by_cases hnow : check_cmacS A m (uplinkBlock m m.s.ConfFCntDown env.DataRate ch FCntUp) = true
      · have heq : checkMic1v1 A env ch m FCntUp = (true, { m.s with ConfFCntDown := 0 }) :=
          if_pos hnow
        have heq' : checkMic1v1 A env ch m' FCntUp = (true, { m'.s with ConfFCntDown := 0 }) :=
          if_pos hnow
        rw [heq, heq']
        exact ⟨rfl, .mk (s := { m.s with ConfFCntDown := 0 }) hqueue fun _ => rfl⟩
      · by_cases hsaved : 0 < m.s.confDLPHYPayloadLen
        · have heq : checkMic1v1 A env ch m FCntUp = (_, restoreConfirmed m.s) :=
            (if_neg hnow).trans (if_pos hsaved)
          have heq' : checkMic1v1 A env ch m' FCntUp = (_, restoreConfirmed m'.s) :=
            (if_neg hnow).trans (if_pos hsaved)
          rw [heq, heq']
          exact ⟨rfl, hs.update (f := restoreConfirmed) fun _ _ _ => rfl⟩
        · have heq : checkMic1v1 A env ch m FCntUp = (false, m.s) :=
            (if_neg hnow).trans (if_neg hsaved)
          have heq' : checkMic1v1 A env ch m' FCntUp = (false, m'.s) :=
            (if_neg hnow).trans (if_neg hsaved)
          rw [heq, heq']
          exact ⟨rfl, hs⟩

theorem checkMic_alike {env : UplinkEnv} (hver : compared = true ∨ env.OptNeg = false)
    (FCntUp : ℕ) {m m' : Mote} (h : AlikeMote compared m m') :
    (checkMic A env m FCntUp).1 = (checkMic A env m' FCntUp).1 ∧
      AlikeState compared (checkMic A env m FCntUp).2 (checkMic A env m' FCntUp).2 := by
  have hs : AlikeState compared m.s m'.s := by
    cases h with
    | mk hs => exact hs
  unfold checkMic
  split
  · rename_i hopt
    obtain rfl : compared = true := hver.resolve_right (by rw [hopt]; decide)
    split
    · exact ⟨rfl, hs⟩
    · exact checkMic1v1_alike env _ FCntUp h
  · cases h with
    | mk hs => exact ⟨rfl, hs⟩

end

end Lorawan.NetworkServer

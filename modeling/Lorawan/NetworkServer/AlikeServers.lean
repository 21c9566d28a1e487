import Lorawan.Lib.Machine
import Lorawan.NetworkServer.Leftovers

/-!
# Two servers that are alike

Whatever happens next, two servers stay alike: what was built, sent, accepted and
stored is the same. `ConfFCntDown` may differ as long as no uplink is handled as
one of LoRaWAN 1.1.
-/

namespace Lorawan.NetworkServer
open Lorawan Lorawan.Backend Backend.mtype_e

variable {A : BlockCipher}

/-! ### Servers that are alike -/

/-- The frame that was built. -/
def Call.frame (c : Call) : Option Octets :=
  c.after.map fun m => m.s.PHYPayloadBin.take m.s.PHYPayloadLen

def NS.having (ns : NS) (s : S) (calls : List Call) : NS :=
  { ns with mote := { ns.mote with s := s }, calls := calls }

/-- The servers have built the same frames, and the states of the device are alike. -/
inductive Twin (compared : Bool) : NS → NS → Prop
  | mk {ns : NS} {s : S} {calls : List Call} (hs : AlikeState compared ns.mote.s s)
      (hcalls : ns.calls.map Call.frame = calls.map Call.frame) :
      Twin compared ns (ns.having s calls)

section
variable {compared : Bool} {ns ns' : NS}

theorem Twin.same {β : Type*} {g : NS → β} (h : Twin compared ns ns')
    (hg : ∀ ns queue cnt calls, g (NS.having ns (ns.mote.s.holding queue cnt) calls) = g ns) :
    g ns' = g ns := by
  cases h with
  | mk hs hcalls =>
    cases hs with
    | mk hqueue hcnt => exact hg _ _ _ _

theorem Twin.session (h : Twin compared ns ns') : ns'.mote.session = ns.mote.session :=
  h.same (g := fun ns => ns.mote.session) fun _ _ _ _ => rfl

theorem Twin.ID (h : Twin compared ns ns') : ns'.mote.ID = ns.mote.ID :=
  h.same (g := fun ns => ns.mote.ID) fun _ _ _ _ => rfl

theorem Twin.devAddr (h : Twin compared ns ns') : ns'.mote.devAddr = ns.mote.devAddr :=
  h.same (g := fun ns => ns.mote.devAddr) fun _ _ _ _ => rfl

theorem Twin.PHYPayloadLen (h : Twin compared ns ns') :
    ns'.mote.s.PHYPayloadLen = ns.mote.s.PHYPayloadLen :=
  h.same (g := fun ns => ns.mote.s.PHYPayloadLen) fun _ _ _ _ => rfl

theorem Twin.FRMPayloadLen (h : Twin compared ns ns') :
    ns'.mote.s.FRMPayloadLen = ns.mote.s.FRMPayloadLen :=
  h.same (g := fun ns => ns.mote.s.FRMPayloadLen) fun _ _ _ _ => rfl

theorem Twin.incrNFCntDown (h : Twin compared ns ns') :
    ns'.mote.s.incrNFCntDown = ns.mote.s.incrNFCntDown :=
  h.same (g := fun ns => ns.mote.s.incrNFCntDown) fun _ _ _ _ => rfl

theorem Twin.alike (h : Twin compared ns ns') : AlikeState compared ns.mote.s ns'.mote.s := by
  cases h with
  | mk hs hcalls => exact hs

theorem Twin.mote (h : Twin compared ns ns') : AlikeMote compared ns.mote ns'.mote := by
  cases h with
  | mk hs hcalls => exact .mk hs

theorem twin_mote (f : Mote → Mote) (h : Twin compared ns ns')
    (hf : ∀ m s, f { m with s := s } = { f m with s := s }) :
    Twin compared { ns with mote := f ns.mote } { ns' with mote := f ns'.mote } := by
  cases h with
  | @mk s calls hs hcalls =>
    have hown : (f ns.mote).s = ns.mote.s := (congrArg Mote.s (hf ns.mote ns.mote.s)).trans rfl
    dsimp only [NS.having]
    rw [hf ns.mote s]
    exact @Twin.mk compared { ns with mote := f ns.mote } _ _ (hown ▸ hs) hcalls

theorem Twin.mapS {f g : S → S} (h : Twin compared ns ns')
    (hfg : AlikeState compared (f ns.mote.s) (g ns'.mote.s)) :
    Twin compared (mapS f ns) (mapS g ns') := by
  cases h with
  | mk hs hcalls => exact @Twin.mk compared (NetworkServer.mapS f ns) _ _ hfg hcalls

theorem Twin.update {f : S → S} (h : Twin compared ns ns')
    (hf : ∀ s queue cnt, f (S.holding s queue cnt) = (f s).holding queue cnt) :
    Twin compared (NetworkServer.mapS f ns) (NetworkServer.mapS f ns') := by
  cases h with
  | mk hs hcalls => exact @Twin.mk compared (NetworkServer.mapS f ns) _ _ (hs.update hf) hcalls

theorem twin_mapSession (f : Session → Session) (h : Twin compared ns ns') :
    Twin compared (mapSession f ns) (mapSession f ns') := by
  cases h with
  | mk hs hcalls => exact @Twin.mk compared (mapSession f ns) _ _ hs hcalls

theorem twin_enqueue (mqOk : Bool) (u : Statement) (h : Twin compared ns ns') :
    Twin compared (enqueue mqOk u ns) (enqueue mqOk u ns') := by
  unfold enqueue
  split
  · cases h with
    | mk hs hcalls => exact @Twin.mk compared { ns with store := ns.store.enqueue u } _ _ hs hcalls
  · exact h

theorem twin_queueMacCmds (ops : List MacOp) (h : Twin compared ns ns') :
    Twin compared (queueMacCmds ops ns) (queueMacCmds ops ns') := by
  refine h.mapS ?_
  cases h with
  | mk hs hcalls =>
    cases hs with
    | mk hqueue hcnt =>
      exact .mk (s := { ns.mote.s with mac_cmd_queue := ops.foldl MacOp.apply _ })
        (hqueue.foldl ops) hcnt

theorem twin_answer (answerOk : Bool) (h : Twin compared ns ns') :
    Twin compared (answer_app_downlink answerOk ns) (answer_app_downlink answerOk ns') := by
  unfold answer_app_downlink
  split
  · exact h.update fun _ _ _ => rfl
  · exact h

theorem twin_countNFCntDown (mqOk : Bool) (h : Twin compared ns ns') :
    Twin compared (countNFCntDown mqOk ns) (countNFCntDown mqOk ns') := by
  unfold countNFCntDown
  rw [h.devAddr]
  exact (twin_mapSession _ (twin_enqueue mqOk _ h)).update fun _ _ _ => rfl

theorem twin_schedule (junk : Octets) (h : Twin compared ns ns') :
    Twin compared (schedule A junk ns) (schedule A junk ns') := by
  cases h with
  | @mk s calls hs hcalls =>
    have halike : AlikeMote compared ns.mote (ns.having s calls).mote := .mk hs
    have hneeds := needsDownlink_alike halike
    have hrel := schedule_downlink_alike (A := A) junk halike
    unfold schedule
    dsimp only
    rw [← hneeds]
    generalize sNS_schedule_downlink A junk ns.mote = after at hrel
    generalize sNS_schedule_downlink A junk (ns.having s calls).mote = after' at hrel
    have hframes : ∀ f f' : Call, f.frame = f'.frame →
        (if needsDownlink ns.mote then ns.calls ++ [f] else ns.calls).map Call.frame =
          (if needsDownlink ns.mote then calls ++ [f'] else calls).map Call.frame := by
      intro f f' hf
      split
      · rw [List.map_append, List.map_append, hcalls, List.map_singleton, List.map_singleton, hf]
      · exact hcalls
    cases hrel with
    | none =>
      have hcalls' := hframes ⟨ns.mote, none⟩ ⟨(ns.having s calls).mote, none⟩ rfl
      exact @Twin.mk compared { ns with overrun := true, calls := _ } _ _ hs hcalls'
    | @some m m' hm =>
      cases hm with
      | @mk s' hs' =>
        have hframe : Call.frame ⟨ns.mote, some m⟩ =
            Call.frame ⟨(ns.having s calls).mote, some { m with s := s' }⟩ := by
          cases hs' with
          | mk hqueue hcnt => rfl
        exact @Twin.mk compared { ns with mote := m, overrun := false, calls := _ } _ _ hs' (hframes _ _ hframe)

/-! ### Uplinks -/

theorem twin_expire (env : UplinkEnv) (h : Twin compared ns ns') :
    Twin compared (expire env ns) (expire env ns') := by
  unfold expire
  rw [h.session, h.ID]
  split
  · split
    · exact twin_queueMacCmds _ h
    · have hdelete := twin_enqueue env.mqOk.expired (.deleteOld ns.mote.ID none) h
      dsimp only
      rw [hdelete.FRMPayloadLen]
      split
      · exact twin_answer _ hdelete
      · exact hdelete
  · exact h

theorem twin_initNFCntDown (env : UplinkEnv) (h : Twin compared ns ns') :
    Twin compared (initNFCntDown env ns) (initNFCntDown env ns') := by
  unfold initNFCntDown
  rw [h.session, h.devAddr]
  split
  · exact twin_mapSession _ (twin_enqueue _ _ h)
  · exact h

theorem twin_deleteOldSessions (mqOk : Bool) (newest : Option ℕ) (h : Twin compared ns ns') :
    Twin compared (deleteOldSessions mqOk newest ns) (deleteOldSessions mqOk newest ns') := by
  unfold deleteOldSessions
  rw [h.ID]
  split
  · exact h
  · exact twin_enqueue _ _ h

theorem twin_checkOldSessions (env : UplinkEnv) (wanted : Bool) (h : Twin compared ns ns') :
    Twin compared (checkOldSessions env wanted ns) (checkOldSessions env wanted ns') := by
  have hflag : ns'.mote.s.checkOldSessions = ns.mote.s.checkOldSessions :=
    h.same (g := fun ns => ns.mote.s.checkOldSessions) fun _ _ _ _ => rfl
  unfold checkOldSessions
  rw [hflag]
  split
  · exact (twin_deleteOldSessions _ _ h).update fun _ _ _ => rfl
  · exact h

theorem twin_handleACK (env : UplinkEnv) (h : Twin compared ns ns') :
    Twin compared (handleACK env ns) (handleACK env ns') := by
  have hACK : rxACK ns'.mote = rxACK ns.mote :=
    h.same (g := fun ns => rxACK ns.mote) fun _ _ _ _ => rfl
  have hcount : Twin compared
      (if ns.mote.s.incrNFCntDown then countNFCntDown env.mqOk.incrNFCntDown ns else ns)
      (if ns.mote.s.incrNFCntDown then countNFCntDown env.mqOk.incrNFCntDown ns' else ns') := by
    split
    · exact twin_countNFCntDown _ h
    · exact h
  unfold handleACK
  dsimp only
  rw [hACK, h.incrNFCntDown]
  split
  · refine hcount.update fun s queue cnt => ?_
    dsimp only [S.holding]
    split
    · rfl
    · rfl
  · exact h

theorem twin_handleCommands (env : UplinkEnv) (h : Twin compared ns ns') :
    Twin compared (handleCommands env ns) (handleCommands env ns') := by
  have hflag : ns'.mote.s.session_start_at_uplink = ns.mote.s.session_start_at_uplink :=
    h.same (g := fun ns => ns.mote.s.session_start_at_uplink) fun _ _ _ _ => rfl
  have hstart : Twin compared
      (if ns.mote.s.session_start_at_uplink then queueMacCmds env.sessionOps
        (mapS (fun s => { s with session_start_at_uplink := false }) ns) else ns)
      (if ns.mote.s.session_start_at_uplink then queueMacCmds env.sessionOps
        (mapS (fun s => { s with session_start_at_uplink := false }) ns') else ns') := by
    split
    · exact twin_queueMacCmds _ (h.update fun _ _ _ => rfl)
    · exact h
  unfold handleCommands
  rw [hflag]
  exact (twin_checkOldSessions env _ (twin_queueMacCmds _ hstart)).update fun _ _ _ => rfl

theorem twin_storeFCntUp (env : UplinkEnv) (FCntUp : ℕ) (h : Twin compared ns ns') :
    Twin compared (storeFCntUp env FCntUp ns) (storeFCntUp env FCntUp ns') := by
  cases h with
  | @mk s calls hs hcalls =>
    have haccepted : Twin compared
        { ns with accepted := ns.accepted ++ [⟨ns.mote.session.row, FCntUp, ns.mote.counter⟩] }
        { ns.having s calls with
          accepted := ns.accepted ++ [⟨ns.mote.session.row, FCntUp, ns.mote.counter⟩] } :=
      @Twin.mk compared { ns with
        accepted := ns.accepted ++ [⟨ns.mote.session.row, FCntUp, ns.mote.counter⟩] } _ _ hs hcalls
    unfold storeFCntUp
    dsimp only [NS.having] at haccepted ⊢
    split
    · exact haccepted.update fun _ _ _ => rfl
    · exact (twin_enqueue _ _ haccepted).update fun _ _ _ => rfl

theorem twin_takeUplink (env : UplinkEnv) (FCntUp : ℕ) (h : Twin compared ns ns') :
    Twin compared (takeUplink env FCntUp ns) (takeUplink env FCntUp ns') :=
  twin_storeFCntUp env FCntUp (twin_handleCommands env (twin_handleACK env
    (twin_checkOldSessions env _ (twin_initNFCntDown env h))))

theorem twin_receiveUplink {env : UplinkEnv} (hver : compared = true ∨ env.OptNeg = false)
    (h : Twin compared ns ns') :
    (receiveUplink A env ns).1 = (receiveUplink A env ns').1 ∧
      Twin compared (receiveUplink A env ns).2 (receiveUplink A env ns').2 := by
  have hexpire := twin_expire env h
  have hFCnt : rxFCnt (expire env ns').mote = rxFCnt (expire env ns).mote :=
    hexpire.same (g := fun ns => rxFCnt ns.mote) fun _ _ _ _ => rfl
  unfold receiveUplink
  dsimp only
  rw [h.session, hexpire.session, hFCnt]
  split
  · exact ⟨rfl, h⟩
  · split
    · exact ⟨rfl, hexpire⟩
    · have hnew := hexpire.update (f := fun s => { s with newFCntUp := true }) fun _ _ _ => rfl
      generalize FCntUp32 (expire env ns).mote.session.FCntUp (rxFCnt (expire env ns).mote) = FCntUp
      generalize mapS (fun s => { s with newFCntUp := true }) (expire env ns) = ns₁ at hnew
      generalize mapS (fun s => { s with newFCntUp := true }) (expire env ns') = ns₁' at hnew
      obtain ⟨hok, hs⟩ := checkMic_alike (A := A) hver FCntUp hnew.mote
      cases hmic : checkMic A env ns₁.mote FCntUp with
      | mk ok s =>
        cases hmic' : checkMic A env ns₁'.mote FCntUp with
        | mk ok' s' =>
          rw [hmic, hmic'] at hok hs
          obtain rfl : ok = ok' := hok
          have hchecked : Twin compared (mapS (fun _ => s) ns₁) (mapS (fun _ => s') ns₁') :=
            hnew.mapS hs
          dsimp only
          split
          · exact ⟨rfl, twin_takeUplink env FCntUp hchecked⟩
          · exact ⟨rfl, twin_mote (fun m => { m with
              ULPHYPayloadLen := if env.OptNeg ∧ env.ch = none then m.ULPHYPayloadLen else 0 })
              hchecked fun _ _ => rfl⟩

theorem twin_uplink {env : UplinkEnv} (hver : compared = true ∨ env.OptNeg = false)
    (h : Twin compared ns ns') :
    Twin compared (sNS_uplink A env ns).2 (sNS_uplink A env ns').2 := by
  obtain ⟨hresult, htwin⟩ := twin_receiveUplink (A := A) hver h
  unfold sNS_uplink
  cases hr : receiveUplink A env ns with
  | mk result ns₁ =>
    cases hr' : receiveUplink A env ns' with
    | mk result' ns₁' =>
      rw [hr, hr'] at hresult htwin
      obtain rfl : result = result' := hresult
      cases result with
      | Success => exact twin_schedule env.junk htwin
      | _ => exact htwin

/-! ### Sending -/

theorem twin_answerPending (env : SendEnv) (h : Twin compared ns ns') :
    Twin compared (answerPending env ns) (answerPending env ns') := by
  have hflag : ns'.mote.s.answer_app_downlink = ns.mote.s.answer_app_downlink :=
    h.same (g := fun ns => ns.mote.s.answer_app_downlink) fun _ _ _ _ => rfl
  unfold answerPending
  rw [hflag]
  split
  · exact twin_answer _ (h.update fun _ _ _ => rfl)
  · exact h

theorem twin_frameSent (env : SendEnv) (h : Twin compared ns ns') :
    Twin compared (frameSent env ns) (frameSent env ns') := by
  have hbin : ns'.mote.s.PHYPayloadBin = ns.mote.s.PHYPayloadBin :=
    h.same (g := fun ns => ns.mote.s.PHYPayloadBin) fun _ _ _ _ => rfl
  unfold frameSent
  rw [hbin, h.incrNFCntDown]
  split
  · exact (twin_countNFCntDown _ h).update fun _ _ _ => rfl
  · exact h.update fun _ _ _ => rfl

theorem twin_answerUnconfirmed (env : SendEnv) (h : Twin compared ns ns') :
    Twin compared (answerUnconfirmed env ns) (answerUnconfirmed env ns') := by
  have hmd : ns'.mote.s.md = ns.mote.s.md :=
    h.same (g := fun ns => ns.mote.s.md) fun _ _ _ _ => rfl
  unfold answerUnconfirmed
  rw [hmd, h.FRMPayloadLen]
  split
  · exact (twin_answer _ h).update fun _ _ _ => rfl
  · exact h

theorem twin_sNSDownlinkSent (env : SendEnv) (success : Bool) (h : Twin compared ns ns') :
    Twin compared (sNSDownlinkSent env success ns) (sNSDownlinkSent env success ns') := by
  unfold sNSDownlinkSent
  split
  · exact twin_answerUnconfirmed env (twin_frameSent env h)
  · exact twin_answerUnconfirmed env h

theorem twin_transmit (env : SendEnv) (h : Twin compared ns ns') :
    Twin compared (transmit env ns) (transmit env ns') := by
  have hair : Twin compared
      (if env.air then { ns with sent := ns.sent ++ [⟨ns.mote.s.frame,
        ns.mote.s.PHYPayloadBin.take ns.mote.s.PHYPayloadLen⟩] } else ns)
      (if env.air then { ns' with sent := ns'.sent ++ [⟨ns'.mote.s.frame,
        ns'.mote.s.PHYPayloadBin.take ns'.mote.s.PHYPayloadLen⟩] } else ns') := by
    split
    · cases h with
      | mk hs hcalls =>
        cases hs with
        | mk hqueue hcnt =>
          exact @Twin.mk compared { ns with sent := ns.sent ++ [⟨ns.mote.s.frame,
            ns.mote.s.PHYPayloadBin.take ns.mote.s.PHYPayloadLen⟩] } _ _ (.mk hqueue hcnt) hcalls
    · exact h
  unfold transmit
  dsimp only
  split
  · exact hair.update fun _ _ _ => rfl
  · exact hair

theorem twin_finish (env : SendEnv) (h : Twin compared ns ns') :
    Twin compared (sNS_finish_phy_downlink env ns) (sNS_finish_phy_downlink env ns') := by
  unfold sNS_finish_phy_downlink
  rw [h.PHYPayloadLen]
  split
  · exact twin_answerPending env h
  · split
    · exact h
    · refine twin_answerPending env ?_
      split
      · exact twin_transmit env h
      · exact twin_sNSDownlinkSent env _ (twin_transmit env h)

/-! ### Downlinks and join answers -/

theorem twin_downlinkBC (env : DownlinkEnv) (h : Twin compared ns ns') :
    Twin compared (downlinkBC A env ns) (downlinkBC A env ns') := by
  have hclear := h.update (f := fun s => { s with resend := false }) fun _ _ _ => rfl
  unfold downlinkBC
  dsimp only
  split
  · have hsched := twin_schedule (A := A) env.junk hclear
    generalize schedule A env.junk (mapS (fun s => { s with resend := false }) ns) = ns₁ at hsched
    generalize schedule A env.junk (mapS (fun s => { s with resend := false }) ns') = ns₁' at hsched
    have hoverrun : ns₁'.overrun = ns₁.overrun :=
      hsched.same (g := fun ns => ns.overrun) fun _ _ _ _ => rfl
    have hfinish := twin_finish env.send hsched
    have hmd : (sNS_finish_phy_downlink env.send ns₁').mote.s.md =
        (sNS_finish_phy_downlink env.send ns₁).mote.s.md :=
      hfinish.same (g := fun ns => ns.mote.s.md) fun _ _ _ _ => rfl
    rw [hoverrun, hsched.PHYPayloadLen, hmd]
    split
    · exact hsched
    · split
      · exact hfinish.update fun _ _ _ => rfl
      · exact hfinish
  · exact hclear

theorem Twin.overrun (h : Twin compared ns ns') :
    Twin compared { ns with overrun := true } { ns' with overrun := true } := by
  cases h with
  | mk hs hcalls => exact @Twin.mk compared { ns with overrun := true } _ _ hs hcalls

theorem twin_downlink (env : DownlinkEnv) (md : DLMetaData) (payload : Octets)
    (h : Twin compared ns ns') :
    Twin compared (hNS_to_sNS_downlink A env md payload ns)
      (hNS_to_sNS_downlink A env md payload ns') := by
  have hneeded : neededFCntDown env ns'.mote = neededFCntDown env ns.mote :=
    h.same (g := fun ns => neededFCntDown env ns.mote) fun _ _ _ _ => rfl
  have hsaved := savePayload_alike md payload h.alike
  unfold hNS_to_sNS_downlink
  rw [hneeded]
  split
  · exact h
  · generalize savePayload md payload ns.mote.s = o at hsaved
    generalize savePayload md payload ns'.mote.s = o' at hsaved
    cases hsaved with
    | none => exact h.overrun
    | some hs => exact twin_downlinkBC env (h.mapS hs)

theorem twin_resend (env : DownlinkEnv) (failed : Bool) (h : Twin compared ns ns') :
    Twin compared (resend A env failed ns) (resend A env failed ns') := by
  have hflag : ns'.mote.s.resend = ns.mote.s.resend :=
    h.same (g := fun ns => ns.mote.s.resend) fun _ _ _ _ => rfl
  unfold resend
  rw [hflag]
  split
  · dsimp only
    split
    · exact twin_answer _ (twin_downlinkBC env h)
    · exact twin_downlinkBC env h
  · exact h

theorem twin_add_database_session (env : JoinAnsEnv) (h : Twin compared ns ns') :
    Twin compared (add_database_session env ns) (add_database_session env ns') := by
  have hrow : sessionRow env ns' = sessionRow env ns :=
    h.same (g := fun ns => sessionRow env ns) fun _ _ _ _ => rfl
  have hqueued := twin_enqueue env.mqOk.insert (.insert (sessionRow env ns))
    (twin_enqueue env.mqOk.deleteNeverUsed (.deleteNeverUsed ns.mote.ID) h)
  unfold add_database_session
  rw [hrow, h.ID]
  generalize enqueue env.mqOk.insert (.insert (sessionRow env ns))
    (enqueue env.mqOk.deleteNeverUsed (.deleteNeverUsed ns.mote.ID) ns) = ns₁ at hqueued
  generalize enqueue env.mqOk.insert (.insert (sessionRow env ns))
    (enqueue env.mqOk.deleteNeverUsed (.deleteNeverUsed ns.mote.ID) ns') = ns₁' at hqueued
  cases hqueued with
  | mk hs hcalls => exact @Twin.mk compared { ns₁ with nextSerial := ns₁.nextSerial + 1 } _ _ hs hcalls

theorem twin_take_JoinAns (env : JoinAnsEnv) (h : Twin compared ns ns') :
    Twin compared (take_JoinAns env ns) (take_JoinAns env ns') := by
  have hkeys : Twin compared (takeKeys env ns) (takeKeys env ns') :=
    twin_mapSession _ (twin_mote (fun m => { m with devAddr := env.DevAddr.getD m.devAddr }) h
      fun _ _ => rfl)
  unfold take_JoinAns
  split
  · exact h
  · split
    · refine twin_add_database_session env (hkeys.mapS ?_)
      have hs := hkeys.alike
      generalize (takeKeys env ns').mote.s = s' at hs
      generalize (takeKeys env ns).mote.s = s at hs
      cases hs with
      | @mk queue cnt hqueue hcnt =>
        refine @AlikeState.mk compared { s with
          checkOldSessions := true
          ConfFCntDown := if env.OptNeg then 0 else s.ConfFCntDown } queue
          (if env.OptNeg then 0 else cnt) hqueue fun hc => ?_
        rw [hcnt hc]
    · exact hkeys.update fun _ _ _ => rfl

theorem twin_sendJoinAccept (env : JoinAnsEnv) (h : Twin compared ns ns') :
    Twin compared (sendJoinAccept env ns) (sendJoinAccept env ns') := by
  have hsaved := saveJoinAccept_alike env h.alike
  unfold sendJoinAccept
  split
  · split
    · generalize saveJoinAccept env ns.mote.s = o at hsaved
      generalize saveJoinAccept env ns'.mote.s = o' at hsaved
      cases hsaved with
      | none => exact h.overrun
      | some hs =>
        dsimp only
        split
        · exact h.mapS hs.forget
        · exact h.mapS hs
    · exact h
  · have hdelete := twin_deleteOldSessions env.mqOk.deleteOld env.newest h
    dsimp only
    split
    · exact hdelete.mapS hdelete.alike.forget
    · exact hdelete

theorem twin_joinAns (env : JoinAnsEnv) (h : Twin compared ns ns') :
    Twin compared (hNs_to_sNS_JoinAns env ns) (hNs_to_sNS_JoinAns env ns') := by
  have htake : Twin compared (if env.lifetime.isSome then take_JoinAns env ns else ns)
      (if env.lifetime.isSome then take_JoinAns env ns' else ns') := by
    split
    · exact twin_take_JoinAns env h
    · exact h
  exact twin_sendJoinAccept env (htake.update fun _ _ _ => rfl)

theorem twin_hrStartAns (env : HRStartAnsEnv) (h : Twin compared ns ns') :
    Twin compared (sNS_HRStartAnsCallback env ns) (sNS_HRStartAnsCallback env ns') := by
  have htake : Twin compared
      (if env.hasAccept then
        take_JoinAns { env.joinAns with lifetime := some (env.joinAns.lifetime.getD 0) } ns else ns)
      (if env.hasAccept then
        take_JoinAns { env.joinAns with lifetime := some (env.joinAns.lifetime.getD 0) } ns'
      else ns') := by
    split
    · exact twin_take_JoinAns _ h
    · exact h
  unfold sNS_HRStartAnsCallback
  split
  · exact h
  · exact twin_mote (fun m => { m with
      devAddr := env.joinAns.DevAddr.getD m.devAddr
      ID := env.ID.getD m.ID }) htake fun _ _ => rfl

/-! ### Steps -/

/-- An uplink that is handled as one of LoRaWAN 1.1. -/
def SessionEvent.uplink1v1 : SessionEvent → Bool
  | .own (.uplink env) => env.OptNeg
  | _ => false

theorem twin_loadSession (byID sqlOk : Bool) (now : ℕ) (h : Twin compared ns ns') :
    Twin compared (loadSession byID sqlOk now ns) (loadSession byID sqlOk now ns') := by
  have hfound : (if byID then newestByID ns'.mote.ID ns'.store.table
        else newestByDevAddr ns'.mote.devAddr ns'.store.table) =
      if byID then newestByID ns.mote.ID ns.store.table
        else newestByDevAddr ns.mote.devAddr ns.store.table :=
    h.same (g := fun ns => if byID then newestByID ns.mote.ID ns.store.table
      else newestByDevAddr ns.mote.devAddr ns.store.table) fun _ _ _ _ => rfl
  unfold loadSession
  dsimp only
  rw [h.session, hfound]
  split
  · exact twin_mapSession _ h
  · exact h

theorem twin_handle {e : Event} (hver : compared = true ∨ (SessionEvent.own e).uplink1v1 = false)
    (h : Twin compared ns ns') : Twin compared (handle A ns e) (handle A ns' e) := by
  have hheard : ns'.mote.ULPHYPayloadLen = ns.mote.ULPHYPayloadLen :=
    h.same (g := fun ns => ns.mote.ULPHYPayloadLen) fun _ _ _ _ => rfl
  cases e with
  | window =>
    exact twin_mapSession (fun n => { n with until_ := .none })
      (twin_mote (fun m => { m with ULPHYPayloadLen := 0 }) h fun _ _ => rfl)
  | receive frame counter => exact twin_mote (receive frame counter) h fun _ _ => rfl
  | load byID sqlOk now => exact twin_loadSession byID sqlOk now h
  | uplink env =>
    show Twin compared (if ns.mote.ULPHYPayloadLen = 0 then ns else (sNS_uplink A env ns).2)
      (if ns'.mote.ULPHYPayloadLen = 0 then ns' else (sNS_uplink A env ns').2)
    rw [hheard]
    split
    · exact h
    · exact twin_uplink hver h
  | rejoin junk => exact twin_schedule junk h
  | send env => exact twin_finish env h
  | downlink env md payload => exact twin_downlink env md payload h
  | resend env failed => exact twin_resend env failed h
  | macCmds ops => exact twin_queueMacCmds ops h
  | joinReq devAddr =>
    exact twin_mapSession (fun n => { n with until_ := .none })
      (twin_mote (fun m => { m with devAddr := devAddr }) h fun _ _ => rfl)
  | address devAddr => exact twin_mote (fun m => { m with devAddr := devAddr }) h fun _ _ => rfl
  | joinAns env => exact twin_joinAns env h
  | other u =>
    cases h with
    | mk hs hcalls => exact @Twin.mk compared { ns with
        store := ns.store.enqueue (u.number ns.nextSerial)
        nextSerial := ns.nextSerial + 1 } _ _ hs hcalls
  | writer =>
    cases h with
    | mk hs hcalls =>
      exact @Twin.mk compared { ns with store := ns.store.writeNext execute } _ _ hs hcalls

theorem twin_step {e : SessionEvent} (h : Twin compared ns ns')
    (hver : compared = true ∨ e.uplink1v1 = false) :
    Twin compared (sessionStep A ns e) (sessionStep A ns' e) := by
  have hoverrun : ns'.overrun = ns.overrun :=
    h.same (g := fun ns => ns.overrun) fun _ _ _ _ => rfl
  cases e with
  | own e =>
    show Twin compared (if ns.overrun then ns else handle A ns e)
      (if ns'.overrun then ns' else handle A ns' e)
    rw [hoverrun]
    split
    · exact h
    · exact twin_handle hver h
  | hrStartAns env =>
    show Twin compared (if ns.overrun then ns else sNS_HRStartAnsCallback env ns)
      (if ns'.overrun then ns' else sNS_HRStartAnsCallback env ns')
    rw [hoverrun]
    split
    · exact h
    · exact twin_hrStartAns env h

end

/-! ### What can be seen -/

/-- What a server built, sent, accepted and stored, and the session in memory. -/
structure Shown where
  frames : List (Option Octets)
  sent : List Sent
  accepted : List Accepted
  store : WriteBehind.Store (List SessionRow) Statement
  session : Session
  overrun : Bool
deriving DecidableEq

def shown (ns : NS) : Shown :=
  ⟨ns.calls.map Call.frame, ns.sent, ns.accepted, ns.store, ns.mote.session, ns.overrun⟩

theorem shown_twin {compared : Bool} {ns ns' : NS} (h : Twin compared ns ns') :
    shown ns = shown ns' := by
  cases h with
  | @mk s calls hs hcalls =>
    show Shown.mk _ _ _ _ _ _ = Shown.mk (calls.map Call.frame) _ _ _ _ _
    rw [hcalls]
    rfl

variable (A)

/-- The counter of the confirmed downlink has to be the same only for uplinks of LoRaWAN 1.1. -/
theorem unwinding_twin (compared : Bool) :
    Machine.Unwinding (sessionStep A) (fun e => compared = true ∨ e.uplink1v1 = false) shown
      (Twin compared) :=
  ⟨twin_step, shown_twin⟩

end Lorawan.NetworkServer

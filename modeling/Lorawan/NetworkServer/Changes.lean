import Lorawan.NetworkServer.FrameLayout
import Lorawan.NetworkServer.Serving
import Mathlib.Logic.Relation

/-!
# What the functions change in `s_t`

The handling of an event is a chain of changes of a few kinds. What each kind of
change keeps, every event keeps. A frame is built in at most one place of the
chain, and a payload is saved at its start only.
-/

namespace Lorawan.NetworkServer
open Lorawan Lorawan.Backend Backend.mtype_e

variable (A : BlockCipher)

inductive Change : S → S → Prop
  | queue (s : S) (queue : List MacCmd) : Change s { s with mac_cmd_queue := queue }
  /-- The application got its answer, or the payload was encrypted for nothing. -/
  | dropPayload (s : S) : Change s { s with FRMPayloadLen := 0 }
  | flags {s s' : S} (h : s' = { s with
      resend := s'.resend
      session_start_at_uplink := s'.session_start_at_uplink
      incrNFCntDown := s'.incrNFCntDown
      newFCntUp := s'.newFCntUp
      upConfreSent := s'.upConfreSent
      checkOldSessions := s'.checkOldSessions
      answer_app_downlink := s'.answer_app_downlink }) : Change s s'
  | ConfFCntDown (s : S) : Change s { s with ConfFCntDown := 0 }
  | restore (s : S) : Change s (restoreConfirmed s)
  | sent (s : S) : Change s { s with PHYPayloadLen := 0 }
  | build {junk : Octets} {m m' : Mote} (h : buildFrame A junk m = some m') : Change m.s m'.s
  | joinAccept {env : JoinAnsEnv} {s s' : S} (h : saveJoinAccept env s = some s') : Change s s'
  | forget (s : S) : Change s (forgetSession s)

variable {A}

theorem keeps_of_change {P : S → Prop} (hP : ∀ s s', Change A s s' → P s → P s') {s s' : S}
    (h : Relation.ReflTransGen (Change A) s s') (hs : P s) : P s' := by
  induction h with
  | refl => exact hs
  | tail _ hchange ih => exact hP _ _ hchange ih

variable (A)

/-- From `ns` to `ns'` the state of the device changes in these ways, and no frame is built. -/
structure Leads (ns ns' : NS) : Prop where
  changes : Relation.ReflTransGen (Change A) ns.mote.s ns'.mote.s
  calls : ns'.calls = ns.calls
  overrun : ns'.overrun = ns.overrun

variable {A}

theorem Leads.refl (ns : NS) : Leads A ns ns := ⟨.refl, rfl, rfl⟩

theorem Leads.trans {ns ns' ns'' : NS} (h : Leads A ns ns') (h' : Leads A ns' ns'') :
    Leads A ns ns'' :=
  ⟨h.changes.trans h'.changes, h'.calls.trans h.calls, h'.overrun.trans h.overrun⟩

theorem Leads.of_eq {ns ns' : NS} (hs : ns'.mote.s = ns.mote.s) (hcalls : ns'.calls = ns.calls)
    (hoverrun : ns'.overrun = ns.overrun) : Leads A ns ns' := by
  refine ⟨?_, hcalls, hoverrun⟩
  rw [hs]

theorem leads_mapS {f : S → S} (ns : NS) (h : Change A ns.mote.s (f ns.mote.s)) :
    Leads A ns (mapS f ns) := ⟨.single h, rfl, rfl⟩

theorem leads_enqueue (mqOk : Bool) (u : Statement) (ns : NS) : Leads A ns (enqueue mqOk u ns) := by
  unfold enqueue
  split
  · exact .of_eq rfl rfl rfl
  · exact .refl ns

theorem leads_queueMacCmds (ops : List MacOp) (ns : NS) : Leads A ns (queueMacCmds ops ns) :=
  leads_mapS ns (.queue _ _)

theorem leads_answer (answerOk : Bool) (ns : NS) : Leads A ns (answer_app_downlink answerOk ns) := by
  unfold answer_app_downlink
  split
  · exact leads_mapS ns (.dropPayload _)
  · exact .refl ns

theorem leads_countNFCntDown (mqOk : Bool) (ns : NS) : Leads A ns (countNFCntDown mqOk ns) :=
  (leads_enqueue mqOk (.incrNFCntDown ns.mote.devAddr) ns).trans ⟨.single (.flags rfl), rfl, rfl⟩

/-! ### Uplinks -/

theorem leads_expire (env : UplinkEnv) (ns : NS) : Leads A ns (expire env ns) := by
  unfold expire
  split
  · split
    · exact leads_queueMacCmds _ ns
    · dsimp only
      split
      · exact (leads_enqueue _ _ ns).trans (leads_answer _ _)
      · exact leads_enqueue _ _ ns
  · exact .refl ns

theorem leads_checkMic (env : UplinkEnv) (FCntUp : ℕ) (ns : NS) :
    Leads A ns (mapS (fun _ => (checkMic A env ns.mote FCntUp).2) ns) := by
  have hrefl : Leads A ns (mapS (fun _ => ns.mote.s) ns) := .of_eq rfl rfl rfl
  unfold checkMic
  split
  · split
    · exact hrefl
    · unfold checkMic1v1
      dsimp only
      split
      · exact leads_mapS ns (.ConfFCntDown _)
      · split
        · exact leads_mapS ns (.restore _)
        · exact hrefl
  · exact hrefl

theorem leads_initNFCntDown (env : UplinkEnv) (ns : NS) : Leads A ns (initNFCntDown env ns) := by
  unfold initNFCntDown
  split
  · have hqueue := leads_enqueue (A := A) env.mqOk.zeroNFCntDown (.zeroNFCntDown ns.mote.devAddr) ns
    exact hqueue.trans (.of_eq rfl rfl rfl)
  · exact .refl ns

theorem leads_deleteOldSessions (mqOk : Bool) (newest : Option ℕ) (ns : NS) :
    Leads A ns (deleteOldSessions mqOk newest ns) := by
  unfold deleteOldSessions
  split
  · exact .refl ns
  · exact leads_enqueue _ _ ns

theorem leads_checkOldSessions (env : UplinkEnv) (wanted : Bool) (ns : NS) :
    Leads A ns (checkOldSessions env wanted ns) := by
  unfold checkOldSessions
  split
  · exact (leads_deleteOldSessions _ _ ns).trans (leads_mapS _ (.flags rfl))
  · exact .refl ns

theorem leads_handleACK (env : UplinkEnv) (ns : NS) : Leads A ns (handleACK env ns) := by
  unfold handleACK
  split
  · have hcount : Leads A ns
        (if ns.mote.s.incrNFCntDown then countNFCntDown env.mqOk.incrNFCntDown ns else ns) := by
      split
      · exact leads_countNFCntDown _ ns
      · exact .refl ns
    have hanswer : ∀ s : S, Relation.ReflTransGen (Change A) s
        (if s.md.Confirmed ∧ 0 < s.FRMPayloadLen then
          { s with
            answer_app_downlink := true
            FRMPayloadLen := if s.resend then 0 else s.FRMPayloadLen
            resend := false }
        else s) := by
      intro s
      split
      · by_cases hresend : s.resend = true
        · rw [if_pos hresend]
          exact (Relation.ReflTransGen.single (.dropPayload s)).tail (.flags rfl)
        · rw [if_neg hresend]
          exact .single (.flags rfl)
      · exact .refl
    exact hcount.trans ⟨hanswer _, rfl, rfl⟩
  · exact .refl ns

theorem leads_handleCommands (env : UplinkEnv) (ns : NS) : Leads A ns (handleCommands env ns) := by
  have hstart : Leads A ns (if ns.mote.s.session_start_at_uplink then queueMacCmds env.sessionOps
      (mapS (fun s => { s with session_start_at_uplink := false }) ns) else ns) := by
    split
    · exact (leads_mapS ns (.flags rfl)).trans (leads_queueMacCmds _ _)
    · exact .refl ns
  unfold handleCommands
  exact ((hstart.trans (leads_queueMacCmds _ _)).trans (leads_checkOldSessions env _ _)).trans
    (leads_mapS _ (.flags rfl))

theorem leads_storeFCntUp (env : UplinkEnv) (FCntUp : ℕ) (ns : NS) :
    Leads A ns (storeFCntUp env FCntUp ns) := by
  have haccepted : Leads A ns { ns with
      accepted := ns.accepted ++ [⟨ns.mote.session.row, FCntUp, ns.mote.counter⟩] } :=
    .of_eq rfl rfl rfl
  unfold storeFCntUp
  dsimp only
  split
  · exact haccepted.trans (leads_mapS _ (.flags rfl))
  · exact (haccepted.trans (leads_enqueue _ _ _)).trans (leads_mapS _ (.flags rfl))

theorem leads_takeUplink (env : UplinkEnv) (FCntUp : ℕ) (ns : NS) :
    Leads A ns (takeUplink env FCntUp ns) :=
  ((((leads_initNFCntDown env ns).trans (leads_checkOldSessions env _ _)).trans
    (leads_handleACK env _)).trans (leads_handleCommands env _)).trans (leads_storeFCntUp env _ _)

theorem leads_receiveUplink (env : UplinkEnv) (ns : NS) :
    Leads A ns (receiveUplink A env ns).2 := by
  unfold receiveUplink
  split
  · exact .refl ns
  · have hexpire := leads_expire (A := A) env ns
    dsimp only
    split
    · exact hexpire
    · have hnew : Leads A ns (mapS (fun s => { s with newFCntUp := true }) (expire env ns)) :=
        hexpire.trans (leads_mapS _ (.flags rfl))
      have hmic := hnew.trans (leads_checkMic env
        (FCntUp32 (expire env ns).mote.session.FCntUp (rxFCnt (expire env ns).mote)) _)
      split
      · exact hmic.trans (leads_takeUplink env _ _)
      · exact hmic.trans (.of_eq rfl rfl rfl)

/-! ### Sending -/

theorem leads_answerPending (env : SendEnv) (ns : NS) : Leads A ns (answerPending env ns) := by
  unfold answerPending
  split
  · exact (leads_mapS ns (.flags rfl)).trans (leads_answer _ _)
  · exact .refl ns

theorem leads_frameSent (env : SendEnv) (ns : NS) : Leads A ns (frameSent env ns) := by
  have hcount : Leads A ns
      (if MType (ns.mote.s.PHYPayloadBin.headD 0) = MTYPE_UNCONF_DN ∧ ns.mote.s.incrNFCntDown then
        countNFCntDown env.mqOk ns else ns) := by
    split
    · exact leads_countNFCntDown _ ns
    · exact .refl ns
  exact hcount.trans (leads_mapS _ (.sent _))

theorem leads_answerUnconfirmed (env : SendEnv) (ns : NS) :
    Leads A ns (answerUnconfirmed env ns) := by
  unfold answerUnconfirmed
  split
  · exact (leads_answer _ ns).trans (leads_mapS _ (.flags rfl))
  · exact .refl ns

theorem leads_sNSDownlinkSent (env : SendEnv) (success : Bool) (ns : NS) :
    Leads A ns (sNSDownlinkSent env success ns) := by
  unfold sNSDownlinkSent
  split
  · exact (leads_frameSent env ns).trans (leads_answerUnconfirmed env _)
  · exact leads_answerUnconfirmed env ns

theorem leads_transmit (env : SendEnv) (ns : NS) : Leads A ns (transmit env ns) := by
  have hair : Leads A ns (if env.air then { ns with
      sent := ns.sent ++ [⟨ns.mote.s.frame,
        ns.mote.s.PHYPayloadBin.take ns.mote.s.PHYPayloadLen⟩] } else ns) := by
    split
    · exact .of_eq rfl rfl rfl
    · exact .refl ns
  unfold transmit
  dsimp only
  split
  · exact hair.trans (leads_mapS _ (.sent _))
  · exact hair

theorem leads_finish (env : SendEnv) (ns : NS) : Leads A ns (sNS_finish_phy_downlink env ns) := by
  unfold sNS_finish_phy_downlink
  split
  · exact leads_answerPending env ns
  · split
    · exact .refl ns
    · refine Leads.trans ?_ (leads_answerPending env _)
      split
      · exact leads_transmit env ns
      · exact (leads_transmit env ns).trans (leads_sNSDownlinkSent env _ _)

/-! ### Join accepts -/

theorem leads_take_JoinAns (env : JoinAnsEnv) (ns : NS) : Leads A ns (take_JoinAns env ns) := by
  have hkeys : Leads A ns (takeKeys env ns) := .of_eq rfl rfl rfl
  unfold take_JoinAns
  split
  · exact .refl ns
  · split
    · have hrow : ∀ ns : NS, Leads A ns (add_database_session env ns) := fun ns =>
        ((leads_enqueue env.mqOk.deleteNeverUsed (.deleteNeverUsed ns.mote.ID) ns).trans
          (leads_enqueue env.mqOk.insert (.insert (sessionRow env ns)) _)).trans (.of_eq rfl rfl rfl)
      have hnew : ∀ s : S, Relation.ReflTransGen (Change A) s { s with
          checkOldSessions := true
          ConfFCntDown := if env.OptNeg then 0 else s.ConfFCntDown } := by
        intro s
        by_cases hopt : env.OptNeg = true
        · rw [if_pos hopt]
          exact (Relation.ReflTransGen.single (.ConfFCntDown s)).tail (.flags rfl)
        · rw [if_neg hopt]
          exact .single (.flags rfl)
      have htaken : Leads A (takeKeys env ns) (mapS (fun s => { s with
          checkOldSessions := true
          ConfFCntDown := if env.OptNeg then 0 else s.ConfFCntDown }) (takeKeys env ns)) :=
        ⟨hnew _, rfl, rfl⟩
      exact (hkeys.trans htaken).trans (hrow _)
    · exact hkeys.trans (leads_mapS _ (.dropPayload _))

theorem leads_sendRemote (env : JoinAnsEnv) (ns : NS) :
    Leads A ns (if env.remoteOk then
        mapS forgetSession (deleteOldSessions env.mqOk.deleteOld env.newest ns)
      else deleteOldSessions env.mqOk.deleteOld env.newest ns) := by
  have hdelete := leads_deleteOldSessions (A := A) env.mqOk.deleteOld env.newest ns
  split
  · exact hdelete.trans (leads_mapS _ (.forget _))
  · exact hdelete

theorem leads_sendJoinAccept (env : JoinAnsEnv) {ns : NS}
    (h : saveJoinAccept env ns.mote.s ≠ none) : Leads A ns (sendJoinAccept env ns) := by
  unfold sendJoinAccept
  split
  · split
    · split
      · rename_i hs
        exact absurd hs h
      · rename_i s hs
        split
        · exact ⟨(Relation.ReflTransGen.single (.joinAccept hs)).tail (.forget s), rfl, rfl⟩
        · exact leads_mapS ns (.joinAccept hs)
    · exact .refl ns
  · exact leads_sendRemote env ns

theorem leads_joinAns (env : JoinAnsEnv) (ns : NS) :
    Leads A ns (mapS (fun s => { s with session_start_at_uplink := true })
      (if env.lifetime.isSome then take_JoinAns env ns else ns)) := by
  have htake : Leads A ns (if env.lifetime.isSome then take_JoinAns env ns else ns) := by
    split
    · exact leads_take_JoinAns env ns
    · exact .refl ns
  exact htake.trans (leads_mapS _ (.flags rfl))

end Lorawan.NetworkServer

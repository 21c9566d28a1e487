import Lorawan.NetworkServer.AppRelay
import Lorawan.NetworkServer.DownlinkClass

/-!
# Confirmed downlinks wait for their ACK

A confirmed downlink that was sent at once is answered when it is acknowledged, or when it failed
for good. Until then the timer of `sNS_service` sends it again.
-/

namespace Lorawan.NetworkServer
open Lorawan Lorawan.Backend

variable {R D : Type} (E : JsonEnv R D) (A : BlockCipher)

/-! ### Runs -/

inductive ClassEvent (R D : Type)
  | hNS_to_sNS_downlink (env : ClassEnv) (ans : AnsEnv R) (md : DLMetaData) (q : Incoming)
  | sNS_service (env : ClassEnv) (ans : AnsEnv R)
  /-- PingSlotInfoReq and DeviceModeInd of the device. -/
  | device (ping_period : UInt16) (classModeInd : UInt8)
  /-- Another event of the server. -/
  | app (e : AppEvent R D)

/-- The events that have one of their own here. -/
def AppEvent.ofClass : AppEvent R D → Bool
  | .hNS_to_sNS_downlink .. | .resend .. => true
  | _ => false

/-- An uplink with an ACK was accepted. -/
def tookACK (a a' : AppState R D) : Bool :=
  rxACK a.ns.mote && decide (a.ns.accepted.length < a'.ns.accepted.length)

instance (env : UplinkEnv) (ns : NS) : Decidable (expiresRequest env ns) := by
  unfold expiresRequest
  infer_instance

/-- The session of the device expired before the downlink was acknowledged. -/
def AppEvent.expires (a : AppState R D) : AppEvent R D → Bool
  | .uplink env _ => decide (expiresRequest env a.ns)
  | _ => false

namespace ClassState

def handle (t : ClassState R D) : ClassEvent R D → ClassState R D
  | .hNS_to_sNS_downlink env ans md q => t.hNS_to_sNS_downlink E A env ans md q
  | .sNS_service env ans => t.sNS_service E A env ans
  | .device ping_period classModeInd =>
    { t with ping_period := ping_period, classModeInd := classModeInd }
  | .app e =>
    if e.ofClass then t
    else { t with
      app := t.app.step E A e
      awaitsAck := t.awaitsAck && !tookACK t.app (t.app.step E A e) && !e.expires t.app }

def step (t : ClassState R D) (e : ClassEvent R D) : ClassState R D :=
  if t.app.ended ∨ t.app.ns.overrun then t else t.handle E A e

/-- A confirmed downlink that is not acknowledged and did not fail is not answered. -/
def AwaitsAnswer (t : ClassState R D) : Prop := t.awaitsAck = true → ∃ r, t.app.served.Waits r

/-- A confirmed downlink is not sent while the answer to another one is due, and no frame that
another server had deferred is answered in its place. -/
def AcksInTurn (t : ClassState R D) : ClassEvent R D → Prop
  | .hNS_to_sNS_downlink env _ md _ =>
    refuses (t.neededEnv env) md t.app.ns.mote = false → md.Confirmed = true →
      t.classOf env ≠ none → t.app.ns.mote.s.answer_app_downlink = false
  | .app (.beacon _ ans) => t.awaitsAck = true → ans.roamState = .fPASSIVE
  | _ => True

end ClassState

/-! ### The numbers in the book -/

variable {E} {A}

theorem numbered_clearFrm {p : ℤ × AppState R D} (h : p.2.served.Numbered) :
    (AppState.clearFrm p).served.Numbered := by
  unfold AppState.clearFrm
  split
  · exact h
  · exact h

theorem numbered_http_post {a : AppState R D} (h : a.served.Numbered) (found : Bool) (tid : UInt64)
    (dest : Peer) (x : XmitAns D) :
    (a.http_post found tid (AppState.answered dest x)).2.served.Numbered := by
  unfold AppState.http_post
  split
  · exact h
  · split
    · exact h
    · cases found with
      | true => exact h.answer _
      | false => exact h

theorem numbered_answer {a : AppState R D} (h : a.served.Numbered) (ans : AnsEnv R)
    (result : Result) (httpd : Bool) :
    (a.answer_app_downlink E ans result httpd).served.Numbered := by
  unfold AppState.answer_app_downlink
  split
  · apply numbered_clearFrm
    unfold AppState.sNS_XmitDataAns_tohNS
    split
    · exact h
    · exact numbered_http_post h ..
  · split
    · exact h
    · apply numbered_clearFrm
      unfold AppState.sendXmitDataAns
      split
      · exact h
      · exact numbered_http_post h ..

theorem numbered_answerPending {a : AppState R D} (h : a.served.Numbered) (ans : AnsEnv R)
    (httpd : Bool) : (a.answerPending E ans httpd).served.Numbered := by
  unfold AppState.answerPending
  split
  · apply numbered_answer
    exact h
  · exact h

theorem numbered_downlinkSent {a : AppState R D} (h : a.served.Numbered) (send : SendEnv)
    (ans : AnsEnv R) (success httpd : Bool) :
    (a.sNSDownlinkSent E send ans success httpd).served.Numbered := by
  obtain ⟨f, hf, -⟩ := frameSent_mapNS a send success
  unfold AppState.sNSDownlinkSent
  dsimp only
  rw [hf]
  split
  · apply numbered_answer (a := a.mapNS f)
    exact h
  · exact h

theorem numbered_finish {a : AppState R D} (h : a.served.Numbered) (send : SendEnv)
    (ans : AnsEnv R) (httpd : Bool) :
    (a.sNS_finish_phy_downlink E send ans httpd).served.Numbered := by
  unfold AppState.sNS_finish_phy_downlink
  split
  · exact numbered_answerPending h ans httpd
  · split
    · exact h
    · apply numbered_answerPending
      cases send.result with
      | none => exact h
      | some success =>
        apply numbered_downlinkSent (a := a.handOver send ans)
        exact h

theorem numbered_downlinkBC {a : AppState R D} (h : a.served.Numbered) (env : DownlinkEnv)
    (ans : AnsEnv R) (httpd : Bool) : (a.downlinkBC E A env ans httpd).2.served.Numbered := by
  unfold AppState.downlinkBC
  dsimp only
  split
  · split
    · exact h
    · have hfinish : (((a.mapNS (mapS fun s => { s with resend := false })).mapNS
          (schedule A env.junk)).sNS_finish_phy_downlink E env.send ans httpd).served.Numbered := by
        apply numbered_finish
        exact h
      split
      · split
        · exact hfinish
        · exact hfinish
      · exact hfinish
  · exact h

theorem numbered_expire {a : AppState R D} (h : a.served.Numbered) (env : UplinkEnv)
    (ans : AnsEnv R) : (a.expire E env ans).served.Numbered := by
  unfold AppState.expire
  split
  · split
    · exact h
    · dsimp only
      split
      · apply numbered_answer
        exact h
      · exact h
  · exact h

theorem numbered_save {a : AppState R D} (h : a.served.Numbered) (ans : AnsEnv R) (q : Incoming)
    (s : S) : (a.save ans q s).served.Numbered := h.take q.req

theorem numbered_request {a : AppState R D} (h : a.served.Numbered) (env : DownlinkEnv)
    (ans : AnsEnv R) (md : DLMetaData) (q : Incoming) :
    (a.hNS_to_sNS_downlink E A env ans md q).served.Numbered := by
  unfold AppState.hNS_to_sNS_downlink
  split
  · exact h
  · split
    · exact h
    · rename_i s _
      have hbc := numbered_downlinkBC (E := E) (A := A) (numbered_save h ans q s) env ans true
      dsimp only
      split
      · exact hbc.reply
      · exact hbc

theorem numbered_resend {a : AppState R D} (h : a.served.Numbered) (env : DownlinkEnv)
    (ans : AnsEnv R) : (a.resend E A env ans).served.Numbered := by
  have hbc := numbered_downlinkBC (E := E) (A := A) h env ans false
  unfold AppState.resend
  split
  · generalize a.downlinkBC E A env ans false = out at hbc
    obtain ⟨result, a'⟩ := out
    cases result with
    | none => exact hbc
    | some result => exact numbered_answer hbc ans result false
  · exact h

/-- The events of the home server, and the answers of others. -/
def AppEvent.ofHome : AppEvent R D → Bool
  | .hNS_XmitDataReq_down .. | .XmitDataAns .. | .evict _ | .hNS_service _ | .answer _ => true
  | _ => false

theorem serving_of_home {e : AppEvent R D} (he : e.ofHome = true) (a : AppState R D) :
    (a.handle E A e).served = a.served ∧ (a.handle E A e).ns = a.ns := by
  have hpost : ∀ (found : Bool) (tid : UInt64) (record : AppState R D → AppState R D),
      (record = id ∨ ∃ dest x, record = AppState.answeredHome dest x) →
        (a.http_post found tid record).2.served = a.served ∧
          (a.http_post found tid record).2.ns = a.ns := by
    intro found tid record hrecord
    unfold AppState.http_post
    split
    · exact ⟨rfl, rfl⟩
    · split
      · exact ⟨rfl, rfl⟩
      · rcases hrecord with rfl | ⟨dest, x, rfl⟩
        · cases found <;> exact ⟨rfl, rfl⟩
        · cases found <;> exact ⟨rfl, rfl⟩
  cases e with
  | uplink | send | sNSDownlinkSent | resend | beacon | hNS_to_sNS_downlink | other => cases he
  | hNS_XmitDataReq_down env q =>
    show (a.hNS_XmitDataReq_down env q).served = _ ∧ (a.hNS_XmitDataReq_down env q).ns = _
    unfold AppState.hNS_XmitDataReq_down
    dsimp only
    split
    · exact ⟨rfl, rfl⟩
    · split <;> exact ⟨rfl, rfl⟩
  | XmitDataAns sentTID ans =>
    show (a.hNS_XmitDataAnsCallback_downlink E sentTID ans).served = _ ∧
      (a.hNS_XmitDataAnsCallback_downlink E sentTID ans).ns = _
    unfold AppState.hNS_XmitDataAnsCallback_downlink
    split <;> exact ⟨rfl, rfl⟩
  | evict sentTID => exact ⟨rfl, rfl⟩
  | hNS_service posting =>
    show (a.hNS_service posting).served = _ ∧ (a.hNS_service posting).ns = _
    unfold AppState.hNS_service
    split
    · exact ⟨rfl, rfl⟩
    · unfold AppState.sendXmitDataAns
      dsimp only
      split
      · exact ⟨rfl, rfl⟩
      · exact hpost _ _ _ (Or.inr ⟨_, _, rfl⟩)
  | answer tid => exact hpost true tid id (Or.inl rfl)

theorem numbered_handle {a : AppState R D} (h : a.served.Numbered) (e : AppEvent R D) :
    (a.handle E A e).served.Numbered := by
  cases e with
  | uplink env ans =>
    show (a.sNS_uplink E A env ans).served.Numbered
    unfold AppState.sNS_uplink
    split
    · exact h
    · exact numbered_expire h env ans
  | send send ans => exact numbered_finish h send ans false
  | sNSDownlinkSent send ans => exact numbered_downlinkSent h send ans true false
  | resend env ans => exact numbered_resend h env ans
  | beacon result ans =>
    show (a.beacon E result ans).served.Numbered
    unfold AppState.beacon
    split
    · exact h
    · exact numbered_answer h ans result false
  | hNS_to_sNS_downlink env ans md q => exact numbered_request h env ans md q
  | other e =>
    show (if e.ofApp then a else a.mapNS fun ns => NetworkServer.handle A ns e).served.Numbered
    split
    · exact h
    · exact h
  | hNS_XmitDataReq_down | XmitDataAns | evict | hNS_service | answer =>
    rw [(serving_of_home rfl a).1]
    exact h

/-! ### A downlink that waits for its ACK -/

/-- A confirmed payload of which no answer is due. -/
structure Held (a : AppState R D) : Prop where
  waits : ∃ r, a.served.Waits r
  confirmed : a.ns.mote.s.md.Confirmed = true
  notDue : a.ns.mote.s.answer_app_downlink = false

theorem Held.congr {a a' : AppState R D} (h : Held a) (hserved : a'.served = a.served)
    (hmd : a'.ns.mote.s.md = a.ns.mote.s.md)
    (hflag : a'.ns.mote.s.answer_app_downlink = a.ns.mote.s.answer_app_downlink) : Held a' := by
  refine ⟨?_, ?_, ?_⟩
  · rw [hserved]
    exact h.waits
  · rw [hmd]
    exact h.confirmed
  · rw [hflag]
    exact h.notDue

theorem Held.mapNS {a : AppState R D} (h : Held a) {f : NS → NS}
    (hf : (f a.ns).mote.s.pending = a.ns.mote.s.pending) : Held (a.mapNS f) := by
  obtain ⟨-, -, hmd, -, hflag⟩ := pending_eq hf
  exact h.congr rfl hmd hflag

theorem held_finish {a : AppState R D} (h : Held a) (send : SendEnv) (ans : AnsEnv R)
    (httpd : Bool) : Held (a.sNS_finish_phy_downlink E send ans httpd) := by
  obtain ⟨hserved, -, -, hflag, hmd⟩ := finish_quiet (E := E) send ans httpd h.confirmed h.notDue
  exact h.congr hserved hmd (hflag.trans h.notDue.symm)

theorem held_downlinkSent {a : AppState R D} (h : Held a) (send : SendEnv) (ans : AnsEnv R)
    (success httpd : Bool) : Held (a.sNSDownlinkSent E send ans success httpd) := by
  obtain ⟨f, hf, hpending⟩ := downlinkSent_quiet (E := E) h.confirmed send ans success httpd
  rw [hf]
  exact h.mapNS hpending

theorem held_other {a : AppState R D} (h : Held a) (e : Event) :
    Held (a.handle E A (.other e)) := by
  show Held (if e.ofApp then a else a.mapNS fun ns => NetworkServer.handle A ns e)
  split
  · exact h
  · rename_i hnot
    by_cases hjoin : ∃ env, e = .joinAns env
    · obtain ⟨env, rfl⟩ := hjoin
      rcases pending_joinAns (A := A) env a.ns with hsame | ⟨-, hdrop⟩
      · exact h.mapNS hsame
      · obtain ⟨-, -, hmd, -, hflag⟩ := pending_eq hdrop
        exact h.congr rfl hmd hflag
    · exact h.mapNS (pending_handle (Bool.eq_false_iff.mpr hnot) (fun env he => hjoin ⟨env, he⟩) _)

/-! ### Uplinks -/

/-- What the handling of an uplink leaves until it is accepted. -/
def heard (ns : NS) : List Accepted × Octets := (ns.accepted, ns.mote.ULPayloadBin)

theorem rxACK_of_heard {ns ns' : NS} (h : heard ns' = heard ns) :
    rxACK ns'.mote = rxACK ns.mote := by
  have hbin : ns'.mote.ULPayloadBin = ns.mote.ULPayloadBin := congrArg Prod.snd h
  unfold rxACK rxFCtrl
  rw [hbin]

@[simp] theorem heard_enqueue (mqOk : Bool) (u : Statement) (ns : NS) :
    heard (enqueue mqOk u ns) = heard ns := by
  cases mqOk <;> rfl

@[simp] theorem heard_countNFCntDown (mqOk : Bool) (ns : NS) :
    heard (countNFCntDown mqOk ns) = heard ns := by
  have h := heard_enqueue mqOk (.incrNFCntDown ns.mote.devAddr) ns
  exact h

@[simp] theorem heard_initNFCntDown (env : UplinkEnv) (ns : NS) :
    heard (initNFCntDown env ns) = heard ns := by
  unfold initNFCntDown
  split
  · exact heard_enqueue env.mqOk.zeroNFCntDown (.zeroNFCntDown ns.mote.devAddr) ns
  · rfl

@[simp] theorem heard_checkOldSessions (env : UplinkEnv) (wanted : Bool) (ns : NS) :
    heard (checkOldSessions env wanted ns) = heard ns := by
  have hdelete : heard (deleteOldSessions env.mqOk.deleteOld env.newest ns) = heard ns := by
    unfold deleteOldSessions
    split
    · rfl
    · exact heard_enqueue ..
  unfold checkOldSessions
  split
  · exact hdelete
  · rfl

@[simp] theorem heard_handleACK (env : UplinkEnv) (ns : NS) :
    heard (handleACK env ns) = heard ns := by
  unfold handleACK
  split
  · show heard (if ns.mote.s.incrNFCntDown then countNFCntDown env.mqOk.incrNFCntDown ns
      else ns) = heard ns
    split
    · exact heard_countNFCntDown env.mqOk.incrNFCntDown ns
    · rfl
  · rfl

@[simp] theorem heard_handleCommands (env : UplinkEnv) (ns : NS) :
    heard (handleCommands env ns) = heard ns := by
  have hstart : heard (if ns.mote.s.session_start_at_uplink then queueMacCmds env.sessionOps
      (mapS (fun s => { s with session_start_at_uplink := false }) ns) else ns) = heard ns := by
    split <;> rfl
  exact (heard_checkOldSessions env env.RekeyInd _).trans hstart

theorem accepted_storeFCntUp (env : UplinkEnv) (FCntUp : ℕ) (ns : NS) :
    (storeFCntUp env FCntUp ns).accepted.length = ns.accepted.length + 1 := by
  unfold storeFCntUp
  dsimp only
  split
  · exact List.length_append
  · cases env.mqOk.setFCntUp <;> exact List.length_append

theorem accepted_takeUplink (env : UplinkEnv) (FCntUp : ℕ) (ns : NS) :
    (takeUplink env FCntUp ns).accepted.length = ns.accepted.length + 1 := by
  have hheard : heard (handleCommands env (handleACK env (checkOldSessions env (!env.OptNeg)
      (initNFCntDown env ns)))) = heard ns := by simp
  have haccepted : (handleCommands env (handleACK env (checkOldSessions env (!env.OptNeg)
      (initNFCntDown env ns)))).accepted = ns.accepted := congrArg Prod.fst hheard
  rw [takeUplink, accepted_storeFCntUp, haccepted]

theorem pending_takeUplink {env : UplinkEnv} {ns : NS} (h : rxACK ns.mote = false) (FCntUp : ℕ) :
    (takeUplink env FCntUp ns).mote.s.pending = ns.mote.s.pending := by
  have hheard : heard (checkOldSessions env (!env.OptNeg) (initNFCntDown env ns)) = heard ns := by
    simp
  have hack := (rxACK_of_heard hheard).trans h
  unfold takeUplink
  rw [pending_storeFCntUp, pending_handleCommands, handleACK, hack, if_neg Bool.false_ne_true,
    pending_checkOldSessions, pending_initNFCntDown]

theorem pending_afterExpire_of_noACK {env : UplinkEnv} {ns : NS}
    (h : rxACK ns.mote = true → (afterExpire A env ns).accepted.length ≤ ns.accepted.length) :
    (afterExpire A env ns).mote.s.pending = ns.mote.s.pending := by
  unfold afterExpire at h ⊢
  split
  · rfl
  · rename_i hnot
    rw [if_neg hnot] at h
    dsimp only at h ⊢
    generalize FCntUp32 ns.mote.session.FCntUp (rxFCnt ns.mote) = FCntUp at h ⊢
    have hmic := pending_checkMic A env
      (mapS (fun s => { s with newFCntUp := true }) ns).mote FCntUp
    generalize checkMic A env (mapS (fun s => { s with newFCntUp := true }) ns).mote FCntUp = checked
      at hmic h ⊢
    split
    · rename_i hok
      rw [if_pos hok] at h
      generalize hchecked : mapS (fun _ => checked.2) (mapS (fun s =>
        { s with newFCntUp := true }) ns) = ns' at h ⊢
      have hheard : heard ns' = heard ns := by
        rw [← hchecked]
        rfl
      have hpending : ns'.mote.s.pending = ns.mote.s.pending := by
        rw [← hchecked]
        exact hmic
      have hack : rxACK ns'.mote = false := by
        rw [rxACK_of_heard hheard, ← Bool.not_eq_true]
        intro hack
        -- a taken uplink is one more
        have hle : (takeUplink env FCntUp ns').accepted.length ≤ ns.accepted.length := h hack
        have hsame : ns'.accepted = ns.accepted := congrArg Prod.fst hheard
        rw [accepted_takeUplink, hsame] at hle
        exact Nat.not_succ_le_self _ hle
      rw [pending_schedule]
      exact (pending_takeUplink hack FCntUp).trans hpending
    · exact hmic

theorem expire_quiet {a : AppState R D} {env : UplinkEnv} (ans : AnsEnv R)
    (hlen : a.ns.mote.ULPHYPayloadLen ≠ 0) (hsession : a.ns.mote.session.until_ ≠ .none)
    (h : ¬ expiresRequest env a.ns) :
    ∃ f : NS → NS, a.expire E env ans = a.mapNS f ∧
      (f a.ns).mote.s.pending = a.ns.mote.s.pending ∧ heard (f a.ns) = heard a.ns := by
  unfold AppState.expire
  split
  · rename_i hexpired
    split
    · exact ⟨_, rfl, rfl, rfl⟩
    · rename_i hopt
      have hpending := pending_enqueue env.mqOk.expired (.deleteOld a.ns.mote.ID none) a.ns
      obtain ⟨-, hFRM, -, -, -⟩ := pending_eq hpending
      have hzero : ¬ 0 < a.ns.mote.s.FRMPayloadLen := fun hpos =>
        h ⟨hlen, hsession, hexpired.1, hexpired.2, Bool.eq_false_iff.mpr hopt, hpos⟩
      refine ⟨fun ns => enqueue env.mqOk.expired (.deleteOld ns.mote.ID none) ns, ?_, hpending,
        heard_enqueue ..⟩
      refine if_neg ?_
      show ¬ 0 < (enqueue env.mqOk.expired (.deleteOld a.ns.mote.ID none) a.ns).mote.s.FRMPayloadLen
      rw [hFRM]
      exact hzero
  · exact ⟨id, rfl, rfl, rfl⟩

theorem held_uplink {a : AppState R D} (h : Held a) {env : UplinkEnv} {ans : AnsEnv R}
    (hack : tookACK a (a.sNS_uplink E A env ans) = false) (hexp : ¬ expiresRequest env a.ns) :
    Held (a.sNS_uplink E A env ans) := by
  unfold AppState.sNS_uplink at hack ⊢
  split
  · exact h
  · rename_i hsession
    rw [if_neg hsession] at hack
    rw [not_or] at hsession
    obtain ⟨f, hf, hpending, hheard⟩ := expire_quiet (E := E) ans hsession.1 hsession.2 hexp
    rw [hf] at hack ⊢
    apply (h.mapNS hpending).mapNS
    apply pending_afterExpire_of_noACK
    intro hrx
    have haccepted : (f a.ns).accepted = a.ns.accepted := congrArg Prod.fst hheard
    have hrx' : rxACK a.ns.mote = true := (rxACK_of_heard hheard).symm.trans hrx
    rw [tookACK, hrx', Bool.true_and, decide_eq_false_iff_not, Nat.not_lt] at hack
    show (afterExpire A env (f a.ns)).accepted.length ≤ (f a.ns).accepted.length
    rw [haccepted]
    exact hack

/-! ### Sending at once -/

theorem held_downlinkBC {a : AppState R D} (h : Held a) (env : DownlinkEnv) (ans : AnsEnv R)
    (httpd : Bool) : Held (a.downlinkBC E A env ans httpd).2 := by
  have hoff : Held (a.mapNS (mapS fun s => { s with resend := false })) := h.congr rfl rfl rfl
  unfold AppState.downlinkBC
  dsimp only
  split
  · have hframe := hoff.mapNS (pending_schedule A env.junk _)
    split
    · exact hframe
    · have hsent := held_finish (E := E) hframe env.send ans httpd
      split
      · split
        · exact hsent.congr rfl rfl rfl
        · exact hsent
      · exact hsent
  · exact hoff

namespace ClassState

/-- What holds in every run: a downlink that waits for its ACK is held back from being answered. -/
structure Inv (t : ClassState R D) : Prop where
  numbered : t.app.served.Numbered
  held : t.awaitsAck = true → Held t.app

theorem inv_init (rows : List SessionRow) (nextSerial ID devAddr : ℕ) :
    (init E rows nextSerial ID devAddr).Inv :=
  ⟨Book.numbered_empty, fun h => absurd h Bool.false_ne_true⟩

theorem Inv.awaitsAnswer {t : ClassState R D} (h : t.Inv) : t.AwaitsAnswer :=
  fun hawaits => (h.held hawaits).waits

theorem numbered_downlinkBC_app {t : ClassState R D} (h : t.app.served.Numbered) (env : ClassEnv)
    (ans : AnsEnv R) (httpd : Bool) :
    (t.downlinkBC E A env ans httpd).2.app.served.Numbered := by
  have hbc := numbered_downlinkBC (E := E) (A := A) h (t.classEnv env) ans httpd
  rw [downlinkBC_app] at hbc
  exact hbc

theorem held_downlinkBC_app {t : ClassState R D} (h : Held t.app) (env : ClassEnv)
    (ans : AnsEnv R) (httpd : Bool) : Held (t.downlinkBC E A env ans httpd).2.app := by
  have hbc := held_downlinkBC (E := E) (A := A) h (t.classEnv env) ans httpd
  rw [downlinkBC_app] at hbc
  exact hbc

theorem inv_request {t : ClassState R D} (h : t.Inv) {env : ClassEnv} {ans : AnsEnv R}
    {md : DLMetaData} {q : Incoming} (hc : t.AcksInTurn (.hNS_to_sNS_downlink env ans md q)) :
    (t.hNS_to_sNS_downlink E A env ans md q).Inv := by
  unfold hNS_to_sNS_downlink
  split
  · exact h
  · rename_i hrefused
    split
    · exact ⟨h.numbered, fun hawaits => (h.held hawaits).congr rfl rfl rfl⟩
    · rename_i s hs
      obtain ⟨bin, -, rfl⟩ := Option.map_eq_some_iff.mp hs
      dsimp only
      generalize ht' : ({ t with app := t.app.save ans q _, awaitsAck := false } : ClassState R D) = t'
      have hnumbered : t'.app.served.Numbered := by
        rw [← ht']
        exact numbered_save h.numbered ans q _
      have hbc := numbered_downlinkBC_app (E := E) (A := A) hnumbered env ans true
      have hheld : (t'.downlinkBC E A env ans true).2.awaitsAck = true →
          Held (t'.downlinkBC E A env ans true).2.app := by
        intro hawaits
        apply held_downlinkBC_app
        rcases awaitsAck_downlinkBC hawaits with hbefore | ⟨hclass, hconf⟩
        · rw [← ht'] at hbefore
          cases hbefore
        · rw [← ht'] at hclass hconf ⊢
          refine ⟨⟨q.req, Book.waits_take h.numbered q.req⟩, hconf, ?_⟩
          exact hc (Bool.eq_false_iff.mpr hrefused) hconf hclass
      split
      · rename_i hresult
        refine ⟨hbc.reply, fun hawaits => ?_⟩
        have hnone := awaitsAck_of_result (Option.isSome_iff_ne_none.mp hresult)
        exact absurd (hawaits.symm.trans hnone) (by decide)
      · exact ⟨hbc, hheld⟩

theorem inv_service {t : ClassState R D} (h : t.Inv) (env : ClassEnv) (ans : AnsEnv R) :
    (t.sNS_service E A env ans).Inv := by
  have hbc := numbered_downlinkBC_app (E := E) (A := A) h.numbered env ans false
  have hresult : (t.downlinkBC E A env ans false).1 ≠ none →
      (t.downlinkBC E A env ans false).2.awaitsAck = false := awaitsAck_of_result
  have hheld : t.awaitsAck = true → Held (t.downlinkBC E A env ans false).2.app :=
    fun hawaits => held_downlinkBC_app (h.held hawaits) env ans false
  unfold sNS_service
  split
  · generalize t.downlinkBC E A env ans false = out at hbc hresult hheld
    obtain ⟨result, t'⟩ := out
    cases result with
    | none =>
      refine ⟨hbc, fun hawaits => ?_⟩
      rw [Bool.and_eq_true] at hawaits
      exact hheld hawaits.1
    | some result =>
      refine ⟨numbered_answer hbc ans result false, fun hawaits => ?_⟩
      have hnone := hresult (Option.some_ne_none _)
      dsimp only at hawaits hnone
      rw [hnone, Bool.and_false] at hawaits
      cases hawaits
  · exact h

theorem inv_app {t : ClassState R D} (h : t.Inv) {e : AppEvent R D}
    (hc : t.AcksInTurn (.app e)) (hlive : ¬(t.app.ended ∨ t.app.ns.overrun)) :
    (t.handle E A (.app e)).Inv := by
  show (if e.ofClass then t else { t with
    app := t.app.step E A e
    awaitsAck := t.awaitsAck && !tookACK t.app (t.app.step E A e) && !e.expires t.app }).Inv
  have hstep : t.app.step E A e = t.app.handle E A e := if_neg hlive
  rw [hstep]
  split
  · exact h
  · rename_i hother
    refine ⟨numbered_handle h.numbered e, fun hawaits => ?_⟩
    simp only [Bool.and_eq_true, Bool.not_eq_true'] at hawaits
    obtain ⟨⟨hbefore, hack⟩, hexpires⟩ := hawaits
    have hheld := h.held hbefore
    by_cases hhome : e.ofHome = true
    · obtain ⟨hserved, hns⟩ := serving_of_home (E := E) (A := A) hhome t.app
      exact hheld.congr hserved (by rw [hns]) (by rw [hns])
    · cases e with
      | uplink env ans => exact held_uplink hheld hack (of_decide_eq_false hexpires)
      | send send ans => exact held_finish hheld send ans false
      | sNSDownlinkSent send ans => exact held_downlinkSent hheld send ans true false
      | resend => exact absurd rfl hother
      | beacon result ans =>
        show Held (t.app.beacon E result ans)
        rw [AppState.beacon, if_pos (hc hbefore)]
        exact hheld
      | hNS_to_sNS_downlink => exact absurd rfl hother
      | other e => exact held_other (E := E) hheld e
      | hNS_XmitDataReq_down | XmitDataAns | evict | hNS_service | answer => exact absurd rfl hhome

theorem inv_step {t : ClassState R D} {e : ClassEvent R D} (h : t.Inv) (hc : t.AcksInTurn e) :
    (t.step E A e).Inv := by
  unfold step
  split
  · exact h
  · rename_i hlive
    cases e with
    | hNS_to_sNS_downlink env ans md q => exact inv_request h hc
    | sNS_service env ans => exact inv_service h env ans
    | device ping_period classModeInd => exact ⟨h.numbered, h.held⟩
    | app e => exact inv_app h hc hlive

end ClassState

variable (E A)

/-- A downlink is sent in the class that is claimed, a confirmed one with the resend time of that
class, exactly when the columns of the profile are read; and it is answered only after its ACK or
its failure as long as no other answer falls due for it. -/
theorem byClass_and_awaitsAnswer (rows : List SessionRow) (nextSerial ID devAddr : ℕ) :
    (∀ (env : ClassEnv) (ans : AnsEnv R) (httpd : Bool) (t : ClassState R D),
      t.ByClass E A env ans httpd ↔ t.ReadsProfile A env) ∧
    ∀ es : List (ClassEvent R D),
      Machine.Along (ClassState.step E A) ClassState.AcksInTurn
        (ClassState.init E rows nextSerial ID devAddr) es →
      (Machine.run (ClassState.step E A) (ClassState.init E rows nextSerial ID devAddr)
        es).AwaitsAnswer := by
  constructor
  · intro env ans httpd t
    exact ClassState.byClass_iff env ans httpd t
  · intro es h
    have hinit := ClassState.inv_init (E := E) rows nextSerial ID devAddr
    have hinv := Machine.run_invariant _ (fun _ _ hinv hc => ClassState.inv_step hinv hc) hinit h
    exact hinv.awaitsAnswer

/-! ### A device of class B -/

def classTables (p : ClassProfile) : ProfileTables := ⟨[⟨1, some 5⟩], [], [(1, p)]⟩

/-- Every query is answered. -/
def readEnv (p : ClassProfile) (now : ℕ) : ClassEnv :=
  ⟨classTables p, 5, false, ⟨true, true⟩, ⟨true, true⟩, ⟨true, true⟩, ⟨true, true⟩, [], [], [], 0, now,
    [], fun _ => plainSend⟩

def classBProfile : ClassProfile := ⟨true, 10, false, 0⟩

def classCProfile : ClassProfile := ⟨false, 0, true, 30⟩

def classRun (es : List (ClassEvent ℚ ℚ)) : ClassState ℚ ℚ :=
  Machine.run (ClassState.step numberEnv BlockCipher.xorKey)
    (ClassState.init numberEnv [sampleRow] 1 1 sampleDevAddr) es

/-- A confirmed downlink for the device. -/
def classRequest (p : ClassProfile) : ClassEvent ℚ ℚ :=
  .hNS_to_sNS_downlink (readEnv p 100) plainAns ⟨1, 0, true⟩ (sampleIncoming 7 [1])

/-- The payload for a device of class B with a known ping period stays, and a confirmed downlink is
answered when another frame that was deferred is sent. -/
theorem classB_downlink_stays :
    (classRun [.device 128 0]).claimedClass (readEnv classBProfile 100) = some .B ∧
      (classRun [.device 128 0, classRequest classBProfile]).handed = [] ∧
      ¬ (classRun [.device 128 0]).ByClass numberEnv BlockCipher.xorKey (readEnv classBProfile 100)
        plainAns true ∧
      ¬ (classRun [classRequest classCProfile, .app (.beacon .Success plainAns)]).AwaitsAnswer := by
  refine ⟨by decide +kernel, by decide +kernel, ?_, ?_⟩
  · intro h
    have hhanded := h.handed
    rw [ClassState.handed_downlinkBC] at hhanded
    exact absurd (List.append_cancel_left hhanded) (by decide +kernel)
  · intro h
    obtain ⟨r, hr⟩ := h (by decide +kernel)
    exact absurd (congrArg List.length hr.unanswered) (by decide +kernel)

/-- A confirmed downlink in class C: sent, sent again after the timeout, and not answered yet. -/
theorem classC_downlink_waits :
    ((classRun []).ByClass numberEnv BlockCipher.xorKey (readEnv classCProfile 100) plainAns true) ∧
      (classRun [classRequest classCProfile]).resendTime = some 130 ∧
      (classRun [classRequest classCProfile, .sNS_service (readEnv classCProfile 130)
        plainAns]).handed = [.C, .C] ∧
      ∃ r, (classRun [classRequest classCProfile, .sNS_service (readEnv classCProfile 130)
        plainAns]).app.served.Waits r := by
  obtain ⟨hiff, hrun⟩ :=
    byClass_and_awaitsAnswer numberEnv BlockCipher.xorKey [sampleRow] 1 1 sampleDevAddr
  have hwaits : (classRun [classRequest classCProfile, .sNS_service (readEnv classCProfile 130)
      plainAns]).AwaitsAnswer := by
    refine hrun _ ⟨fun _ _ _ => ?_, trivial, trivial⟩
    decide +kernel
  refine ⟨(hiff _ _ _ _).mpr ⟨?_, ?_⟩, by decide +kernel, by decide +kernel,
    hwaits (by decide +kernel)⟩
  · have hping : ¬ 0 < (classRun []).ping_period := by decide +kernel
    rw [ClassState.ReadsFlags, if_neg hping]
    exact fun _ => Or.inl (by decide +kernel)
  · exact fun _ _ _ => Or.inl (by decide +kernel)

end Lorawan.NetworkServer

import Lorawan.NetworkServer.AppDownlink
import Lorawan.NetworkServer.FrameLayout
import Lorawan.NetworkServer.UplinkMetaData

/-!
# The bookkeeping of the application's downlinks

One request at a time is served well: it keeps its slot until it is answered, and
the answer goes to its requester under its TransactionID. What the functions of the
server leave of the slot comes first, then what an answer does, then each event.
-/

namespace Lorawan.NetworkServer
open Lorawan Lorawan.Backend Backend.mtype_e

variable {R D : Type} (E : JsonEnv R D) (A : BlockCipher)

/-! ### What is claimed -/

def AnswerFits (r : XmitReq) (p : PostedXmit D) : Prop := p.dest = r.origin ∧ p.reqTid = r.reqTid

/-- A reader finds the same values in the two answers. -/
structure XmitAns.Same (C : Json.Conversions Member D) (ans ans' : XmitAns D) : Prop where
  result : ans.result = ans'.result
  FCntDown : ans.FCntDown.map (Json.get_int C) = ans'.FCntDown.map (Json.get_int C)
  DLFreq1 : ans.DLFreq1.map (Json.get_double C) = ans'.DLFreq1.map (Json.get_double C)
  DLFreq2 : ans.DLFreq2.map (Json.get_double C) = ans'.DLFreq2.map (Json.get_double C)

/-- The answer of the home server carries what the serving server answered. -/
def RelayFits (C : Json.Conversions Member D) (r : XmitReq)
    (p : PostedXmit D × Option (XmitAns D)) : Prop :=
  AnswerFits r p.1 ∧ ∃ served, p.2 = some served ∧ p.1.ans.Same C served

/-- The payload is still there, whole, or the answer is already due. -/
def HoldsPayload (r : XmitReq) (s : S) : Prop :=
  s.FRMPayloadBin.take r.payload.length = r.payload ∧
    (s.FRMPayloadLen = r.payload.length ∨ s.FRMPayloadLen = 0 ∧ s.answer_app_downlink = true)

/-- Every request without a reply was answered once, or waits with its payload. -/
structure AppState.KeepsBook (C : Json.Conversions Member D) (a : AppState R D) : Prop where
  alive : a.ended = false
  served : a.served.InOrder AnswerFits
  payload : ∀ r, a.served.Waits r → HoldsPayload r a.ns.mote.s
  due : ∀ r, a.served.Waits r →
    0 < a.ns.mote.s.FRMPayloadLen ∨ a.ns.mote.s.answer_app_downlink = true
  home : a.home.InOrder (RelayFits C)

/-! ### The condition -/

/-- An answer can be posted, to the one who waits for it. -/
structure AppState.MayAnswer (a : AppState R D) (ans : AnsEnv R) : Prop where
  posting : ans.posting = .done
  fresh : checkTid a.slot.reqTid a.tids ≠ none
  handover : ∀ r, a.served.Waits r → ans.roamState = .sHANDOVER →
    r.origin = .NS ans.roamingWithNetID

theorem AppState.MayAnswer.congr {a a' : AppState R D} {ans : AnsEnv R} (h : a.MayAnswer ans)
    (hserved : a'.served = a.served) (hreqTid : a'.slot.reqTid = a.slot.reqTid)
    (htids : a'.tids = a.tids) : a'.MayAnswer ans := by
  refine ⟨h.posting, ?_, ?_⟩
  · rw [hreqTid, htids]
    exact h.fresh
  · rw [hserved]
    exact h.handover

/-- An uplink of an expired session answers the request. -/
def expiresRequest (env : UplinkEnv) (ns : NS) : Prop :=
  ns.mote.ULPHYPayloadLen ≠ 0 ∧ ns.mote.session.until_ ≠ .none ∧
    ns.mote.session.until_ ≠ .never ∧ ns.mote.session.expired = true ∧ env.OptNeg = false ∧
      0 < ns.mote.s.FRMPayloadLen

def unconfirmedWaits (s : S) : Prop := s.md.Confirmed = false ∧ 0 < s.FRMPayloadLen

/-- A frame that is handed over, or the end of `sNS_finish_phy_downlink`, answers the request. -/
def finishAnswers (send : SendEnv) (s : S) : Prop :=
  (s.PHYPayloadLen = 0 ∨ send.aborted = false) ∧
    (s.answer_app_downlink = true ∨
      s.PHYPayloadLen ≠ 0 ∧ send.result ≠ none ∧ unconfirmedWaits s)

/-- The value is a whole number that an `int` holds. -/
def WholeNumber (C : Json.Conversions Member D) (v : Json Member D) : Prop :=
  ∃ n : Int32, v = .new_int n ∨ v = .double (C.toDouble (.new_int n))

/-- Nothing waits when a request comes, an answer goes to the one who waits, and the frequencies
that are passed on are whole numbers. -/
def AppState.OneAtATime (a : AppState R D) : AppEvent R D → Prop
  | .uplink env ans =>
    expiresRequest env a.ns → a.MayAnswer ans ∧ a.ns.mote.s.answer_app_downlink = false
  | .send send ans => finishAnswers send a.ns.mote.s → a.MayAnswer ans
  | .sNSDownlinkSent _ ans => unconfirmedWaits a.ns.mote.s → a.MayAnswer ans
  | .resend env ans =>
    a.ns.mote.s.resend = true → env.now = true →
      env.send.aborted = true ∨ env.send.result = some false →
        ¬ a.served.Answered ∧ a.MayAnswer ans
  | .beacon _ ans =>
    ans.roamState ≠ .fPASSIVE →
      ¬ a.served.Answered ∧ a.MayAnswer ans ∧ a.ns.mote.s.answer_app_downlink = false
  | .hNS_to_sNS_downlink env ans md q =>
    refuses env md a.ns.mote = false →
      (∀ r, ¬ a.served.Waits r) ∧ q.payload ≠ [] ∧ q.fromAS = ans.isAnsDestAS ∧
        (q.fromAS = true ∨ (Text.scan 16 32 q.requester).isSome) ∧
        (env.now = true → ans.roamState = .sHANDOVER →
          ans.posting = .done ∧ checkTid q.reqTid a.tids ≠ none ∧
            q.req.origin = .NS ans.roamingWithNetID)
  | .other (.joinAns env) =>
    ∀ r, a.served.Waits r → a.ns.mote.s.answer_app_downlink = false →
      env.lifetime = none ∨ env.lifetime = some 0 ∨ env.keysOk = true
  | .hNS_XmitDataReq_down _ q => (∀ r, ¬ a.home.Waits r) ∧ a.h.ans = none ∧ q.fromAS = true
  | .XmitDataAns sentTID ans =>
    ∀ t, a.h.registered.find? (fun t => t.1 = sentTID) = some t →
      t.2 = a.home.requests.length ∧ (∀ v ∈ ans.DLFreq1, WholeNumber E.conv v) ∧
        ∀ v ∈ ans.DLFreq2, WholeNumber E.conv v
  | .hNS_service posting =>
    a.h.ans.isSome → posting ≠ .noHandle ∧ checkTid a.h.reqTid a.tids ≠ none
  | .answer tid => checkTid tid a.tids ≠ none
  | .other _ | .evict _ => True

/-- An unconfirmed frame that was sent, and an ACK that came, are followed by the answer. -/
def AppState.AnswersWhenDue (a : AppState R D) : Prop :=
  ∀ send ans, a.MayAnswer ans →
    (unconfirmedWaits a.ns.mote.s →
      ∀ r, ¬ (a.handle E A (.sNSDownlinkSent send ans)).served.Waits r) ∧
    (finishAnswers send a.ns.mote.s → ∀ r, ¬ (a.handle E A (.send send ans)).served.Waits r)

/-! ### The slot in `s_t` -/

/-- The members of `S` that hold the request. -/
def S.pending (s : S) : Octets × ℕ × DLMetaData × Bool × Bool :=
  (s.FRMPayloadBin, s.FRMPayloadLen, s.md, s.resend, s.answer_app_downlink)

theorem pending_eq {s s' : S} (h : s.pending = s'.pending) :
    s.FRMPayloadBin = s'.FRMPayloadBin ∧ s.FRMPayloadLen = s'.FRMPayloadLen ∧ s.md = s'.md ∧
      s.resend = s'.resend ∧ s.answer_app_downlink = s'.answer_app_downlink := by
  simpa only [S.pending, Prod.mk.injEq] using h

@[simp] theorem pending_enqueue (mqOk : Bool) (u : Statement) (ns : NS) :
    (enqueue mqOk u ns).mote.s.pending = ns.mote.s.pending := by
  unfold enqueue
  split <;> rfl

@[simp] theorem pending_queueMacCmds (ops : List MacOp) (ns : NS) :
    (queueMacCmds ops ns).mote.s.pending = ns.mote.s.pending := rfl

@[simp] theorem pending_countNFCntDown (mqOk : Bool) (ns : NS) :
    (countNFCntDown mqOk ns).mote.s.pending = ns.mote.s.pending := by
  have h := pending_enqueue mqOk (.incrNFCntDown ns.mote.devAddr) ns
  exact h

theorem pending_buildFrame {junk : Octets} {m m' : Mote} (h : buildFrame A junk m = some m') :
    m'.s.pending = m.s.pending := by
  simp only [buildFrame, bind, Option.bind_eq_some_iff, Prod.exists] at h
  obtain ⟨s1, h1, s2, using_AFCntDwn, h2, s3, h3, s4, h4, hm⟩ := h
  obtain rfl := Option.some.inj hm
  obtain ⟨e1, -⟩ := get_queued_mac_cmds_some A h1
  obtain ⟨e2, -⟩ := addPayload_some h2
  obtain ⟨e3, -⟩ := sealFrame_some A h3
  obtain ⟨e4, -⟩ := keepConfirmed_some h4
  show s4.pending = m.s.pending
  rw [e4, e3, e2, e1]
  rfl

@[simp] theorem pending_schedule (junk : Octets) (ns : NS) :
    (schedule A junk ns).mote.s.pending = ns.mote.s.pending := by
  unfold schedule sNS_schedule_downlink
  dsimp only
  split
  · cases h : buildFrame A junk ns.mote with
    | none => rfl
    | some m => exact pending_buildFrame A h
  · rfl

@[simp] theorem pending_frameSent (send : SendEnv) (ns : NS) :
    (frameSent send ns).mote.s.pending = ns.mote.s.pending := by
  unfold frameSent
  split
  · exact pending_countNFCntDown send.mqOk ns
  · rfl

@[simp] theorem pending_transmit (send : SendEnv) (ns : NS) :
    (transmit send ns).mote.s.pending = ns.mote.s.pending := by
  unfold transmit
  cases send.air <;> dsimp only <;> split <;> rfl

@[simp] theorem pending_initNFCntDown (env : UplinkEnv) (ns : NS) :
    (initNFCntDown env ns).mote.s.pending = ns.mote.s.pending := by
  unfold initNFCntDown
  split
  · exact pending_enqueue env.mqOk.zeroNFCntDown (.zeroNFCntDown ns.mote.devAddr) ns
  · rfl

@[simp] theorem pending_deleteOldSessions (mqOk : Bool) (newest : Option ℕ) (ns : NS) :
    (deleteOldSessions mqOk newest ns).mote.s.pending = ns.mote.s.pending := by
  unfold deleteOldSessions
  split
  · rfl
  · exact pending_enqueue ..

@[simp] theorem pending_checkOldSessions (env : UplinkEnv) (wanted : Bool) (ns : NS) :
    (checkOldSessions env wanted ns).mote.s.pending = ns.mote.s.pending := by
  unfold checkOldSessions
  split
  · exact pending_deleteOldSessions ..
  · rfl

@[simp] theorem pending_handleCommands (env : UplinkEnv) (ns : NS) :
    (handleCommands env ns).mote.s.pending = ns.mote.s.pending := by
  have hstart : (if ns.mote.s.session_start_at_uplink then queueMacCmds env.sessionOps
      (mapS (fun s => { s with session_start_at_uplink := false }) ns) else ns).mote.s.pending =
        ns.mote.s.pending := by
    split <;> rfl
  exact (pending_checkOldSessions env env.RekeyInd _).trans hstart

@[simp] theorem pending_storeFCntUp (env : UplinkEnv) (FCntUp : ℕ) (ns : NS) :
    (storeFCntUp env FCntUp ns).mote.s.pending = ns.mote.s.pending := by
  unfold storeFCntUp
  dsimp only
  split
  · rfl
  · exact pending_enqueue env.mqOk.setFCntUp (.setFCntUp FCntUp ns.mote.devAddr) _

theorem pending_checkMic (env : UplinkEnv) (m : Mote) (FCntUp : ℕ) :
    (checkMic A env m FCntUp).2.pending = m.s.pending := by
  unfold checkMic
  split
  · split
    · rfl
    · unfold checkMic1v1
      dsimp only
      split
      · rfl
      · split <;> rfl
  · rfl

/-- What an ACK makes of the slot. -/
def ackPending (s : S) : Octets × ℕ × DLMetaData × Bool × Bool :=
  (s.FRMPayloadBin, if s.resend then 0 else s.FRMPayloadLen, s.md, false, true)

/-- An ACK makes the answer to a confirmed payload due. -/
def Acked (s : S) (p : Octets × ℕ × DLMetaData × Bool × Bool) : Prop :=
  p = s.pending ∨ s.md.Confirmed = true ∧ 0 < s.FRMPayloadLen ∧ p = ackPending s

theorem acked_congr {s s' : S} (h : s.pending = s'.pending)
    {p : Octets × ℕ × DLMetaData × Bool × Bool} (hp : Acked s p) : Acked s' p := by
  obtain ⟨hbin, hlen, hmd, hresend, hflag⟩ := pending_eq h
  simpa only [Acked, S.pending, ackPending, hbin, hlen, hmd, hresend, hflag] using hp

theorem pending_handleACK (env : UplinkEnv) (ns : NS) :
    Acked ns.mote.s (handleACK env ns).mote.s.pending := by
  have hcount : (if ns.mote.s.incrNFCntDown then countNFCntDown env.mqOk.incrNFCntDown ns
      else ns).mote.s.pending = ns.mote.s.pending := by
    split
    · exact pending_countNFCntDown env.mqOk.incrNFCntDown ns
    · rfl
  unfold handleACK
  split
  · apply acked_congr hcount
    generalize (if ns.mote.s.incrNFCntDown then countNFCntDown env.mqOk.incrNFCntDown ns
      else ns) = ns'
    dsimp only [mapS]
    split
    · rename_i hack
      exact Or.inr ⟨hack.1, hack.2, rfl⟩
    · exact Or.inl rfl
  · exact Or.inl rfl

theorem pending_afterExpire (env : UplinkEnv) (ns : NS) :
    Acked ns.mote.s (afterExpire A env ns).mote.s.pending := by
  unfold afterExpire
  split
  · exact Or.inl rfl
  · dsimp only
    generalize FCntUp32 ns.mote.session.FCntUp (rxFCnt ns.mote) = FCntUp
    have hmic := pending_checkMic A env
      (mapS (fun s => { s with newFCntUp := true }) ns).mote FCntUp
    generalize checkMic A env (mapS (fun s => { s with newFCntUp := true }) ns).mote FCntUp = checked
      at hmic ⊢
    have hnew : checked.2.pending = ns.mote.s.pending := hmic
    split
    · rw [pending_schedule]
      unfold takeUplink
      rw [pending_storeFCntUp, pending_handleCommands]
      refine acked_congr ?_ (pending_handleACK env _)
      rw [pending_checkOldSessions, pending_initNFCntDown]
      exact hnew
    · exact Or.inl hnew

/-! ### An answer -/

/-- The slot names the requester. -/
structure AppSlot.Names (slot : AppSlot R) (r : XmitReq) : Prop where
  reqTid : slot.reqTid = r.reqTid
  dest : ∀ junk, peerOf junk slot.isAnsDestAS slot.ansDest_ = r.origin

structure BookOk (a : AppState R D) : Prop where
  alive : a.ended = false
  order : a.served.InOrder AnswerFits
  numbered : a.served.Numbered
  slot : ∀ r, a.served.Waits r → a.slot.Names r

/-- The slot holds a request that waits; nothing of an answered one is left that answers again. -/
structure PendingOk (b : Book XmitReq (PostedXmit D)) (s : S) : Prop where
  live : ∀ r, b.Waits r → HoldsPayload r s ∧ r.payload ≠ []
  answered : b.Answered → s.FRMPayloadLen = 0 ∧ s.answer_app_downlink = false
  resend : s.resend = true → s.answer_app_downlink = false ∧ s.md.Confirmed = true

theorem PendingOk.congr {b : Book XmitReq (PostedXmit D)} {s s' : S} (h : PendingOk b s)
    (hp : s'.pending = s.pending) : PendingOk b s' := by
  obtain ⟨hbin, hlen, hmd, hresend, hflag⟩ := pending_eq hp
  constructor
  · intro r hr
    rw [HoldsPayload, hbin, hlen, hflag]
    exact h.live r hr
  · rw [hlen, hflag]
    exact h.answered
  · rw [hresend, hflag, hmd]
    exact h.resend

theorem PendingOk.nonempty {b : Book XmitReq (PostedXmit D)} {s : S} (h : PendingOk b s) {r : XmitReq}
    (hr : b.Waits r) : 0 < s.FRMPayloadLen ∨ s.answer_app_downlink = true := by
  obtain ⟨⟨-, hwhole | ⟨-, hflag⟩⟩, hne⟩ := h.live r hr
  · left
    rw [hwhole]
    exact List.length_pos_of_ne_nil hne
  · exact Or.inr hflag

theorem PendingOk.not_answered {b : Book XmitReq (PostedXmit D)} {s : S} (h : PendingOk b s)
    (hlive : 0 < s.FRMPayloadLen ∨ s.answer_app_downlink = true) : ¬ b.Answered := by
  intro hanswered
  obtain ⟨hlen, hflag⟩ := h.answered hanswered
  rcases hlive with hpos | htrue
  · omega
  · exact absurd (hflag.symm.trans htrue) Bool.false_ne_true

theorem pendingOk_none {b : Book XmitReq (PostedXmit D)} {s : S} (hb : ∀ r, ¬ b.Waits r)
    (hlen : s.FRMPayloadLen = 0) (hflag : s.answer_app_downlink = false)
    (hresend : s.resend = true → s.md.Confirmed = true) : PendingOk b s where
  live := fun r hr => absurd hr (hb r)
  answered := fun _ => ⟨hlen, hflag⟩
  resend := fun h => ⟨hflag, hresend h⟩

theorem BookOk.mapNS {a : AppState R D} (h : BookOk a) (f : NS → NS) : BookOk (a.mapNS f) :=
  ⟨h.alive, h.order, h.numbered, h.slot⟩

/-- An answer that is posted: it is entered, and the payload is cleared. -/
structure Posts (a a' : AppState R D) : Prop where
  ns : a'.ns = NetworkServer.answer_app_downlink true a.ns
  book : BookOk a'
  waits : ∀ r, ¬ a'.served.Waits r

theorem posts_http_post {a : AppState R D} (h : BookOk a) {tid : UInt64} {dest : Peer}
    {ans : XmitAns D} (hnew : ¬ a.served.Answered) (hfresh : checkTid tid a.tids ≠ none)
    (hfits : ∀ r, a.served.Waits r → dest = r.origin) :
    Posts a (AppState.clearFrm (a.http_post true tid (AppState.answered dest ans))) := by
  obtain ⟨tids, htids⟩ := Option.ne_none_iff_exists'.mp hfresh
  have hpost : a.http_post true tid (AppState.answered dest ans) =
      (0, AppState.answered dest ans { a with tids := tids }) := by
    rw [AppState.http_post, h.alive, if_neg Bool.false_ne_true, htids]
    rfl
  have hwaits : ∀ r, ¬ (a.served.answer ⟨dest, a.slot.reqTid, ans⟩).Waits r :=
    Book.not_waits_answer _ _
  rw [hpost]
  unfold AppState.clearFrm
  dsimp only
  rw [if_neg (Int.lt_irrefl 0)]
  refine ⟨rfl, ⟨h.alive, ?_, h.numbered.answer _, fun r hr => absurd hr (hwaits r)⟩, hwaits⟩
  exact h.order.answer hnew fun r hr => ⟨hfits r hr, (h.slot r hr).reqTid⟩

theorem posts_answer {a : AppState R D} (h : BookOk a) (hnew : ¬ a.served.Answered) {ans : AnsEnv R}
    (hmay : a.MayAnswer ans) (result : Result) {httpd : Bool}
    (hposts : httpd = false ∨ ans.roamState = .sHANDOVER) :
    Posts a (a.answer_app_downlink E ans result httpd) := by
  have hne : ans.posting ≠ .noHandle := by
    rw [hmay.posting]
    decide
  unfold AppState.answer_app_downlink
  split
  · rename_i hroam
    rw [AppState.sNS_XmitDataAns_tohNS, if_neg hne, hmay.posting]
    apply posts_http_post h hnew hmay.fresh
    intro r hr
    exact (hmay.handover r hr hroam).symm
  · rename_i hroam
    have hhttpd : httpd = false := hposts.resolve_right hroam
    rw [hhttpd, if_neg Bool.false_ne_true, AppState.sendXmitDataAns, if_neg hne, hmay.posting,
      decide_eq_true rfl, Bool.or_true]
    apply posts_http_post h hnew hmay.fresh
    intro r hr
    exact (h.slot r hr).dest ans.junk

theorem answer_reply {a : AppState R D} {ans : AnsEnv R} (result : Result)
    (hroam : ans.roamState ≠ .sHANDOVER) : a.answer_app_downlink E ans result true = a := by
  rw [AppState.answer_app_downlink, if_neg hroam, if_pos rfl]

variable {E} {A}

theorem pendingOk_posts {a a' : AppState R D} (h : Posts a a')
    (hflag : a.ns.mote.s.answer_app_downlink = false)
    (hresend : a.ns.mote.s.resend = true → a.ns.mote.s.md.Confirmed = true) :
    PendingOk a'.served a'.ns.mote.s := by
  apply pendingOk_none h.waits
  · rw [h.ns]
    rfl
  · rw [h.ns]
    exact hflag
  · rw [h.ns]
    exact hresend

/-! ### Frames that are sent -/

/-- What the serving side keeps. -/
structure ServedInv (a : AppState R D) : Prop where
  book : BookOk a
  slot : PendingOk a.served a.ns.mote.s

theorem ServedInv.mapNS {a : AppState R D} (h : ServedInv a) {f : NS → NS}
    (hf : (f a.ns).mote.s.pending = a.ns.mote.s.pending) : ServedInv (a.mapNS f) :=
  ⟨h.book.mapNS f, h.slot.congr hf⟩

/-- Whether an answer is posted, or goes into the reply to a request. -/
def postsAnswer (httpd : Bool) (ans : AnsEnv R) : Prop :=
  httpd = false ∨ ans.roamState = .sHANDOVER

/-- The state after a part of `sNS_finish_phy_downlink`. -/
structure Sends (a a' : AppState R D) : Prop where
  inv : ServedInv a'
  md : a'.ns.mote.s.md = a.ns.mote.s.md
  resend : a'.ns.mote.s.resend = a.ns.mote.s.resend

/-- The answer is no longer due. -/
def notDue (s : S) : S := { s with answer_app_downlink := false }

theorem sends_answered {a : AppState R D} (h : ServedInv a) (hnew : ¬ a.served.Answered)
    {ans : AnsEnv R} (result : Result) {httpd : Bool} (hmay : postsAnswer httpd ans → a.MayAnswer ans)
    (hlen : ¬ postsAnswer httpd ans → ∀ r, a.served.Waits r → 0 < a.ns.mote.s.FRMPayloadLen) :
    let a' := (a.mapNS (mapS notDue)).answer_app_downlink E ans result httpd
    Sends a a' ∧ a'.ns.mote.s.answer_app_downlink = false ∧
      (postsAnswer httpd ans → ∀ r, ¬ a'.served.Waits r) ∧
      (¬ postsAnswer httpd ans →
        a'.served = a.served ∧ a'.ns.mote.s.FRMPayloadLen = a.ns.mote.s.FRMPayloadLen) := by
  intro a'
  have hbook : BookOk (a.mapNS (mapS notDue)) := h.book.mapNS _
  have hresend : a.ns.mote.s.resend = true → a.ns.mote.s.md.Confirmed = true :=
    fun hr => (h.slot.resend hr).2
  by_cases hposts : postsAnswer httpd ans
  · have hmayb : (a.mapNS (mapS notDue)).MayAnswer ans := by
      have := hmay hposts
      exact ⟨this.posting, this.fresh, this.handover⟩
    have hgoes := posts_answer E hbook hnew hmayb result hposts
    have hns : a'.ns = NetworkServer.answer_app_downlink true (mapS notDue a.ns) := hgoes.ns
    refine ⟨⟨⟨hgoes.book, pendingOk_posts hgoes rfl hresend⟩, ?_, ?_⟩, ?_, fun _ => hgoes.waits,
      fun hno => absurd hposts hno⟩
    · rw [hns]
      rfl
    · rw [hns]
      rfl
    · rw [hns]
      rfl
  · have hroam : ans.roamState ≠ .sHANDOVER := fun hroam => hposts (Or.inr hroam)
    have hhttpd : httpd = true := by
      by_contra hne
      exact hposts (Or.inl (Bool.eq_false_iff.mpr hne))
    have ha' : a' = a.mapNS (mapS notDue) := by
      show AppState.answer_app_downlink .. = _
      rw [hhttpd, answer_reply E result hroam]
    rw [ha']
    refine ⟨⟨⟨hbook, ?_, ?_, ?_⟩, rfl, rfl⟩, rfl, fun hyes => absurd hyes hposts,
      fun _ => ⟨rfl, rfl⟩⟩
    · intro r hr
      obtain ⟨⟨hbin, hwhole | ⟨hzero, -⟩⟩, hne⟩ := h.slot.live r hr
      · exact ⟨⟨hbin, Or.inl hwhole⟩, hne⟩
      · have := hlen hposts r hr
        omega
    · exact fun hanswered => ⟨(h.slot.answered hanswered).1, rfl⟩
    · exact fun hr => ⟨rfl, hresend hr⟩

theorem sends_answerPending {a : AppState R D} (h : ServedInv a) (ans : AnsEnv R) (httpd : Bool)
    (hmay : postsAnswer httpd ans → a.ns.mote.s.answer_app_downlink = true → a.MayAnswer ans)
    (hlen : ¬ postsAnswer httpd ans → ∀ r, a.served.Waits r → 0 < a.ns.mote.s.FRMPayloadLen) :
    Sends a (a.answerPending E ans httpd) ∧
      (a.answerPending E ans httpd).ns.mote.s.answer_app_downlink = false ∧
      (postsAnswer httpd ans → a.ns.mote.s.answer_app_downlink = true →
        ∀ r, ¬ (a.answerPending E ans httpd).served.Waits r) := by
  unfold AppState.answerPending
  split
  · rename_i hflag
    obtain ⟨hsends, hclear, hposted, -⟩ :=
      sends_answered (E := E) h (h.slot.not_answered (Or.inr hflag)) .Success
        (fun hposts => hmay hposts hflag) hlen
    exact ⟨hsends, hclear, fun hposts _ => hposted hposts⟩
  · rename_i hflag
    exact ⟨⟨h, rfl, rfl⟩, Bool.eq_false_iff.mpr hflag, fun _ hyes => absurd hyes hflag⟩

theorem answer_notDue (a : AppState R D) (ans : AnsEnv R) (result : Result) (httpd : Bool) :
    (a.answer_app_downlink E ans result httpd).mapNS (mapS notDue) =
      (a.mapNS (mapS notDue)).answer_app_downlink E ans result httpd := by
  have hpost : ∀ found tid dest (x : XmitAns D),
      (AppState.clearFrm (a.http_post found tid (AppState.answered dest x))).mapNS (mapS notDue) =
        AppState.clearFrm ((a.mapNS (mapS notDue)).http_post found tid
          (AppState.answered dest x)) := by
    intro found tid dest x
    unfold AppState.http_post
    cases hended : a.ended with
    | true => simp [AppState.mapNS, AppState.clearFrm, hended]; rfl
    | false =>
      cases htid : checkTid tid a.tids with
      | none => simp [AppState.mapNS, AppState.clearFrm, hended, htid]; rfl
      | some tids =>
        cases found with
        | true => simp [AppState.mapNS, AppState.clearFrm, hended, htid, AppState.answered]; rfl
        | false => simp [AppState.mapNS, AppState.clearFrm, hended, htid]
  unfold AppState.answer_app_downlink
  split
  · unfold AppState.sNS_XmitDataAns_tohNS
    split
    · rfl
    · exact hpost ..
  · split
    · rfl
    · unfold AppState.sendXmitDataAns
      split
      · rfl
      · exact hpost ..

theorem frameSent_mapNS (a : AppState R D) (send : SendEnv) (success : Bool) :
    ∃ f : NS → NS, (if success then a.mapNS (frameSent send) else a) = a.mapNS f ∧
      (f a.ns).mote.s.pending = a.ns.mote.s.pending := by
  cases success with
  | true => exact ⟨_, rfl, pending_frameSent send a.ns⟩
  | false => exact ⟨id, rfl, rfl⟩

theorem sends_sNSDownlinkSent {a : AppState R D} (h : ServedInv a) (send : SendEnv)
    (ans : AnsEnv R) (success httpd : Bool)
    (hmay : postsAnswer httpd ans → unconfirmedWaits a.ns.mote.s → a.MayAnswer ans) :
    let a' := a.sNSDownlinkSent E send ans success httpd
    Sends a a' ∧
      (unconfirmedWaits a.ns.mote.s → a'.ns.mote.s.answer_app_downlink = false ∧
        (postsAnswer httpd ans → ∀ r, ¬ a'.served.Waits r)) ∧
      (¬ unconfirmedWaits a.ns.mote.s →
        a'.served = a.served ∧ a'.slot = a.slot ∧ a'.tids = a.tids ∧
          a'.ns.mote.s.answer_app_downlink = a.ns.mote.s.answer_app_downlink) ∧
      (¬ postsAnswer httpd ans →
        a'.served = a.served ∧ a'.ns.mote.s.FRMPayloadLen = a.ns.mote.s.FRMPayloadLen) := by
  intro a'
  obtain ⟨f, hf, hpending⟩ := frameSent_mapNS a send success
  have hinv : ServedInv (a.mapNS f) := h.mapNS hpending
  have ha' : a' = if ¬(f a.ns).mote.s.md.Confirmed ∧ 0 < (f a.ns).mote.s.FRMPayloadLen then
      ((a.mapNS f).mapNS (mapS notDue)).answer_app_downlink E ans (ans.result success) httpd
        else a.mapNS f := by
    rw [← answer_notDue]
    show AppState.sNSDownlinkSent .. = _
    unfold AppState.sNSDownlinkSent
    dsimp only
    rw [hf]
    rfl
  obtain ⟨-, hlen, hmd, hresend, hflag⟩ := pending_eq hpending
  rw [ha']
  split
  · rename_i hunconf
    have hwaits : unconfirmedWaits a.ns.mote.s := by
      rw [hmd, hlen] at hunconf
      exact ⟨Bool.eq_false_iff.mpr hunconf.1, hunconf.2⟩
    have hmayf : postsAnswer httpd ans → (a.mapNS f).MayAnswer ans :=
      fun hposts => (hmay hposts hwaits).congr rfl rfl rfl
    obtain ⟨hsends, hclear, hposted, hreply⟩ :=
      sends_answered (E := E) hinv (hinv.slot.not_answered (Or.inl hunconf.2))
        (ans.result success) hmayf fun _ _ _ => hunconf.2
    refine ⟨⟨hsends.inv, hsends.md.trans hmd, hsends.resend.trans hresend⟩, ?_, ?_, ?_⟩
    · exact fun _ => ⟨hclear, hposted⟩
    · exact fun hno => absurd hwaits hno
    · exact fun hno => ⟨(hreply hno).1, (hreply hno).2.trans hlen⟩
  · rename_i hnot
    refine ⟨⟨hinv, hmd, hresend⟩, ?_, fun _ => ⟨rfl, rfl, rfl, hflag⟩, fun _ => ⟨rfl, hlen⟩⟩
    rintro ⟨hunconf, hpos⟩
    refine absurd ⟨?_, ?_⟩ hnot
    · rw [hmd, hunconf]
      exact Bool.false_ne_true
    · rw [hlen]
      exact hpos

/-- A result that is known at once, and the answer that an ACK made due. -/
theorem sends_result {a : AppState R D} (h : ServedInv a) (send : SendEnv) (ans : AnsEnv R)
    (success httpd : Bool)
    (hmay : postsAnswer httpd ans → unconfirmedWaits a.ns.mote.s → a.MayAnswer ans)
    (hdue : postsAnswer httpd ans → a.ns.mote.s.answer_app_downlink = true → a.MayAnswer ans)
    (hlen : ¬ postsAnswer httpd ans → ∀ r, a.served.Waits r → 0 < a.ns.mote.s.FRMPayloadLen) :
    let a' := (a.sNSDownlinkSent E send ans success httpd).answerPending E ans httpd
    Sends a a' ∧ a'.ns.mote.s.answer_app_downlink = false ∧
      (postsAnswer httpd ans →
        a.ns.mote.s.answer_app_downlink = true ∨ unconfirmedWaits a.ns.mote.s →
          ∀ r, ¬ a'.served.Waits r) := by
  obtain ⟨hsent, hanswered, hsame, hreply⟩ := sends_sNSDownlinkSent (E := E) h send ans success
    httpd hmay
  have hmaydue : postsAnswer httpd ans →
      (a.sNSDownlinkSent E send ans success httpd).ns.mote.s.answer_app_downlink = true →
        (a.sNSDownlinkSent E send ans success httpd).MayAnswer ans := by
    intro hposts hflag
    have hconf : ¬unconfirmedWaits a.ns.mote.s := by
      intro hunconf
      rw [(hanswered hunconf).1] at hflag
      cases hflag
    obtain ⟨hserved, hslot, htids, hkept⟩ := hsame hconf
    exact (hdue hposts (hkept ▸ hflag)).congr hserved (congrArg AppSlot.reqTid hslot) htids
  have hlensent : ¬ postsAnswer httpd ans →
      ∀ r, (a.sNSDownlinkSent E send ans success httpd).served.Waits r →
        0 < (a.sNSDownlinkSent E send ans success httpd).ns.mote.s.FRMPayloadLen := by
    intro hno r hr
    obtain ⟨hserved, hkept⟩ := hreply hno
    rw [hserved] at hr
    rw [hkept]
    exact hlen hno r hr
  obtain ⟨hsends, hclear, hposted⟩ := sends_answerPending (E := E) hsent.inv ans httpd hmaydue
    hlensent
  refine ⟨⟨hsends.inv, hsends.md.trans hsent.md, hsends.resend.trans hsent.resend⟩, hclear, ?_⟩
  intro hposts hcause
  by_cases hunconf : unconfirmedWaits a.ns.mote.s
  · obtain ⟨hoff, hnone⟩ := hanswered hunconf
    rw [answerPending_off hoff]
    exact hnone hposts
  · -- the confirmed payload was acknowledged
    have hflag := hcause.resolve_right hunconf
    exact hposted hposts ((hsame hunconf).2.2.2.trans hflag)

theorem sends_finish {a : AppState R D} (h : ServedInv a) (send : SendEnv) (ans : AnsEnv R)
    (httpd : Bool)
    (hmay : postsAnswer httpd ans → finishAnswers send a.ns.mote.s → a.MayAnswer ans)
    (hlen : ¬ postsAnswer httpd ans → ∀ r, a.served.Waits r → 0 < a.ns.mote.s.FRMPayloadLen) :
    let a' := a.sNS_finish_phy_downlink E send ans httpd
    Sends a a' ∧
      (a.ns.mote.s.PHYPayloadLen = 0 ∨ send.aborted = false →
        a'.ns.mote.s.answer_app_downlink = false) ∧
      (postsAnswer httpd ans → finishAnswers send a.ns.mote.s → ∀ r, ¬ a'.served.Waits r) := by
  intro a'
  show Sends a (a.sNS_finish_phy_downlink E send ans httpd) ∧
    (_ → (a.sNS_finish_phy_downlink E send ans httpd).ns.mote.s.answer_app_downlink = false) ∧
    (_ → _ → ∀ r, ¬ (a.sNS_finish_phy_downlink E send ans httpd).served.Waits r)
  unfold AppState.sNS_finish_phy_downlink
  split
  · rename_i hnone
    obtain ⟨hsends, hclear, hposted⟩ := sends_answerPending (E := E) h ans httpd
      (fun hposts hflag => hmay hposts ⟨Or.inl hnone, Or.inl hflag⟩) hlen
    refine ⟨hsends, fun _ => hclear, ?_⟩
    rintro hposts ⟨-, hflag | ⟨hsome, -⟩⟩
    · exact hposted hposts hflag
    · exact absurd hnone hsome
  · rename_i hsome
    split
    · rename_i haborted
      have hnot : ¬(a.ns.mote.s.PHYPayloadLen = 0 ∨ send.aborted = false) := by
        rintro (hnone | hgoes)
        · exact hsome hnone
        · exact absurd (haborted.symm.trans hgoes) (by decide)
      exact ⟨⟨h, rfl, rfl⟩, fun hyes => absurd hyes hnot, fun _ hfin => absurd hfin.1 hnot⟩
    · rename_i hgoes
      have hnot : send.aborted = false := Bool.eq_false_iff.mpr hgoes
      have hpending := pending_transmit send a.ns
      have hover : ServedInv (a.handOver send ans) :=
        ⟨⟨h.book.alive, h.book.order, h.book.numbered, fun r hr =>
          ⟨(h.book.slot r hr).reqTid, (h.book.slot r hr).dest⟩⟩, h.slot.congr hpending⟩
      have hmayover : a.MayAnswer ans → (a.handOver send ans).MayAnswer ans :=
        fun hm => ⟨hm.posting, hm.fresh, hm.handover⟩
      obtain ⟨-, hlenb, hmdb, hresendb, hflagb⟩ := pending_eq hpending
      dsimp only
      cases hresult : send.result with
      | none =>
        dsimp only
        obtain ⟨hsends, hclear, hposted⟩ := sends_answerPending (E := E) hover ans httpd
          (fun hposts hflag => hmayover (hmay hposts ⟨Or.inr hnot, Or.inl (hflagb ▸ hflag)⟩))
          (fun hno r hr => hlenb ▸ hlen hno r hr)
        refine ⟨⟨hsends.inv, hsends.md.trans hmdb, hsends.resend.trans hresendb⟩, fun _ => hclear, ?_⟩
        rintro hposts ⟨-, hflag | ⟨-, hsome, -⟩⟩
        · exact hposted hposts (hflagb.trans hflag)
        · exact absurd hresult hsome
      | some success =>
        dsimp only
        have hmaysent : postsAnswer httpd ans → unconfirmedWaits (a.handOver send ans).ns.mote.s →
            (a.handOver send ans).MayAnswer ans := by
          intro hposts hwaits
          refine hmayover (hmay hposts ⟨Or.inr hnot, Or.inr ⟨hsome, ?_, ?_, ?_⟩⟩)
          · rw [hresult]
            exact Option.some_ne_none success
          · rw [← hmdb]
            exact hwaits.1
          · rw [← hlenb]
            exact hwaits.2
        obtain ⟨hsends, hclear, hposted⟩ := sends_result (E := E) hover send ans success httpd
          hmaysent (fun hposts hflag => hmayover (hmay hposts ⟨Or.inr hnot, Or.inl (hflagb ▸ hflag)⟩))
          (fun hno r hr => hlenb ▸ hlen hno r hr)
        refine ⟨⟨hsends.inv, hsends.md.trans hmdb, hsends.resend.trans hresendb⟩, fun _ => hclear, ?_⟩
        intro hposts hfin
        apply hposted hposts
        rcases hfin.2 with hflag | ⟨-, -, hwaits⟩
        · exact Or.inl (hflagb.trans hflag)
        · exact Or.inr ⟨(congrArg DLMetaData.Confirmed hmdb).trans hwaits.1,
            lt_of_lt_of_eq hwaits.2 hlenb.symm⟩

theorem inv_downlinkBC {a : AppState R D} {env : DownlinkEnv} {ans : AnsEnv R} {httpd : Bool}
    (h : ServedInv (a.mapNS (mapS fun s => { s with resend := false })))
    (hmay : postsAnswer httpd ans → env.now = true → ∀ s' : S,
      s'.md = a.ns.mote.s.md → s'.answer_app_downlink = a.ns.mote.s.answer_app_downlink →
        finishAnswers env.send s' → a.MayAnswer ans)
    (hlen : ¬ postsAnswer httpd ans → ∀ r, a.served.Waits r → 0 < a.ns.mote.s.FRMPayloadLen) :
    ServedInv (a.downlinkBC E A env ans httpd).2 := by
  unfold AppState.downlinkBC
  dsimp only
  generalize ha₁ : a.mapNS (mapS fun s => { s with resend := false }) = a₁ at h ⊢
  have hpending := pending_schedule A env.junk a₁.ns
  have hsched : ServedInv (a₁.mapNS (schedule A env.junk)) := h.mapNS hpending
  have hkept : (a₁.mapNS (schedule A env.junk)).ns.mote.s.pending =
      { a.ns.mote.s with resend := false }.pending := by
    rw [← ha₁] at hpending ⊢
    exact hpending
  generalize ha₂ : a₁.mapNS (schedule A env.junk) = a₂ at hsched hkept ⊢
  obtain ⟨-, hlen₂, hmd, -, hflag⟩ := pending_eq hkept
  have hserved : a₂.served = a.served := by rw [← ha₂, ← ha₁]; rfl
  split
  · rename_i hnow
    split
    · exact hsched
    · have hmay₂ : postsAnswer httpd ans → finishAnswers env.send a₂.ns.mote.s →
          a₂.MayAnswer ans := by
        intro hposts hfin
        rw [← ha₂, ← ha₁]
        exact (hmay hposts hnow a₂.ns.mote.s hmd hflag hfin).congr rfl rfl rfl
      obtain ⟨hsends, hclear, -⟩ := sends_finish (E := E) hsched env.send ans httpd hmay₂ (by
        rw [hserved, hlen₂]
        exact hlen)
      split
      · rename_i hsent
        rw [Bool.and_eq_true, decide_eq_true_iff] at hsent
        obtain ⟨⟨-, hnot, -⟩, hconf⟩ := hsent
        have hdone := hclear (Or.inr hnot)
        split
        · refine ⟨hsends.inv.book.mapNS _, hsends.inv.slot.live, hsends.inv.slot.answered, ?_⟩
          exact fun _ => ⟨hdone, hconf⟩
        · exact hsends.inv
      · exact hsends.inv
  · exact h

/-! ### The events of the serving server -/

theorem peerOf_req (q : Incoming) (h : q.fromAS = true ∨ (Text.scan 16 32 q.requester).isSome)
    (junk : ℕ) : peerOf junk q.fromAS q.requester = q.req.origin := by
  unfold Incoming.req peerOf
  cases hAS : q.fromAS with
  | true => rfl
  | false =>
    rw [hAS] at h
    obtain ⟨NetID, hscan⟩ := Option.isSome_iff_exists.mp (h.resolve_left (by decide))
    rw [hscan]
    rfl

theorem bookOk_reply {a : AppState R D} (h : BookOk a) :
    BookOk { a with served := a.served.reply } :=
  ⟨h.alive, h.order.reply, h.numbered.reply, fun r hr => absurd hr (Book.not_waits_reply _ r)⟩

theorem inv_request {a : AppState R D} (h : ServedInv a) {env : DownlinkEnv} {ans : AnsEnv R}
    {md : DLMetaData} {q : Incoming}
    (hc : a.OneAtATime E (.hNS_to_sNS_downlink env ans md q)) :
    ServedInv (a.hNS_to_sNS_downlink E A env ans md q) := by
  unfold AppState.hNS_to_sNS_downlink
  cases hrefuses : refuses env md a.ns.mote with
  | true => exact h
  | false =>
    rw [if_neg Bool.false_ne_true]
    obtain ⟨hfree, hne, hAS, hreq, hroam⟩ := hc hrefuses
    cases hs : savePayload md q.payload a.ns.mote.s with
    | none => exact h.mapNS rfl
    | some s =>
      dsimp only
      obtain ⟨bin, hbin, rfl⟩ := Option.map_eq_some_iff.mp hs
      have hwaits : (a.served.take q.req).Waits q.req := Book.waits_take h.book.numbered q.req
      generalize hsaved : a.save ans q _ = saved
      have hserved : saved.served = a.served.take q.req := by rw [← hsaved]; rfl
      have hinv : ServedInv (saved.mapNS (mapS fun s => { s with resend := false })) := by
        rw [← hsaved]
        refine ⟨⟨h.book.alive, h.book.order.take h.book.numbered hfree q.req,
          h.book.numbered.take q.req, ?_⟩, ?_, ?_, ?_⟩
        · intro r hr
          rw [hwaits.eq hr]
          refine ⟨rfl, fun junk => ?_⟩
          show peerOf junk ans.isAnsDestAS q.requester = _
          rw [← hAS]
          exact peerOf_req q hreq junk
        · intro r hr
          rw [hwaits.eq hr]
          have hself := Octets.slice_write_self hbin
          exact ⟨⟨hself, Or.inl rfl⟩, hne⟩
        · exact fun hanswered => absurd hanswered hwaits.not_answered
        · exact fun hfalse => absurd hfalse Bool.false_ne_true
      have hlen : saved.ns.mote.s.FRMPayloadLen = q.payload.length := by rw [← hsaved]; rfl
      have hbc : ServedInv (saved.downlinkBC E A env ans true).2 := by
        apply inv_downlinkBC hinv
        · rintro (hfalse | hhandover) hnow - - - -
          · cases hfalse
          · obtain ⟨hdone, hfresh, horigin⟩ := hroam hnow hhandover
            refine ⟨hdone, ?_, ?_⟩
            · rw [← hsaved]
              exact hfresh
            · intro r hr _
              rw [hserved] at hr
              rw [hwaits.eq hr]
              exact horigin
        · intro _ _ _
          rw [hlen]
          exact List.length_pos_of_ne_nil hne
      generalize saved.downlinkBC E A env ans true = out at hbc ⊢
      split
      · refine ⟨bookOk_reply hbc.book, ?_, ?_, hbc.slot.resend⟩
        · exact fun r hr => absurd hr (Book.not_waits_reply _ r)
        · exact fun hanswered => absurd hanswered (Book.not_answered_reply _)
      · exact hbc

theorem inv_acked {a : AppState R D} (h : ServedInv a) {f : NS → NS}
    (hf : Acked a.ns.mote.s (f a.ns).mote.s.pending) : ServedInv (a.mapNS f) := by
  rcases hf with hsame | ⟨hconf, hpos, hack⟩
  · exact h.mapNS hsame
  · simp only [S.pending, ackPending, Prod.mk.injEq] at hack
    obtain ⟨hbin, hlen, hmd, hresend, hflag⟩ := hack
    refine ⟨h.book.mapNS f, ?_, ?_, ?_⟩
    · intro r hr
      obtain ⟨⟨hpayload, hwhole⟩, hne⟩ := h.slot.live r hr
      refine ⟨⟨?_, ?_⟩, hne⟩
      · show (f a.ns).mote.s.FRMPayloadBin.take _ = _
        rw [hbin]
        exact hpayload
      · show (f a.ns).mote.s.FRMPayloadLen = _ ∨ (f a.ns).mote.s.FRMPayloadLen = 0 ∧
          (f a.ns).mote.s.answer_app_downlink = true
        rw [hlen, hflag]
        by_cases hagain : a.ns.mote.s.resend = true
        · exact Or.inr ⟨if_pos hagain, rfl⟩
        · rw [if_neg hagain]
          rcases hwhole with hwhole | ⟨hzero, -⟩
          · exact Or.inl hwhole
          · omega
    · intro hanswered
      have := (h.slot.answered hanswered).1
      omega
    · intro hr
      rw [show (a.mapNS f).ns.mote.s.resend = false from hresend] at hr
      cases hr

theorem inv_uplink {a : AppState R D} (h : ServedInv a) {env : UplinkEnv} {ans : AnsEnv R}
    (hc : a.OneAtATime E (.uplink env ans)) : ServedInv (a.sNS_uplink E A env ans) := by
  unfold AppState.sNS_uplink
  split
  · exact h
  · rename_i hsession
    rw [not_or] at hsession
    apply inv_acked ?_ (pending_afterExpire A env _)
    unfold AppState.expire
    split
    · rename_i hexpired
      split
      · exact h.mapNS rfl
      · rename_i hopt
        dsimp only
        have hpending := pending_enqueue env.mqOk.expired (.deleteOld a.ns.mote.ID none) a.ns
        have hinv : ServedInv (a.mapNS fun ns =>
            enqueue env.mqOk.expired (.deleteOld ns.mote.ID none) ns) := h.mapNS hpending
        obtain ⟨-, hlen, hmd, hresend, hflag⟩ := pending_eq hpending
        split
        · rename_i hpos
          have hexpires : expiresRequest env a.ns := by
            refine ⟨hsession.1, hsession.2, hexpired.1, hexpired.2, Bool.eq_false_iff.mpr hopt, ?_⟩
            rw [← hlen]
            exact hpos
          obtain ⟨hmay, hclear⟩ := hc hexpires
          have hgoes := posts_answer E hinv.book (hinv.slot.not_answered (Or.inl hpos))
            (hmay.congr rfl rfl rfl) .XmitFailed (Or.inl rfl)
          refine ⟨hgoes.book, pendingOk_posts hgoes (hflag.trans hclear) ?_⟩
          exact fun hr => (hinv.slot.resend hr).2
        · exact hinv
    · exact h

theorem inv_beacon {a : AppState R D} (h : ServedInv a) {result : Result} {ans : AnsEnv R}
    (hc : a.OneAtATime E (.beacon result ans)) : ServedInv (a.beacon E result ans) := by
  unfold AppState.beacon
  split
  · exact h
  · rename_i hroam
    obtain ⟨hnew, hmay, hclear⟩ := hc hroam
    have hgoes := posts_answer E h.book hnew hmay result (Or.inl rfl)
    exact ⟨hgoes.book, pendingOk_posts hgoes hclear fun hr => (h.slot.resend hr).2⟩

theorem downlinkSent_quiet {a : AppState R D} (hconf : a.ns.mote.s.md.Confirmed = true)
    (send : SendEnv) (ans : AnsEnv R) (success httpd : Bool) :
    ∃ f : NS → NS, a.sNSDownlinkSent E send ans success httpd = a.mapNS f ∧
      (f a.ns).mote.s.pending = a.ns.mote.s.pending := by
  obtain ⟨f, hf, hpending⟩ := frameSent_mapNS a send success
  obtain ⟨-, -, hmd, -, -⟩ := pending_eq hpending
  refine ⟨f, ?_, hpending⟩
  unfold AppState.sNSDownlinkSent
  dsimp only
  rw [hf, if_neg]
  rintro ⟨hunconf, -⟩
  exact hunconf ((congrArg DLMetaData.Confirmed hmd).trans hconf)

theorem finish_quiet {a : AppState R D} (send : SendEnv) (ans : AnsEnv R) (httpd : Bool)
    (hconf : a.ns.mote.s.md.Confirmed = true) (hflag : a.ns.mote.s.answer_app_downlink = false) :
    let a' := a.sNS_finish_phy_downlink E send ans httpd
    a'.served = a.served ∧ a'.slot.reqTid = a.slot.reqTid ∧ a'.tids = a.tids ∧
      a'.ns.mote.s.answer_app_downlink = false ∧ a'.ns.mote.s.md = a.ns.mote.s.md := by
  have hover := pending_transmit send a.ns
  obtain ⟨-, -, hmd, -, hfl⟩ := pending_eq hover
  intro a'
  show (AppState.sNS_finish_phy_downlink ..).served = _ ∧
    (AppState.sNS_finish_phy_downlink ..).slot.reqTid = _ ∧
    (AppState.sNS_finish_phy_downlink ..).tids = _ ∧
    (AppState.sNS_finish_phy_downlink ..).ns.mote.s.answer_app_downlink = _ ∧
    (AppState.sNS_finish_phy_downlink ..).ns.mote.s.md = _
  unfold AppState.sNS_finish_phy_downlink
  split
  · rw [answerPending_off hflag]
    exact ⟨rfl, rfl, rfl, hflag, rfl⟩
  · split
    · exact ⟨rfl, rfl, rfl, hflag, rfl⟩
    · dsimp only
      cases send.result with
      | none =>
        rw [answerPending_off (hfl.trans hflag)]
        exact ⟨rfl, rfl, rfl, hfl.trans hflag, hmd⟩
      | some success =>
        have hconf' : (a.handOver send ans).ns.mote.s.md.Confirmed = true :=
          (congrArg DLMetaData.Confirmed hmd).trans hconf
        obtain ⟨f, hf, hpending⟩ := downlinkSent_quiet (E := E) hconf' send ans success httpd
        obtain ⟨-, -, hmdf, -, hflf⟩ := pending_eq hpending
        have hclear := (hflf.trans hfl).trans hflag
        dsimp only
        rw [hf, answerPending_off hclear]
        exact ⟨rfl, rfl, rfl, hclear, hmdf.trans hmd⟩

/-- A result, unless it is that of a frame that was sent, says that the sending failed. -/
theorem failed_of_finishResult {send : SendEnv} {ans : AnsEnv R} {ns : NS} {result : Result}
    (h : finishResult send ans ns = some result)
    (hsent : ¬(ns.mote.s.PHYPayloadLen ≠ 0 ∧ send.aborted = false ∧ send.result = some true)) :
    send.aborted = true ∨ send.result = some false := by
  unfold finishResult at h
  split at h
  · cases h
  · rename_i hlen
    split at h
    · rename_i haborted
      exact Or.inl haborted
    · rename_i hnot
      cases hresult : send.result with
      | none =>
        rw [hresult] at h
        cases h
      | some success =>
        cases success with
        | true => exact absurd ⟨hlen, Bool.eq_false_iff.mpr hnot, hresult⟩ hsent
        | false => exact Or.inr rfl

/-- A confirmed payload that is sent again has a result only when the sending fails. -/
theorem downlinkBC_failed {a : AppState R D} {env : DownlinkEnv} {ans : AnsEnv R} {httpd : Bool}
    (hconf : a.ns.mote.s.md.Confirmed = true) (hflag : a.ns.mote.s.answer_app_downlink = false)
    {result : Result} (hsome : (a.downlinkBC E A env ans httpd).1 = some result) :
    let a' := (a.downlinkBC E A env ans httpd).2
    (env.now = true ∧ (env.send.aborted = true ∨ env.send.result = some false)) ∧
      a'.served = a.served ∧ a'.slot.reqTid = a.slot.reqTid ∧ a'.tids = a.tids ∧
        a'.ns.mote.s.answer_app_downlink = false := by
  intro a'
  have ha' : a' = (a.downlinkBC E A env ans httpd).2 := rfl
  clear_value a'
  unfold AppState.downlinkBC at hsome ha'
  dsimp only at hsome ha'
  split at hsome
  · rename_i hnow
    rw [if_pos hnow] at ha'
    split at hsome
    · cases hsome
    · rename_i hok
      rw [if_neg hok] at ha'
      generalize ha₁ : a.mapNS (mapS fun s => { s with resend := false }) = a₁ at hsome ha'
      have hpending := pending_schedule A env.junk a₁.ns
      obtain ⟨-, -, hmd₂, -, hflag₂⟩ := pending_eq hpending
      generalize ha₂ : a₁.mapNS (schedule A env.junk) = a₂ at hsome ha'
      have hconf₂ : a₂.ns.mote.s.md.Confirmed = true := by
        rw [← ha₂]
        show (schedule A env.junk a₁.ns).mote.s.md.Confirmed = true
        rw [hmd₂, ← ha₁]
        exact hconf
      have hclear₂ : a₂.ns.mote.s.answer_app_downlink = false := by
        rw [← ha₂]
        show (schedule A env.junk a₁.ns).mote.s.answer_app_downlink = false
        rw [hflag₂, ← ha₁]
        exact hflag
      obtain ⟨hserved, hreqTid, htids, hclear, hmd₃⟩ :=
        finish_quiet (E := E) env.send ans httpd hconf₂ hclear₂
      have hconf₃ : (a₂.sNS_finish_phy_downlink E env.send ans httpd).ns.mote.s.md.Confirmed =
          true := (congrArg DLMetaData.Confirmed hmd₃).trans hconf₂
      split at hsome
      · cases hsome
      · rename_i hsent
        rw [if_neg hsent] at ha'
        rw [hconf₃, Bool.and_true, decide_eq_true_iff] at hsent
        rw [ha']
        refine ⟨⟨hnow, failed_of_finishResult hsome hsent⟩, ?_, ?_, ?_, hclear⟩
        · exact hserved.trans (by rw [← ha₂, ← ha₁]; rfl)
        · exact hreqTid.trans (by rw [← ha₂, ← ha₁]; rfl)
        · exact htids.trans (by rw [← ha₂, ← ha₁]; rfl)
  · cases hsome

theorem inv_resend {a : AppState R D} (h : ServedInv a) {env : DownlinkEnv} {ans : AnsEnv R}
    (hc : a.OneAtATime E (.resend env ans)) : ServedInv (a.resend E A env ans) := by
  unfold AppState.resend
  split
  · rename_i hresend
    obtain ⟨hclear, hconf⟩ := h.slot.resend hresend
    have hoff : ServedInv (a.mapNS (mapS fun s => { s with resend := false })) :=
      ⟨h.book.mapNS _, h.slot.live, h.slot.answered, fun hfalse => absurd hfalse Bool.false_ne_true⟩
    have hbc : ServedInv (a.downlinkBC E A env ans false).2 := by
      apply inv_downlinkBC hoff
      · rintro - - s' hmd hflag ⟨-, hdue | ⟨-, -, hunconf, -⟩⟩
        · rw [hflag, hclear] at hdue
          cases hdue
        · rw [hmd, hconf] at hunconf
          cases hunconf
      · exact fun hno => absurd (Or.inl rfl) hno
    have hfailed : ∀ result, (a.downlinkBC E A env ans false).1 = some result → _ :=
      fun result hsome => downlinkBC_failed hconf hclear hsome
    generalize a.downlinkBC E A env ans false = out at hbc hfailed ⊢
    obtain ⟨result, a'⟩ := out
    cases result with
    | none => exact hbc
    | some result =>
      dsimp only at hbc hfailed ⊢
      obtain ⟨⟨hnow, hfails⟩, hserved, hreqTid, htids, hclear'⟩ := hfailed result rfl
      obtain ⟨hnew, hmay⟩ := hc hresend hnow hfails
      have hgoes := posts_answer E hbc.book (by rw [hserved]; exact hnew)
        (hmay.congr hserved hreqTid htids) result (Or.inl rfl)
      exact ⟨hgoes.book, pendingOk_posts hgoes hclear' fun hr => (hbc.slot.resend hr).2⟩
  · exact h

/-- A taken join answer leaves the slot, or drops the payload when the keys are missing. -/
theorem pending_take_JoinAns (env : JoinAnsEnv) (ns : NS) :
    (take_JoinAns env ns).mote.s.pending = ns.mote.s.pending ∨
      env.lifetime ≠ some 0 ∧ env.keysOk = false ∧
        (take_JoinAns env ns).mote.s.pending =
          { ns.mote.s with FRMPayloadLen := 0 }.pending := by
  unfold take_JoinAns
  split
  · exact Or.inl rfl
  · rename_i hlife
    split
    · left
      unfold add_database_session
      dsimp only
      rw [pending_enqueue, pending_enqueue]
      rfl
    · rename_i hkeys
      exact Or.inr ⟨hlife, Bool.eq_false_iff.mpr hkeys, rfl⟩

theorem pending_sendJoinAccept (env : JoinAnsEnv) (ns : NS) :
    (sendJoinAccept env ns).mote.s.pending = ns.mote.s.pending := by
  unfold sendJoinAccept
  split
  · split
    · cases hs : saveJoinAccept env ns.mote.s with
      | none => rfl
      | some s =>
        obtain ⟨bin, -, rfl⟩ := Option.map_eq_some_iff.mp hs
        dsimp only
        split <;> rfl
    · rfl
  · have hdelete := pending_deleteOldSessions env.mqOk.deleteOld env.newest ns
    dsimp only
    split
    · exact hdelete
    · exact hdelete

theorem pending_handle {e : Event} (he : e.ofApp = false) (hjoin : ∀ env, e ≠ .joinAns env)
    (ns : NS) : (NetworkServer.handle A ns e).mote.s.pending = ns.mote.s.pending := by
  cases e with
  | window => rfl
  | receive => rfl
  | load byID sqlOk now =>
    show (loadSession byID sqlOk now ns).mote.s.pending = _
    unfold loadSession
    split <;> rfl
  | uplink => cases he
  | rejoin junk => exact pending_schedule A junk ns
  | send => cases he
  | downlink => cases he
  | resend => cases he
  | macCmds => rfl
  | joinReq => rfl
  | address => rfl
  | other => rfl
  | writer => rfl
  | joinAns env => exact absurd rfl (hjoin env)

theorem pending_joinAns (env : JoinAnsEnv) (ns : NS) :
    (NetworkServer.handle A ns (.joinAns env)).mote.s.pending = ns.mote.s.pending ∨
      (env.lifetime.isSome = true ∧ env.lifetime ≠ some 0 ∧ env.keysOk = false) ∧
        (NetworkServer.handle A ns (.joinAns env)).mote.s.pending =
          { ns.mote.s with FRMPayloadLen := 0 }.pending := by
  have hjoin : (NetworkServer.handle A ns (.joinAns env)).mote.s.pending =
      (if env.lifetime.isSome then take_JoinAns env ns else ns).mote.s.pending :=
    pending_sendJoinAccept env _
  by_cases hlife : env.lifetime.isSome = true
  · rw [if_pos hlife] at hjoin
    rcases pending_take_JoinAns env ns with hsame | ⟨hzero, hkeys, hdrop⟩
    · exact Or.inl (hjoin.trans hsame)
    · exact Or.inr ⟨⟨hlife, hzero, hkeys⟩, hjoin.trans hdrop⟩
  · rw [if_neg hlife] at hjoin
    exact Or.inl hjoin

theorem inv_other {a : AppState R D} (h : ServedInv a) {e : Event}
    (hc : a.OneAtATime E (.other e)) : ServedInv (a.handle E A (.other e)) := by
  show ServedInv (if e.ofApp then a else a.mapNS fun ns => NetworkServer.handle A ns e)
  split
  · exact h
  · rename_i hnot
    by_cases hjoin : ∃ env, e = .joinAns env
    · obtain ⟨env, rfl⟩ := hjoin
      rcases pending_joinAns (A := A) env a.ns with hsame | ⟨⟨hlife, hzero, hkeys⟩, hdrop⟩
      · exact h.mapNS hsame
      · -- without the keys the payload is dropped: no request may wait for it
        obtain ⟨hbin, hlen, hmd, hresend, hflag⟩ := pending_eq hdrop
        refine ⟨h.book.mapNS _, ?_, ?_, ?_⟩
        · intro r hr
          obtain ⟨⟨hpayload, -⟩, hne⟩ := h.slot.live r hr
          refine ⟨⟨?_, Or.inr ⟨hlen, ?_⟩⟩, hne⟩
          · show (NetworkServer.handle A a.ns (.joinAns env)).mote.s.FRMPayloadBin.take _ = _
            rw [hbin]
            exact hpayload
          · show (NetworkServer.handle A a.ns (.joinAns env)).mote.s.answer_app_downlink = true
            rw [hflag]
            by_contra hno
            rcases hc r hr (Bool.eq_false_iff.mpr hno) with hnone | hz | hk
            · rw [hnone] at hlife
              cases hlife
            · exact hzero hz
            · exact absurd (hkeys.symm.trans hk) (by decide)
        · exact fun hanswered => ⟨hlen, hflag.trans (h.slot.answered hanswered).2⟩
        · show (NetworkServer.handle A a.ns (.joinAns env)).mote.s.resend = true → _
          rw [hresend]
          exact fun hr => ⟨hflag.trans (h.slot.resend hr).1,
            (congrArg DLMetaData.Confirmed hmd).trans (h.slot.resend hr).2⟩
    · exact h.mapNS (pending_handle (Bool.eq_false_iff.mpr hnot) (fun env he => hjoin ⟨env, he⟩) _)

end Lorawan.NetworkServer

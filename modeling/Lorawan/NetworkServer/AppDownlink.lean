import Lorawan.Backend.MetaData
import Lorawan.Backend.SentAnswers
import Lorawan.Lib.Book
import Lorawan.NetworkServer.Requesters
import Lorawan.NetworkServer.Serving

/-!
# Downlinks of the application and their answers (sNS.c:1685-1750, 1838-1846, 2361-2633, 2790-2802, hNS.c:248-358, 480-499)

The serving network server keeps one payload for each device, with the TransactionID and the
requester to answer; the home network server keeps one TransactionID and requester. The functions
of `Serving` are taken up again here with what they answer. Beside the two slots the model keeps a
book of the requests and the answers that were posted.
-/

namespace Lorawan.NetworkServer
open Lorawan Lorawan.Backend

/-! ### Messages -/

/-- An application server by its address, or a network server by its NetID. -/
inductive Peer
  | AS (host : List Char)
  | NS (NetID : ℕ)
deriving DecidableEq

/-- Whom `sendXmitDataAns` posts to: `sscanf` leaves `cli_netID` as it was when it finds no
number. -/
def peerOf (junk : ℕ) (toAS : Bool) (destIDstr : List Char) : Peer :=
  if toAS then .AS destIDstr else .NS ((Text.scan 16 32 destIDstr).getD junk)

/-- A request of an application: from whom, its TransactionID and its FRMPayload. -/
structure XmitReq where
  origin : Peer
  reqTid : UInt64
  payload : Octets
deriving DecidableEq

/-- The members of a XmitDataAns that answers a downlink. -/
structure XmitAns (D : Type) where
  result : Result
  FCntDown : Option (Json Member D)
  DLFreq1 : Option (Json Member D)
  DLFreq2 : Option (Json Member D)

/-- A XmitDataAns that was posted. -/
structure PostedXmit (D : Type) where
  dest : Peer
  reqTid : UInt64
  ans : XmitAns D

/-! ### The state -/

/-- The members of `mote->s` that an answer needs beside those of `S`. -/
structure AppSlot (R : Type) where
  reqTid : UInt64
  ansDest_ : List Char
  isAnsDestAS : Bool
  DLFreq1 : R
  DLFreq2 : R

/-- `h_t`. `ans` stands for `ansJobj` and `rxResult`, which are set and cleared together. -/
structure h_t (D : Type) where
  reqTid : UInt64
  ansDest : List Char
  ans : Option (XmitAns D)
  /-- The transactions that wait for `hNS_XmitDataAnsCallback_downlink`. History: the number of
  the request. -/
  registered : List (UInt32 × ℕ)
  /-- History: the answer of the serving server that `ans` was made from. -/
  received : Option (XmitAns D)

structure AppState (R D : Type) where
  ns : NS
  slot : AppSlot R
  h : h_t D
  tids : Ring UInt32
  /-- The process was ended by `check_post`. -/
  ended : Bool
  /-- History: the requests whose payload was saved, and the answers to them. -/
  served : Book XmitReq (PostedXmit D)
  /-- History: the requests that were passed on, and the answers to them, each with the answer of
  the serving server. -/
  home : Book XmitReq (PostedXmit D × Option (XmitAns D))

variable {R D : Type} (E : JsonEnv R D)

def AppState.init (rows : List SessionRow) (nextSerial ID devAddr : ℕ) : AppState R D where
  ns := .init rows nextSerial (.init ID devAddr)
  slot := ⟨0, [], false, E.floats.zero, E.floats.zero⟩
  h := ⟨0, [], none, [], none⟩
  tids := Ring.init N_TIDS 0
  ended := false
  served := .empty
  home := .empty

def AppState.mapNS (f : NS → NS) (a : AppState R D) : AppState R D := { a with ns := f a.ns }

/-! ### Posting -/

/-- What happens to a message that is posted: its receiver is found or not, or
`curl_easy_init` fails. -/
inductive Posting
  | done
  | refused
  | noHandle
deriving DecidableEq

/-- What surrounds an answer. -/
structure AnsEnv (R : Type) where
  roamState : RoamState
  roamingWithNetID : ℕ
  posting : Posting
  /-- `cli_netID` before `sscanf`. -/
  junk : ℕ
  /-- The result of a frame that is not sent. -/
  failure : Result
  /-- `s->DLFreq1` and `s->DLFreq2` after a frame was handed over. -/
  DLFreq1 : R
  DLFreq2 : R

/-- `check_post`, for an answer. -/
def checkTid (tid : UInt64) (tids : Ring UInt32) : Option (Ring UInt32) :=
  if Ring.holdsFrom N_TIDS tids.cells tid.toUInt32 N_TIDS tids.next then none
  else some (tids.push N_TIDS tid.toUInt32)

theorem check_post_eq_checkTid (C : Json.Conversions Member D) (srcID : List Char)
    (q : Backend.Request) (result : Result) (members : Member → Option (Json Member D))
    (hreq : q.mt.ansMt.isSome) (tids : Ring UInt32) :
    check_post C ((Post.answer q result members hreq).json srcID) tids = checkTid q.tid tids :=
  check_post_answer C srcID q result members hreq tids

/-- `http_post_url`, `http_post_hostname`: the TransactionID is noted before the receiver is
looked up. An answer that is sent enters the books by `record`. -/
def AppState.http_post (found : Bool) (tid : UInt64) (record : AppState R D → AppState R D)
    (a : AppState R D) : ℤ × AppState R D :=
  if a.ended then (0, a)
  else
    match checkTid tid a.tids with
    | none => (0, { a with ended := true })
    | some tids =>
      let a := { a with tids := tids }
      if found then (0, record a) else (-1, a)

/-- `sendXmitDataAns`: a failure of `curl_easy_init` has a positive code. -/
def AppState.sendXmitDataAns (posting : Posting) (toAS : Bool) (tid : UInt64)
    (record : AppState R D → AppState R D) (a : AppState R D) : ℤ × AppState R D :=
  if posting = .noHandle then (2, a)
  else a.http_post (toAS || decide (posting = .done)) tid record

/-! ### sNS -/

def AppState.answered (dest : Peer) (ans : XmitAns D) (a : AppState R D) : AppState R D :=
  { a with served := a.served.answer ⟨dest, a.slot.reqTid, ans⟩ }

/-- The answer object of the serving server. -/
def AppSlot.ansJobj (slot : AppSlot R) (result : Result) : XmitAns D where
  result := result
  FCntDown := none
  DLFreq1 := if E.floats.isPos slot.DLFreq1 then some (.double (E.floats.widen slot.DLFreq1)) else none
  DLFreq2 := if E.floats.isPos slot.DLFreq2 then some (.double (E.floats.widen slot.DLFreq2)) else none

def AppState.sNS_XmitDataAns_tohNS (env : AnsEnv R) (result : Result) (a : AppState R D) :
    ℤ × AppState R D :=
  if env.posting = .noHandle then (-1, a)
  else
    a.http_post (decide (env.posting = .done)) a.slot.reqTid
      (AppState.answered (.NS env.roamingWithNetID) (a.slot.ansJobj E result))

/-- An answer that was posted clears the payload. -/
def AppState.clearFrm (posted : ℤ × AppState R D) : AppState R D :=
  if posted.1 < 0 then posted.2 else posted.2.mapNS (NetworkServer.answer_app_downlink true)

/-- `answer_app_downlink`. `httpd`: the answer goes into the reply to a request. -/
def AppState.answer_app_downlink (env : AnsEnv R) (result : Result) (httpd : Bool)
    (a : AppState R D) : AppState R D :=
  if env.roamState = .sHANDOVER then AppState.clearFrm (a.sNS_XmitDataAns_tohNS E env result)
  else if httpd then a
  else
    AppState.clearFrm (a.sendXmitDataAns env.posting a.slot.isAnsDestAS a.slot.reqTid
      (AppState.answered (peerOf env.junk a.slot.isAnsDestAS a.slot.ansDest_)
        (a.slot.ansJobj E result)))

/-- The result of a frame that was sent or not. -/
def AnsEnv.result (env : AnsEnv R) (success : Bool) : Result :=
  if success then .Success else env.failure

def AppState.sNSDownlinkSent (send : SendEnv) (env : AnsEnv R) (success httpd : Bool)
    (a : AppState R D) : AppState R D :=
  let a := if success then a.mapNS (frameSent send) else a
  if ¬a.ns.mote.s.md.Confirmed ∧ 0 < a.ns.mote.s.FRMPayloadLen then
    (a.answer_app_downlink E env (env.result success) httpd).mapNS
      (mapS fun s => { s with answer_app_downlink := false })
  else a

/-- The answer that an ACK made due. -/
def AppState.answerPending (env : AnsEnv R) (httpd : Bool) (a : AppState R D) : AppState R D :=
  if a.ns.mote.s.answer_app_downlink then
    (a.mapNS (mapS fun s => { s with answer_app_downlink := false })).answer_app_downlink E env
      .Success httpd
  else a

def AppState.handOver (send : SendEnv) (env : AnsEnv R) (a : AppState R D) : AppState R D :=
  { a.mapNS (transmit send) with
    slot := { a.slot with DLFreq1 := env.DLFreq1, DLFreq2 := env.DLFreq2 } }

def AppState.sNS_finish_phy_downlink (send : SendEnv) (env : AnsEnv R) (httpd : Bool)
    (a : AppState R D) : AppState R D :=
  if a.ns.mote.s.PHYPayloadLen = 0 then a.answerPending E env httpd
  else if send.aborted then a
  else
    let a := a.handOver send env
    let a := match send.result with
      | none => a
      | some success => a.sNSDownlinkSent E send env success httpd
    a.answerPending E env httpd

/-- What `sNS_finish_phy_downlink` returns. -/
def finishResult (send : SendEnv) (env : AnsEnv R) (ns : NS) : Option Result :=
  if ns.mote.s.PHYPayloadLen = 0 then none
  else if send.aborted then some .Other
  else send.result.map env.result

variable (A : BlockCipher)

/-- `downlinkBC`, and what it returns. -/
def AppState.downlinkBC (env : DownlinkEnv) (ans : AnsEnv R) (httpd : Bool) (a : AppState R D) :
    Option Result × AppState R D :=
  let a := a.mapNS (mapS fun s => { s with resend := false })
  if env.now then
    let a := a.mapNS (schedule A env.junk)
    if a.ns.overrun then (none, a)
    else
      let result := finishResult env.send ans a.ns
      let sent := decide (a.ns.mote.s.PHYPayloadLen ≠ 0 ∧ env.send.aborted = false ∧
        env.send.result = some true)
      let a := a.sNS_finish_phy_downlink E env.send ans httpd
      if sent && a.ns.mote.s.md.Confirmed then
        (none, if env.timeout then a.mapNS (mapS fun s => { s with resend := true }) else a)
      else (result, a)
  else (none, a)

/-- A request as it arrives. `fromAS`: the sender is an application server. -/
structure Incoming where
  requester : List Char
  fromAS : Bool
  reqTid : UInt64
  payload : Octets
deriving DecidableEq

def Incoming.req (q : Incoming) : XmitReq := ⟨peerOf 0 q.fromAS q.requester, q.reqTid, q.payload⟩

def AnsEnv.isAnsDestAS (env : AnsEnv R) : Bool :=
  decide (env.roamState = .sPASSIVE) || decide (env.roamState = .NONE)

/-- The payload and the requester are written over those that are there. -/
def AppState.save (ans : AnsEnv R) (q : Incoming) (s : S) (a : AppState R D) : AppState R D :=
  { a.mapNS (mapS fun _ => s) with
    slot := { a.slot with
      reqTid := q.reqTid
      ansDest_ := q.requester
      isAnsDestAS := ans.isAnsDestAS }
    served := a.served.take q.req }

/-- A request with the wrong counter is replied to before anything is saved. -/
def refuses (env : DownlinkEnv) (md : DLMetaData) (m : Mote) : Bool :=
  decide (env.OptNeg = false) && decide (md.FCntDown ≠ neededFCntDown env m)

def AppState.hNS_to_sNS_downlink (env : DownlinkEnv) (ans : AnsEnv R) (md : DLMetaData)
    (q : Incoming) (a : AppState R D) : AppState R D :=
  if refuses env md a.ns.mote then a
  else
    match savePayload md q.payload a.ns.mote.s with
    | none => a.mapNS fun ns => { ns with overrun := true }
    | some s =>
      let (result, a) := (a.save ans q s).downlinkBC E A env ans true
      if result.isSome then { a with served := a.served.reply } else a

/-- `sNS_uplink` for an expired session. -/
def AppState.expire (env : UplinkEnv) (ans : AnsEnv R) (a : AppState R D) : AppState R D :=
  if a.ns.mote.session.until_ ≠ .never ∧ a.ns.mote.session.expired then
    if env.OptNeg then a.mapNS (queueMacCmds env.rejoinOps)
    else
      let a := a.mapNS fun ns => enqueue env.mqOk.expired (.deleteOld ns.mote.ID none) ns
      if 0 < a.ns.mote.s.FRMPayloadLen then a.answer_app_downlink E ans .XmitFailed false else a
  else a

/-- `sNS_uplink` after that. -/
def afterExpire (env : UplinkEnv) (ns : NS) : NS :=
  if isReplay ns.mote.session.FCntUp (rxFCnt ns.mote) then ns
  else
    let FCntUp := FCntUp32 ns.mote.session.FCntUp (rxFCnt ns.mote)
    let ns := mapS (fun s => { s with newFCntUp := true }) ns
    let (ok, s) := checkMic A env ns.mote FCntUp
    let ns := mapS (fun _ => s) ns
    if ok then schedule A env.junk (takeUplink env FCntUp ns)
    else refuseUplink env ns

def AppState.sNS_uplink (env : UplinkEnv) (ans : AnsEnv R) (a : AppState R D) : AppState R D :=
  if a.ns.mote.ULPHYPayloadLen = 0 ∨ a.ns.mote.session.until_ = .none then a
  else (a.expire E env ans).mapNS (afterExpire A env)

/-- `sNS_service`. -/
def AppState.resend (env : DownlinkEnv) (ans : AnsEnv R) (a : AppState R D) : AppState R D :=
  if a.ns.mote.s.resend then
    match a.downlinkBC E A env ans false with
    | (none, a) => a
    | (some result, a) => a.answer_app_downlink E ans result false
  else a

/-- `fNS_beacon_service`, when this server sent the downlink that waited. -/
def AppState.beacon (result : Result) (ans : AnsEnv R) (a : AppState R D) : AppState R D :=
  if ans.roamState = .fPASSIVE then a else a.answer_app_downlink E ans result false

/-! ### hNS -/

/-- What surrounds a request that is passed on. -/
structure HomeEnv where
  /-- `generateDLMetaData` -/
  dlmdOk : Bool
  /-- `next_tid` -/
  sentTID : UInt32
  /-- The rest of `sendXmitDataReq`. -/
  sendOk : Bool
deriving DecidableEq

def AppState.hNS_XmitDataReq_down (env : HomeEnv) (q : Incoming) (a : AppState R D) :
    AppState R D :=
  let a := { a with
    h := { a.h with reqTid := q.reqTid, ansDest := q.requester }
    home := a.home.take q.req }
  let replied := { a with home := a.home.reply }
  if env.dlmdOk = false ∨ q.payload = [] then replied
  else
    let h := { a.h with registered := a.h.registered ++ [(env.sentTID, a.home.requests.length)] }
    if env.sendOk then { a with h := h } else { replied with h := h }

/-- The answer that is passed on: `json_object_get_int` and `json_object_new_int` of each
member. -/
def XmitAns.relay (C : Json.Conversions Member D) (ans : XmitAns D) : XmitAns D where
  result := ans.result
  FCntDown := ans.FCntDown.map fun o => .new_int (o.get_int C)
  DLFreq1 := ans.DLFreq1.map fun o => .new_int (o.get_int C)
  DLFreq2 := ans.DLFreq2.map fun o => .new_int (o.get_int C)

/-- An answer arrives; its transaction is over. -/
def AppState.hNS_XmitDataAnsCallback_downlink (sentTID : UInt32) (ans : XmitAns D)
    (a : AppState R D) : AppState R D :=
  if (a.h.registered.find? fun t => t.1 = sentTID).isSome then
    { a with h := { a.h with
      registered := a.h.registered.eraseP fun t => t.1 = sentTID
      ans := some (ans.relay E.conv)
      received := some ans } }
  else a

def AppState.answeredHome (dest : Peer) (ans : XmitAns D) (a : AppState R D) : AppState R D :=
  { a with home := a.home.answer (⟨dest, a.h.reqTid, ans⟩, a.h.received) }

def AppState.hNS_service (posting : Posting) (a : AppState R D) : AppState R D :=
  match a.h.ans with
  | none => a
  | some ans =>
    let a := (a.sendXmitDataAns posting true a.h.reqTid
      (AppState.answeredHome (.AS a.h.ansDest) ans)).2
    { a with h := { a.h with ans := none } }

/-! ### Events -/

inductive AppEvent (R D : Type)
  | uplink (env : UplinkEnv) (ans : AnsEnv R)
  /-- `sNS_finish_phy_downlink` after an uplink. -/
  | send (send : SendEnv) (ans : AnsEnv R)
  /-- The frame was sent in the answer to a PRStartReq or HRStartReq. -/
  | sNSDownlinkSent (send : SendEnv) (ans : AnsEnv R)
  | resend (env : DownlinkEnv) (ans : AnsEnv R)
  | beacon (result : Result) (ans : AnsEnv R)
  | hNS_to_sNS_downlink (env : DownlinkEnv) (ans : AnsEnv R) (md : DLMetaData) (q : Incoming)
  /-- An event of the serving server that neither is a request nor answers one. -/
  | other (e : Event)
  | hNS_XmitDataReq_down (env : HomeEnv) (q : Incoming)
  | XmitDataAns (sentTID : UInt32) (ans : XmitAns D)
  /-- A transaction loses its slot to another request. -/
  | evict (sentTID : UInt32)
  | hNS_service (posting : Posting)
  /-- The process posts another answer. -/
  | answer (tid : UInt64)

/-- The events of `Serving` that have one of their own here. -/
def Event.ofApp : Event → Bool
  | .uplink _ | .send _ | .resend .. | .downlink .. => true
  | _ => false

def AppState.handle (a : AppState R D) : AppEvent R D → AppState R D
  | .uplink env ans => a.sNS_uplink E A env ans
  | .send send ans => a.sNS_finish_phy_downlink E send ans false
  | .sNSDownlinkSent send ans => a.sNSDownlinkSent E send ans true false
  | .resend env ans => a.resend E A env ans
  | .beacon result ans => a.beacon E result ans
  | .hNS_to_sNS_downlink env ans md q => a.hNS_to_sNS_downlink E A env ans md q
  | .other e => if e.ofApp then a else a.mapNS fun ns => NetworkServer.handle A ns e
  | .hNS_XmitDataReq_down env q => a.hNS_XmitDataReq_down env q
  | .XmitDataAns sentTID ans => a.hNS_XmitDataAnsCallback_downlink E sentTID ans
  | .evict sentTID =>
    { a with h := { a.h with registered := a.h.registered.eraseP fun t => t.1 = sentTID } }
  | .hNS_service posting => a.hNS_service posting
  | .answer tid => (a.http_post true tid id).2

/-- After the end of the process, and after a write outside an array, nothing is known. -/
def AppState.step (a : AppState R D) (e : AppEvent R D) : AppState R D :=
  if a.ended ∨ a.ns.overrun then a else a.handle E A e

/-! ### The server without the answers -/

theorem ns_posts (found : Bool) (tid : UInt64) (dest : Peer) (x : XmitAns D) (a : AppState R D) :
    ∃ ok, (AppState.clearFrm (a.http_post found tid (AppState.answered dest x))).ns =
      NetworkServer.answer_app_downlink ok a.ns := by
  unfold AppState.clearFrm AppState.http_post
  cases a.ended with
  | true => exact ⟨true, rfl⟩
  | false =>
    cases checkTid tid a.tids with
    | none => exact ⟨true, rfl⟩
    | some tids =>
      cases found with
      | true => exact ⟨true, rfl⟩
      | false => exact ⟨false, rfl⟩

theorem ns_answer (a : AppState R D) (ans : AnsEnv R) (result : Result) (httpd : Bool) :
    ∃ ok, (a.answer_app_downlink E ans result httpd).ns =
      NetworkServer.answer_app_downlink ok a.ns := by
  unfold AppState.answer_app_downlink
  split
  · unfold AppState.sNS_XmitDataAns_tohNS
    split
    · exact ⟨false, rfl⟩
    · exact ns_posts ..
  · split
    · exact ⟨false, rfl⟩
    · unfold AppState.sendXmitDataAns
      split
      · exact ⟨true, rfl⟩
      · exact ns_posts ..

variable {A}

theorem ns_uplink (a : AppState R D) (env : UplinkEnv) (ans : AnsEnv R) :
    ∃ ok, (a.sNS_uplink E A env ans).ns =
      NetworkServer.handle A a.ns (.uplink { env with answerOk := ok }) := by
  have hafter : ∀ (ns : NS) (ok : Bool), afterExpire A env ns =
      (if isReplay ns.mote.session.FCntUp (rxFCnt ns.mote) then ns
      else
        let FCntUp := FCntUp32 ns.mote.session.FCntUp (rxFCnt ns.mote)
        let ns := mapS (fun s => { s with newFCntUp := true }) ns
        let (ok', s) := checkMic A { env with answerOk := ok } ns.mote FCntUp
        let ns := mapS (fun _ => s) ns
        if ok' then schedule A env.junk (takeUplink { env with answerOk := ok } FCntUp ns)
        else refuseUplink { env with answerOk := ok } ns) := fun _ _ => rfl
  have hexpire : ∃ ok, (a.expire E env ans).ns =
      NetworkServer.expire { env with answerOk := ok } a.ns := by
    unfold AppState.expire NetworkServer.expire
    split
    · split
      · exact ⟨true, rfl⟩
      · dsimp only
        split
        · rename_i hpos
          obtain ⟨ok, hok⟩ := ns_answer E
            (a.mapNS fun ns => enqueue env.mqOk.expired (.deleteOld ns.mote.ID none) ns) ans .XmitFailed false
          exact ⟨ok, hok.trans (if_pos hpos).symm⟩
        · rename_i hzero
          exact ⟨true, (if_neg hzero).symm⟩
    · exact ⟨true, rfl⟩
  obtain ⟨ok, hok⟩ := hexpire
  refine ⟨ok, ?_⟩
  show _ = if a.ns.mote.ULPHYPayloadLen = 0 then a.ns
    else (NetworkServer.sNS_uplink A { env with answerOk := ok } a.ns).2
  unfold AppState.sNS_uplink NetworkServer.sNS_uplink receiveUplink
  by_cases hlen : a.ns.mote.ULPHYPayloadLen = 0
  · rw [if_pos (Or.inl hlen), if_pos hlen]
  · rw [if_neg hlen]
    by_cases hnone : a.ns.mote.session.until_ = .none
    · rw [if_pos (Or.inr hnone), if_pos hnone]
    · rw [if_neg (not_or.mpr ⟨hlen, hnone⟩), if_neg hnone]
      show afterExpire A env (a.expire E env ans).ns = _
      rw [hafter _ ok, hok]
      dsimp only
      split
      · rfl
      · split
        · rfl
        · rfl

variable {E}

theorem answerPending_off {a : AppState R D} (h : a.ns.mote.s.answer_app_downlink = false)
    (ans : AnsEnv R) (httpd : Bool) : a.answerPending E ans httpd = a := by
  rw [AppState.answerPending, h, if_neg Bool.false_ne_true]

theorem ns_answerPending_off {ns : NS} (h : ns.mote.s.answer_app_downlink = false)
    (send : SendEnv) : NetworkServer.answerPending send ns = ns := by
  rw [NetworkServer.answerPending, h, if_neg Bool.false_ne_true]

variable (E)

theorem ns_finish (a : AppState R D) (send : SendEnv) (ans : AnsEnv R) (httpd : Bool) :
    ∃ ok, (a.sNS_finish_phy_downlink E send ans httpd).ns =
      NetworkServer.sNS_finish_phy_downlink { send with answerOk := ok } a.ns := by
  have hpending : ∀ b : AppState R D, ∃ ok, (b.answerPending E ans httpd).ns =
      NetworkServer.answerPending { send with answerOk := ok } b.ns := by
    intro b
    unfold AppState.answerPending NetworkServer.answerPending
    split
    · exact ns_answer E (b.mapNS (mapS fun s => { s with answer_app_downlink := false })) ans _ _
    · exact ⟨true, rfl⟩
  unfold AppState.sNS_finish_phy_downlink NetworkServer.sNS_finish_phy_downlink
  split
  · exact hpending a
  · split
    · exact ⟨true, rfl⟩
    · obtain ⟨isLocal, aborted, result, air, mqOk, answerOk⟩ := send
      cases result with
      | none => exact hpending (a.handOver ⟨isLocal, aborted, none, air, mqOk, answerOk⟩ ans)
      | some success =>
        dsimp only
        unfold AppState.sNSDownlinkSent NetworkServer.sNSDownlinkSent
        dsimp only
        have hb : ∀ ok, (if success then frameSent ⟨isLocal, aborted, some success, air, mqOk, ok⟩
            (transmit ⟨isLocal, aborted, some success, air, mqOk, ok⟩ a.ns) else
              transmit ⟨isLocal, aborted, some success, air, mqOk, ok⟩ a.ns) =
            (if success then (a.handOver ⟨isLocal, aborted, some success, air, mqOk, answerOk⟩
              ans).mapNS (frameSent ⟨isLocal, aborted, some success, air, mqOk, answerOk⟩)
            else a.handOver ⟨isLocal, aborted, some success, air, mqOk, answerOk⟩ ans).ns := by
          intro ok
          cases success <;> rfl
        simp only [hb]
        generalize (if success then (a.handOver ⟨isLocal, aborted, some success, air, mqOk,
          answerOk⟩ ans).mapNS _ else _) = b
        unfold answerUnconfirmed
        split
        · -- the flag is clear after an answer, and nothing else is due
          obtain ⟨ok, hok⟩ := ns_answer E b ans (ans.result success) httpd
          refine ⟨ok, ?_⟩
          rw [answerPending_off rfl, ns_answerPending_off rfl, ← hok]
          rfl
        · exact hpending b

end Lorawan.NetworkServer

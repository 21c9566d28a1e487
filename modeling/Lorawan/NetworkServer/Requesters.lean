import Lorawan.Backend.Frame

/-!
# Requesters (network_server/common.c:384-431, 1661-1725, 1830-2064, 2258-2513)

An uplink that other network servers received too comes with their requests.
They wait in the mote's list until the uplink is finished; `bestR` points to the
list's slot of the one with the best signal, or is null when a local gateway had
it. An answer that was posted frees the requester and leaves its slot null.
-/

namespace Lorawan.NetworkServer
open Lorawan Lorawan.Backend Backend.mtype_e

/-! ### The mote -/

inductive ReqType
  | PRStartReq
  | HRStartReq
  | XmitDataReq
  | other
deriving DecidableEq

def ReqType.isRStart : ReqType → Bool
  | PRStartReq | HRStartReq => true
  | _ => false

/-- `roamState` of `motes`. -/
inductive RoamState
  | NONE
  | sPASSIVE
  | fPASSIVE
  | sHANDOVER
  | hHANDOVER
  | DEFERRED
deriving DecidableEq

/-- `requester_t` -/
structure Requester where
  needsAnswer : Bool
  MessageType : ReqType
  ClientID : ℕ
  ans_ans : Bool
deriving DecidableEq

inductive Progress
  | OFF
  | LOCAL
  | JSON
deriving DecidableEq

/-- The result of an answer; `Other` stands for all that are neither of the two. -/
inductive AnsResult
  | Success
  | Deferred
  | Other
deriving DecidableEq

/-- History: an answer that was posted. -/
structure Answer where
  ClientID : ℕ
  MessageType : ReqType
  result : AnsResult
  Lifetime : Option ℕ
deriving DecidableEq

/-- History: what `sNS_answer_RStart_Success_save` queues. -/
structure RoamUpdate where
  roamState : RoamState
  roamingWithNetID : ℕ
  Lifetime : Option ℕ
deriving DecidableEq

/-- `mote_t`, as far as requesters are concerned. -/
structure RoamMote where
  requesterList : List (Option Requester)
  /-- The index of the slot that `bestR` points to. -/
  bestR : Option ℕ
  best_sq : ℤ
  progress : Progress
  mtype : mtype_e
  /-- `ULPHYPayloadLen != 0` -/
  hasUplink : Bool
  /-- The uplink has a payload under an FPort above 0. -/
  forwards : Bool
  /-- `ULFRMPayloadLen > 0` -/
  ULFRMPayload : Bool
  /-- `downlink.PHYPayloadLen > 0` -/
  PHYPayload : Bool
  /-- History: `bestR` was followed and did not lead to a requester. -/
  stale : Bool
  /-- A null pointer was followed. -/
  crashed : Bool
  answers : List Answer
  roams : List RoamUpdate
deriving DecidableEq

def INT_MIN : ℤ := -2 ^ 31

/-- A mote that was just created. -/
def RoamMote.new : RoamMote :=
  ⟨[], none, INT_MIN, .OFF, MTYPE_JOIN_REQ, false, false, false, false, false, false, [], []⟩

/-- The requester in a slot. -/
def RoamMote.slot (s : RoamMote) (j : ℕ) : Option Requester := s.requesterList[j]?.join

/-- `*(mote->bestR)`, and a member of what it points to. -/
def RoamMote.follow (i : ℕ) (s : RoamMote) : RoamMote :=
  if (s.slot i).isSome then s else { s with stale := true, crashed := true }

/-- `*(mote->bestR)`, only compared: a null slot does no harm. -/
def RoamMote.compare (i : ℕ) (s : RoamMote) : RoamMote :=
  if (s.slot i).isSome then s else { s with stale := true }

def RoamMote.followBest (s : RoamMote) : RoamMote :=
  match s.bestR with
  | none => s
  | some i => s.follow i

def isJoinReq (t : mtype_e) : Bool := decide (t = MTYPE_JOIN_REQ) || decide (t = MTYPE_REJOIN_REQ)

def isDataUp (t : mtype_e) : Bool := decide (t = MTYPE_UNCONF_UP) || decide (t = MTYPE_CONF_UP)

/-! ### r_post_ans_to_ns (common.c:1661-1725) -/

/-- What surrounds the handling of a slot. -/
structure SlotEnv where
  /-- `getLifetime` as it is read by `finish`, when the answer is made, and when it was posted. -/
  roamLifetime : ℤ
  ansLifetime : ℤ
  saveLifetime : ℤ
  /-- `jsonGetServiceProfile` -/
  serviceProfile : Bool
  /-- `hNS_XmitDataReq_toAS` succeeds. -/
  toAS : Bool
  /-- `curl_easy_init`, `http_post_hostname` and `curl_multi_perform`. -/
  easyOk : Bool
  postOk : Bool
  performOk : Bool
deriving DecidableEq

/-- Whether the answer was posted; the requester is freed by a successful transfer. -/
def r_post_ans_to_ns (e : SlotEnv) (j : ℕ) (result : AnsResult) (Lifetime : Option ℕ)
    (s : RoamMote) : Bool × RoamMote :=
  match s.slot j with
  | none => (false, { s with crashed := true })
  | some r =>
    if !r.needsAnswer || !e.easyOk then (false, s)
    else
      (e.postOk, { s with
        answers := if e.postOk then s.answers ++ [⟨r.ClientID, r.MessageType, result, Lifetime⟩]
          else s.answers
        requesterList := if e.performOk then s.requesterList.set j none else s.requesterList })

/-! ### The requesters of finish (common.c:1953-2051, sNS.c:713-788) -/

/-- `Lifetime` of the answer: `generateXRStartAnsSuccess` writes over that of `finish`. -/
def SlotEnv.granted (e : SlotEnv) : ℕ :=
  if 0 < e.ansLifetime ∧ e.serviceProfile then e.ansLifetime.toNat else e.roamLifetime.toNat

/-- The update that `sNS_answer_RStart_Success_save` queues. -/
def savedState (e : SlotEnv) (r : Requester) : RoamUpdate :=
  { roamState := if r.MessageType = .HRStartReq then .hHANDOVER else .sPASSIVE
    roamingWithNetID := r.ClientID
    Lifetime := if 0 < e.saveLifetime then some e.saveLifetime.toNat else none }

/-- A downlink that went with the answer was sent. -/
def downlinkCarried (e : SlotEnv) (s : RoamMote) : RoamMote :=
  if e.ansLifetime = 0 ∨ e.serviceProfile then { s with PHYPayload := false } else s

/-- `sNS_answer_RStart_Success_save`, for a requester that starts roaming. When the answer freed
it, its type was cleared before and nothing is saved. -/
def saveRoaming (e : SlotEnv) (j : ℕ) (s : RoamMote) : RoamMote :=
  match s.slot j with
  | none => s
  | some r => { s with roams := s.roams ++ [savedState e r] }

/-- The best requester starts roaming. -/
def answerBest (e : SlotEnv) (j : ℕ) (s : RoamMote) : RoamMote :=
  if e.ansLifetime < 0 then (r_post_ans_to_ns e j .Other (some e.roamLifetime.toNat) s).2
  else
    let (ok, s) := r_post_ans_to_ns e j .Success (some e.granted) s
    if ok then saveRoaming e j (downlinkCarried e s) else s

/-- A PRStartReq or HRStartReq on a data uplink. -/
def visitRStart (e : SlotEnv) (j : ℕ) (s : RoamMote) : RoamMote :=
  if e.roamLifetime < 1 then (r_post_ans_to_ns e j .Other none s).2
  else
    match s.bestR with
    | none => { s with stale := true, crashed := true }
    | some i =>
      let s := s.compare i
      if i = j then answerBest e j s
      else (r_post_ans_to_ns e j .Deferred (some e.roamLifetime.toNat) s).2

/-- A payload of the handed over device goes to the application server. -/
def visitXmitData (e : SlotEnv) (j : ℕ) (s : RoamMote) : RoamMote :=
  if s.ULFRMPayload then
    let s := { s with ULFRMPayload := false }
    if e.toAS then s else (r_post_ans_to_ns e j .Other none s).2
  else s

def visit (sqlOk : Bool) (e : SlotEnv) (j : ℕ) (s : RoamMote) : RoamMote :=
  if s.crashed then s
  else
    match s.slot j with
    | none => s
    | some r =>
      if !r.needsAnswer || isJoinReq s.mtype then s
      else if !sqlOk then (r_post_ans_to_ns e j .Other none s).2
      else if r.MessageType.isRStart then visitRStart e j s
      else if r.MessageType = .XmitDataReq then visitXmitData e j s
      else (r_post_ans_to_ns e j .Other none s).2

/-- `n` slots from `j` on. -/
def visitFrom (sqlOk : Bool) (slots : ℕ → SlotEnv) : ℕ → ℕ → RoamMote → RoamMote
  | 0, _, s => s
  | n + 1, j, s => visitFrom sqlOk slots n (j + 1) (visit sqlOk (slots j) j s)

def jsonHandler (sqlOk : Bool) (slots : ℕ → SlotEnv) (s : RoamMote) : RoamMote :=
  visitFrom sqlOk slots s.requesterList.length 0 s

/-! ### sNS_uplink_finish, sNS_finish_phy_downlink (sNS.c:2131-2360, 2539-2700) -/

structure DlEnv where
  /-- `mote->s` -/
  sExists : Bool
  /-- `getPingConfig` fails for a downlink of class B. -/
  pingFails : Bool
  /-- The downlink was sent. -/
  sent : Bool
deriving DecidableEq

/-- A payload goes on to the home network server or the application server. -/
def forwardPayload (s : RoamMote) : RoamMote :=
  if isDataUp s.mtype && s.hasUplink && s.forwards then s.followBest else s

/-- `sNS_finish_phy_downlink`, as far as requesters are concerned. -/
def finishPhyDownlink (d : DlEnv) (s : RoamMote) : RoamMote :=
  if !d.sExists then s
  else if s.PHYPayload then
    if s.bestR.isSome && d.pingFails then s
    else
      let s := s.followBest
      if s.crashed then s else forwardPayload { s with PHYPayload := !d.sent }
  else forwardPayload s

structure FinishEnv where
  /-- `getSession` fails. -/
  sessionFails : Bool
  /-- `sql_motes_query` succeeds. -/
  sqlOk : Bool
  devEuiKnown : Bool
  roamState : RoamState
  roamExpired : Bool
  /-- `fNS_uplink_finish` skips the JSON phase, or takes the uplink for itself. -/
  fNSSkip : Bool
  fNSTook : Bool
  /-- The outcome of `sNS_uplink_finish`: a downlink is there, and the result is Success. -/
  PHYPayload : Bool
  uplinkOk : Bool
  /-- `sNS_JoinReq` runs, and the JoinReq was sent. -/
  joinReq : Option Bool
  slots : ℕ → SlotEnv
  dl : DlEnv

/-- The roaming state after the test of expiry. -/
def FinishEnv.state (env : FinishEnv) : RoamState :=
  if env.roamExpired ∧ env.roamState ≠ .sHANDOVER ∧ env.roamState ≠ .hHANDOVER then .NONE
  else env.roamState

/-- All requesters but the best are told to wait, or all to give up (sNS.c:2153-2183). -/
def joinReqFrom (sent : Bool) (slots : ℕ → SlotEnv) : ℕ → ℕ → RoamMote → RoamMote
  | 0, _, s => s
  | n + 1, j, s =>
    joinReqFrom sent slots n (j + 1)
      (if s.crashed ∨ (sent ∧ s.bestR = some j) then s
      else
        (r_post_ans_to_ns (slots j) j
          (if sent ∧ 0 ≤ (slots j).roamLifetime then .Deferred else .Other) none s).2)

/-- `sNS_uplink_finish`, as far as requesters are concerned. -/
def uplinkFinish (env : FinishEnv) (s : RoamMote) : Bool × RoamMote :=
  if !s.hasUplink then (false, s)
  else
    let s := s.followBest
    if s.crashed then (false, s)
    else
      let s := { s with PHYPayload := env.PHYPayload }
      if isJoinReq s.mtype then
        match env.joinReq with
        -- a join request for another network ends with Success
        | none => (env.uplinkOk && decide (s.mtype = MTYPE_JOIN_REQ), s)
        | some sent =>
          (env.uplinkOk && sent, joinReqFrom sent env.slots s.requesterList.length 0 s)
      else
        (isDataUp s.mtype && env.uplinkOk &&
          (decide (env.state = .sPASSIVE) || decide (env.state = .NONE)), s)

/-! ### finish (common.c:1830-2064) -/

def fDone (d : DlEnv) (uplinkOk : Bool) (s : RoamMote) : RoamMote :=
  if s.crashed then s
  else { (if uplinkOk then finishPhyDownlink d s else s) with hasUplink := false }

def finishJson (env : FinishEnv) (s : RoamMote) : RoamMote :=
  if env.sessionFails then s
  else if !env.sqlOk && s.bestR.isSome then fDone env.dl false (jsonHandler env.sqlOk env.slots s)
  else if env.state = .DEFERRED then s
  else if env.state = .sHANDOVER then fDone env.dl false s
  else
    let s := if env.state = .sPASSIVE ∨ env.state = .hHANDOVER then s.followBest else s
    if s.crashed then s
    else
      let (ok, s) := uplinkFinish env s
      fDone env.dl ok (jsonHandler env.sqlOk env.slots s)

/-- With `skip_next`. -/
def finishLocal (env : FinishEnv) (s : RoamMote) : Bool × RoamMote :=
  if env.sessionFails || (!env.sqlOk && env.devEuiKnown) || decide (env.state = .DEFERRED) then
    (true, s)
  else if env.state = .sPASSIVE ∨ env.state = .hHANDOVER then
    (false, jsonHandler env.sqlOk env.slots s)
  else (env.fNSSkip, { s with hasUplink := s.hasUplink && !env.fNSTook })

/-- `common_service`; a mote that is discarded sees no further event. -/
def service (env : FinishEnv) (s : RoamMote) : RoamMote :=
  match s.progress with
  | .OFF => s
  | .LOCAL =>
    let (skip, s) := finishLocal env s
    { s with progress := if skip then .OFF else .JSON }
  | .JSON => { finishJson env s with progress := .OFF }

/-! ### Receptions -/

/-- `save_uplink_start` -/
def uplinkStart (toState : Progress) (s : RoamMote) : RoamMote :=
  if s.progress = .OFF then
    { s with
      requesterList := []
      bestR := none
      best_sq := INT_MIN
      progress := toState
      hasUplink := false }
  else s

/-- `fNS_uplink_direct`; a better local signal leaves `bestR` as it is. -/
def localUplink (sq : ℤ) (mtype : mtype_e) (forwards : Bool) (s : RoamMote) : RoamMote :=
  let s := uplinkStart .LOCAL s
  if s.best_sq < sq then
    { s with best_sq := sq, mtype := mtype, forwards := forwards, hasUplink := true }
  else s

/-- What a request brings: a frame with the signal of its best gateway, `none` when ULMetaData is
malformed; or the payload of a handed over device, which is written over the frame. -/
inductive JsonUplink
  | phy (sq : Option ℤ) (mtype : mtype_e) (forwards : Bool)
  | frm (parsed : Bool) (mtype : mtype_e) (forwards : Bool)
deriving DecidableEq

/-- `uplinkJson`; `admitted` by the roaming agreements. -/
def uplinkJson (admitted : Bool) (MessageType : ReqType) (ClientID : ℕ) (u : JsonUplink)
    (s : RoamMote) : RoamMote :=
  let s := uplinkStart .JSON s
  if !admitted then s
  else
    match u with
    | .phy none _ _ =>
      { s with requesterList := s.requesterList ++ [some ⟨false, MessageType, ClientID, false⟩] }
    | .phy (some sq) mtype forwards =>
      let R := s.requesterList.length
      let s := { s with
        requesterList := s.requesterList ++ [some ⟨true, MessageType, ClientID, false⟩] }
      if s.best_sq < sq then
        { s with
          best_sq := sq
          bestR := some R
          mtype := mtype
          forwards := forwards
          hasUplink := true }
      else s
    | .frm parsed mtype forwards =>
      let s := { s with
        requesterList := s.requesterList ++ [some ⟨parsed, MessageType, ClientID, parsed⟩] }
      if parsed then { s with ULFRMPayload := true, mtype := mtype, forwards := forwards } else s

/-! ### Answers from other servers -/

/-- `sNS_JoinAnsJson` leaves the requesters in their slots. -/
def joinAnsPost (e : SlotEnv) (r : Requester) : Requester :=
  { r with needsAnswer := r.needsAnswer && !(e.easyOk && e.postOk &&
      decide (r.MessageType ≠ .other)) }

/-- `hNs_to_sNS_JoinAns`, as far as requesters are concerned (sNS.c:884-981). -/
def joinAnswered (rxOk dlmdOk : Bool) (slots : ℕ → SlotEnv) (s : RoamMote) : RoamMote :=
  match s.bestR with
  | none => s
  | some i =>
    let s := s.follow i
    if s.crashed then s
    else if !rxOk then (r_post_ans_to_ns (slots i) i .Other none s).2
    else if dlmdOk then
      { s with requesterList := s.requesterList.mapIdx fun j r => r.map (joinAnsPost (slots j)) }
    else s

/-- `hNS_XmitDataAnsCallback_uplink` (hNS.c:281-316), `n` slots from `j` on. -/
def xmitDataAnsFrom (slots : ℕ → SlotEnv) (result : AnsResult) : ℕ → ℕ → RoamMote → RoamMote
  | 0, _, s => s
  | n + 1, j, s =>
    xmitDataAnsFrom slots result n (j + 1)
      (match s.slot j with
      | none => s
      | some r =>
        if r.MessageType = .XmitDataReq ∧ r.ans_ans then
          (r_post_ans_to_ns (slots j) j result none s).2
        else s)

/-! ### Events -/

inductive RoamEvent
  | localRx (sq : ℤ) (mtype : mtype_e) (forwards : Bool)
  | json (admitted : Bool) (MessageType : ReqType) (ClientID : ℕ) (u : JsonUplink)
  | service (env : FinishEnv)
  | joinAns (rxOk dlmdOk : Bool) (slots : ℕ → SlotEnv)
  | xmitDataAns (result : AnsResult) (slots : ℕ → SlotEnv)
  /-- `downlinkBC`; `PHYPayload` when a downlink was scheduled. -/
  | downlinkBC (PHYPayload : Bool) (d : DlEnv)

def RoamMote.handle (s : RoamMote) : RoamEvent → RoamMote
  | .localRx sq mtype forwards => localUplink sq mtype forwards s
  | .json admitted MessageType ClientID u => uplinkJson admitted MessageType ClientID u s
  | .service env => NetworkServer.service env s
  | .joinAns rxOk dlmdOk slots => joinAnswered rxOk dlmdOk slots s
  | .xmitDataAns result slots => xmitDataAnsFrom slots result s.requesterList.length 0 s
  | .downlinkBC PHYPayload d => finishPhyDownlink d { s with PHYPayload := PHYPayload }

/-- Nothing runs after a null pointer was followed. -/
def RoamMote.step (s : RoamMote) (e : RoamEvent) : RoamMote := if s.crashed then s else s.handle e

/-! ### The turn of a slot -/

/-- The requester in the slot `j` waits for its answer, and a data uplink came. -/
structure Due (s : RoamMote) (j : ℕ) (r : Requester) : Prop where
  slot : s.slot j = some r
  needsAnswer : r.needsAnswer = true
  data : isJoinReq s.mtype = false

theorem Due.eq {s : RoamMote} {j : ℕ} {r r' : Requester} (h : Due s j r)
    (h' : s.slot j = some r') : r' = r := by
  rw [h.slot] at h'
  exact (Option.some.inj h').symm

/-- What the turn of the slot `j` comes to, over all branches of `visit`. -/
inductive Turn (sqlOk : Bool) (e : SlotEnv) (j : ℕ) (s : RoamMote) : RoamMote → Prop
  | crashed (h : s.crashed = true) : Turn sqlOk e j s s
  | idle (h : ∀ r, ¬Due s j r) : Turn sqlOk e j s s
  | other {r : Requester} (h : Due s j r)
      (hxmit : sqlOk = true → r.MessageType ≠ .XmitDataReq)
      (hlife : sqlOk = true → r.MessageType.isRStart = true → e.roamLifetime < 1) :
      Turn sqlOk e j s (r_post_ans_to_ns e j .Other none s).2
  | null {r : Requester} (h : Due s j r) (hsql : sqlOk = true)
      (hrstart : r.MessageType.isRStart = true) (hlife : 1 ≤ e.roamLifetime)
      (hbest : s.bestR = none) : Turn sqlOk e j s { s with stale := true, crashed := true }
  | best {r : Requester} (h : Due s j r) (hsql : sqlOk = true)
      (hrstart : r.MessageType.isRStart = true) (hlife : 1 ≤ e.roamLifetime)
      (hbest : s.bestR = some j) : Turn sqlOk e j s (answerBest e j (s.compare j))
  | deferred {r : Requester} {i : ℕ} (h : Due s j r) (hsql : sqlOk = true)
      (hrstart : r.MessageType.isRStart = true) (hlife : 1 ≤ e.roamLifetime)
      (hbest : s.bestR = some i) (hij : i ≠ j) :
      Turn sqlOk e j s
        (r_post_ans_to_ns e j .Deferred (some e.roamLifetime.toNat) (s.compare i)).2
  | taken {r : Requester} (h : Due s j r) (hsql : sqlOk = true)
      (htype : r.MessageType = .XmitDataReq) (hfrm : s.ULFRMPayload = false) : Turn sqlOk e j s s
  | forwarded {r : Requester} (h : Due s j r) (hsql : sqlOk = true)
      (htype : r.MessageType = .XmitDataReq) (hfrm : s.ULFRMPayload = true)
      (htoAS : e.toAS = true) : Turn sqlOk e j s { s with ULFRMPayload := false }
  | failed {r : Requester} (h : Due s j r) (hsql : sqlOk = true)
      (htype : r.MessageType = .XmitDataReq) (hfrm : s.ULFRMPayload = true)
      (htoAS : e.toAS = false) :
      Turn sqlOk e j s (r_post_ans_to_ns e j .Other none { s with ULFRMPayload := false }).2

theorem ne_XmitDataReq_of_isRStart {t : ReqType} (h : t.isRStart = true) : t ≠ .XmitDataReq := by
  rintro rfl
  cases h

theorem visitRStart_turn {e : SlotEnv} {j : ℕ} {s : RoamMote} {r : Requester} (h : Due s j r)
    (hrstart : r.MessageType.isRStart = true) : Turn true e j s (visitRStart e j s) := by
  unfold visitRStart
  split
  · rename_i hlife
    exact .other h (fun _ => ne_XmitDataReq_of_isRStart hrstart) fun _ _ => hlife
  · rename_i hlife
    have hle : 1 ≤ e.roamLifetime := by omega
    split
    · rename_i hbest
      exact .null h rfl hrstart hle hbest
    · rename_i i hbest
      dsimp only
      split
      · rename_i hij
        subst hij
        exact .best h rfl hrstart hle hbest
      · rename_i hij
        exact .deferred h rfl hrstart hle hbest hij

theorem visitXmitData_turn {e : SlotEnv} {j : ℕ} {s : RoamMote} {r : Requester} (h : Due s j r)
    (htype : r.MessageType = .XmitDataReq) : Turn true e j s (visitXmitData e j s) := by
  unfold visitXmitData
  split
  · rename_i hfrm
    dsimp only
    split
    · rename_i htoAS
      exact .forwarded h rfl htype hfrm htoAS
    · rename_i htoAS
      exact .failed h rfl htype hfrm (Bool.eq_false_iff.mpr htoAS)
  · rename_i hfrm
    exact .taken h rfl htype (Bool.eq_false_iff.mpr hfrm)

theorem visit_turn (sqlOk : Bool) (e : SlotEnv) (j : ℕ) (s : RoamMote) :
    Turn sqlOk e j s (visit sqlOk e j s) := by
  unfold visit
  split
  · rename_i hcrash
    exact .crashed hcrash
  · split
    · rename_i hnone
      refine .idle fun r h => ?_
      rw [h.slot] at hnone
      cases hnone
    · rename_i r hr
      split
      · rename_i hskip
        refine .idle fun q h => ?_
        rw [h.eq hr, h.needsAnswer, h.data] at hskip
        cases hskip
      · rename_i hskip
        simp only [Bool.or_eq_true, Bool.not_eq_true', not_or, Bool.not_eq_false,
          Bool.not_eq_true] at hskip
        have h : Due s j r := ⟨hr, hskip.1, hskip.2⟩
        cases sqlOk with
        | false => exact .other h (fun hsql => by cases hsql) fun hsql => by cases hsql
        | true =>
          simp only [Bool.not_true, Bool.false_eq_true, if_false]
          split
          · rename_i hrstart
            exact visitRStart_turn h hrstart
          · rename_i hrstart
            split
            · rename_i htype
              exact visitXmitData_turn h htype
            · rename_i htype
              exact .other h (fun _ => htype) fun _ hstart => absurd hstart hrstart

/-! ### What the handling of a slot leaves alone -/

/-- Only the slot `j` of the list differs, and members that the requesters do not depend on. -/
structure OnlySlot (j : ℕ) (s s' : RoamMote) : Prop where
  bestR : s'.bestR = s.bestR
  mtype : s'.mtype = s.mtype
  hasUplink : s'.hasUplink = s.hasUplink
  forwards : s'.forwards = s.forwards
  length : s'.requesterList.length = s.requesterList.length
  slot : ∀ k, k ≠ j → s'.slot k = s.slot k

theorem OnlySlot.refl (j : ℕ) (s : RoamMote) : OnlySlot j s s := ⟨rfl, rfl, rfl, rfl, rfl, fun _ _ => rfl⟩

theorem OnlySlot.trans {j : ℕ} {s s' s'' : RoamMote} (h : OnlySlot j s s')
    (h' : OnlySlot j s' s'') : OnlySlot j s s'' :=
  ⟨h'.bestR.trans h.bestR, h'.mtype.trans h.mtype, h'.hasUplink.trans h.hasUplink,
    h'.forwards.trans h.forwards, h'.length.trans h.length,
    fun k hk => (h'.slot k hk).trans (h.slot k hk)⟩

theorem onlySlot_post (e : SlotEnv) (j : ℕ) (result : AnsResult) (Lifetime : Option ℕ)
    (s : RoamMote) : OnlySlot j s (r_post_ans_to_ns e j result Lifetime s).2 := by
  unfold r_post_ans_to_ns
  split
  · exact ⟨rfl, rfl, rfl, rfl, rfl, fun _ _ => rfl⟩
  · split
    · exact .refl j s
    · dsimp only
      split
      · refine ⟨rfl, rfl, rfl, rfl, by simp, fun k hk => ?_⟩
        simp only [RoamMote.slot, List.getElem?_set_ne (Ne.symm hk)]
      · exact ⟨rfl, rfl, rfl, rfl, rfl, fun _ _ => rfl⟩

theorem onlySlot_downlinkCarried (e : SlotEnv) (j : ℕ) (s : RoamMote) :
    OnlySlot j s (downlinkCarried e s) := by
  unfold downlinkCarried
  split <;> exact ⟨rfl, rfl, rfl, rfl, rfl, fun _ _ => rfl⟩

theorem onlySlot_saveRoaming (e : SlotEnv) (j : ℕ) (s : RoamMote) :
    OnlySlot j s (saveRoaming e j s) := by
  unfold saveRoaming
  split <;> exact ⟨rfl, rfl, rfl, rfl, rfl, fun _ _ => rfl⟩

theorem onlySlot_answerBest (e : SlotEnv) (j : ℕ) (s : RoamMote) :
    OnlySlot j s (answerBest e j s) := by
  unfold answerBest
  split
  · exact onlySlot_post e j _ _ s
  · have hpost := onlySlot_post e j .Success (some e.granted) s
    dsimp only
    split
    · exact (hpost.trans (onlySlot_downlinkCarried e j _)).trans (onlySlot_saveRoaming e j _)
    · exact hpost

theorem onlySlot_compare (i j : ℕ) (s : RoamMote) : OnlySlot j s (s.compare i) := by
  unfold RoamMote.compare
  split
  · exact .refl j s
  · exact ⟨rfl, rfl, rfl, rfl, rfl, fun _ _ => rfl⟩

theorem onlySlot_visit (sqlOk : Bool) (e : SlotEnv) (j : ℕ) (s : RoamMote) :
    OnlySlot j s (visit sqlOk e j s) := by
  have htaken : OnlySlot j s { s with ULFRMPayload := false } :=
    ⟨rfl, rfl, rfl, rfl, rfl, fun _ _ => rfl⟩
  have hturn := visit_turn sqlOk e j s
  generalize visit sqlOk e j s = s' at hturn ⊢
  cases hturn with
  | crashed h => exact .refl j s
  | idle h => exact .refl j s
  | other h hxmit hlife => exact onlySlot_post e j _ _ s
  | null h hsql hrstart hlife hbest => exact ⟨rfl, rfl, rfl, rfl, rfl, fun _ _ => rfl⟩
  | best h hsql hrstart hlife hbest =>
    exact (onlySlot_compare j j s).trans (onlySlot_answerBest e j _)
  | deferred h hsql hrstart hlife hbest hij =>
    exact (onlySlot_compare _ j s).trans (onlySlot_post e j _ _ _)
  | taken h hsql htype hfrm => exact .refl j s
  | forwarded h hsql htype hfrm htoAS => exact htaken
  | failed h hsql htype hfrm htoAS => exact htaken.trans (onlySlot_post e j _ _ _)

@[simp] theorem slot_compare (i j : ℕ) (s : RoamMote) : (s.compare i).slot j = s.slot j := by
  unfold RoamMote.compare
  split <;> rfl

@[simp] theorem crashed_compare (i : ℕ) (s : RoamMote) : (s.compare i).crashed = s.crashed := by
  unfold RoamMote.compare
  split <;> rfl

theorem slot_lt {s : RoamMote} {j : ℕ} {r : Requester} (h : s.slot j = some r) :
    j < s.requesterList.length := by
  by_contra hj
  rw [RoamMote.slot, List.getElem?_eq_none (by omega)] at h
  cases h

/-! ### Null pointers -/

theorem crashed_post {e : SlotEnv} {j : ℕ} {result : AnsResult} {Lifetime : Option ℕ}
    {s : RoamMote} {r : Requester} (hr : s.slot j = some r) :
    (r_post_ans_to_ns e j result Lifetime s).2.crashed = s.crashed := by
  rw [r_post_ans_to_ns, hr]
  dsimp only
  split <;> rfl

theorem crashed_answerBest {e : SlotEnv} {j : ℕ} {s : RoamMote} {r : Requester}
    (hr : s.slot j = some r) : (answerBest e j s).crashed = s.crashed := by
  unfold answerBest
  split
  · exact crashed_post hr
  · dsimp only
    split
    · rw [← crashed_post hr]
      unfold saveRoaming downlinkCarried
      split <;> split <;> rfl
    · exact crashed_post hr

theorem crashed_visit {sqlOk : Bool} {e : SlotEnv} {j i : ℕ} {s : RoamMote}
    (hbest : s.bestR = some i) : (visit sqlOk e j s).crashed = s.crashed := by
  have hturn := visit_turn sqlOk e j s
  generalize visit sqlOk e j s = s' at hturn ⊢
  cases hturn with
  | crashed h => rfl
  | idle h => rfl
  | other h hxmit hlife => exact crashed_post h.slot
  | null h hsql hrstart hlife hnone =>
    rw [hbest] at hnone
    cases hnone
  | best h hsql hrstart hlife hself =>
    rw [crashed_answerBest (by rw [slot_compare, h.slot]), crashed_compare]
  | deferred h hsql hrstart hlife hother hij =>
    rw [crashed_post (by rw [slot_compare, h.slot]), crashed_compare]
  | taken h hsql htype hfrm => rfl
  | forwarded h hsql htype hfrm htoAS => rfl
  | failed h hsql htype hfrm htoAS =>
    exact crashed_post (s := { s with ULFRMPayload := false }) h.slot

end Lorawan.NetworkServer

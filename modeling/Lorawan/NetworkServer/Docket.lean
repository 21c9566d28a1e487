import Lorawan.Lib.Machine
import Lorawan.NetworkServer.BestRequester
import Lorawan.NetworkServer.JoinAnswer

/-!
# The docket of a mote (network_server/common.c:384-431, 1661-1725, 1830-2064, 2258-2513)

The requests that wait in the list of a mote, each with its TransactionID, and the
replies that were posted. The mote itself moves as in `Requesters`; beside it the
docket keeps which request a slot was made for, and which servers have not answered
yet. A reply is built from the slot: from its `inTid` and its message type.
-/

namespace Lorawan.NetworkServer
open Lorawan Lorawan.Backend Backend.mtype_e

/-- What `uplinkJson` was called with, for a slot of the list. -/
structure Request where
  /-- History: the number of the call. -/
  serial : ℕ
  inTid : ℕ
  MessageType : ReqType
  /-- It returned null: the answer is to be sent later. -/
  later : Bool
deriving DecidableEq

/-- History: an answer that was posted for a slot. -/
structure Reply where
  serial : ℕ
  inTid : ℕ
  /-- None is the `?..?` that is sent for an unhandled type. -/
  ansMt : Option Backend.MessageType
deriving DecidableEq

structure Docket where
  mote : RoamMote
  /-- The request of each slot. -/
  requests : List Request
  replies : List Reply
  /-- History: requests whose slots `save_uplink_start` discarded. -/
  discarded : List Request
  /-- History: how many requests there were. -/
  served : ℕ
  /-- A JoinReq was sent, and its JoinAns has not come. -/
  joinReq : Bool
  /-- A payload of a requester was sent to the application server, which has not answered. -/
  toAS : Bool
deriving DecidableEq

def Docket.new : Docket := ⟨.new, [], [], [], 0, false, false⟩

/-- The answer to a request of type `mt` for the slot `j`. -/
def Docket.reply (d : Docket) (j : ℕ) (mt : ReqType) : List Reply :=
  (d.requests[j]?.map fun q => ⟨q.serial, q.inTid, ansMtOf mt⟩).toList

/-- The mote moves and nothing is posted. -/
def Docket.move (f : RoamMote → RoamMote) (d : Docket) : Docket := { d with mote := f d.mote }

@[simp] theorem move_mote (f : RoamMote → RoamMote) (d : Docket) : (d.move f).mote = f d.mote :=
  rfl

/-- The slot `j` is handled; what was posted is posted for its request. -/
def Docket.handleSlot (f : RoamMote → RoamMote) (j : ℕ) (d : Docket) : Docket :=
  { d with
    mote := f d.mote
    replies := d.replies ++
      ((f d.mote).answers.drop d.mote.answers.length).flatMap fun a => d.reply j a.MessageType }

/-- `n` slots from `j` on. -/
def Docket.forSlots (f : ℕ → Docket → Docket) : ℕ → ℕ → Docket → Docket
  | 0, _, d => d
  | n + 1, j, d => forSlots f n (j + 1) (f j d)

/-! ### finish -/

/-- `visit`; a payload that the application server takes makes the answer wait for its own. -/
def Docket.visit (sqlOk : Bool) (slots : ℕ → SlotEnv) (j : ℕ) (d : Docket) : Docket :=
  let d' := d.handleSlot (NetworkServer.visit sqlOk (slots j) j) j
  { d' with toAS := d.toAS || (d.mote.ULFRMPayload && !d'.mote.ULFRMPayload && (slots j).toAS) }

def Docket.jsonHandler (sqlOk : Bool) (slots : ℕ → SlotEnv) (d : Docket) : Docket :=
  forSlots (Docket.visit sqlOk slots) d.mote.requesterList.length 0 d

/-- `sNS_JoinReq` for one slot. -/
def joinReqAt (sent : Bool) (slots : ℕ → SlotEnv) (j : ℕ) (s : RoamMote) : RoamMote :=
  if s.crashed ∨ (sent ∧ s.bestR = some j) then s
  else
    (r_post_ans_to_ns (slots j) j
      (if sent ∧ 0 ≤ (slots j).roamLifetime then .Deferred else .Other) none s).2

def Docket.joinReqs (sent : Bool) (slots : ℕ → SlotEnv) (d : Docket) : Docket :=
  let d' := forSlots (fun j => Docket.handleSlot (joinReqAt sent slots j) j)
    d.mote.requesterList.length 0 d
  { d' with joinReq := d'.joinReq || sent }

def Docket.uplinkFinish (env : FinishEnv) (d : Docket) : Bool × Docket :=
  if !d.mote.hasUplink then (false, d)
  else
    let d := d.move RoamMote.followBest
    if d.mote.crashed then (false, d)
    else
      let d := d.move fun s => { s with PHYPayload := env.PHYPayload }
      if isJoinReq d.mote.mtype then
        match env.joinReq with
        | none => (env.uplinkOk && decide (d.mote.mtype = .MTYPE_JOIN_REQ), d)
        | some sent => (env.uplinkOk && sent, d.joinReqs sent env.slots)
      else
        (isDataUp d.mote.mtype && env.uplinkOk &&
          (decide (env.state = .sPASSIVE) || decide (env.state = .NONE)), d)

/-- The JSON phase from `sNS_uplink_finish` on. -/
def Docket.finishUplink (env : FinishEnv) (d : Docket) : Docket :=
  if d.mote.crashed then d
  else
    let (ok, d) := d.uplinkFinish env
    (d.jsonHandler env.sqlOk env.slots).move (fDone env.dl ok)

def Docket.finishJson (env : FinishEnv) (d : Docket) : Docket :=
  if env.sessionFails then d
  else if !env.sqlOk && d.mote.bestR.isSome then
    (d.jsonHandler env.sqlOk env.slots).move (fDone env.dl false)
  else if env.state = .DEFERRED then d
  else if env.state = .sHANDOVER then d.move (fDone env.dl false)
  else if env.state = .sPASSIVE ∨ env.state = .hHANDOVER then
    (d.move RoamMote.followBest).finishUplink env
  else d.finishUplink env

/-- With `skip_next`. -/
def Docket.finishLocal (env : FinishEnv) (d : Docket) : Bool × Docket :=
  if env.sessionFails || (!env.sqlOk && env.devEuiKnown) || decide (env.state = .DEFERRED) then
    (true, d)
  else if env.state = .sPASSIVE ∨ env.state = .hHANDOVER then
    (false, d.jsonHandler env.sqlOk env.slots)
  else (env.fNSSkip, d.move fun s => { s with hasUplink := s.hasUplink && !env.fNSTook })

def Docket.service (env : FinishEnv) (d : Docket) : Docket :=
  match d.mote.progress with
  | .OFF => d
  | .LOCAL =>
    let (skip, d) := d.finishLocal env
    d.move fun s => { s with progress := if skip then .OFF else .JSON }
  | .JSON => (d.finishJson env).move fun s => { s with progress := .OFF }

/-! ### Receptions -/

/-- `save_uplink_start` frees the list. -/
def Docket.uplinkStart (d : Docket) : Docket :=
  if d.mote.progress = .OFF then
    { d with requests := [], discarded := d.discarded ++ d.requests }
  else d

/-- The call returns null, once the request was admitted. -/
def JsonUplink.later : JsonUplink → Bool
  | .phy sq _ _ => sq.isSome
  | .frm parsed _ _ => parsed

def Docket.uplinkJson (admitted : Bool) (MessageType : ReqType) (ClientID inTid : ℕ)
    (u : JsonUplink) (d : Docket) : Docket :=
  let d' := d.uplinkStart.move (NetworkServer.uplinkJson admitted MessageType ClientID u)
  { d' with
    requests := if admitted then d'.requests ++ [⟨d'.served, inTid, MessageType, u.later⟩]
      else d'.requests
    served := d'.served + 1 }

/-! ### Answers from other servers -/

/-- `sNS_JoinAnsJson` for one slot. -/
def Docket.joinAnsAt (slots : ℕ → SlotEnv) (j : ℕ) (d : Docket) : Docket :=
  match d.mote.slot j with
  | none => d
  | some r =>
    { d with
      mote := { d.mote with
        requesterList := d.mote.requesterList.set j (some (joinAnsPost (slots j) r)) }
      replies := d.replies ++
        if r.needsAnswer && !(joinAnsPost (slots j) r).needsAnswer then d.reply j r.MessageType
        else [] }

def Docket.joinAnswered (rxOk dlmdOk : Bool) (slots : ℕ → SlotEnv) (d : Docket) : Docket :=
  let d := { d with joinReq := false }
  match d.mote.bestR with
  | none => d
  | some i =>
    let d := d.move (RoamMote.follow i)
    if d.mote.crashed then d
    else if !rxOk then
      d.handleSlot (fun s => (r_post_ans_to_ns (slots i) i .Other none s).2) i
    else if dlmdOk then forSlots (Docket.joinAnsAt slots) d.mote.requesterList.length 0 d
    else d

/-- `hNS_XmitDataAnsCallback_uplink` for one slot. -/
def xmitDataAnsAt (slots : ℕ → SlotEnv) (result : AnsResult) (j : ℕ) (s : RoamMote) : RoamMote :=
  match s.slot j with
  | none => s
  | some r =>
    if r.MessageType = .XmitDataReq ∧ r.ans_ans then
      (r_post_ans_to_ns (slots j) j result none s).2
    else s

def Docket.xmitDataAns (result : AnsResult) (slots : ℕ → SlotEnv) (d : Docket) : Docket :=
  { forSlots (fun j => Docket.handleSlot (xmitDataAnsAt slots result j) j)
      d.mote.requesterList.length 0 d with
    toAS := false }

/-! ### Runs -/

/-- An event, and the TransactionID of the request that it brings. -/
def Docket.handle (d : Docket) : RoamEvent × ℕ → Docket
  | (.localRx sq mtype forwards, _) => d.uplinkStart.move (localUplink sq mtype forwards)
  | (.json admitted MessageType ClientID u, inTid) =>
    d.uplinkJson admitted MessageType ClientID inTid u
  | (.service env, _) => d.service env
  | (.joinAns rxOk dlmdOk slots, _) => d.joinAnswered rxOk dlmdOk slots
  | (.xmitDataAns result slots, _) => d.xmitDataAns result slots
  | (.downlinkBC PHYPayload dl, _) =>
    d.move fun s => finishPhyDownlink dl { s with PHYPayload := PHYPayload }

/-- Nothing runs after a null pointer was followed. -/
def Docket.step (d : Docket) (e : RoamEvent × ℕ) : Docket :=
  if d.mote.crashed then d else d.handle e

/-! ### The mote of the docket moves as the mote alone -/

theorem forSlots_mote {f : ℕ → Docket → Docket} (g : ℕ → RoamMote → RoamMote)
    (h : ∀ j d, (f j d).mote = g j d.mote) (n j : ℕ) (d : Docket) :
    (Docket.forSlots f n j d).mote = (List.range' j n).foldl (fun s k => g k s) d.mote := by
  induction n generalizing j d with
  | zero => rfl
  | succ n ih =>
    rw [Docket.forSlots, ih, h, List.range'_succ, List.foldl_cons]

theorem visitFrom_eq_foldl (sqlOk : Bool) (slots : ℕ → SlotEnv) (n j : ℕ) (s : RoamMote) :
    visitFrom sqlOk slots n j s =
      (List.range' j n).foldl (fun s k => visit sqlOk (slots k) k s) s := by
  induction n generalizing j s with
  | zero => rfl
  | succ n ih => rw [visitFrom, ih, List.range'_succ, List.foldl_cons]

theorem joinReqFrom_eq_foldl (sent : Bool) (slots : ℕ → SlotEnv) (n j : ℕ) (s : RoamMote) :
    joinReqFrom sent slots n j s =
      (List.range' j n).foldl (fun s k => joinReqAt sent slots k s) s := by
  induction n generalizing j s with
  | zero => rfl
  | succ n ih =>
    rw [joinReqFrom, ih, List.range'_succ, List.foldl_cons]
    rfl

theorem xmitDataAnsFrom_eq_foldl (slots : ℕ → SlotEnv) (result : AnsResult) (n j : ℕ)
    (s : RoamMote) : xmitDataAnsFrom slots result n j s =
      (List.range' j n).foldl (fun s k => xmitDataAnsAt slots result k s) s := by
  induction n generalizing j s with
  | zero => rfl
  | succ n ih =>
    rw [xmitDataAnsFrom, ih, List.range'_succ, List.foldl_cons]
    rfl

theorem jsonHandler_mote (sqlOk : Bool) (slots : ℕ → SlotEnv) (d : Docket) :
    (d.jsonHandler sqlOk slots).mote = jsonHandler sqlOk slots d.mote := by
  rw [Docket.jsonHandler, forSlots_mote (fun k => visit sqlOk (slots k) k) fun _ _ => rfl]
  exact (visitFrom_eq_foldl sqlOk slots _ _ _).symm

theorem joinReqs_mote (sent : Bool) (slots : ℕ → SlotEnv) (d : Docket) :
    (d.joinReqs sent slots).mote =
      joinReqFrom sent slots d.mote.requesterList.length 0 d.mote := by
  rw [Docket.joinReqs, joinReqFrom_eq_foldl]
  exact forSlots_mote (joinReqAt sent slots) (fun _ _ => rfl) _ _ _

/-- The list after the slots from `j` on were answered. -/
def joinAnsList (slots : ℕ → SlotEnv) (n j : ℕ) (l : List (Option Requester)) :
    List (Option Requester) :=
  l.mapIdx fun k r => if j ≤ k ∧ k < j + n then r.map (joinAnsPost (slots k)) else r

theorem joinAnsFrom_mote (slots : ℕ → SlotEnv) (n j : ℕ) (d : Docket) :
    (Docket.forSlots (Docket.joinAnsAt slots) n j d).mote =
      { d.mote with requesterList := joinAnsList slots n j d.mote.requesterList } := by
  induction n generalizing j d with
  | zero =>
    have hsame : joinAnsList slots 0 j d.mote.requesterList = d.mote.requesterList := by
      refine List.ext_getElem? fun k => ?_
      have hno : ¬(j ≤ k ∧ k < j + 0) := by omega
      simp only [joinAnsList, List.getElem?_mapIdx, hno, if_false, Option.map_id']
    rw [hsame]
    rfl
  | succ n ih =>
    rw [Docket.forSlots, ih]
    cases hr : d.mote.slot j with
    | none =>
      simp only [Docket.joinAnsAt, hr]
      congr 1
      refine List.ext_getElem? fun k => ?_
      simp only [joinAnsList, List.getElem?_mapIdx]
      by_cases hk : k = j
      · subst hk
        rw [RoamMote.slot, Option.join_eq_none_iff] at hr
        rcases hr with hr | hr <;> simp [hr]
      · have hiff : (j + 1 ≤ k ∧ k < j + 1 + n) ↔ (j ≤ k ∧ k < j + (n + 1)) := by omega
        simp only [hiff]
    | some r =>
      simp only [Docket.joinAnsAt, hr]
      congr 1
      refine List.ext_getElem? fun k => ?_
      simp only [joinAnsList, List.getElem?_mapIdx]
      have hlt := slot_lt hr
      by_cases hk : k = j
      · subst hk
        rw [RoamMote.slot, Option.join_eq_some_iff] at hr
        have hno : ¬(k + 1 ≤ k ∧ k < k + 1 + n) := by omega
        rw [List.getElem?_set_self hlt, hr]
        simp
      · have hiff : (j + 1 ≤ k ∧ k < j + 1 + n) ↔ (j ≤ k ∧ k < j + (n + 1)) := by omega
        simp only [List.getElem?_set_ne (Ne.symm hk), hiff]

theorem joinAnswered_mote (rxOk dlmdOk : Bool) (slots : ℕ → SlotEnv) (d : Docket) :
    (d.joinAnswered rxOk dlmdOk slots).mote = joinAnswered rxOk dlmdOk slots d.mote := by
  unfold Docket.joinAnswered joinAnswered
  dsimp only
  cases d.mote.bestR with
  | none => rfl
  | some i =>
    have hsame : joinAnsList slots (d.mote.follow i).requesterList.length 0
        (d.mote.follow i).requesterList =
        (d.mote.follow i).requesterList.mapIdx fun j r => r.map (joinAnsPost (slots j)) := by
      refine List.ext_getElem? fun k => ?_
      simp only [joinAnsList, List.getElem?_mapIdx]
      cases hk : (d.mote.follow i).requesterList[k]? with
      | none => rfl
      | some r =>
        have hlt := (List.getElem?_eq_some_iff.mp hk).1
        simp [hlt]
    by_cases hcrash : (d.mote.follow i).crashed = true
    · exact (congrArg Docket.mote (if_pos hcrash)).trans (if_pos hcrash).symm
    · refine (congrArg Docket.mote (if_neg hcrash)).trans (Eq.trans ?_ (if_neg hcrash).symm)
      cases rxOk with
      | false => rfl
      | true =>
        cases dlmdOk with
        | false => rfl
        | true =>
          refine (joinAnsFrom_mote slots _ 0 _).trans ?_
          exact congrArg (fun l => { d.mote.follow i with requesterList := l }) hsame

theorem uplinkFinish_mote (env : FinishEnv) (d : Docket) :
    ((d.uplinkFinish env).1, (d.uplinkFinish env).2.mote) = uplinkFinish env d.mote := by
  unfold Docket.uplinkFinish uplinkFinish
  dsimp only [Docket.move]
  split
  · rfl
  · split
    · rfl
    · split
      · cases env.joinReq with
        | none => rfl
        | some sent =>
          dsimp only
          rw [joinReqs_mote]
      · rfl

theorem finishUplink_mote (env : FinishEnv) (d : Docket) :
    (d.finishUplink env).mote = if d.mote.crashed then d.mote
      else fDone env.dl (uplinkFinish env d.mote).1
        (jsonHandler env.sqlOk env.slots (uplinkFinish env d.mote).2) := by
  rw [← uplinkFinish_mote, ← jsonHandler_mote]
  unfold Docket.finishUplink
  by_cases hcrash : d.mote.crashed = true
  · rw [if_pos hcrash, if_pos hcrash]
  · rw [if_neg hcrash, if_neg hcrash]
    rfl

theorem finishJson_mote (env : FinishEnv) (d : Docket) :
    (d.finishJson env).mote = finishJson env d.mote := by
  unfold Docket.finishJson finishJson
  split
  · rfl
  · split
    · exact congrArg (fDone env.dl false) (jsonHandler_mote env.sqlOk env.slots d)
    · split
      · rfl
      · split
        · rfl
        · split
          · exact finishUplink_mote env (d.move RoamMote.followBest)
          · exact finishUplink_mote env d

theorem finishLocal_mote (env : FinishEnv) (d : Docket) :
    ((d.finishLocal env).1, (d.finishLocal env).2.mote) = finishLocal env d.mote := by
  unfold Docket.finishLocal finishLocal
  split
  · rfl
  · split
    · rw [jsonHandler_mote]
    · rfl

theorem service_mote (env : FinishEnv) (d : Docket) :
    (d.service env).mote = service env d.mote := by
  unfold Docket.service service
  cases d.mote.progress with
  | OFF => rfl
  | LOCAL =>
    dsimp only
    rw [← finishLocal_mote]
    rfl
  | JSON =>
    dsimp only [Docket.move]
    rw [finishJson_mote]

@[simp] theorem uplinkStart_mote (d : Docket) : d.uplinkStart.mote = d.mote := by
  unfold Docket.uplinkStart
  split <;> rfl

theorem step_mote (d : Docket) (e : RoamEvent × ℕ) : (d.step e).mote = d.mote.step e.1 := by
  unfold Docket.step RoamMote.step
  split
  · rfl
  · obtain ⟨e, inTid⟩ := e
    cases e with
    | localRx sq mtype forwards =>
      exact congrArg (localUplink sq mtype forwards) (uplinkStart_mote d)
    | json admitted MessageType ClientID u =>
      exact congrArg (uplinkJson admitted MessageType ClientID u) (uplinkStart_mote d)
    | service env => exact service_mote env d
    | joinAns rxOk dlmdOk slots => exact joinAnswered_mote rxOk dlmdOk slots d
    | xmitDataAns result slots =>
      refine Eq.trans ?_ (xmitDataAnsFrom_eq_foldl slots result _ 0 d.mote).symm
      exact forSlots_mote (xmitDataAnsAt slots result) (fun _ _ => rfl) _ _ _
    | downlinkBC PHYPayload dl => rfl

theorem run_mote (es : List (RoamEvent × ℕ)) (d : Docket) :
    (Machine.run Docket.step d es).mote = Machine.run RoamMote.step d.mote (es.map Prod.fst) := by
  induction es generalizing d with
  | nil => rfl
  | cons e es ih =>
    rw [Machine.run_cons, ih, step_mote, List.map_cons, Machine.run_cons]

end Lorawan.NetworkServer

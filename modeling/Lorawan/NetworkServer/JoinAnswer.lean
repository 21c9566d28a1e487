import Lorawan.Backend.KeyEnvelope
import Lorawan.Backend.Message
import Lorawan.NetworkServer.Requesters

/-!
# The answer to a join that was relayed (sNS.c:478-713)

The network servers that relayed a join request wait in the mote's list. When the
join server has accepted, each is sent the join accept. The loop keeps one result for
all: what fails for one, or only starts no new roaming state, is told to the others.
-/

namespace Lorawan.NetworkServer
open Lorawan Lorawan.Backend

/-! ### Answers -/

inductive KeyName
  | NwkSKey
  | FNwkSIntKey
  | SNwkSIntKey
  | NwkSEncKey
deriving DecidableEq

/-- The keys of `session_t`. -/
structure NwkKeys where
  FNwkSIntKeyBin : Octets
  SNwkSIntKeyBin : Octets
  NwkSEncKeyBin : Octets
  OptNeg : Bool
deriving DecidableEq

/-- `mote_t`, as far as the answers are concerned. -/
structure JoinMote where
  devEui : UInt64
  devAddr : UInt32
  session : NwkKeys
deriving DecidableEq

structure JoinRequester where
  needsAnswer : Bool
  MessageType : ReqType
  inTid : UInt64
  ClientID : ℕ
deriving DecidableEq

/-- The members that `generateXRStartAnsSuccess` adds. -/
structure XRStartAns where
  ServiceProfile : Bool
  keys : List (KeyName × Option KeyEnvelopeJson)
  FCntUp : Option ℕ
  DevEUI : Option UInt64
  Lifetime : Option ℕ
  DLMetaData : Bool
  PHYPayload : Option Octets
  DevAddr : Option UInt32
deriving DecidableEq

/-- `json_object_new_object()` -/
def XRStartAns.empty : XRStartAns := ⟨false, [], none, none, none, false, none, none⟩

/-- What surrounds the answer to a requester: the tables, and the library that posts it. -/
structure JoinEnv where
  getLifetime : ℤ
  serviceProfile : Bool
  /-- `isNetID(.., "fMICup") == 1` -/
  fMICup : Bool
  /-- `roamState` of `motes`. -/
  roamState : RoamState
  /-- `KEKlabel` and `KEK` of `roaming`. -/
  key_envelope : key_envelope_t
  easyOk : Bool
  postOk : Bool

def XRStartAns.addKey (W : KeyWrap) (e : JoinEnv) (name : KeyName) (key : Octets) (a : XRStartAns) :
    XRStartAns := { a with keys := a.keys ++ [(name, create_KeyEnvelope W key e.key_envelope)] }

/-- `keysPassive`, `keysHandover` -/
def keysPassive (e : JoinEnv) (mt : ReqType) : Bool :=
  match mt with
  | .PRStartReq => e.fMICup
  | .XmitDataReq => decide (e.roamState = .sPASSIVE) && e.fMICup
  | _ => false

def keysHandover (e : JoinEnv) (mt : ReqType) : Bool :=
  match mt with
  | .HRStartReq => true
  | .XmitDataReq => decide (e.roamState = .hHANDOVER)
  | _ => false

def addKeys (W : KeyWrap) (m : JoinMote) (e : JoinEnv) (mt : ReqType) (a : XRStartAns) :
    XRStartAns :=
  let se := m.session
  if keysPassive e mt then
    if se.OptNeg then { a with FCntUp := some 0 }.addKey W e .FNwkSIntKey se.FNwkSIntKeyBin
    else a.addKey W e .NwkSKey se.FNwkSIntKeyBin
  else if keysHandover e mt then
    if se.OptNeg then
      { ((a.addKey W e .FNwkSIntKey se.FNwkSIntKeyBin).addKey W e .SNwkSIntKey
          se.SNwkSIntKeyBin).addKey W e .NwkSEncKey se.NwkSEncKeyBin with FCntUp := some 0 }
    else a.addKey W e .NwkSKey se.FNwkSIntKeyBin
  else a

/-- The new roaming state, which is null when there is none as when the profile is missing. -/
def newRoamState (mt : ReqType) : Option RoamState :=
  match mt with
  | .PRStartReq => some .sPASSIVE
  | .HRStartReq => some .hHANDOVER
  | _ => none

def XRStartAns.addDevEUI (m : JoinMote) (a : XRStartAns) : XRStartAns :=
  { a with DevEUI := if m.devEui.toNat ≠ Backend.NONE_DEVEUI then some m.devEui else a.DevEUI }

/-- What is added whatever the lifetime is. -/
def XRStartAns.carry (m : JoinMote) (rfBuf : Octets) (a : XRStartAns) : XRStartAns :=
  { a with
    DLMetaData := true
    PHYPayload := if rfBuf = [] then a.PHYPayload else some rfBuf
    DevAddr := some m.devAddr }

def generateXRStartAnsSuccess (W : KeyWrap) (m : JoinMote) (rfBuf : Octets) (e : JoinEnv)
    (mt : ReqType) (lifetime : ℕ) (a : XRStartAns) : Option RoamState × XRStartAns :=
  if 0 < lifetime then
    if !e.serviceProfile then (none, a)
    else
      let a := (addKeys W m e mt { a with ServiceProfile := true }).addDevEUI m
      (newRoamState mt, { a with Lifetime := some lifetime }.carry m rfBuf)
  else (none, a.carry m rfBuf)

/-! ### sNS_JoinAnsJson -/

def ansMtOf : ReqType → Option MessageType
  | .XmitDataReq => some .XmitDataAns
  | .PRStartReq => some .PRStartAns
  | .HRStartReq => some .HRStartAns
  | .other => none

/-- History: an answer that was posted to the requester of a slot. -/
structure PostedAns where
  slot : ℕ
  ClientID : ℕ
  inTid : UInt64
  ansMt : MessageType
  result : Result
  body : XRStartAns
deriving DecidableEq

structure JoinLoop where
  /-- The one result of all answers. -/
  result : Result
  requesterList : List (Option JoinRequester)
  posted : List PostedAns
  /-- `mote_update_database_roam` -/
  roams : List (RoamState × ℕ × Option ℕ)
  /-- Whether the last answer was posted. -/
  ret : Bool
deriving DecidableEq

/-- What is made for a requester while the result is still Success: the result from now on, the
roaming state, and the answer. -/
def makeAnswer (W : KeyWrap) (m : JoinMote) (rfBuf : Octets) (e : JoinEnv) (mt : ReqType)
    (result : Result) : Result × Option RoamState × XRStartAns :=
  if result = .Success then
    if e.getLifetime < 0 then (.Other, none, .empty)
    else
      let (newState, a) := generateXRStartAnsSuccess W m rfBuf e mt e.getLifetime.toNat .empty
      (if newState.isNone then .Other else .Success, newState, a)
  else (result, none, .empty)

/-- The body of the loop, for the requester `R` of the slot `j`. -/
def joinVisit (W : KeyWrap) (m : JoinMote) (rfBuf : Octets) (e : JoinEnv) (j : ℕ)
    (R : Option JoinRequester) (s : JoinLoop) : JoinLoop :=
  match R with
  | none => { s with requesterList := s.requesterList ++ [none] }
  | some r =>
    match if r.needsAnswer then ansMtOf r.MessageType else none with
    | none => { s with requesterList := s.requesterList ++ [some r] }
    | some ansMt =>
      let made := makeAnswer W m rfBuf e r.MessageType s.result
      let s := { s with result := made.1 }
      if !e.easyOk then { s with requesterList := s.requesterList ++ [some r] }
      else if !e.postOk then
        { s with requesterList := s.requesterList ++ [some r], ret := false }
      else
        { s with
          requesterList := s.requesterList ++ [some { r with needsAnswer := false }]
          posted := s.posted ++ [⟨j, r.ClientID, r.inTid, ansMt, made.1, made.2.2⟩]
          roams := s.roams ++ (made.2.1.map fun newState =>
            (newState, r.ClientID, if 0 < e.getLifetime then some e.getLifetime.toNat else none)).toList
          ret := true }

/-- The slots from `j` on. -/
def joinFrom (W : KeyWrap) (m : JoinMote) (rfBuf : Octets) (env : ℕ → JoinEnv) :
    ℕ → List (Option JoinRequester) → JoinLoop → JoinLoop
  | _, [], s => s
  | j, R :: Rs, s => joinFrom W m rfBuf env (j + 1) Rs (joinVisit W m rfBuf (env j) j R s)

def sNS_JoinAnsJson (W : KeyWrap) (m : JoinMote) (rfBuf : Octets) (env : ℕ → JoinEnv)
    (result : Result) (requesterList : List (Option JoinRequester)) : JoinLoop :=
  joinFrom W m rfBuf env 0 requesterList ⟨result, [], [], [], false⟩

/-! ### What each requester is due -/

/-- The keys that a requester needs for its role, under the session they belong to. -/
def roleKeys (se : NwkKeys) (e : JoinEnv) (mt : ReqType) : List (KeyName × Octets) :=
  let role : RoamState := match mt with
    | .PRStartReq => .sPASSIVE
    | .HRStartReq => .hHANDOVER
    | .XmitDataReq => e.roamState
    | .other => .NONE
  if role = .hHANDOVER then
    if se.OptNeg then
      [(.FNwkSIntKey, se.FNwkSIntKeyBin), (.SNwkSIntKey, se.SNwkSIntKeyBin),
        (.NwkSEncKey, se.NwkSEncKeyBin)]
    else [(.NwkSKey, se.FNwkSIntKeyBin)]
  else if role = .sPASSIVE ∧ e.fMICup then
    if se.OptNeg then [(.FNwkSIntKey, se.FNwkSIntKeyBin)] else [(.NwkSKey, se.FNwkSIntKeyBin)]
  else []

/-- The keys in their envelopes. -/
def sealed (W : KeyWrap) (e : JoinEnv) (keys : List (KeyName × Octets)) :
    List (KeyName × Option KeyEnvelopeJson) :=
  keys.map fun k => (k.1, create_KeyEnvelope W k.2 e.key_envelope)

theorem addKeys_keys (W : KeyWrap) (m : JoinMote) (e : JoinEnv) (mt : ReqType) (a : XRStartAns) :
    (addKeys W m e mt a).keys = a.keys ++ sealed W e (roleKeys m.session e mt) := by
  cases mt with
  | PRStartReq =>
    cases hf : e.fMICup <;> cases ho : m.session.OptNeg <;>
      simp [addKeys, keysPassive, keysHandover, roleKeys, sealed, XRStartAns.addKey, hf, ho]
  | HRStartReq =>
    cases ho : m.session.OptNeg <;>
      simp [addKeys, keysPassive, keysHandover, roleKeys, sealed, XRStartAns.addKey, ho]
  | XmitDataReq =>
    cases hs : e.roamState <;> cases hf : e.fMICup <;> cases ho : m.session.OptNeg <;>
      simp [addKeys, keysPassive, keysHandover, roleKeys, sealed, XRStartAns.addKey, hs, hf, ho]
  | other => simp [addKeys, keysPassive, keysHandover, roleKeys, sealed]

/-- The requester starts roaming: it is not told Other by `makeAnswer`. -/
structure Serves (e : JoinEnv) (mt : ReqType) : Prop where
  starts : mt = .PRStartReq ∨ mt = .HRStartReq
  lifetime : 0 < e.getLifetime
  profile : e.serviceProfile = true

/-- What the answer to a requester holds that was accepted. -/
structure Accepts (W : KeyWrap) (m : JoinMote) (rfBuf : Octets) (e : JoinEnv) (mt : ReqType)
    (a : XRStartAns) : Prop where
  PHYPayload : a.PHYPayload = if rfBuf = [] then none else some rfBuf
  Lifetime : a.Lifetime.map Int.ofNat = some e.getLifetime
  keys : a.keys = sealed W e (roleKeys m.session e mt)

theorem newRoamState_isSome (mt : ReqType) :
    (newRoamState mt).isSome ↔ mt = .PRStartReq ∨ mt = .HRStartReq := by
  cases mt <;> simp [newRoamState]

theorem addKeys_PHYPayload (W : KeyWrap) (m : JoinMote) (e : JoinEnv) (mt : ReqType)
    (a : XRStartAns) : (addKeys W m e mt a).PHYPayload = a.PHYPayload := by
  unfold addKeys
  dsimp only
  repeat' split
  all_goals rfl

theorem generateXRStartAnsSuccess_of_serves {W : KeyWrap} {m : JoinMote} {rfBuf : Octets}
    {e : JoinEnv} {mt : ReqType} (h : Serves e mt) :
    (generateXRStartAnsSuccess W m rfBuf e mt e.getLifetime.toNat .empty).1 = newRoamState mt ∧
      Accepts W m rfBuf e mt
        (generateXRStartAnsSuccess W m rfBuf e mt e.getLifetime.toNat .empty).2 := by
  have hlt : 0 < e.getLifetime.toNat := by
    have := h.lifetime
    omega
  have hcast : Int.ofNat e.getLifetime.toNat = e.getLifetime := Int.toNat_of_nonneg h.lifetime.le
  rw [generateXRStartAnsSuccess, if_pos hlt, h.profile]
  refine ⟨rfl, ?_, congrArg some hcast, addKeys_keys W m e mt _⟩
  show (if rfBuf = [] then (addKeys W m e mt _).PHYPayload else some rfBuf) = _
  rw [addKeys_PHYPayload]
  rfl

theorem generateXRStartAnsSuccess_isSome (W : KeyWrap) (m : JoinMote) (rfBuf : Octets) (e : JoinEnv)
    (mt : ReqType) (lifetime : ℕ) (a : XRStartAns) :
    (generateXRStartAnsSuccess W m rfBuf e mt lifetime a).1.isSome ↔
      0 < lifetime ∧ e.serviceProfile = true ∧ (mt = .PRStartReq ∨ mt = .HRStartReq) := by
  rw [generateXRStartAnsSuccess, ← newRoamState_isSome]
  by_cases hlt : 0 < lifetime
  · cases hp : e.serviceProfile with
    | false => simp [hlt]
    | true => simp [hlt]
  · simp [hlt]

theorem makeAnswer_result (W : KeyWrap) (m : JoinMote) (rfBuf : Octets) (e : JoinEnv) (mt : ReqType)
    (result : Result) :
    (makeAnswer W m rfBuf e mt result).1 = .Success ↔ result = .Success ∧ Serves e mt := by
  by_cases hres : result = .Success
  · by_cases hneg : e.getLifetime < 0
    · have hno : ¬ Serves e mt := by
        intro h
        have := h.lifetime
        omega
      simp [makeAnswer, hres, hneg, hno]
    · have hgen := generateXRStartAnsSuccess_isSome W m rfBuf e mt e.getLifetime.toNat .empty
      have hmade : (makeAnswer W m rfBuf e mt result).1 = .Success ↔
          (generateXRStartAnsSuccess W m rfBuf e mt e.getLifetime.toNat .empty).1.isSome := by
        simp only [makeAnswer, hres, if_true, if_neg hneg]
        cases (generateXRStartAnsSuccess W m rfBuf e mt e.getLifetime.toNat .empty).1 with
        | none => simp
        | some newState => simp
      rw [hmade, hgen]
      constructor
      · rintro ⟨hlt, hp, hmt⟩
        exact ⟨hres, hmt, by omega, hp⟩
      · rintro ⟨-, h⟩
        have := h.lifetime
        exact ⟨by omega, h.profile, h.starts⟩
  · simp [makeAnswer, hres]

theorem makeAnswer_body {W : KeyWrap} {m : JoinMote} {rfBuf : Octets} {e : JoinEnv} {mt : ReqType}
    (h : Serves e mt) : Accepts W m rfBuf e mt (makeAnswer W m rfBuf e mt .Success).2.2 := by
  have hneg : ¬ e.getLifetime < 0 := by
    have := h.lifetime
    omega
  simp only [makeAnswer, if_true, if_neg hneg]
  exact (generateXRStartAnsSuccess_of_serves h).2

/-! ### The loop -/

section

variable (W : KeyWrap) (m : JoinMote) (rfBuf : Octets)

/-- The answer that is made for a requester while the result is `result`. -/
def answerFor (e : JoinEnv) (j : ℕ) (r : JoinRequester) (ansMt : MessageType) (result : Result) :
    PostedAns :=
  let made := makeAnswer W m rfBuf e r.MessageType result
  ⟨j, r.ClientID, r.inTid, ansMt, made.1, made.2.2⟩

/-- The requester is answered, if the library posts the answer. -/
def Awaits (R : Option JoinRequester) (r : JoinRequester) (ansMt : MessageType) : Prop :=
  R = some r ∧ r.needsAnswer = true ∧ ansMtOf r.MessageType = some ansMt

theorem joinVisit_result (e : JoinEnv) (j : ℕ) (R : Option JoinRequester) (s : JoinLoop) :
    (joinVisit W m rfBuf e j R s).result = .Success ↔
      s.result = .Success ∧ ∀ r ansMt, Awaits R r ansMt → Serves e r.MessageType := by
  cases R with
  | none => simp [joinVisit, Awaits]
  | some r =>
    cases hmt : (if r.needsAnswer then ansMtOf r.MessageType else none) with
    | none =>
      have hno : ∀ r' ansMt, ¬ Awaits (some r) r' ansMt := by
        rintro r' ansMt ⟨heq, hneeds, hans⟩
        cases heq
        rw [if_pos hneeds, hans] at hmt
        cases hmt
      simp only [joinVisit, hmt]
      exact ⟨fun h => ⟨h, fun r' ansMt h' => absurd h' (hno r' ansMt)⟩, fun h => h.1⟩
    | some ansMt =>
      have hawaits : Awaits (some r) r ansMt := by
        cases hneeds : r.needsAnswer with
        | false => simp [hneeds] at hmt
        | true => exact ⟨rfl, hneeds, by simpa [hneeds] using hmt⟩
      have hres : (joinVisit W m rfBuf e j (some r) s).result =
          (makeAnswer W m rfBuf e r.MessageType s.result).1 := by
        simp only [joinVisit, hmt]
        split
        · rfl
        · split <;> rfl
      rw [hres, makeAnswer_result]
      refine and_congr_right fun _ => ⟨fun h r' ansMt' h' => ?_, fun h => h r ansMt hawaits⟩
      cases h'.1
      exact h

theorem mem_joinVisit_posted (e : JoinEnv) (j : ℕ) (R : Option JoinRequester) (s : JoinLoop)
    (p : PostedAns) : p ∈ (joinVisit W m rfBuf e j R s).posted ↔
      p ∈ s.posted ∨ ∃ r ansMt, Awaits R r ansMt ∧ e.easyOk = true ∧ e.postOk = true ∧
        p = answerFor W m rfBuf e j r ansMt s.result := by
  cases R with
  | none => simp [joinVisit, Awaits]
  | some r =>
    cases hneeds : r.needsAnswer with
    | false => simp [joinVisit, Awaits, hneeds]
    | true =>
      cases hmt : ansMtOf r.MessageType with
      | none => simp [joinVisit, Awaits, hneeds, hmt]
      | some ansMt =>
        cases heasy : e.easyOk with
        | false => simp [joinVisit, Awaits, hneeds, hmt, heasy]
        | true =>
          cases hpost : e.postOk with
          | false => simp [joinVisit, Awaits, hneeds, hmt, heasy, hpost]
          | true => simp [joinVisit, Awaits, hneeds, hmt, heasy, hpost, answerFor]

variable (env : ℕ → JoinEnv)

theorem joinFrom_result {j : ℕ} (Rs : List (Option JoinRequester)) (s : JoinLoop) :
    (joinFrom W m rfBuf env j Rs s).result = .Success ↔
      s.result = .Success ∧
        ∀ i R r ansMt, Rs[i]? = some R → Awaits R r ansMt → Serves (env (j + i)) r.MessageType := by
  induction Rs generalizing j s with
  | nil => simp [joinFrom]
  | cons R Rs ih =>
    rw [joinFrom, ih, joinVisit_result, and_assoc]
    refine and_congr_right fun _ => ⟨?_, fun h => ⟨fun r ansMt hr => ?_, fun i R' r ansMt hR' hr => ?_⟩⟩
    · rintro ⟨hhead, htail⟩ i R' r ansMt hR' hr
      cases i with
      | zero =>
        cases hR'
        exact hhead r ansMt hr
      | succ i =>
        have := htail i R' r ansMt hR' hr
        rwa [Nat.add_assoc, Nat.add_comm 1] at this
    · exact h 0 R r ansMt rfl hr
    · have := h (i + 1) R' r ansMt hR' hr
      rwa [Nat.add_assoc, Nat.add_comm 1]

/-- What is posted to a slot is made with the result that the slots before left. -/
theorem mem_joinFrom_posted {j : ℕ} (Rs : List (Option JoinRequester)) (s : JoinLoop)
    (p : PostedAns) : p ∈ (joinFrom W m rfBuf env j Rs s).posted ↔
      p ∈ s.posted ∨ ∃ i R r ansMt, Rs[i]? = some R ∧ Awaits R r ansMt ∧
        (env (j + i)).easyOk = true ∧ (env (j + i)).postOk = true ∧
        p = answerFor W m rfBuf (env (j + i)) (j + i) r ansMt
          (joinFrom W m rfBuf env j (Rs.take i) s).result := by
  induction Rs generalizing j s with
  | nil => simp [joinFrom]
  | cons R Rs ih =>
    rw [joinFrom, ih, mem_joinVisit_posted, or_assoc]
    refine or_congr_right ?_
    constructor
    · rintro (⟨r, ansMt, hr, heasy, hpost, rfl⟩ | ⟨i, R', r, ansMt, hR', hr, heasy, hpost, rfl⟩)
      · exact ⟨0, R, r, ansMt, rfl, hr, heasy, hpost, rfl⟩
      · rw [Nat.add_assoc, Nat.add_comm 1] at *
        exact ⟨i + 1, R', r, ansMt, hR', hr, heasy, hpost, rfl⟩
    · rintro ⟨i, R', r, ansMt, hR', hr, heasy, hpost, rfl⟩
      cases i with
      | zero =>
        cases hR'
        exact Or.inl ⟨r, ansMt, hr, heasy, hpost, rfl⟩
      | succ i =>
        rw [← Nat.add_assoc, Nat.add_right_comm] at *
        exact Or.inr ⟨i, R', r, ansMt, hR', hr, heasy, hpost, rfl⟩

/-! ### A join accept for every requester -/

/-- The answer that is due to the requester `r` of the slot `j`. -/
structure Served (e : JoinEnv) (j : ℕ) (r : JoinRequester) (p : PostedAns) : Prop where
  slot : p.slot = j
  ClientID : p.ClientID = r.ClientID
  inTid : p.inTid = r.inTid
  ansMt : ansMtOf r.MessageType = some p.ansMt
  result : p.result = .Success
  body : Accepts W m rfBuf e r.MessageType p.body

/-- Every requester that needs an answer is sent the join accept. -/
def AllServed (Rs : List (Option JoinRequester)) : Prop :=
  ∀ j r, Rs[j]? = some (some r) → r.needsAnswer = true →
    ∃ p ∈ (sNS_JoinAnsJson W m rfBuf env .Success Rs).posted, Served W m rfBuf (env j) j r p

/-- Every requester is told the result it would be told alone. -/
def Independent (Rs : List (Option JoinRequester)) : Prop :=
  ∀ p ∈ (sNS_JoinAnsJson W m rfBuf env .Success Rs).posted, ∀ r, Rs[p.slot]? = some (some r) →
    p.result = (makeAnswer W m rfBuf (env p.slot) r.MessageType .Success).1

/-- The requester starts roaming, and the library posts its answer. -/
def Answerable (e : JoinEnv) (mt : ReqType) : Prop :=
  Serves e mt ∧ e.easyOk = true ∧ e.postOk = true

theorem ansMtOf_of_serves {e : JoinEnv} {mt : ReqType} (h : Serves e mt) :
    ∃ ansMt, ansMtOf mt = some ansMt := by
  rcases h.starts with rfl | rfl
  · exact ⟨_, rfl⟩
  · exact ⟨_, rfl⟩

theorem answerable_of_served {Rs : List (Option JoinRequester)} {j : ℕ} {r : JoinRequester}
    (hr : Rs[j]? = some (some r)) {p : PostedAns}
    (hp : p ∈ (sNS_JoinAnsJson W m rfBuf env .Success Rs).posted)
    (h : Served W m rfBuf (env j) j r p) : Answerable (env j) r.MessageType := by
  rcases (mem_joinFrom_posted W m rfBuf env Rs _ p).mp hp with hp | ⟨i, R, r', ansMt, hR, hr', hp⟩
  · cases hp
  · obtain ⟨heasy, hpost, rfl⟩ := hp
    obtain rfl : 0 + i = j := h.slot
    rw [Nat.zero_add] at *
    rw [hR, hr'.1] at hr
    cases hr
    exact ⟨((makeAnswer_result W m rfBuf _ _ _).mp h.result).2, heasy, hpost⟩

theorem success_so_far {Rs : List (Option JoinRequester)}
    (h : ∀ j r, Rs[j]? = some (some r) → r.needsAnswer = true → Serves (env j) r.MessageType)
    (i : ℕ) : (joinFrom W m rfBuf env 0 (Rs.take i) ⟨.Success, [], [], [], false⟩).result =
      .Success := by
  refine (joinFrom_result W m rfBuf env _ _).mpr ⟨rfl, ?_⟩
  intro k R r ansMt hR hr
  rw [Nat.zero_add]
  have hk : Rs[k]? = some R := by
    rw [List.getElem?_take] at hR
    split at hR
    · exact hR
    · cases hR
  rw [hr.1] at hk
  exact h k r hk hr.2.1

theorem served_of_answerable {Rs : List (Option JoinRequester)}
    (h : ∀ j r, Rs[j]? = some (some r) → r.needsAnswer = true → Answerable (env j) r.MessageType) :
    AllServed W m rfBuf env Rs := by
  intro j r hr hneeds
  obtain ⟨hserves, heasy, hpost⟩ := h j r hr hneeds
  obtain ⟨ansMt, hans⟩ := ansMtOf_of_serves hserves
  have hres := success_so_far W m rfBuf env (fun j r hr hneeds => (h j r hr hneeds).1) j
  refine ⟨answerFor W m rfBuf (env j) j r ansMt .Success, ?_, ?_⟩
  · refine (mem_joinFrom_posted W m rfBuf env Rs _ _).mpr (Or.inr ?_)
    refine ⟨j, some r, r, ansMt, hr, ⟨rfl, hneeds, hans⟩, ?_⟩
    rw [Nat.zero_add, hres]
    exact ⟨heasy, hpost, rfl⟩
  · exact ⟨rfl, rfl, rfl, hans, (makeAnswer_result W m rfBuf _ _ _).mpr ⟨rfl, hserves⟩,
      makeAnswer_body hserves⟩

theorem independent_of_serves {Rs : List (Option JoinRequester)}
    (h : ∀ j r, Rs[j]? = some (some r) → r.needsAnswer = true → Serves (env j) r.MessageType) :
    Independent W m rfBuf env Rs := by
  intro p hp r hr
  rcases (mem_joinFrom_posted W m rfBuf env Rs _ p).mp hp with hp | ⟨i, R, r', ansMt, hR, hr', hp⟩
  · cases hp
  · obtain ⟨-, -, rfl⟩ := hp
    rw [success_so_far W m rfBuf env h i]
    have hi : Rs[0 + i]? = some (some r) := hr
    rw [Nat.zero_add, hR, hr'.1] at hi
    cases hi
    rfl

/-- Every requester is sent the join accept, and none changes what the others are told, exactly when
each that needs an answer starts roaming with a positive lifetime and a service profile, and its
answer can be posted. -/
theorem all_served_iff_answerable (Rs : List (Option JoinRequester)) :
    AllServed W m rfBuf env Rs ∧ Independent W m rfBuf env Rs ↔
      ∀ j r, Rs[j]? = some (some r) → r.needsAnswer = true →
        Answerable (env j) r.MessageType := by
  constructor
  · rintro ⟨h, -⟩ j r hr hneeds
    obtain ⟨p, hp, hserved⟩ := h j r hr hneeds
    exact answerable_of_served W m rfBuf env hr hp hserved
  · intro h
    exact ⟨served_of_answerable W m rfBuf env h,
      independent_of_serves W m rfBuf env fun j r hr hneeds => (h j r hr hneeds).1⟩

end

/-- A network server with all it needs. -/
def goodEnv : JoinEnv := ⟨60, true, true, .NONE, ⟨none, []⟩, true, true⟩

def someMote : JoinMote := ⟨1, 1, ⟨[], [], [], false⟩⟩

/-- A stateless fNS, then a stateful one. -/
def twoRequesters : List (Option JoinRequester) :=
  [some ⟨true, .XmitDataReq, 1, 0x13⟩, some ⟨true, .PRStartReq, 2, 0x14⟩]

/-- A requester that only carried the request makes the answer to all Other. -/
theorem xmitDataReq_spoils :
    ¬ (AllServed noWrap someMote [0x20] (fun _ => goodEnv) twoRequesters ∧
      Independent noWrap someMote [0x20] (fun _ => goodEnv) twoRequesters) := by
  rintro ⟨h, -⟩
  obtain ⟨p, hp, hserved⟩ := h 1 _ rfl rfl
  have hall : ∀ p ∈ (sNS_JoinAnsJson noWrap someMote [0x20] (fun _ => goodEnv) .Success
      twoRequesters).posted, p.result = .Other := by decide +kernel
  have hother := (hall p hp).symm.trans hserved.result
  cases hother

end Lorawan.NetworkServer

import Lorawan.NetworkServer.Docket

/-!
# Each request is answered once

A request for which `uplinkJson` returned null waits in its slot until `finish`, the
join server or the application server has an answer for it. `save_uplink_start`
discards the slot with the next uplink, answered or not.
-/

namespace Lorawan.NetworkServer
open Lorawan Lorawan.Backend Backend.mtype_e

/-- The replies to a request. -/
def Docket.repliesTo (d : Docket) (q : Request) : List Reply :=
  d.replies.filter fun a => a.serial = q.serial

/-- The reply that is due: with the TransactionID of the request and the type of answer to its
own type. -/
def Request.due (q : Request) : Reply := ⟨q.serial, q.inTid, ansMtOf q.MessageType⟩

/-- Each request that was to be answered later was answered before its slot was discarded, and
once. -/
def AnsweredOnce (d : Docket) : Prop :=
  ∀ q ∈ d.discarded, q.later = true → q.MessageType ≠ .other → d.repliesTo q = [q.due]

instance (d : Docket) : Decidable (AnsweredOnce d) := by
  unfold AnsweredOnce
  infer_instance

/-! ### The condition -/

/-- A property of all requesters that need an answer, with their slots. -/
def AllPending (P : ℕ → Requester → Prop) (s : RoamMote) : Prop :=
  ∀ j < s.requesterList.length, ∀ r ∈ s.slot j, r.needsAnswer = true → P j r

instance (P : ℕ → Requester → Prop) [∀ j r, Decidable (P j r)] (s : RoamMote) :
    Decidable (AllPending P s) := by
  unfold AllPending
  infer_instance

/-- curl takes the answer. -/
def SlotEnv.Posts (e : SlotEnv) : Prop := e.easyOk = true ∧ e.postOk = true ∧ e.performOk = true

/-- The join server's answer will be passed on to the slot. -/
def Docket.WaitsJS (d : Docket) (j : ℕ) : Prop := d.joinReq = true ∧ d.mote.bestR = some j

/-- The application server's answer will be passed on to the requester. -/
def Docket.WaitsAS (d : Docket) (r : Requester) : Prop :=
  d.toAS = true ∧ r.MessageType = .XmitDataReq ∧ r.ans_ans = true

/-- Nothing is owed to a requester of another type. -/
def Docket.Waits (d : Docket) (j : ℕ) (r : Requester) : Prop :=
  r.MessageType = .other ∨ d.WaitsJS j ∨ d.WaitsAS r

def isXmit (R : Option Requester) : Bool :=
  R.any fun r => r.needsAnswer && decide (r.MessageType = .XmitDataReq)

/-- The payload of all XmitDataReq is taken for the first of them. When the application server
does not take it that one is answered, otherwise those that brought one are, by its answer. -/
def Forwarded (slots : ℕ → SlotEnv) (s : RoamMote) (j : ℕ) (r : Requester) : Prop :=
  s.ULFRMPayload = true ∧ ∃ i ∈ s.requesterList.findIdx? isXmit,
    if (slots i).toAS = true then r.ans_ans = true else i = j

/-- `finish` does not leave for the roaming state. -/
def FinishEnv.Stays (env : FinishEnv) : Prop := env.state ≠ .DEFERRED ∧ env.state ≠ .sHANDOVER

/-- The JSON phase has an answer for the requester, or asks a server for one. -/
def FinishAnswers (env : FinishEnv) (s : RoamMote) (j : ℕ) (r : Requester) : Prop :=
  env.sessionFails = false ∧
    if isJoinReq s.mtype = true then
      (env.sqlOk = true ∨ s.bestR = none) ∧ env.Stays ∧ s.hasUplink = true ∧
        env.joinReq.isSome = true
    else
      ((env.sqlOk = false ∧ s.bestR.isSome = true) ∨ env.Stays) ∧
        (env.sqlOk = true → r.MessageType = .XmitDataReq → Forwarded env.slots s j r)

/-- The local phase is the last one. -/
def FinishEnv.Skips (env : FinishEnv) : Prop :=
  env.sessionFails = true ∨ (env.sqlOk = false ∧ env.devEuiKnown = true) ∨
    env.state = .DEFERRED ∨
      (¬(env.state = .sPASSIVE ∨ env.state = .hHANDOVER) ∧ env.fNSSkip = true)

/-- The condition on an event: the last phase of an uplink has an answer for each requester or
asks a server for it, the server answers before the next uplink, and curl takes the answers. -/
def AnswersInTime (d : Docket) : RoamEvent → Prop
  | .localRx .. | .json .. =>
    d.mote.progress = .OFF → AllPending (fun j r => d.Waits j r → r.MessageType = .other) d.mote
  | .service env =>
    match d.mote.progress with
    | .OFF => True
    | .LOCAL =>
      AllPending (fun j r => (env.slots j).Posts ∧ (env.Skips → d.Waits j r)) d.mote
    | .JSON =>
      AllPending (fun j r => (env.slots j).Posts ∧
        (d.Waits j r ∨ FinishAnswers env d.mote j r)) d.mote
  | .joinAns rxOk dlmdOk slots =>
    AllPending (fun j r => (slots j).Posts ∧
      (d.mote.progress = .OFF → rxOk = true → dlmdOk = false → d.WaitsJS j →
        r.MessageType = .other ∨ d.WaitsAS r)) d.mote
  | .xmitDataAns _ slots =>
    AllPending (fun j r => r.MessageType = .XmitDataReq → r.ans_ans = true → (slots j).Posts)
      d.mote
  | .downlinkBC .. => True

instance (e : SlotEnv) : Decidable e.Posts := inferInstanceAs (Decidable (_ ∧ _))

instance (d : Docket) (j : ℕ) : Decidable (d.WaitsJS j) := inferInstanceAs (Decidable (_ ∧ _))

instance (d : Docket) (r : Requester) : Decidable (d.WaitsAS r) :=
  inferInstanceAs (Decidable (_ ∧ _))

instance (d : Docket) (j : ℕ) (r : Requester) : Decidable (d.Waits j r) :=
  inferInstanceAs (Decidable (_ ∨ _))

instance (slots : ℕ → SlotEnv) (s : RoamMote) (j : ℕ) (r : Requester) :
    Decidable (Forwarded slots s j r) := by
  unfold Forwarded
  infer_instance

instance (env : FinishEnv) : Decidable env.Stays := inferInstanceAs (Decidable (_ ∧ _))

instance (env : FinishEnv) : Decidable env.Skips := inferInstanceAs (Decidable (_ ∨ _))

instance (env : FinishEnv) (s : RoamMote) (j : ℕ) (r : Requester) :
    Decidable (FinishAnswers env s j r) := by
  unfold FinishAnswers
  infer_instance

instance (d : Docket) : ∀ e, Decidable (AnswersInTime d e)
  | .localRx .. | .json .. => inferInstanceAs (Decidable (_ → AllPending _ _))
  | .service env =>
    match h : d.mote.progress with
    | .OFF => .isTrue (by simp only [AnswersInTime, h])
    | .LOCAL => decidable_of_iff (AllPending (fun j r => (env.slots j).Posts ∧
        (env.Skips → d.Waits j r)) d.mote) (by simp only [AnswersInTime, h])
    | .JSON => decidable_of_iff (AllPending (fun j r => (env.slots j).Posts ∧
        (d.Waits j r ∨ FinishAnswers env d.mote j r)) d.mote) (by simp only [AnswersInTime, h])
  | .joinAns .. | .xmitDataAns .. => inferInstanceAs (Decidable (AllPending _ _))
  | .downlinkBC .. => .isTrue trivial

/-! ### One slot of the mote -/

section

variable {e : SlotEnv} {j : ℕ} {s s' s'' : RoamMote}

/-- Members that the answers do not depend on may differ. -/
structure Quiet (s s' : RoamMote) : Prop where
  requesterList : s'.requesterList = s.requesterList
  bestR : s'.bestR = s.bestR
  mtype : s'.mtype = s.mtype
  progress : s'.progress = s.progress
  answers : s'.answers = s.answers

/-- The slot `j` stays as it is, or is freed with an answer. -/
structure SlotStep (j : ℕ) (s s' : RoamMote) : Prop where
  bestR : s'.bestR = s.bestR
  mtype : s'.mtype = s.mtype
  progress : s'.progress = s.progress
  length : s'.requesterList.length = s.requesterList.length
  slot_ne : ∀ k, k ≠ j → s'.slot k = s.slot k
  slot : (s'.slot j = s.slot j ∧ s'.answers = s.answers) ∨
    ∃ r a, s.slot j = some r ∧ r.needsAnswer = true ∧ s'.slot j = none ∧
      s'.answers = s.answers ++ [a] ∧ a.MessageType = r.MessageType

theorem Quiet.slot (h : Quiet s s') (k : ℕ) : s'.slot k = s.slot k := by
  rw [RoamMote.slot, h.requesterList]
  rfl

theorem Quiet.slotStep (h : Quiet s s') (j : ℕ) : SlotStep j s s' where
  bestR := h.bestR
  mtype := h.mtype
  progress := h.progress
  length := by rw [h.requesterList]
  slot_ne k _ := h.slot k
  slot := .inl ⟨h.slot j, h.answers⟩

theorem Quiet.trans (h : Quiet s s') (h' : Quiet s' s'') : Quiet s s'' where
  requesterList := h'.requesterList.trans h.requesterList
  bestR := h'.bestR.trans h.bestR
  mtype := h'.mtype.trans h.mtype
  progress := h'.progress.trans h.progress
  answers := h'.answers.trans h.answers

theorem Quiet.before (h : Quiet s s') (h' : SlotStep j s' s'') : SlotStep j s s'' where
  bestR := h'.bestR.trans h.bestR
  mtype := h'.mtype.trans h.mtype
  progress := h'.progress.trans h.progress
  length := h'.length.trans (by rw [h.requesterList])
  slot_ne k hk := (h'.slot_ne k hk).trans (h.slot k)
  slot := by
    have hslot := h'.slot
    rwa [h.slot j, h.answers] at hslot

theorem SlotStep.before (h : SlotStep j s s') (h' : Quiet s' s'') : SlotStep j s s'' where
  bestR := h'.bestR.trans h.bestR
  mtype := h'.mtype.trans h.mtype
  progress := h'.progress.trans h.progress
  length := by rw [h'.requesterList, h.length]
  slot_ne k hk := (h'.slot k).trans (h.slot_ne k hk)
  slot := by
    rw [h'.slot j, h'.answers]
    exact h.slot

theorem quiet_refl (s : RoamMote) : Quiet s s := ⟨rfl, rfl, rfl, rfl, rfl⟩

theorem slotStep_post {result : AnsResult} {Lifetime : Option ℕ}
    (hposts : ∀ r ∈ s.slot j, r.needsAnswer = true → e.Posts) :
    SlotStep j s (r_post_ans_to_ns e j result Lifetime s).2 := by
  have hnull : Quiet s { s with crashed := true } := ⟨rfl, rfl, rfl, rfl, rfl⟩
  unfold r_post_ans_to_ns
  cases hr : s.slot j with
  | none => exact hnull.slotStep j
  | some r =>
    cases hwait : r.needsAnswer with
    | false => simpa [hwait] using (quiet_refl s).slotStep j
    | true =>
      obtain ⟨heasy, hpost, hperform⟩ := hposts r hr hwait
      simp only [hwait, heasy, hpost, hperform, Bool.not_true, Bool.or_self, Bool.false_eq_true,
        if_false, if_true]
      refine ⟨rfl, rfl, rfl, List.length_set .., fun k hk => ?_, .inr ⟨r, _, hr, hwait, ?_, rfl, rfl⟩⟩
      · simp only [RoamMote.slot, List.getElem?_set_ne (Ne.symm hk)]
      · simp [RoamMote.slot, List.getElem?_set_self (slot_lt hr)]

theorem slot_post {result : AnsResult} {Lifetime : Option ℕ} {r : Requester}
    (hr : s.slot j = some r) (hwait : r.needsAnswer = true) (hposts : e.Posts) :
    (r_post_ans_to_ns e j result Lifetime s).2.slot j = none := by
  rw [← Option.not_isSome_iff_eq_none, post_slot hr hwait]
  exact not_not.mpr ⟨hposts.1, hposts.2.2⟩

theorem quiet_carriedSaved (e : SlotEnv) (j : ℕ) (s : RoamMote) :
    Quiet s (saveRoaming e j (downlinkCarried e s)) := by
  unfold saveRoaming downlinkCarried
  split <;> split <;> exact ⟨rfl, rfl, rfl, rfl, rfl⟩

theorem quiet_compare (i : ℕ) (s : RoamMote) : Quiet s (s.compare i) := by
  unfold RoamMote.compare
  split <;> exact ⟨rfl, rfl, rfl, rfl, rfl⟩

theorem slotStep_answerBest (hposts : ∀ r ∈ s.slot j, r.needsAnswer = true → e.Posts) :
    SlotStep j s (answerBest e j s) := by
  unfold answerBest
  split
  · exact slotStep_post hposts
  · dsimp only
    split
    · exact (slotStep_post hposts).before (quiet_carriedSaved e j _)
    · exact slotStep_post hposts

theorem slotStep_visit {sqlOk : Bool} (hposts : ∀ r ∈ s.slot j, r.needsAnswer = true → e.Posts) :
    SlotStep j s (visit sqlOk e j s) := by
  have hsame := (quiet_refl s).slotStep j
  have hnull : Quiet s { s with stale := true, crashed := true } := ⟨rfl, rfl, rfl, rfl, rfl⟩
  have htaken : Quiet s { s with ULFRMPayload := false } := ⟨rfl, rfl, rfl, rfl, rfl⟩
  have hcompare : ∀ i, ∀ r ∈ (s.compare i).slot j, r.needsAnswer = true → e.Posts := by
    intro i
    rwa [slot_compare]
  have hturn := visit_turn sqlOk e j s
  generalize visit sqlOk e j s = s' at hturn ⊢
  cases hturn with
  | crashed h => exact hsame
  | idle h => exact hsame
  | other h hxmit hlife => exact slotStep_post hposts
  | null h hsql hrstart hlife hbest => exact hnull.slotStep j
  | best h hsql hrstart hlife hbest =>
    exact (quiet_compare j s).before (slotStep_answerBest (hcompare j))
  | deferred h hsql hrstart hlife hbest hij =>
    exact (quiet_compare _ s).before (slotStep_post (hcompare _))
  | taken h hsql htype hfrm => exact hsame
  | forwarded h hsql htype hfrm htoAS => exact htaken.slotStep j
  | failed h hsql htype hfrm htoAS => exact htaken.before (slotStep_post hposts)

theorem slot_answerBest {r : Requester} (hr : s.slot j = some r) (hwait : r.needsAnswer = true)
    (hposts : e.Posts) : (answerBest e j s).slot j = none := by
  rw [← Option.not_isSome_iff_eq_none, answerBest_slot hr hwait]
  exact not_not.mpr ⟨hposts.1, hposts.2.2⟩

/-- What a data uplink leaves unanswered: requests for a payload that was taken before, or that
the application server takes. -/
theorem visit_unanswered {sqlOk : Bool} {r r' : Requester} (hcrash : s.crashed = false)
    (hdata : isJoinReq s.mtype = false) (hr : s.slot j = some r) (hwait : r.needsAnswer = true)
    (hposts : e.Posts) (hcrash' : (visit sqlOk e j s).crashed = false)
    (hr' : (visit sqlOk e j s).slot j = some r') :
    sqlOk = true ∧ r.MessageType = .XmitDataReq ∧ (s.ULFRMPayload = true → e.toAS = true) := by
  have hcompare : ∀ i, (s.compare i).slot j = some r := by
    intro i
    rw [slot_compare, hr]
  have hturn := visit_turn sqlOk e j s
  generalize visit sqlOk e j s = s' at hturn hcrash' hr'
  cases hturn with
  | crashed h =>
    rw [hcrash] at h
    cases h
  | idle h => exact absurd ⟨hr, hwait, hdata⟩ (h r)
  | other h hxmit hlife =>
    rw [slot_post hr hwait hposts] at hr'
    cases hr'
  | null h hsql hrstart hlife hbest => cases hcrash'
  | best h hsql hrstart hlife hbest =>
    rw [slot_answerBest (hcompare j) hwait hposts] at hr'
    cases hr'
  | deferred h hsql hrstart hlife hbest hij =>
    rw [slot_post (hcompare _) hwait hposts] at hr'
    cases hr'
  | taken h hsql htype hfrm =>
    rw [← h.eq hr] at htype
    refine ⟨hsql, htype, fun hpayload => ?_⟩
    rw [hfrm] at hpayload
    cases hpayload
  | forwarded h hsql htype hfrm htoAS =>
    rw [← h.eq hr] at htype
    exact ⟨hsql, htype, fun _ => htoAS⟩
  | failed h hsql htype hfrm htoAS =>
    rw [slot_post (s := { s with ULFRMPayload := false }) hr hwait hposts] at hr'
    cases hr'

end

/-! ### One slot of the docket -/

/-- The slot `j` needs an answer. -/
def RoamMote.pendingAt (s : RoamMote) (j : ℕ) : Bool := (s.slot j).any (·.needsAnswer)

theorem pendingAt_iff {s : RoamMote} {j : ℕ} :
    s.pendingAt j = true ↔ ∃ r, s.slot j = some r ∧ r.needsAnswer = true := by
  rw [RoamMote.pendingAt]
  cases s.slot j <;> simp

theorem AllPending.at {P : ℕ → Requester → Prop} {s : RoamMote} (h : AllPending P s) {j : ℕ}
    {r : Requester} (hr : s.slot j = some r) (hwait : r.needsAnswer = true) : P j r :=
  h j (slot_lt hr) r hr hwait

section

variable {j : ℕ} {d d' d'' : Docket}

/-- The slot `j` stays as it is, or it needed an answer, which was posted for its request. -/
structure Handled (j : ℕ) (d d' : Docket) : Prop where
  requests : d'.requests = d.requests
  discarded : d'.discarded = d.discarded
  served : d'.served = d.served
  joinReq : d'.joinReq = d.joinReq
  toAS : d.toAS = true → d'.toAS = true
  bestR : d'.mote.bestR = d.mote.bestR
  mtype : d'.mote.mtype = d.mote.mtype
  progress : d'.mote.progress = d.mote.progress
  length : d'.mote.requesterList.length = d.mote.requesterList.length
  slot_ne : ∀ k, k ≠ j → d'.mote.slot k = d.mote.slot k
  slot : (d'.mote.slot j = d.mote.slot j ∧ d'.replies = d.replies) ∨
    ∃ r, d.mote.slot j = some r ∧ r.needsAnswer = true ∧
      (∀ r' ∈ d'.mote.slot j, r'.needsAnswer = false ∧ r'.MessageType = r.MessageType) ∧
      d'.replies = d.replies ++ d.reply j r.MessageType

theorem handled_handleSlot {f : RoamMote → RoamMote} (h : SlotStep j d.mote (f d.mote)) :
    Handled j d (d.handleSlot f j) where
  requests := rfl
  discarded := rfl
  served := rfl
  joinReq := rfl
  toAS := id
  bestR := h.bestR
  mtype := h.mtype
  progress := h.progress
  length := h.length
  slot_ne := h.slot_ne
  slot := by
    rcases h.slot with ⟨hslot, hans⟩ | ⟨r, a, hr, hwait, hfree, hans, htype⟩
    · exact .inl ⟨hslot, by simp [Docket.handleSlot, hans]⟩
    · refine .inr ⟨r, hr, hwait, fun r' hr' => ?_, by simp [Docket.handleSlot, hans, htype]⟩
      have hnone : (d.handleSlot f j).mote.slot j = none := hfree
      rw [hnone] at hr'
      cases hr'

theorem handled_visit {sqlOk : Bool} {slots : ℕ → SlotEnv}
    (hposts : ∀ r ∈ d.mote.slot j, r.needsAnswer = true → (slots j).Posts) :
    Handled j d (d.visit sqlOk slots j) := by
  have h := handled_handleSlot (f := visit sqlOk (slots j) j) (slotStep_visit hposts)
  exact { h with toAS := fun hAS => by rw [Docket.visit, hAS, Bool.true_or] }

theorem Handled.pending (hs : Handled j d d') {r : Requester} (hr : d'.mote.slot j = some r)
    (hwait : r.needsAnswer = true) : d.mote.slot j = some r := by
  rcases hs.slot with ⟨hslot, -⟩ | ⟨r', -, -, hfree, -⟩
  · rw [← hslot, hr]
  · rw [(hfree r hr).1] at hwait
    cases hwait

theorem joinAnsPost_eq {e : SlotEnv} {r : Requester}
    (h : (r.needsAnswer && !(joinAnsPost e r).needsAnswer) = false) : joinAnsPost e r = r := by
  obtain ⟨needsAnswer, MessageType, ClientID, ans_ans⟩ := r
  cases needsAnswer with
  | false => rfl
  | true =>
    simp only [Bool.true_and, Bool.not_eq_false'] at h
    simp only [joinAnsPost] at h ⊢
    rw [h]

theorem handled_joinAnsAt (slots : ℕ → SlotEnv) : Handled j d (d.joinAnsAt slots j) := by
  unfold Docket.joinAnsAt
  cases hr : d.mote.slot j with
  | none => exact ⟨rfl, rfl, rfl, rfl, id, rfl, rfl, rfl, rfl, fun _ _ => rfl, .inl ⟨rfl, rfl⟩⟩
  | some r =>
    have hself : ((d.mote.requesterList.set j (some (joinAnsPost (slots j) r)))[j]?).join =
        some (joinAnsPost (slots j) r) := by
      rw [List.getElem?_set_self (slot_lt hr)]
      rfl
    refine ⟨rfl, rfl, rfl, rfl, id, rfl, rfl, rfl, List.length_set .., fun k hk => ?_, ?_⟩
    · simp only [RoamMote.slot, List.getElem?_set_ne (Ne.symm hk)]
    · cases hposted : r.needsAnswer && !(joinAnsPost (slots j) r).needsAnswer with
      | false =>
        refine .inl ⟨?_, by simp only [hposted, Bool.false_eq_true, if_false, List.append_nil]⟩
        rw [hr]
        exact hself.trans (congrArg some (joinAnsPost_eq hposted))
      | true =>
        have hboth := hposted
        rw [Bool.and_eq_true, Bool.not_eq_true'] at hboth
        refine .inr ⟨r, hr, hboth.1, fun r' hr' => ?_, by simp only [hposted, if_true]⟩
        have heq : joinAnsPost (slots j) r = r' := Option.some.inj (hself.symm.trans hr')
        rw [← heq]
        exact ⟨hboth.2, rfl⟩

/-! ### The invariant -/

/-- A slot needs an answer as long as its request has none. -/
structure SlotOk (d : Docket) (j : ℕ) (q : Request) : Prop where
  type : ∀ r ∈ d.mote.slot j, r.MessageType = q.MessageType
  later : d.mote.pendingAt j = true → q.later = true
  replies : d.repliesTo q = if q.later && !d.mote.pendingAt j then [q.due] else []

structure Docket.Inv (d : Docket) : Prop where
  length : d.requests.length = d.mote.requesterList.length
  serials : (d.discarded ++ d.requests).Pairwise fun q q' => q.serial < q'.serial
  serial_lt : ∀ q ∈ d.discarded ++ d.requests, q.serial < d.served
  reply_lt : ∀ a ∈ d.replies, a.serial < d.served
  slots : ∀ j q, d.requests[j]? = some q → SlotOk d j q
  answered : AnsweredOnce d

theorem request_of_serial (h : d.Inv) {i j : ℕ} {q q' : Request} (hq : d.requests[i]? = some q)
    (hq' : d.requests[j]? = some q') (hserial : q.serial = q'.serial) : i = j := by
  have hpair := (List.pairwise_append.mp h.serials).2.1
  rw [List.pairwise_iff_getElem] at hpair
  obtain ⟨hi, rfl⟩ := List.getElem?_eq_some_iff.mp hq
  obtain ⟨hj, rfl⟩ := List.getElem?_eq_some_iff.mp hq'
  rcases Nat.lt_trichotomy i j with hlt | heq | hgt
  · have := hpair i j hi hj hlt
    omega
  · exact heq
  · have := hpair j i hj hi hgt
    omega

theorem serial_ne_discarded (h : d.Inv) {j : ℕ} {q q' : Request} (hq : d.requests[j]? = some q)
    (hq' : q' ∈ d.discarded) : q.serial ≠ q'.serial := by
  have := (List.pairwise_append.mp h.serials).2.2 q' hq' q (List.mem_of_getElem? hq)
  omega

theorem reply_eq {q : Request} (hq : d.requests[j]? = some q) (mt : ReqType) :
    d.reply j mt = [⟨q.serial, q.inTid, ansMtOf mt⟩] := by
  rw [Docket.reply, hq]
  rfl

theorem repliesTo_reply {q q' : Request} {mt : ReqType} (hq : d.requests[j]? = some q)
    (hmt : mt = q.MessageType) (hreplies : d'.replies = d.replies ++ d.reply j mt) :
    d'.repliesTo q' = d.repliesTo q' ++ if q.serial = q'.serial then [q.due] else [] := by
  rw [Docket.repliesTo, hreplies, List.filter_append, reply_eq hq, hmt]
  by_cases hserial : q.serial = q'.serial
  · simp [hserial, Docket.repliesTo, Request.due]
  · simp [hserial, Docket.repliesTo]

theorem slotOk_handled (h : d.Inv) (hs : Handled j d d') {k : ℕ} {q : Request}
    (hq : d.requests[k]? = some q) : SlotOk d' k q := by
  have hslot : d'.mote.slot k = d.mote.slot k → d'.mote.pendingAt k = d.mote.pendingAt k :=
    fun hk => by rw [RoamMote.pendingAt, hk, RoamMote.pendingAt]
  have hok := h.slots k q hq
  rcases hs.slot with ⟨hj, hreplies⟩ | ⟨r, hr, hwait, hfree, hreplies⟩
  · have hk : d'.mote.slot k = d.mote.slot k := by
      by_cases hkj : k = j
      · rw [hkj, hj]
      · exact hs.slot_ne k hkj
    refine ⟨by rw [hk]; exact hok.type, by rw [hslot hk]; exact hok.later, ?_⟩
    rw [hslot hk, ← hok.replies, Docket.repliesTo, hreplies]
    rfl
  · obtain ⟨qj, hqj⟩ : ∃ qj, d.requests[j]? = some qj :=
      ⟨_, List.getElem?_eq_getElem (h.length ▸ slot_lt hr)⟩
    have htype := (h.slots j qj hqj).type r hr
    have hnew : d'.repliesTo q = _ := repliesTo_reply hqj htype hreplies
    by_cases hkj : k = j
    · subst hkj
      obtain rfl : q = qj := Option.some.inj (hq.symm.trans hqj)
      have hpending : d.mote.pendingAt k = true := pendingAt_iff.mpr ⟨r, hr, hwait⟩
      have hdone : d'.mote.pendingAt k = false := by
        rw [Bool.eq_false_iff, ne_eq, pendingAt_iff]
        rintro ⟨r', hr', hwait'⟩
        rw [(hfree r' hr').1] at hwait'
        cases hwait'
      refine ⟨fun r' hr' => (hfree r' hr').2.trans htype, fun hp => ?_, ?_⟩
      · rw [hdone] at hp
        cases hp
      · rw [hnew, hok.replies, hok.later hpending, hpending, hdone]
        simp
    · have hk := hs.slot_ne k hkj
      have hne : qj.serial ≠ q.serial := fun hserial => hkj (request_of_serial h hqj hq hserial).symm
      refine ⟨by rw [hk]; exact hok.type, by rw [hslot hk]; exact hok.later, ?_⟩
      rw [hnew, if_neg hne, List.append_nil, hslot hk]
      exact hok.replies

theorem Docket.Inv.handled (h : d.Inv) (hs : Handled j d d') : d'.Inv where
  length := by
    rw [hs.requests, hs.length]
    exact h.length
  serials := by
    rw [hs.requests, hs.discarded]
    exact h.serials
  serial_lt := by
    rw [hs.requests, hs.discarded, hs.served]
    exact h.serial_lt
  reply_lt := by
    intro a ha
    rw [hs.served]
    rcases hs.slot with ⟨-, hreplies⟩ | ⟨r, hr, -, -, hreplies⟩
    · exact h.reply_lt a (hreplies ▸ ha)
    · rw [hreplies, List.mem_append] at ha
      rcases ha with ha | ha
      · exact h.reply_lt a ha
      · have hlt : j < d.requests.length := h.length ▸ slot_lt hr
        rw [reply_eq (List.getElem?_eq_getElem hlt), List.mem_singleton] at ha
        rw [ha]
        exact h.serial_lt _ (List.mem_append_right _ (List.getElem_mem hlt))
  slots := by
    intro k q hq
    rw [hs.requests] at hq
    exact slotOk_handled h hs hq
  answered := by
    intro q hq hlater hother
    rw [hs.discarded] at hq
    rw [← h.answered q hq hlater hother]
    rcases hs.slot with ⟨-, hreplies⟩ | ⟨r, hr, -, -, hreplies⟩
    · rw [Docket.repliesTo, hreplies]
      rfl
    · obtain ⟨qj, hqj⟩ : ∃ qj, d.requests[j]? = some qj :=
        ⟨_, List.getElem?_eq_getElem (h.length ▸ slot_lt hr)⟩
      rw [repliesTo_reply hqj ((h.slots j qj hqj).type r hr) hreplies,
        if_neg (serial_ne_discarded h hqj hq), List.append_nil]

/-! ### Loops over the slots -/

/-- The slots before `j` were handled. -/
structure Upto (j : ℕ) (d d' : Docket) : Prop where
  joinReq : d'.joinReq = d.joinReq
  toAS : d.toAS = true → d'.toAS = true
  bestR : d'.mote.bestR = d.mote.bestR
  mtype : d'.mote.mtype = d.mote.mtype
  progress : d'.mote.progress = d.mote.progress
  length : d'.mote.requesterList.length = d.mote.requesterList.length
  slot : ∀ k, d'.mote.slot k = d.mote.slot k ∨ (k < j ∧ d'.mote.pendingAt k = false)

theorem Upto.refl (d : Docket) : Upto 0 d d := ⟨rfl, id, rfl, rfl, rfl, rfl, fun _ => .inl rfl⟩

theorem Upto.handled (h : Upto j d d') (hs : Handled j d' d'') : Upto (j + 1) d d'' where
  joinReq := hs.joinReq.trans h.joinReq
  toAS hAS := hs.toAS (h.toAS hAS)
  bestR := hs.bestR.trans h.bestR
  mtype := hs.mtype.trans h.mtype
  progress := hs.progress.trans h.progress
  length := hs.length.trans h.length
  slot k := by
    by_cases hk : k = j
    · subst hk
      rcases hs.slot with ⟨hsame, -⟩ | ⟨r, -, -, hfree, -⟩
      · rcases h.slot k with hslot | ⟨hlt, -⟩
        · exact .inl (hsame.trans hslot)
        · omega
      · refine .inr ⟨by omega, ?_⟩
        rw [Bool.eq_false_iff, ne_eq, pendingAt_iff]
        rintro ⟨r', hr', hwait⟩
        rw [(hfree r' hr').1] at hwait
        cases hwait
    · rcases h.slot k with hslot | ⟨hlt, hdone⟩
      · exact .inl ((hs.slot_ne k hk).trans hslot)
      · refine .inr ⟨by omega, ?_⟩
        rw [RoamMote.pendingAt, hs.slot_ne k hk]
        exact hdone

theorem Upto.pending (h : Upto j d d') {k : ℕ} {r : Requester} (hr : d'.mote.slot k = some r)
    (hwait : r.needsAnswer = true) : d.mote.slot k = some r := by
  rcases h.slot k with hslot | ⟨-, hdone⟩
  · rw [← hslot, hr]
  · rw [pendingAt_iff.mpr ⟨r, hr, hwait⟩] at hdone
    cases hdone

theorem Upto.slot_of_le (h : Upto j d d') {k : ℕ} (hk : j ≤ k) :
    d'.mote.slot k = d.mote.slot k := by
  rcases h.slot k with hslot | ⟨hlt, -⟩
  · exact hslot
  · omega

theorem Upto.all (h : Upto j d d') {P : ℕ → Requester → Prop} (hP : AllPending P d.mote) :
    AllPending P d'.mote :=
  fun _ _ _ hr hwait => hP.at (h.pending hr hwait) hwait

theorem Upto.posts (h : Upto j d d') {slots : ℕ → SlotEnv}
    (hposts : AllPending (fun j _ => (slots j).Posts) d.mote) :
    ∀ r ∈ d'.mote.slot j, r.needsAnswer = true → (slots j).Posts :=
  fun _ hr hwait => hposts.at (h.pending hr hwait) hwait

theorem Upto.waits (h : Upto j d d') {k : ℕ} {r : Requester} (hw : d.Waits k r) :
    d'.Waits k r := by
  rcases hw with hother | ⟨hreq, hbest⟩ | ⟨hAS, hxmit⟩
  · exact .inl hother
  · exact .inr (.inl ⟨h.joinReq.trans hreq, h.bestR.trans hbest⟩)
  · exact .inr (.inr ⟨h.toAS hAS, hxmit⟩)

/-- A loop whose body handles its slot keeps the invariant, and what the body keeps. -/
theorem forSlots_spec {f : ℕ → Docket → Docket} {X : ℕ → Docket → Prop}
    (hf : ∀ j d', Upto j d d' → X j d' → Handled j d' (f j d') ∧ X (j + 1) (f j d'))
    (hinv : d.Inv) (hX : X 0 d) (n : ℕ) :
    (Docket.forSlots f n 0 d).Inv ∧ Upto n d (Docket.forSlots f n 0 d) ∧
      X n (Docket.forSlots f n 0 d) := by
  have hrun : ∀ n j d', d'.Inv → Upto j d d' → X j d' → (Docket.forSlots f n j d').Inv ∧
      Upto (j + n) d (Docket.forSlots f n j d') ∧ X (j + n) (Docket.forSlots f n j d') := by
    intro n
    induction n with
    | zero => exact fun j d' hinv hupto hX => ⟨hinv, hupto, hX⟩
    | succ n ih =>
      intro j d' hinv hupto hX
      obtain ⟨hs, hX'⟩ := hf j d' hupto hX
      have hnext := ih (j + 1) (f j d') (hinv.handled hs) (hupto.handled hs) hX'
      rw [show j + (n + 1) = j + 1 + n by omega]
      exact hnext
  have h0 := hrun n 0 d hinv (.refl d) hX
  rwa [Nat.zero_add] at h0

/-- The requesters of the slots before `j` that still need an answer. -/
def LeftUpto (Q : ℕ → Requester → Prop) (j : ℕ) (s : RoamMote) : Prop :=
  ∀ k < j, ∀ r, s.slot k = some r → r.needsAnswer = true → Q k r

theorem LeftUpto.succ {Q : ℕ → Requester → Prop} (h : LeftUpto Q j d.mote)
    (hs : Handled j d d')
    (hj : ∀ r, d'.mote.slot j = some r → r.needsAnswer = true → Q j r) :
    LeftUpto Q (j + 1) d'.mote := by
  intro k hk r hr hwait
  by_cases hkj : k = j
  · subst hkj
    exact hj r hr hwait
  · rw [hs.slot_ne k hkj] at hr
    exact h k (by omega) r hr hwait

theorem LeftUpto.all {Q : ℕ → Requester → Prop} {s : RoamMote}
    (h : LeftUpto Q s.requesterList.length s) : AllPending Q s :=
  fun k hk r hr hwait => h k hk r hr hwait

/-! ### The loops of finish -/

/-- A requester that a data uplink leaves without an answer. -/
def LeftByData (sqlOk : Bool) (slots : ℕ → SlotEnv) (s : RoamMote) (k : ℕ) (r : Requester) :
    Prop :=
  sqlOk = true ∧ r.MessageType = .XmitDataReq ∧
    (s.ULFRMPayload = true → (∀ i < k, ¬Takes sqlOk s i) → (slots k).toAS = true)

/-- What the loop has done to the payload when it comes to the slot `j`. -/
structure PayloadAt (sqlOk : Bool) (slots : ℕ → SlotEnv) (d : Docket) (j : ℕ) (d' : Docket) :
    Prop where
  kept : d'.mote.ULFRMPayload = true ↔
    d.mote.ULFRMPayload = true ∧ ∀ k < j, ¬Takes sqlOk d.mote k
  asked : d.mote.ULFRMPayload = true → ∀ k < j, Takes sqlOk d.mote k →
    (∀ i < k, ¬Takes sqlOk d.mote i) → (slots k).toAS = true → d'.toAS = true
  left : LeftUpto (LeftByData sqlOk slots d.mote) j d'.mote

theorem takes_upto {sqlOk : Bool} (h : Upto j d d') :
    Takes sqlOk d'.mote j ↔ Takes sqlOk d.mote j := by
  rw [Takes, Takes, h.slot_of_le (le_refl j), h.mtype]

theorem payloadAt_visit {sqlOk : Bool} {slots : ℕ → SlotEnv} (hupto : Upto j d d')
    (hposts : AllPending (fun j _ => (slots j).Posts) d.mote)
    (hdata : isJoinReq d.mote.mtype = false) (hp : PayloadAt sqlOk slots d j d')
    (hcrash : d'.mote.crashed = false) (hs : Handled j d' (d'.visit sqlOk slots j))
    (hcrash' : (d'.visit sqlOk slots j).mote.crashed = false) :
    PayloadAt sqlOk slots d (j + 1) (d'.visit sqlOk slots j) where
  kept := by
    rw [show (d'.visit sqlOk slots j).mote = visit sqlOk (slots j) j d'.mote from rfl,
      visit_ULFRMPayload hcrash, takes_upto hupto, hp.kept, and_assoc]
    refine and_congr_right fun _ => ⟨fun h k hk => ?_, fun h => ⟨fun k hk => h k (by omega),
      h j (by omega)⟩⟩
    by_cases hkj : k = j
    · rw [hkj]
      exact h.2
    · exact h.1 k (by omega)
  asked hfrm k hk htakes hfirst htoAS := by
    by_cases hkj : k = j
    · subst hkj
      have hnow : d'.mote.ULFRMPayload = true := hp.kept.mpr ⟨hfrm, hfirst⟩
      have hgone : (visit sqlOk (slots k) k d'.mote).ULFRMPayload = false := by
        rw [Bool.eq_false_iff, ne_eq, visit_ULFRMPayload hcrash]
        exact fun h => h.2 ((takes_upto hupto).mpr htakes)
      show (d'.toAS || (d'.mote.ULFRMPayload &&
        !(visit sqlOk (slots k) k d'.mote).ULFRMPayload && (slots k).toAS)) = true
      rw [hnow, hgone, htoAS]
      simp
    · exact hs.toAS (hp.asked hfrm k (by omega) htakes hfirst htoAS)
  left := by
    refine hp.left.succ hs fun r hr hwait => ?_
    have hsame : d'.mote.slot j = some r := hs.pending hr hwait
    have hbefore : d.mote.slot j = some r := by rw [← hupto.slot_of_le (le_refl j), hsame]
    obtain ⟨hsql, htype, htoAS⟩ := visit_unanswered hcrash (by rw [hupto.mtype, hdata]) hsame hwait
      (hposts.at hbefore hwait) hcrash' hr
    exact ⟨hsql, htype, fun hfrm hfirst => htoAS (hp.kept.mpr ⟨hfrm, hfirst⟩)⟩

theorem crashed_visit_of {sqlOk : Bool} {e : SlotEnv} {s : RoamMote}
    (h : (visit sqlOk e j s).crashed = false) : s.crashed = false := by
  by_contra hcrash
  rw [visit, if_pos (by simpa using hcrash)] at h
  exact hcrash h

theorem jsonHandler_upto (sqlOk : Bool) {slots : ℕ → SlotEnv} (hinv : d.Inv)
    (hposts : AllPending (fun j _ => (slots j).Posts) d.mote) :
    (d.jsonHandler sqlOk slots).Inv ∧
      Upto d.mote.requesterList.length d (d.jsonHandler sqlOk slots) := by
  have h := forSlots_spec (f := Docket.visit sqlOk slots) (X := fun _ _ => True)
    (fun j d' hupto _ => ⟨handled_visit (hupto.posts hposts), trivial⟩)
    hinv trivial d.mote.requesterList.length
  exact ⟨h.1, h.2.1⟩

theorem jsonHandler_payload {sqlOk : Bool} {slots : ℕ → SlotEnv} (hinv : d.Inv)
    (hposts : AllPending (fun j _ => (slots j).Posts) d.mote)
    (hdata : isJoinReq d.mote.mtype = false)
    (hcrash : (d.jsonHandler sqlOk slots).mote.crashed = false) :
    PayloadAt sqlOk slots d d.mote.requesterList.length (d.jsonHandler sqlOk slots) := by
  refine (forSlots_spec (X := fun j d' => d'.mote.crashed = false → PayloadAt sqlOk slots d j d')
    (fun j d' hupto hX => ?_) hinv (fun _ => ?_) d.mote.requesterList.length).2.2 hcrash
  · have hs : Handled j d' (d'.visit sqlOk slots j) := handled_visit (hupto.posts hposts)
    refine ⟨hs, fun hcrash' => ?_⟩
    have hbefore := crashed_visit_of hcrash'
    exact payloadAt_visit hupto hposts hdata (hX hbefore) hbefore hs hcrash'
  · exact ⟨by simp, fun _ k hk => absurd hk (Nat.not_lt_zero k),
      fun k hk => absurd hk (Nat.not_lt_zero k)⟩

/-- The loop has an answer for a requester that does not wait for one. -/
def LoopAnswers (sqlOk : Bool) (slots : ℕ → SlotEnv) (s : RoamMote) (j : ℕ) (r : Requester) :
    Prop :=
  isJoinReq s.mtype = false ∧
    (sqlOk = true → r.MessageType = .XmitDataReq → Forwarded slots s j r)

theorem takes_iff {sqlOk : Bool} {s : RoamMote} {k : ℕ} (hdata : isJoinReq s.mtype = false)
    (hsql : sqlOk = true) : Takes sqlOk s k ↔ isXmit (s.slot k) = true := by
  unfold Takes isXmit
  cases s.slot k <;> simp [hdata, hsql]

theorem takes_first {sqlOk : Bool} {s : RoamMote} {i : ℕ} (hdata : isJoinReq s.mtype = false)
    (hsql : sqlOk = true) (hfirst : s.requesterList.findIdx? isXmit = some i) :
    i < s.requesterList.length ∧ Takes sqlOk s i ∧ ∀ k < i, ¬Takes sqlOk s k := by
  obtain ⟨hlt, hxmit, hbefore⟩ := List.findIdx?_eq_some_iff_getElem.mp hfirst
  have hslot : ∀ k (hk : k < s.requesterList.length), s.slot k = s.requesterList.get ⟨k, hk⟩ := by
    intro k hk
    rw [RoamMote.slot, List.getElem?_eq_getElem hk]
    rfl
  refine ⟨hlt, (takes_iff hdata hsql).mpr (by rw [hslot i hlt]; exact hxmit), fun k hk => ?_⟩
  rw [takes_iff hdata hsql, hslot k (by omega)]
  exact hbefore k hk

theorem jsonHandler_waits {sqlOk : Bool} {slots : ℕ → SlotEnv} (hinv : d.Inv)
    (hposts : AllPending (fun j _ => (slots j).Posts) d.mote)
    (h : AllPending (fun j r => d.Waits j r ∨ LoopAnswers sqlOk slots d.mote j r) d.mote)
    (hcrash : (d.jsonHandler sqlOk slots).mote.crashed = false) :
    AllPending (d.jsonHandler sqlOk slots).Waits (d.jsonHandler sqlOk slots).mote := by
  have hupto := (jsonHandler_upto sqlOk hinv hposts).2
  intro k hk r hr hwait
  have hbefore := hupto.pending hr hwait
  rcases h.at hbefore hwait with hw | ⟨hdata, hforward⟩
  · exact hupto.waits hw
  · have hp := jsonHandler_payload hinv hposts hdata hcrash
    obtain ⟨hsql, htype, htoAS⟩ := hp.left k (slot_lt hbefore) r hr hwait
    obtain ⟨hfrm, i, hfirst, hif⟩ := hforward hsql htype
    obtain ⟨hlt, htakes, hnone⟩ := takes_first hdata hsql hfirst
    by_cases hAS : (slots i).toAS = true
    · rw [if_pos hAS] at hif
      exact .inr (.inr ⟨hp.asked hfrm i hlt htakes hnone hAS, htype, hif⟩)
    · rw [if_neg hAS] at hif
      subst hif
      exact absurd (htoAS hfrm hnone) hAS

theorem handled_joinReqAt (sent : Bool) {slots : ℕ → SlotEnv}
    (hposts : ∀ r ∈ d.mote.slot j, r.needsAnswer = true → (slots j).Posts) :
    Handled j d (d.handleSlot (joinReqAt sent slots j) j) := by
  refine handled_handleSlot ?_
  unfold joinReqAt
  split
  · exact (quiet_refl _).slotStep j
  · exact slotStep_post hposts

theorem crashed_joinReqAt {sent : Bool} {slots : ℕ → SlotEnv} {s : RoamMote}
    (h : (joinReqAt sent slots j s).crashed = false) : s.crashed = false := by
  by_contra hcrash
  rw [joinReqAt, if_pos (.inl (by simpa using hcrash))] at h
  exact hcrash h

theorem joinReqAt_left {sent : Bool} {slots : ℕ → SlotEnv} {s : RoamMote} {r : Requester}
    (hcrash : s.crashed = false) (hposts : (slots j).Posts) (hbefore : s.slot j = some r)
    (hwait : r.needsAnswer = true) (hr : (joinReqAt sent slots j s).slot j = some r) :
    sent = true ∧ s.bestR = some j := by
  by_contra hno
  rw [joinReqAt, if_neg (by simpa [hcrash] using hno), slot_post hbefore hwait hposts] at hr
  cases hr

/-- `sNS_JoinReq` leaves the best requester to the join server, when the JoinReq was sent. -/
theorem joinReqs_spec (sent : Bool) {slots : ℕ → SlotEnv} (hinv : d.Inv)
    (hposts : AllPending (fun j _ => (slots j).Posts) d.mote) :
    (d.joinReqs sent slots).Inv ∧
      AllPending (fun j _ => (slots j).Posts) (d.joinReqs sent slots).mote ∧
      ((d.joinReqs sent slots).mote.crashed = false →
        AllPending (d.joinReqs sent slots).Waits (d.joinReqs sent slots).mote) := by
  obtain ⟨hinv', hupto, hleft⟩ := forSlots_spec
    (f := fun j => Docket.handleSlot (joinReqAt sent slots j) j)
    (X := fun j d' => d'.mote.crashed = false →
      LeftUpto (fun k _ => sent = true ∧ d.mote.bestR = some k) j d'.mote)
    (fun j d' hupto hX => by
      have hs := handled_joinReqAt sent (hupto.posts hposts)
      refine ⟨hs, fun hcrash => (hX (crashed_joinReqAt hcrash)).succ hs fun r hr hwait => ?_⟩
      have hbefore := hs.pending hr hwait
      rw [← hupto.bestR]
      exact joinReqAt_left (crashed_joinReqAt hcrash) (hupto.posts hposts r hbefore hwait) hbefore
        hwait hr)
    hinv (fun _ k hk => absurd hk (Nat.not_lt_zero k)) d.mote.requesterList.length
  refine ⟨⟨hinv'.length, hinv'.serials, hinv'.serial_lt, hinv'.reply_lt, fun j q hq => ?_,
    hinv'.answered⟩, hupto.all hposts, fun hcrash => ?_⟩
  · obtain ⟨htype, hlater, hreplies⟩ := hinv'.slots j q hq
    exact ⟨htype, hlater, hreplies⟩
  · intro k hk r hr hwait
    have hbefore := hupto.pending hr hwait
    obtain ⟨hsent, hbest⟩ := hleft hcrash k (slot_lt hbefore) r hr hwait
    refine .inr (.inl ⟨?_, hupto.bestR.trans hbest⟩)
    show ((Docket.forSlots _ _ 0 d).joinReq || sent) = true
    rw [hsent, Bool.or_true]

/-! ### Moves that post nothing -/

theorem Docket.Inv.move (h : d.Inv) {f : RoamMote → RoamMote}
    (hlist : (f d.mote).requesterList = d.mote.requesterList) : (d.move f).Inv := by
  have hslot : ∀ k, (d.move f).mote.slot k = d.mote.slot k := fun k => by
    rw [RoamMote.slot, move_mote, hlist]
    rfl
  refine ⟨h.length.trans (congrArg List.length hlist.symm), h.serials, h.serial_lt, h.reply_lt,
    fun j q hq => ?_, h.answered⟩
  obtain ⟨htype, hlater, hreplies⟩ := h.slots j q hq
  refine ⟨?_, ?_, ?_⟩
  · rw [hslot]
    exact htype
  · rw [RoamMote.pendingAt, hslot]
    exact hlater
  · rw [RoamMote.pendingAt, hslot]
    exact hreplies

theorem Quiet.allPending {s s' : RoamMote} (h : Quiet s s') {P Q : ℕ → Requester → Prop}
    (hP : AllPending P s) (hQ : ∀ j r, P j r → Q j r) : AllPending Q s' := by
  intro j hj r hr hwait
  exact hQ j r (hP.at ((h.slot j).symm.trans hr) hwait)

theorem Docket.Waits.move {f : RoamMote → RoamMote} {k : ℕ} {r : Requester} (h : d.Waits k r)
    (hbest : (f d.mote).bestR = d.mote.bestR) : (d.move f).Waits k r := by
  rcases h with hother | ⟨hreq, hk⟩ | hAS
  · exact .inl hother
  · exact .inr (.inl ⟨hreq, hbest.trans hk⟩)
  · exact .inr (.inr hAS)

theorem quiet_follow (i : ℕ) (s : RoamMote) : Quiet s (s.follow i) := by
  unfold RoamMote.follow
  split <;> exact ⟨rfl, rfl, rfl, rfl, rfl⟩

theorem quiet_followBest (s : RoamMote) : Quiet s s.followBest := by
  unfold RoamMote.followBest
  split
  · exact quiet_refl s
  · exact quiet_follow _ s

theorem quiet_forwardPayload (s : RoamMote) : Quiet s (forwardPayload s) := by
  unfold forwardPayload
  split
  · exact quiet_followBest s
  · exact quiet_refl s

theorem quiet_finishPhyDownlink (dl : DlEnv) (s : RoamMote) :
    Quiet s (finishPhyDownlink dl s) := by
  have hsent : ∀ s : RoamMote, Quiet s { s with PHYPayload := !dl.sent } :=
    fun _ => ⟨rfl, rfl, rfl, rfl, rfl⟩
  unfold finishPhyDownlink
  split
  · exact quiet_refl s
  · split
    · split
      · exact quiet_refl s
      · dsimp only
        split
        · exact quiet_followBest s
        · exact ((quiet_followBest s).trans (hsent _)).trans (quiet_forwardPayload _)
    · exact quiet_forwardPayload s

theorem quiet_fDone (dl : DlEnv) (ok : Bool) (s : RoamMote) : Quiet s (fDone dl ok s) := by
  have hdone : ∀ s : RoamMote, Quiet s { s with hasUplink := false } :=
    fun _ => ⟨rfl, rfl, rfl, rfl, rfl⟩
  unfold fDone
  split
  · exact quiet_refl s
  · split
    · exact (quiet_finishPhyDownlink dl s).trans (hdone _)
    · exact hdone s

theorem crashed_of_fDone {dl : DlEnv} {ok : Bool} {s : RoamMote}
    (h : (fDone dl ok s).crashed = false) : s.crashed = false := by
  by_contra hcrash
  rw [fDone, if_pos (by simpa using hcrash)] at h
  exact hcrash h

/-! ### finish -/

/-- Between two uplinks who needs an answer waits for that of a server. -/
def Docket.Settled (d : Docket) : Prop :=
  d.mote.crashed = false → AllPending d.Waits d.mote

theorem fDone_spec {sqlOk : Bool} {slots : ℕ → SlotEnv} {dl : DlEnv} {ok : Bool} (hinv : d.Inv)
    (hposts : AllPending (fun j _ => (slots j).Posts) d.mote)
    (h : d.mote.crashed = false →
      AllPending (fun j r => d.Waits j r ∨ LoopAnswers sqlOk slots d.mote j r) d.mote) :
    ((d.jsonHandler sqlOk slots).move (fDone dl ok)).Inv ∧
      ((d.jsonHandler sqlOk slots).move (fDone dl ok)).Settled := by
  have hquiet := quiet_fDone dl ok (d.jsonHandler sqlOk slots).mote
  refine ⟨(jsonHandler_upto sqlOk hinv hposts).1.move hquiet.requesterList, fun hcrash => ?_⟩
  have hloop := crashed_of_fDone hcrash
  have hbefore : d.mote.crashed = false := by
    by_contra hno
    rw [jsonHandler_mote, jsonHandler, visitFrom_of_crashed _ (by simpa using hno)] at hloop
    exact hno hloop
  exact hquiet.allPending (jsonHandler_waits hinv hposts (h hbefore) hloop)
    fun j r hw => hw.move hquiet.bestR

/-- The condition on the JSON phase. -/
def JsonInTime (env : FinishEnv) (d : Docket) : Prop :=
  AllPending (fun j r => (env.slots j).Posts ∧
    (d.Waits j r ∨ FinishAnswers env d.mote j r)) d.mote

theorem JsonInTime.posts {env : FinishEnv} (h : JsonInTime env d) :
    AllPending (fun j _ => (env.slots j).Posts) d.mote :=
  fun j hj r hr hwait => (h j hj r hr hwait).1

theorem JsonInTime.waits {env : FinishEnv} (h : JsonInTime env d)
    (hno : ∀ j r, ¬FinishAnswers env d.mote j r) : AllPending d.Waits d.mote :=
  fun j hj r hr hwait => (h j hj r hr hwait).2.resolve_right (hno j r)

theorem JsonInTime.loop {env : FinishEnv} (h : JsonInTime env d)
    (hno : ∀ j r, isJoinReq d.mote.mtype = true → ¬FinishAnswers env d.mote j r) :
    AllPending (fun j r => d.Waits j r ∨ LoopAnswers env.sqlOk env.slots d.mote j r) d.mote := by
  intro j hj r hr hwait
  refine (h j hj r hr hwait).2.imp_right fun hans => ?_
  cases hjoin : isJoinReq d.mote.mtype with
  | true => exact absurd hans (hno j r hjoin)
  | false =>
    obtain ⟨-, hif⟩ := hans
    rw [if_neg (by rw [hjoin]; simp)] at hif
    exact ⟨hjoin, hif.2⟩

theorem JsonInTime.move {env : FinishEnv} (h : JsonInTime env d) {f : RoamMote → RoamMote}
    (hquiet : Quiet d.mote (f d.mote))
    (hans : ∀ j r, FinishAnswers env d.mote j r → FinishAnswers env (f d.mote) j r) :
    JsonInTime env (d.move f) :=
  hquiet.allPending h fun j r hpr =>
    ⟨hpr.1, hpr.2.imp (fun hw => hw.move hquiet.bestR) (hans j r)⟩

theorem uplinkFinish_spec {env : FinishEnv} (hinv : d.Inv) (hc : JsonInTime env d)
    (hcrash : d.mote.crashed = false) :
    (d.uplinkFinish env).2.Inv ∧
      AllPending (fun j _ => (env.slots j).Posts) (d.uplinkFinish env).2.mote ∧
      ((d.uplinkFinish env).2.mote.crashed = false →
        AllPending (fun j r => (d.uplinkFinish env).2.Waits j r ∨
          LoopAnswers env.sqlOk env.slots (d.uplinkFinish env).2.mote j r)
          (d.uplinkFinish env).2.mote) := by
  unfold Docket.uplinkFinish
  split
  · rename_i hup
    refine ⟨hinv, hc.posts, fun _ => hc.loop fun j r hjoin hans => ?_⟩
    have hif := hans.2
    rw [if_pos hjoin] at hif
    rw [hif.2.2.1] at hup
    cases hup
  · dsimp only
    have hfollow := quiet_followBest d.mote
    split
    · rename_i hcrash'
      exact ⟨hinv.move hfollow.requesterList, hfollow.allPending hc.posts fun _ _ h => h,
        fun hno => absurd hcrash' (by rw [hno]; simp)⟩
    · rename_i hcrash'
      have hsame : d.move RoamMote.followBest = d := by
        have hlive := (followBest_crashed hcrash).mp (by simpa using hcrash')
        rw [Docket.move, followBest_of_live hlive]
      rw [hsame]
      have hquiet : Quiet d.mote { d.mote with PHYPayload := env.PHYPayload } :=
        ⟨rfl, rfl, rfl, rfl, rfl⟩
      have hinv' := hinv.move (f := fun s => { s with PHYPayload := env.PHYPayload }) rfl
      have hc' : JsonInTime env (d.move fun s => { s with PHYPayload := env.PHYPayload }) :=
        hc.move hquiet fun j r hans => hans
      split
      · rename_i hjoin
        cases hreq : env.joinReq with
        | none =>
          refine ⟨hinv', hc'.posts, fun _ => hc'.loop fun j r _ hans => ?_⟩
          have hif := hans.2
          rw [if_pos hjoin, hreq] at hif
          cases hif.2.2.2
        | some sent =>
          obtain ⟨hinv'', hposts, hwaits⟩ := joinReqs_spec sent hinv' hc'.posts
          exact ⟨hinv'', hposts, fun hcrash'' j hj r hr hwait =>
            .inl (hwaits hcrash'' j hj r hr hwait)⟩
      · rename_i hdata
        exact ⟨hinv', hc'.posts, fun _ => hc'.loop fun j r hjoin => absurd hjoin hdata⟩

theorem finishUplink_spec {env : FinishEnv} (hinv : d.Inv) (hc : JsonInTime env d) :
    (d.finishUplink env).Inv ∧ (d.finishUplink env).Settled := by
  unfold Docket.finishUplink
  split
  · rename_i hcrash
    exact ⟨hinv, fun hno => absurd hcrash (by rw [hno]; simp)⟩
  · rename_i hcrash
    obtain ⟨hinv', hposts, hloop⟩ := uplinkFinish_spec hinv hc (by simpa using hcrash)
    exact fDone_spec hinv' hposts hloop

theorem finishJson_spec {env : FinishEnv} (hinv : d.Inv) (hc : JsonInTime env d)
    (hcrash : d.mote.crashed = false) :
    (d.finishJson env).Inv ∧ (d.finishJson env).Settled := by
  unfold Docket.finishJson
  split
  · rename_i hsession
    refine ⟨hinv, fun _ => hc.waits fun j r hans => ?_⟩
    rw [hans.1] at hsession
    cases hsession
  · split
    · rename_i hsql
      simp only [Bool.and_eq_true, Bool.not_eq_true'] at hsql
      refine fDone_spec hinv hc.posts fun _ => hc.loop fun j r hjoin hans => ?_
      have hif := hans.2
      rw [if_pos hjoin] at hif
      rcases hif.1 with hok | hnone
      · rw [hsql.1] at hok
        cases hok
      · rw [hnone] at hsql
        cases hsql.2
    · rename_i hsql
      have hleaves : ¬env.Stays → AllPending d.Waits d.mote := by
        refine fun hno => hc.waits fun j r hans => hno ?_
        have hif := hans.2
        split at hif
        · exact hif.2.1
        · refine hif.1.resolve_left fun hbad => hsql ?_
          rw [hbad.1, hbad.2]
          rfl
      split
      · rename_i hdeferred
        exact ⟨hinv, fun _ => hleaves fun hstays => hstays.1 hdeferred⟩
      · split
        · rename_i hover
          have hquiet := quiet_fDone env.dl false d.mote
          exact ⟨hinv.move hquiet.requesterList, fun _ => hquiet.allPending
            (hleaves fun hstays => hstays.2 hover) fun j r hw => hw.move hquiet.bestR⟩
        · split
          · by_cases hlive : BestLive d.mote
            · have hsame : d.move RoamMote.followBest = d := by
                rw [Docket.move, followBest_of_live hlive]
              rw [hsame]
              exact finishUplink_spec hinv hc
            · have hnull : (d.move RoamMote.followBest).mote.crashed = true := by
                rw [← Bool.not_eq_false, move_mote, followBest_crashed hcrash]
                exact hlive
              rw [Docket.finishUplink, if_pos hnull]
              exact ⟨hinv.move (quiet_followBest d.mote).requesterList,
                fun hno => absurd hnull (by rw [hno]; simp)⟩
          · exact finishUplink_spec hinv hc

/-- The invariant of runs: who needs an answer between two uplinks waits for that of a server. -/
structure Docket.Owes (d : Docket) : Prop where
  inv : d.Inv
  settled : d.mote.progress = .OFF → d.Settled

theorem owes_service {env : FinishEnv} (h : d.Owes) (hcrash : d.mote.crashed = false)
    (hc : AnswersInTime d (.service env)) : (d.service env).Owes := by
  unfold Docket.service
  unfold AnswersInTime at hc
  cases hprogress : d.mote.progress with
  | OFF => exact h
  | LOCAL =>
    rw [hprogress] at hc
    dsimp only at hc
    have hposts : AllPending (fun j _ => (env.slots j).Posts) d.mote :=
      fun j hj r hr hwait => (hc j hj r hr hwait).1
    have hskips : env.Skips → AllPending d.Waits d.mote :=
      fun hskip j hj r hr hwait => (hc j hj r hr hwait).2 hskip
    unfold Docket.finishLocal
    dsimp only
    split
    · rename_i hskip
      have hskip' : env.Skips := by
        simp only [Bool.or_eq_true, Bool.and_eq_true, Bool.not_eq_true', decide_eq_true_eq] at hskip
        rcases hskip with (hsession | hsql) | hdeferred
        · exact .inl hsession
        · exact .inr (.inl hsql)
        · exact .inr (.inr (.inl hdeferred))
      exact ⟨h.inv.move rfl, fun _ _ j hj r hr hwait =>
        (hskips hskip' j hj r hr hwait).move rfl⟩
    · split
      · exact ⟨(jsonHandler_upto env.sqlOk h.inv hposts).1.move rfl, fun hoff => by cases hoff⟩
      · rename_i hstate
        have htook : (d.move fun s => { s with hasUplink := s.hasUplink && !env.fNSTook }).Inv :=
          h.inv.move rfl
        cases hskip : env.fNSSkip with
        | false => exact ⟨htook.move rfl, fun hoff => by cases hoff⟩
        | true =>
          exact ⟨htook.move rfl, fun _ _ => hskips (.inr (.inr (.inr ⟨hstate, hskip⟩)))⟩
  | JSON =>
    rw [hprogress] at hc
    obtain ⟨hinv, hsettled⟩ := finishJson_spec h.inv hc hcrash
    exact ⟨hinv.move rfl, fun _ hcrash' j hj r hr hwait =>
      (hsettled hcrash' j hj r hr hwait).move rfl⟩

/-! ### Receptions -/

/-- A new uplink discards the slots of requests that were all answered. -/
theorem inv_uplinkStart {f : RoamMote → RoamMote} (h : d.Owes) (hcrash : d.mote.crashed = false)
    (hc : d.mote.progress = .OFF →
      AllPending (fun j r => d.Waits j r → r.MessageType = .other) d.mote)
    (hlist : (f d.mote).requesterList =
      if d.mote.progress = .OFF then [] else d.mote.requesterList) :
    (d.uplinkStart.move f).Inv := by
  unfold Docket.uplinkStart
  split
  · rename_i hoff
    rw [if_pos hoff] at hlist
    have hinv := h.inv
    refine ⟨(congrArg List.length hlist).symm, ?_, ?_, hinv.reply_lt, fun j q hq => ?_,
      fun q hq hlater hother => ?_⟩
    · exact (List.append_nil (d.discarded ++ d.requests)).symm ▸ hinv.serials
    · exact (List.append_nil (d.discarded ++ d.requests)).symm ▸ hinv.serial_lt
    · cases hq
    · rcases List.mem_append.mp hq with hq | hq
      · exact hinv.answered q hq hlater hother
      · obtain ⟨j, hj⟩ := List.getElem?_of_mem hq
        obtain ⟨htype, -, hreplies⟩ := hinv.slots j q hj
        have hdone : d.mote.pendingAt j = false := by
          rw [Bool.eq_false_iff, ne_eq, pendingAt_iff]
          rintro ⟨r, hr, hwait⟩
          have hw := (h.settled hoff hcrash).at hr hwait
          exact hother ((htype r hr).symm.trans ((hc hoff).at hr hwait hw))
        rw [hlater, hdone] at hreplies
        exact hreplies
  · rename_i hoff
    rw [if_neg hoff] at hlist
    exact h.inv.move hlist

theorem uplinkStart_list (toState : Progress) (s : RoamMote) :
    (uplinkStart toState s).requesterList = if s.progress = .OFF then [] else s.requesterList := by
  unfold uplinkStart
  split <;> rfl

theorem uplinkStart_progress {toState : Progress} (hto : toState ≠ .OFF) (s : RoamMote) :
    (uplinkStart toState s).progress ≠ .OFF := by
  unfold uplinkStart
  split
  · exact hto
  · assumption

theorem owes_localRx {sq : ℤ} {mtype : mtype_e} {forwards : Bool} (h : d.Owes)
    (hcrash : d.mote.crashed = false) (hc : AnswersInTime d (.localRx sq mtype forwards)) :
    (d.uplinkStart.move (localUplink sq mtype forwards)).Owes := by
  have hsame : (localUplink sq mtype forwards d.mote).requesterList =
        (uplinkStart .LOCAL d.mote).requesterList ∧
      (localUplink sq mtype forwards d.mote).progress = (uplinkStart .LOCAL d.mote).progress := by
    unfold localUplink
    dsimp only
    split <;> exact ⟨rfl, rfl⟩
  refine ⟨inv_uplinkStart h hcrash hc (hsame.1.trans (uplinkStart_list .LOCAL d.mote)),
    fun hoff => ?_⟩
  rw [move_mote, uplinkStart_mote, hsame.2] at hoff
  exact absurd hoff (uplinkStart_progress (by decide) d.mote)

theorem Docket.Inv.count (h : d.Inv) : ({ d with served := d.served + 1 } : Docket).Inv where
  length := h.length
  serials := h.serials
  serial_lt q hq := Nat.lt_succ_of_lt (h.serial_lt q hq)
  reply_lt a ha := Nat.lt_succ_of_lt (h.reply_lt a ha)
  slots j q hq := by
    obtain ⟨htype, hlater, hreplies⟩ := h.slots j q hq
    exact ⟨htype, hlater, hreplies⟩
  answered := h.answered

theorem Docket.Inv.append (h : d.Inv) {s : RoamMote} {R : Requester} (inTid : ℕ)
    (hlist : s.requesterList = d.mote.requesterList ++ [some R]) :
    ({ d with
      mote := s
      requests := d.requests ++ [⟨d.served, inTid, R.MessageType, R.needsAnswer⟩]
      served := d.served + 1 } : Docket).Inv := by
  have hslot : ∀ k, k < d.requests.length → s.slot k = d.mote.slot k := by
    intro k hk
    rw [h.length] at hk
    rw [RoamMote.slot, hlist, List.getElem?_append_left hk]
    rfl
  have hlast : s.slot d.requests.length = some R := by
    rw [RoamMote.slot, hlist, h.length, List.getElem?_concat_length]
    rfl
  have hnew : d.repliesTo ⟨d.served, inTid, R.MessageType, R.needsAnswer⟩ = [] := by
    rw [Docket.repliesTo, List.filter_eq_nil_iff]
    intro a ha
    have := h.reply_lt a ha
    simp only [decide_eq_true_eq]
    omega
  refine ⟨by simp [h.length, hlist], ?_, ?_, fun a ha => Nat.lt_succ_of_lt (h.reply_lt a ha),
    fun k q hq => ?_, h.answered⟩
  · rw [← List.append_assoc, List.pairwise_append]
    refine ⟨h.serials, List.pairwise_singleton _ _, fun q hq q' hq' => ?_⟩
    rw [List.mem_singleton.mp hq']
    exact h.serial_lt q hq
  · intro q hq
    rw [← List.append_assoc, List.mem_append] at hq
    rcases hq with hq | hq
    · exact Nat.lt_succ_of_lt (h.serial_lt q hq)
    · rw [List.mem_singleton.mp hq]
      exact Nat.lt_succ_self d.served
  · rcases Nat.lt_or_ge k d.requests.length with hk | hk
    · have hold : d.requests[k]? = some q := (List.getElem?_append_left hk).symm.trans hq
      obtain ⟨htype, hlater, hreplies⟩ := h.slots k q hold
      refine ⟨?_, ?_, ?_⟩
      · rw [hslot k hk]
        exact htype
      · rw [RoamMote.pendingAt, hslot k hk]
        exact hlater
      · rw [RoamMote.pendingAt, hslot k hk]
        exact hreplies
    · obtain ⟨hlt, hget⟩ := List.getElem?_eq_some_iff.mp hq
      have hk' : k = d.requests.length := by
        rw [List.length_append, List.length_singleton] at hlt
        omega
      subst hk'
      obtain rfl : ⟨d.served, inTid, R.MessageType, R.needsAnswer⟩ = q := by
        rw [← hget]
        exact (List.getElem_concat_length rfl _).symm
      refine ⟨fun r hr => ?_, fun hpending => ?_, ?_⟩
      · rw [hlast] at hr
        rw [← Option.some.inj hr]
      · rw [RoamMote.pendingAt, hlast] at hpending
        exact hpending
      · rw [RoamMote.pendingAt, hlast]
        refine hnew.trans ?_
        cases hneeds : R.needsAnswer <;> simp [hneeds]

theorem owes_json {admitted : Bool} {MessageType : ReqType} {ClientID inTid : ℕ} {u : JsonUplink}
    (h : d.Owes) (hcrash : d.mote.crashed = false)
    (hc : AnswersInTime d (.json admitted MessageType ClientID u)) :
    (d.uplinkJson admitted MessageType ClientID inTid u).Owes := by
  have hstart := inv_uplinkStart h hcrash hc (uplinkStart_list .JSON d.mote)
  have hprogress : (uplinkJson admitted MessageType ClientID u d.mote).progress =
      (uplinkStart .JSON d.mote).progress := by
    unfold uplinkJson
    dsimp only
    split
    · rfl
    · rcases u with ⟨_ | sq, _, _⟩ | ⟨parsed, _, _⟩
      · rfl
      · dsimp only
        split <;> rfl
      · dsimp only
        split <;> rfl
  refine ⟨?_, fun hoff => ?_⟩
  · cases admitted with
    | false =>
      have hsame : uplinkJson false MessageType ClientID u d.mote = uplinkStart .JSON d.mote := rfl
      have hcount := hstart.count
      rw [Docket.move, uplinkStart_mote, ← hsame] at hcount
      rw [Docket.uplinkJson, Docket.move, uplinkStart_mote]
      exact hcount
    | true =>
      have hlist : ∃ ans_ans, (uplinkJson true MessageType ClientID u d.mote).requesterList =
          (uplinkStart .JSON d.mote).requesterList ++
            [some ⟨u.later, MessageType, ClientID, ans_ans⟩] := by
        unfold uplinkJson
        rcases u with ⟨_ | sq, _, _⟩ | ⟨_ | _, _, _⟩
        · exact ⟨_, rfl⟩
        · dsimp only
          split
          · contradiction
          · split <;> exact ⟨_, rfl⟩
        · exact ⟨_, rfl⟩
        · exact ⟨_, rfl⟩
      obtain ⟨ans_ans, hlist⟩ := hlist
      have happend := hstart.append (s := uplinkJson true MessageType ClientID u d.mote)
        (R := ⟨u.later, MessageType, ClientID, ans_ans⟩) inTid
        (by rw [move_mote, uplinkStart_mote, hlist])
      rw [Docket.uplinkJson, Docket.move, uplinkStart_mote]
      exact happend
  · have hmote : (d.uplinkJson admitted MessageType ClientID inTid u).mote.progress =
        (uplinkStart .JSON d.mote).progress := by
      refine Eq.trans ?_ hprogress
      exact congrArg (fun s => (uplinkJson admitted MessageType ClientID u s).progress)
        (uplinkStart_mote d)
    rw [hmote] at hoff
    exact absurd hoff (uplinkStart_progress (by decide) d.mote)

/-! ### Answers from other servers -/

theorem Docket.Inv.flags (h : d.Inv) (joinReq toAS : Bool) :
    ({ d with joinReq := joinReq, toAS := toAS } : Docket).Inv := by
  refine ⟨h.length, h.serials, h.serial_lt, h.reply_lt, fun j q hq => ?_, h.answered⟩
  obtain ⟨htype, hlater, hreplies⟩ := h.slots j q hq
  exact ⟨htype, hlater, hreplies⟩

theorem handled_best (result : AnsResult) {slots : ℕ → SlotEnv}
    (hposts : AllPending (fun j _ => (slots j).Posts) d.mote) :
    Handled j d (d.handleSlot (fun s => (r_post_ans_to_ns (slots j) j result none s).2) j) :=
  handled_handleSlot (slotStep_post fun _ hr hwait => hposts.at hr hwait)

theorem best_answered (result : AnsResult) {slots : ℕ → SlotEnv}
    (hposts : AllPending (fun j _ => (slots j).Posts) d.mote) :
    (d.handleSlot (fun s => (r_post_ans_to_ns (slots j) j result none s).2) j).mote.pendingAt j =
      false := by
  rw [Bool.eq_false_iff, ne_eq, pendingAt_iff]
  rintro ⟨r, hr, hwait⟩
  have hbefore := (handled_best result hposts).pending hr hwait
  have hfree : (r_post_ans_to_ns (slots j) j result none d.mote).2.slot j = none :=
    slot_post hbefore hwait (hposts.at hbefore hwait)
  rw [Docket.handleSlot, hfree] at hr
  cases hr

theorem joinAnsAt_left {slots : ℕ → SlotEnv} {r : Requester} (hposts : (slots j).Posts)
    (hbefore : d.mote.slot j = some r) (hwait : r.needsAnswer = true)
    (hr : (d.joinAnsAt slots j).mote.slot j = some r) : r.MessageType = .other := by
  by_contra hother
  have hself : (d.joinAnsAt slots j).mote.slot j = some (joinAnsPost (slots j) r) := by
    rw [Docket.joinAnsAt, hbefore]
    simp [RoamMote.slot, List.getElem?_set_self (slot_lt hbefore)]
  have hneeds : (joinAnsPost (slots j) r).needsAnswer = false := by
    simp [joinAnsPost, hposts.1, hposts.2.1, hother]
  rw [Option.some.inj (hself.symm.trans hr), hwait] at hneeds
  cases hneeds

theorem joinAnsFrom_spec (slots : ℕ → SlotEnv) (hinv : d.Inv)
    (hposts : AllPending (fun j _ => (slots j).Posts) d.mote) :
    (Docket.forSlots (Docket.joinAnsAt slots) d.mote.requesterList.length 0 d).Inv ∧
      AllPending (fun _ r => r.MessageType = .other)
        (Docket.forSlots (Docket.joinAnsAt slots) d.mote.requesterList.length 0 d).mote := by
  obtain ⟨hinv', hupto, hleft⟩ := forSlots_spec (f := Docket.joinAnsAt slots)
    (X := fun j d' => LeftUpto (fun _ r => r.MessageType = .other) j d'.mote)
    (fun j d' hupto hX => by
      have hs : Handled j d' (d'.joinAnsAt slots j) := handled_joinAnsAt slots
      refine ⟨hs, hX.succ hs fun r hr hwait => ?_⟩
      have hbefore := hs.pending hr hwait
      exact joinAnsAt_left (hupto.posts hposts r hbefore hwait) hbefore hwait hr)
    hinv (fun k hk => absurd hk (Nat.not_lt_zero k)) d.mote.requesterList.length
  exact ⟨hinv', fun k hk r hr hwait => hleft k (slot_lt (hupto.pending hr hwait)) r hr hwait⟩

theorem owes_joinAns {rxOk dlmdOk : Bool} {slots : ℕ → SlotEnv} (h : d.Owes)
    (hcrash : d.mote.crashed = false) (hc : AnswersInTime d (.joinAns rxOk dlmdOk slots)) :
    (d.joinAnswered rxOk dlmdOk slots).Owes := by
  have hposts : AllPending (fun j _ => (slots j).Posts) d.mote :=
    fun j hj r hr hwait => (hc j hj r hr hwait).1
  have hinv := h.inv.flags false d.toAS
  unfold Docket.joinAnswered
  dsimp only
  split
  · rename_i hbest
    refine ⟨hinv, fun hoff hcrash' j hj r hr hwait => ?_⟩
    rcases h.settled hoff hcrash' j hj r hr hwait with hother | ⟨-, hbest'⟩ | hAS
    · exact .inl hother
    · rw [hbest] at hbest'
      cases hbest'
    · exact .inr (.inr hAS)
  · rename_i i hbest
    have hquiet := quiet_follow i d.mote
    have hinv' := hinv.move (f := RoamMote.follow i) hquiet.requesterList
    have hposts' : AllPending (fun j _ => (slots j).Posts) (d.mote.follow i) :=
      hquiet.allPending hposts fun _ _ hp => hp
    split
    · rename_i hnull
      exact ⟨hinv', fun _ hno => absurd hnull (by rw [hno]; simp)⟩
    · split
      · have hs := handled_best (d := { d with joinReq := false }.move (RoamMote.follow i)) (j := i) .Other hposts'
        refine ⟨hinv'.handled hs, fun hoff _ k hk r hr hwait => ?_⟩
        have hoff' : d.mote.progress = .OFF := by
          rw [hs.progress] at hoff
          exact hquiet.progress.symm.trans hoff
        by_cases hki : k = i
        · subst hki
          have hdone := best_answered (d := { d with joinReq := false }.move (RoamMote.follow k)) (j := k) .Other hposts'
          rw [pendingAt_iff.mpr ⟨r, hr, hwait⟩] at hdone
          cases hdone
        · have hbefore := (hquiet.slot k).symm.trans ((hs.slot_ne k hki).symm.trans hr)
          rcases (h.settled hoff' hcrash).at hbefore hwait with hother | ⟨-, hk'⟩ | hAS
          · exact .inl hother
          · exact absurd (Option.some.inj (hk'.symm.trans hbest)) hki
          · exact .inr (.inr ⟨hs.toAS hAS.1, hAS.2⟩)
      · rename_i hok
        split
        · obtain ⟨hinv'', hother⟩ := joinAnsFrom_spec slots hinv' hposts'
          exact ⟨hinv'', fun _ _ k hk r hr hwait => .inl (hother k hk r hr hwait)⟩
        · rename_i hdlmd
          refine ⟨hinv', fun hoff _ k hk r hr hwait => ?_⟩
          have hbefore := (hquiet.slot k).symm.trans hr
          have hoff' := hquiet.progress.symm.trans hoff
          rcases (h.settled hoff' hcrash).at hbefore hwait with hother | hJS | hAS
          · exact .inl hother
          · rcases (AllPending.at hc hbefore hwait).2 hoff' (by simpa using hok)
              (by simpa using hdlmd) hJS with hother | hAS
            · exact .inl hother
            · exact .inr (.inr hAS)
          · exact .inr (.inr hAS)

theorem handled_xmitDataAnsAt (result : AnsResult) {slots : ℕ → SlotEnv}
    (hposts : ∀ r ∈ d.mote.slot j, r.needsAnswer = true →
      r.MessageType = .XmitDataReq → r.ans_ans = true → (slots j).Posts) :
    Handled j d (d.handleSlot (xmitDataAnsAt slots result j) j) := by
  refine handled_handleSlot ?_
  unfold xmitDataAnsAt
  split
  · exact (quiet_refl _).slotStep j
  · rename_i r hr
    split
    · rename_i hxmit
      refine slotStep_post fun r' hr' hwait => ?_
      obtain rfl : r = r' := Option.some.inj (hr.symm.trans hr')
      exact hposts r hr hwait hxmit.1 hxmit.2
    · exact (quiet_refl _).slotStep j

theorem xmitDataAnsAt_left {result : AnsResult} {slots : ℕ → SlotEnv} {s : RoamMote}
    {r : Requester}
    (hposts : r.MessageType = .XmitDataReq → r.ans_ans = true → (slots j).Posts)
    (hbefore : s.slot j = some r) (hwait : r.needsAnswer = true)
    (hr : (xmitDataAnsAt slots result j s).slot j = some r) :
    ¬(r.MessageType = .XmitDataReq ∧ r.ans_ans = true) := by
  intro hxmit
  rw [xmitDataAnsAt, hbefore] at hr
  dsimp only at hr
  rw [if_pos hxmit, slot_post hbefore hwait (hposts hxmit.1 hxmit.2)] at hr
  cases hr

theorem owes_xmitDataAns {result : AnsResult} {slots : ℕ → SlotEnv} (h : d.Owes)
    (hcrash : d.mote.crashed = false) (hc : AnswersInTime d (.xmitDataAns result slots)) :
    (d.xmitDataAns result slots).Owes := by
  obtain ⟨hinv', hupto, hleft⟩ := forSlots_spec
    (f := fun j => Docket.handleSlot (xmitDataAnsAt slots result j) j)
    (X := fun j d' =>
      LeftUpto (fun _ r => ¬(r.MessageType = .XmitDataReq ∧ r.ans_ans = true)) j d'.mote)
    (fun j d' hupto hX => by
      have hposts : ∀ r ∈ d'.mote.slot j, r.needsAnswer = true →
          r.MessageType = .XmitDataReq → r.ans_ans = true → (slots j).Posts :=
        fun r hr hwait => AllPending.at hc (hupto.pending hr hwait) hwait
      have hs := handled_xmitDataAnsAt result hposts
      refine ⟨hs, hX.succ hs fun r hr hwait => ?_⟩
      have hbefore := hs.pending hr hwait
      exact xmitDataAnsAt_left (hposts r hbefore hwait) hbefore hwait hr)
    h.inv (fun k hk => absurd hk (Nat.not_lt_zero k)) d.mote.requesterList.length
  refine ⟨hinv'.flags _ false, fun hoff _ k hk r hr hwait => ?_⟩
  have hbefore := hupto.pending hr hwait
  rcases (h.settled (hupto.progress.symm.trans hoff) hcrash).at hbefore hwait with
    hother | ⟨hreq, hbest⟩ | hAS
  · exact .inl hother
  · exact .inr (.inl ⟨hupto.joinReq.trans hreq, hupto.bestR.trans hbest⟩)
  · exact absurd hAS.2 (hleft k (slot_lt hbefore) r hr hwait)

theorem owes_downlinkBC (PHYPayload : Bool) (dl : DlEnv) (h : d.Owes)
    (hcrash : d.mote.crashed = false) :
    (d.move fun s => finishPhyDownlink dl { s with PHYPayload := PHYPayload }).Owes := by
  have hset : Quiet d.mote { d.mote with PHYPayload := PHYPayload } := ⟨rfl, rfl, rfl, rfl, rfl⟩
  have hquiet := hset.trans (quiet_finishPhyDownlink dl _)
  refine ⟨h.inv.move hquiet.requesterList, fun hoff _ => ?_⟩
  exact hquiet.allPending (h.settled (hquiet.progress.symm.trans hoff) hcrash)
    fun j r hw => hw.move hquiet.bestR

/-! ### Runs -/

theorem owes_new : Docket.new.Owes := by
  refine ⟨⟨rfl, List.Pairwise.nil, ?_, ?_, ?_, ?_⟩, ?_⟩
  · exact fun q hq => absurd hq List.not_mem_nil
  · exact fun a ha => absurd ha List.not_mem_nil
  · exact fun j q hq => by cases hq
  · exact fun q hq => absurd hq List.not_mem_nil
  · exact fun _ _ j hj => absurd hj (Nat.not_lt_zero j)

theorem owes_step {e : RoamEvent × ℕ} (h : d.Owes)
    (hc : d.mote.crashed = false → AnswersInTime d e.1) : (d.step e).Owes := by
  unfold Docket.step
  cases hcrash : d.mote.crashed with
  | true => exact h
  | false =>
    have hc := hc hcrash
    obtain ⟨e, inTid⟩ := e
    cases e with
    | localRx sq mtype forwards => exact owes_localRx h hcrash hc
    | json admitted MessageType ClientID u => exact owes_json h hcrash hc
    | service env => exact owes_service h hcrash hc
    | joinAns rxOk dlmdOk slots => exact owes_joinAns h hcrash hc
    | xmitDataAns result slots => exact owes_xmitDataAns h hcrash hc
    | downlinkBC PHYPayload dl => exact owes_downlinkBC PHYPayload dl h hcrash

/-- In every run whose answers come in time, each request that waits for an answer has had it,
once and with its own TransactionID, when its slot is discarded. -/
theorem answeredOnce_of_inTime {es : List (RoamEvent × ℕ)}
    (hc : Machine.Along Docket.step
      (fun d e => d.mote.crashed = false → AnswersInTime d e.1) .new es) :
    AnsweredOnce (Machine.run Docket.step .new es) :=
  (Machine.run_invariant Docket.step (fun _ _ h hc => owes_step h hc) owes_new hc).inv.answered

end

/-- A roaming start from two servers, a payload for the application server and a JoinReq: all are
answered before the uplink that follows. -/
theorem four_requests_answered :
    (Machine.run Docket.step .new
      [(.json true .PRStartReq 6 (.phy (some 0) MTYPE_UNCONF_UP false), 11),
        (.json true .PRStartReq 7 (.phy (some (-5)) MTYPE_UNCONF_UP false), 12),
        (.service plainFinish, 0),
        (.json true .XmitDataReq 6 (.frm true MTYPE_UNCONF_UP false), 13),
        (.service { plainFinish with roamState := .hHANDOVER }, 0),
        (.xmitDataAns .Success fun _ => plainSlot, 0),
        (.json true .PRStartReq 6 (.phy (some 0) MTYPE_JOIN_REQ false), 14),
        (.service { plainFinish with joinReq := some true }, 0),
        (.joinAns true true fun _ => plainSlot, 0),
        (.localRx 0 MTYPE_UNCONF_UP false, 0)]).discarded.length = 4 ∧
    AnsweredOnce (Machine.run Docket.step .new
      [(.json true .PRStartReq 6 (.phy (some 0) MTYPE_UNCONF_UP false), 11),
        (.json true .PRStartReq 7 (.phy (some (-5)) MTYPE_UNCONF_UP false), 12),
        (.service plainFinish, 0),
        (.json true .XmitDataReq 6 (.frm true MTYPE_UNCONF_UP false), 13),
        (.service { plainFinish with roamState := .hHANDOVER }, 0),
        (.xmitDataAns .Success fun _ => plainSlot, 0),
        (.json true .PRStartReq 6 (.phy (some 0) MTYPE_JOIN_REQ false), 14),
        (.service { plainFinish with joinReq := some true }, 0),
        (.joinAns true true fun _ => plainSlot, 0),
        (.localRx 0 MTYPE_UNCONF_UP false, 0)]) :=
  ⟨by decide +kernel, answeredOnce_of_inTime (by decide +kernel)⟩

/-- In passive roaming the frame comes with an XmitDataReq, and `finish` sends no answer. -/
theorem passive_frame_unanswered :
    ¬AnsweredOnce (Machine.run Docket.step .new
      [(.json true .XmitDataReq 6 (.phy (some 0) MTYPE_UNCONF_UP true), 17),
        (.service { plainFinish with roamState := .sPASSIVE }, 0),
        (.localRx 0 MTYPE_UNCONF_UP true, 0)]) := by
  decide +kernel

end Lorawan.NetworkServer

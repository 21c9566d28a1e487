import Lorawan.Backend.Exchange
import Lorawan.Lib.Ring

/-!
# Answers that were sent before (libserver.c:1001-1079)

`check_post` looks at every message that is posted. It keeps the TransactionIDs of
the last sixteen answers, to whichever server they went, in a ring that starts
with zeros, and ends the process when an answer has one of them.
-/

namespace Lorawan.Backend
open Lorawan

variable {D : Type} (C : Json.Conversions Member D)

/-! ### check_post -/

def N_TIDS : ℕ := 16

/-- `none` when the process is ended. -/
def check_post (postJson : Json Member D) (tids : Ring UInt32) : Option (Ring UInt32) :=
  match postJson.get_ex .Result with
  | none => some tids
  | some _ =>
    match postJson.get_ex .TransactionID with
    | none => none
    | some v =>
      let tid := (v.get_int C).toUInt32
      if Ring.holdsFrom N_TIDS tids.cells tid N_TIDS tids.next then none
      else some (tids.push N_TIDS tid)

/-- A request that was received: from whom, and its TransactionID and type. -/
structure Request where
  peer : List Char
  tid : UInt64
  mt : MessageType

/-- A message that is posted: a request of this server, or the answer to a request. -/
inductive Post (D : Type)
  | request (destID : List Char) (tid : UInt64) (mt : MessageType)
      (members : Member → Option (Json Member D)) (noResult : members .Result = none)
  | answer (q : Request) (result : Result) (members : Member → Option (Json Member D))
      (isReq : q.mt.ansMt.isSome)

/-- What `lib_generate_json` made of it. -/
def Post.json (srcID : List Char) : Post D → Json Member D
  | request destID tid mt members _ =>
    .object (lib_generate_json destID srcID tid (some mt) none members)
  | answer q result members _ =>
    .object (lib_generate_json q.peer srcID q.tid q.mt.ansMt (some result) members)

/-- The request that the message answers. -/
def Post.answered : Post D → Option Request
  | request .. => none
  | answer q .. => some q

/-- The process after it posted the messages, `none` when it was ended. -/
def postAll (srcID : List Char) (posts : List (Post D)) (tids : Ring UInt32) :
    Option (Ring UInt32) :=
  posts.foldlM (fun tids p => check_post C (p.json srcID) tids) tids

/-- The process posted the messages and is still there. -/
def Survives (srcID : List Char) (posts : List (Post D)) : Prop :=
  (postAll C srcID posts (Ring.init N_TIDS 0)).isSome

/-! ### The condition -/

/-- The TransactionID by which an answer is remembered. -/
def Request.low (q : Request) : UInt32 := q.tid.toUInt32

/-- No TransactionID is that of one of the sixteen answers before, and it is not 0 for one of the
first sixteen. -/
def Distinct (tids : List UInt32) : Prop :=
  (∀ j < N_TIDS, tids[j]? ≠ some 0) ∧
    ∀ i j tid, i < j → j ≤ i + N_TIDS → tids[i]? = some tid → tids[j]? ≠ some tid

def answeredTids (posts : List (Post D)) : List UInt32 :=
  posts.filterMap fun p => p.answered.map Request.low

/-! ### One message -/

theorem check_post_request (srcID destID : List Char) (tid : UInt64) (mt : MessageType)
    (members : Member → Option (Json Member D)) (hno : members .Result = none)
    (tids : Ring UInt32) :
    check_post C ((Post.request destID tid mt members hno).json srcID) tids = some tids := by
  simp [check_post, Post.json, lib_generate_json, hno]

theorem check_post_answer (srcID : List Char) (q : Request) (result : Result)
    (members : Member → Option (Json Member D)) (hreq : q.mt.ansMt.isSome) (tids : Ring UInt32) :
    check_post C ((Post.answer q result members hreq).json srcID) tids =
      if Ring.holdsFrom N_TIDS tids.cells q.low N_TIDS tids.next then none
      else some (tids.push N_TIDS q.low) := by
  obtain ⟨ans, hans⟩ := Option.isSome_iff_exists.mp hreq
  simp [check_post, Post.json, lib_generate_json, hans, new_tid, Request.low]
  rfl

/-! ### All messages -/

/-- Each TransactionID is not among the last ones when it is sent, after those of `past`. -/
def FreshAfter (past : List UInt32) : List UInt32 → Prop
  | [] => True
  | tid :: tids => tid ∉ Ring.window N_TIDS 0 past ∧ FreshAfter (past ++ [tid]) tids

theorem postAll_isSome_iff (srcID : List Char) (posts : List (Post D)) :
    ∀ {past : List UInt32} {tids : Ring UInt32}, Ring.Recent N_TIDS 0 past tids →
      ((postAll C srcID posts tids).isSome ↔ FreshAfter past (answeredTids posts)) := by
  have hN : 0 < N_TIDS := by decide
  induction posts with
  | nil => exact fun _ => ⟨fun _ => trivial, fun _ => rfl⟩
  | cons p posts ih =>
    intro past tids h
    rw [postAll, List.foldlM_cons]
    cases p with
    | request destID tid mt members hno =>
      rw [check_post_request]
      exact ih h
    | answer q result members hreq =>
      rw [check_post_answer]
      have hcons : answeredTids (Post.answer q result members hreq :: posts) =
          q.low :: answeredTids posts := rfl
      have hfound := Ring.holdsFrom_next (x := q.low) hN h
      rw [hcons, FreshAfter, ← hfound]
      cases Ring.holdsFrom N_TIDS tids.cells q.low N_TIDS tids.next with
      | true => simp
      | false =>
        simp only [Bool.false_eq_true, if_false, not_false_eq_true, true_and]
        exact ih (Ring.recent_push hN h q.low)

theorem freshAfter_iff (tids : List UInt32) : ∀ past : List UInt32,
    FreshAfter past tids ↔
      ∀ j tid, tids[j]? = some tid → tid ∉ Ring.window N_TIDS 0 (past ++ tids.take j) := by
  induction tids with
  | nil => simp [FreshAfter]
  | cons t tids ih =>
    intro past
    rw [FreshAfter, ih]
    constructor
    · rintro ⟨hfirst, hrest⟩ j tid hj
      cases j with
      | zero =>
        rw [List.getElem?_cons_zero, Option.some.injEq] at hj
        simpa [← hj] using hfirst
      | succ j =>
        have := hrest j tid (by simpa using hj)
        rwa [List.append_assoc] at this
    · intro h
      refine ⟨by simpa using h 0 t rfl, fun j tid hj => ?_⟩
      have := h (j + 1) tid (by simpa using hj)
      rwa [List.append_assoc]

theorem freshAfter_nil_iff (tids : List UInt32) : FreshAfter [] tids ↔ Distinct tids := by
  simp only [freshAfter_iff, List.nil_append, Ring.mem_window, not_or, not_and, not_exists]
  constructor
  · intro h
    refine ⟨fun j hj hzero => ?_, fun i j tid hij hle hi hj => ?_⟩
    · have hlt := (List.getElem?_eq_some_iff.mp hzero).1
      exact (h j 0 hzero).1 (by simp; omega) rfl
    · refine (h j tid hj).2 i ?_ ?_
      · simp only [List.length_take]
        omega
      · rw [List.getElem?_take, if_pos hij, hi]
  · rintro ⟨hzero, hne⟩ j tid hj
    have hlt := (List.getElem?_eq_some_iff.mp hj).1
    have hlen : (tids.take j).length = j := by
      rw [List.length_take]
      omega
    rw [hlen]
    refine ⟨fun hfew htid => hzero j hfew (by rw [hj, htid]), fun i hle hi => ?_⟩
    rw [List.getElem?_take] at hi
    split at hi
    · rename_i hij
      exact hne i j tid hij hle hi hj
    · cases hi

/-- A process survives its answers exactly when their TransactionIDs are distinct; a second
answer to a request is always noticed within sixteen answers. -/
theorem survives_iff_distinct (srcID : List Char) (posts : List (Post D)) :
    (Survives C srcID posts ↔ Distinct (answeredTids posts)) ∧
      ∀ before between after : List (Post D), ∀ first second : Post D, ∀ q : Request,
        posts = before ++ first :: (between ++ second :: after) →
        first.answered = some q → second.answered = some q →
        (answeredTids between).length < N_TIDS → ¬Survives C srcID posts := by
  have hiff : Survives C srcID posts ↔ Distinct (answeredTids posts) := by
    rw [Survives, postAll_isSome_iff C srcID posts (Ring.recent_init N_TIDS 0),
      freshAfter_nil_iff]
  refine ⟨hiff, fun before between after first second q hposts hfirst hsecond hfew hsurvives => ?_⟩
  have htids : answeredTids posts = answeredTids before ++
      (q.low :: (answeredTids between ++ q.low :: answeredTids after)) := by
    rw [hposts]
    simp [answeredTids, hfirst, hsecond]
  refine (hiff.mp hsurvives).2 (answeredTids before).length
    ((answeredTids before).length + ((answeredTids between).length + 1)) q.low (by omega)
    (by omega) ?_ ?_
  · rw [htids, List.getElem?_append_right (le_refl _)]
    simp
  · rw [htids, List.getElem?_append_right (by omega), Nat.add_sub_cancel_left,
      List.getElem?_cons_succ, List.getElem?_append_right (le_refl _)]
    simp

/-- The answer of a network server to the PRStartReq of another. -/
def startAnswer (NetID : List Char) (tid : UInt64) : Post ℚ :=
  .answer ⟨NetID, tid, .PRStartReq⟩ .Success Json.noMembers rfl

/-- The first answer has TransactionID 0; two servers chose the same TransactionID. -/
theorem ended_by_answers_to_two_servers :
    ¬Survives plainConversions "000013".toList [startAnswer "000006".toList 0] ∧
      ¬Survives plainConversions "000013".toList
        [startAnswer "000006".toList 7, startAnswer "000007".toList 7] := by
  unfold Survives
  decide +kernel

end Lorawan.Backend

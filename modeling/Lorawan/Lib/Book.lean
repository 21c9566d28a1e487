import Mathlib.Data.List.Basic
import Mathlib.Order.Basic

/-!
# Requests and their answers

A book of a party with room for one request: requests are numbered from 1 as they
come, and an answer is entered under the number of the last one. A request may be
replied to at once; then nothing more is due to it. The book is in order when
every other request has one answer, or is the last one and has none.
-/

namespace Lorawan

/-- Requests `ρ` and answers `α`. -/
structure Book (ρ α : Type) where
  requests : List ρ
  /-- The numbers of the requests that were replied to at once. -/
  replied : List ℕ
  answers : List (ℕ × α)

namespace Book

variable {ρ α : Type}

def empty : Book ρ α := ⟨[], [], []⟩

def take (r : ρ) (b : Book ρ α) : Book ρ α := { b with requests := b.requests ++ [r] }

/-- The last request is replied to at once. -/
def reply (b : Book ρ α) : Book ρ α := { b with replied := b.requests.length :: b.replied }

/-- The last request is answered. -/
def answer (a : α) (b : Book ρ α) : Book ρ α :=
  { b with answers := b.answers ++ [(b.requests.length, a)] }

def answersTo (b : Book ρ α) (n : ℕ) : List α :=
  (b.answers.filter fun p => decide (p.1 = n)).map (·.2)

/-- The last request is due an answer. -/
structure Waits (b : Book ρ α) (r : ρ) : Prop where
  last : b.requests.getLast? = some r
  owed : b.requests.length ∉ b.replied
  unanswered : b.answersTo b.requests.length = []

/-- The last request has got its answer. -/
structure Answered (b : Book ρ α) : Prop where
  nonempty : b.requests ≠ []
  owed : b.requests.length ∉ b.replied
  answer : b.answersTo b.requests.length ≠ []

/-- Each request that was not replied to at once has one answer, which fits it, or waits. -/
def InOrder (Fits : ρ → α → Prop) (b : Book ρ α) : Prop :=
  ∀ n r, b.requests[n]? = some r → n + 1 ∉ b.replied →
    (∃ a, b.answersTo (n + 1) = [a] ∧ Fits r a) ∨
      (n + 1 = b.requests.length ∧ b.answersTo (n + 1) = [])

/-- What is entered is about requests that came. -/
structure Numbered (b : Book ρ α) : Prop where
  replied : ∀ n ∈ b.replied, n ≤ b.requests.length
  answers : ∀ p ∈ b.answers, p.1 ≤ b.requests.length

/-! ### What an entry changes -/

@[simp] theorem requests_take (r : ρ) (b : Book ρ α) : (b.take r).requests = b.requests ++ [r] := rfl

@[simp] theorem replied_take (r : ρ) (b : Book ρ α) : (b.take r).replied = b.replied := rfl

@[simp] theorem answersTo_take (r : ρ) (b : Book ρ α) (n : ℕ) :
    (b.take r).answersTo n = b.answersTo n := rfl

@[simp] theorem requests_reply (b : Book ρ α) : b.reply.requests = b.requests := rfl

@[simp] theorem answersTo_reply (b : Book ρ α) (n : ℕ) : b.reply.answersTo n = b.answersTo n := rfl

@[simp] theorem requests_answer (a : α) (b : Book ρ α) : (b.answer a).requests = b.requests := rfl

@[simp] theorem replied_answer (a : α) (b : Book ρ α) : (b.answer a).replied = b.replied := rfl

theorem answersTo_answer (a : α) (b : Book ρ α) (n : ℕ) :
    (b.answer a).answersTo n =
      if b.requests.length = n then b.answersTo n ++ [a] else b.answersTo n := by
  unfold answersTo answer
  rw [List.filter_append, List.map_append]
  by_cases h : b.requests.length = n
  · simp [h]
  · simp [h]

theorem answersTo_of_lt {b : Book ρ α} (h : b.Numbered) {n : ℕ} (hn : b.requests.length < n) :
    b.answersTo n = [] := by
  unfold answersTo
  rw [List.map_eq_nil_iff, List.filter_eq_nil_iff]
  intro p hp
  have hle := h.answers p hp
  simp only [decide_eq_true_eq]
  omega

/-! ### Numbers -/

theorem numbered_empty : (empty : Book ρ α).Numbered where
  replied := by intro n hn; cases hn
  answers := by intro p hp; cases hp

theorem Numbered.take {b : Book ρ α} (h : b.Numbered) (r : ρ) : (b.take r).Numbered where
  replied := by
    intro n hn
    have := h.replied n hn
    rw [requests_take, List.length_append]
    omega
  answers := by
    intro p hp
    have := h.answers p hp
    rw [requests_take, List.length_append]
    omega

theorem Numbered.reply {b : Book ρ α} (h : b.Numbered) : b.reply.Numbered where
  replied := by
    intro n hn
    rcases List.mem_cons.mp hn with rfl | hn
    · exact Nat.le_refl _
    · exact h.replied n hn
  answers := h.answers

theorem Numbered.answer {b : Book ρ α} (h : b.Numbered) (a : α) : (b.answer a).Numbered where
  replied := h.replied
  answers := by
    intro p hp
    rcases List.mem_append.mp hp with hp | hp
    · exact h.answers p hp
    · rw [List.mem_singleton.mp hp]
      exact Nat.le_refl _

/-! ### The last request -/

theorem waits_take {b : Book ρ α} (h : b.Numbered) (r : ρ) : (b.take r).Waits r where
  last := List.getLast?_concat
  owed := by
    intro hmem
    have := h.replied _ hmem
    rw [requests_take, List.length_append, List.length_singleton] at this
    omega
  unanswered := by
    rw [answersTo_take]
    apply answersTo_of_lt h
    rw [requests_take, List.length_append, List.length_singleton]
    omega

theorem not_waits_of_nil {b : Book ρ α} (h : b.requests = []) (r : ρ) : ¬ b.Waits r := by
  intro hr
  have hlast := hr.last
  rw [h] at hlast
  cases hlast

theorem Waits.eq {b : Book ρ α} {r r' : ρ} (h : b.Waits r) (h' : b.Waits r') : r' = r :=
  Option.some.inj (h'.last.symm.trans h.last)

theorem Waits.not_answered {b : Book ρ α} {r : ρ} (h : b.Waits r) : ¬ b.Answered :=
  fun ha => ha.answer h.unanswered

theorem not_waits_reply (b : Book ρ α) (r : ρ) : ¬ b.reply.Waits r :=
  fun h => h.owed (List.mem_cons_self ..)

theorem not_answered_reply (b : Book ρ α) : ¬ b.reply.Answered :=
  fun h => h.owed (List.mem_cons_self ..)

theorem not_waits_answer (a : α) (b : Book ρ α) (r : ρ) : ¬ (b.answer a).Waits r := by
  intro h
  have hnone := h.unanswered
  rw [requests_answer, answersTo_answer, if_pos rfl] at hnone
  exact absurd hnone (by simp)

/-! ### Books in order -/

theorem inOrder_empty (Fits : ρ → α → Prop) : (empty : Book ρ α).InOrder Fits := by
  intro n r hr
  cases hr

theorem InOrder.take {Fits : ρ → α → Prop} {b : Book ρ α} (h : b.InOrder Fits) (hn : b.Numbered)
    (hfree : ∀ r, ¬ b.Waits r) (r : ρ) : (b.take r).InOrder Fits := by
  intro n q hq hopen
  rw [requests_take, List.getElem?_append] at hq
  split at hq
  · rename_i hlt
    rcases h n q hq hopen with hdone | ⟨hlast, hnone⟩
    · exact Or.inl hdone
    · refine absurd ⟨?_, ?_, ?_⟩ (hfree q)
      · rw [List.getLast?_eq_getElem?, ← hlast]
        exact hq
      · rw [← hlast]
        exact hopen
      · rw [← hlast]
        exact hnone
  · rename_i hge
    have hn1 : n = b.requests.length := by
      have hlt := (List.getElem?_eq_some_iff.mp hq).1
      rw [List.length_singleton] at hlt
      omega
    right
    constructor
    · rw [requests_take, List.length_append, List.length_singleton, hn1]
    · rw [answersTo_take]
      apply answersTo_of_lt hn
      omega

theorem InOrder.reply {Fits : ρ → α → Prop} {b : Book ρ α} (h : b.InOrder Fits) :
    b.reply.InOrder Fits := by
  intro n r hr hopen
  exact h n r hr fun hmem => hopen (List.mem_cons_of_mem _ hmem)

/-- An answer goes to a request that waits, and fits it, or to one that was replied to. -/
theorem InOrder.answer {Fits : ρ → α → Prop} {b : Book ρ α} (h : b.InOrder Fits) {a : α}
    (hnew : ¬ b.Answered) (hfits : ∀ r, b.Waits r → Fits r a) : (b.answer a).InOrder Fits := by
  intro n r hr hopen
  rw [answersTo_answer]
  rw [requests_answer] at hr
  rw [replied_answer] at hopen
  split
  · rename_i hlast
    have hwaits : b.Waits r := by
      have hne : b.requests ≠ [] := by
        intro hnil
        rw [hnil] at hr
        cases hr
      refine ⟨?_, by rwa [hlast], ?_⟩
      · rw [List.getLast?_eq_getElem?, hlast]
        exact hr
      · by_contra hsome
        exact hnew ⟨hne, by rwa [hlast], hsome⟩
    left
    refine ⟨a, ?_, hfits r hwaits⟩
    rw [← hlast, hwaits.unanswered, List.nil_append]
  · exact h n r hr hopen

end Book

end Lorawan

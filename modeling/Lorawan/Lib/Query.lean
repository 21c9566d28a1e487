import Mathlib.Data.List.Sort

/-!
# Answers to a query

A query without an order may return the rows of a table in any order, and one
with an order in any that keeps to it. What is read from the first row that
meets a condition is therefore one of several values, unless the table has no
choice.
-/

namespace Lorawan.Query

variable {ρ κ β : Type*} [LinearOrder κ]

/-- The rows as a query returns them that asks for the greatest key first. -/
structure Latest (key : ρ → κ) (rows answer : List ρ) : Prop where
  perm : answer.Perm rows
  ordered : answer.Pairwise fun r r' => key r' ≤ key r

variable {key : ρ → κ} {rows answer : List ρ} {p : ρ → Bool} {r : ρ}

theorem exists_latest (key : ρ → κ) (rows : List ρ) : ∃ answer, Latest key rows answer := by
  refine ⟨rows.insertionSort fun r r' => key r' ≤ key r, List.perm_insertionSort _ _, ?_⟩
  have : Std.Total fun r r' : ρ => key r' ≤ key r := ⟨fun r r' => le_total (key r') (key r)⟩
  have : IsTrans ρ fun r r' => key r' ≤ key r := ⟨fun _ _ _ h h' => h'.trans h⟩
  exact List.pairwise_insertionSort _ _

/-! ### The first row that meets a condition -/

theorem mem_of_first (h : answer.Perm rows) (hr : answer.find? p = some r) :
    r ∈ rows ∧ p r = true :=
  ⟨h.mem_iff.mp (List.mem_of_find?_eq_some hr), List.find?_some hr⟩

theorem first_eq_none_iff (h : answer.Perm rows) :
    answer.find? p = none ↔ ∀ r ∈ rows, p r = false := by
  simp only [List.find?_eq_none, Bool.not_eq_true]
  exact ⟨fun hnone r hr => hnone r (h.mem_iff.mpr hr), fun hnone r hr => hnone r (h.mem_iff.mp hr)⟩

theorem exists_first (hr : r ∈ rows) (hp : p r = true) :
    ∃ answer : List ρ, answer.Perm rows ∧ answer.find? p = some r := by
  obtain ⟨before, after, rfl⟩ := List.append_of_mem hr
  exact ⟨r :: (before ++ after), List.perm_middle.symm, by simp [hp]⟩

/-- In the order of the key, the first row that meets the condition has the greatest key. -/
theorem first_latest (h : Latest key rows answer) (hr : answer.find? p = some r) {r' : ρ}
    (hr' : r' ∈ rows) (hp : p r' = true) : key r' ≤ key r := by
  obtain ⟨-, before, after, rfl, hbefore⟩ := List.find?_eq_some_iff_append.mp hr
  rcases List.mem_append.mp (h.perm.mem_iff.mpr hr') with hmem | hmem
  · have hfalse := hbefore r' hmem
    simp [hp] at hfalse
  · rcases List.mem_cons.mp hmem with rfl | hmem
    · exact le_refl _
    · exact (List.pairwise_cons.mp (List.pairwise_append.mp h.ordered).2.1).1 r' hmem

/-- What is read from the first row does not depend on the order of the answer when all rows that
meet the condition have it in common, and only then. -/
theorem first_unique_iff (f : ρ → β) :
    (∀ answer answer' : List ρ, answer.Perm rows → answer'.Perm rows →
        (answer.find? p).map f = (answer'.find? p).map f) ↔
      ∀ r ∈ rows, ∀ r' ∈ rows, p r = true → p r' = true → f r = f r' := by
  constructor
  · intro h r hr r' hr' hp hp'
    obtain ⟨answer, hperm, hfirst⟩ := exists_first hr hp
    obtain ⟨answer', hperm', hfirst'⟩ := exists_first hr' hp'
    have heq := h answer answer' hperm hperm'
    rw [hfirst, hfirst'] at heq
    exact Option.some.inj heq
  · intro h answer answer' hperm hperm'
    cases hfirst : answer.find? p with
    | none =>
      have hnone := (first_eq_none_iff hperm').mpr ((first_eq_none_iff hperm).mp hfirst)
      rw [hnone]
    | some r =>
      obtain ⟨hr, hp⟩ := mem_of_first hperm hfirst
      cases hfirst' : answer'.find? p with
      | none =>
        have hfalse := (first_eq_none_iff hperm').mp hfirst' r hr
        rw [hp] at hfalse
        cases hfalse
      | some r' =>
        obtain ⟨hr', hp'⟩ := mem_of_first hperm' hfirst'
        simp only [Option.map_some, h r hr r' hr' hp hp']

/-! ### The greatest key -/

/-- A row with the greatest key of those that meet the condition. -/
structure Greatest (key : ρ → κ) (p : ρ → Bool) (rows : List ρ) (r : ρ) : Prop where
  mem : r ∈ rows
  holds : p r = true
  greatest : ∀ r' ∈ rows, p r' = true → key r' ≤ key r

theorem exists_greatest (key : ρ → κ) (hr : r ∈ rows) (hp : p r = true) :
    ∃ r', Greatest key p rows r' := by
  obtain ⟨answer, hanswer⟩ := exists_latest key rows
  cases hfirst : answer.find? p with
  | none =>
    have hfalse := (first_eq_none_iff hanswer.perm).mp hfirst r hr
    rw [hp] at hfalse
    cases hfalse
  | some r' =>
    obtain ⟨hmem, hp'⟩ := mem_of_first hanswer.perm hfirst
    exact ⟨r', hmem, hp', fun q hq hpq => first_latest hanswer hfirst hq hpq⟩

/-- One row is left of those that meet the condition, and it has the greatest key, when exactly one
of them reaches the key from which on they are kept. -/
theorem greatest_left_iff (key : ρ → κ) (p : ρ → Bool) (t : κ) (rows : List ρ) :
    (∃ r, Greatest key p rows r ∧ (rows.filter fun r => p r && decide (t ≤ key r)) = [r]) ↔
      (rows.filter fun r => p r && decide (t ≤ key r)).length = 1 := by
  constructor
  · rintro ⟨r, -, hleft⟩
    rw [hleft]
    rfl
  · intro hlength
    obtain ⟨r, hleft⟩ := List.length_eq_one_iff.mp hlength
    have hmem : ∀ q, q ∈ rows ∧ p q = true ∧ t ≤ key q ↔ q = r := by
      intro q
      have hq : q ∈ (rows.filter fun r => p r && decide (t ≤ key r)) ↔ q ∈ [r] := by rw [hleft]
      simpa using hq
    obtain ⟨hr, hp, ht⟩ := (hmem r).mpr rfl
    refine ⟨r, ⟨hr, hp, ?_⟩, hleft⟩
    intro q hq hpq
    rcases le_total t (key q) with hle | hle
    · rw [(hmem q).mp ⟨hq, hpq, hle⟩]
    · exact hle.trans ht

/-- A filter takes nothing more from the rows of another one when it keeps them all. -/
theorem filter_filter_eq_iff (p q : ρ → Bool) (rows : List ρ) :
    (rows.filter q).filter p = rows.filter p ↔ ∀ r ∈ rows, p r = true → q r = true := by
  rw [List.filter_filter]
  constructor
  · intro h r hr hp
    have hmem : r ∈ rows.filter p := List.mem_filter.mpr ⟨hr, hp⟩
    rw [← h] at hmem
    have hand := (List.mem_filter.mp hmem).2
    simp only [Bool.and_eq_true] at hand
    exact hand.2
  · intro h
    apply List.filter_congr
    intro r hr
    cases hp : p r with
    | false => rfl
    | true => rw [h r hr hp]; rfl

end Lorawan.Query

import Mathlib.Data.List.Induction
import Mathlib.Order.Lattice

/-!
# Records of a list

The entries that are better than all before them. A scan that keeps the best entry it
has seen, and the first of equals, changes its mind at the records and nowhere else.
-/

namespace Lorawan

section

variable {α β : Type} [LinearOrder β] (f : α → β)

def addRecord (rs : List α) (x : α) : List α := if ∀ y ∈ rs, f y < f x then rs ++ [x] else rs

def records (xs : List α) : List α := xs.foldl (addRecord f) []

@[simp] theorem records_nil : records f [] = [] := rfl

theorem records_concat (xs : List α) (x : α) :
    records f (xs ++ [x]) = addRecord f (records f xs) x := by
  rw [records, List.foldl_append]
  rfl

theorem records_sublist (xs : List α) : (records f xs).Sublist xs := by
  induction xs using List.reverseRecOn with
  | nil => exact List.Sublist.refl []
  | append_singleton xs x ih =>
    rw [records_concat, addRecord]
    split
    · exact ih.append (List.Sublist.refl [x])
    · exact ih.trans (List.sublist_append_left xs [x])

theorem records_pairwise (xs : List α) : (records f xs).Pairwise fun a b => f a < f b := by
  induction xs using List.reverseRecOn with
  | nil => exact List.Pairwise.nil
  | append_singleton xs x ih =>
    rw [records_concat, addRecord]
    split
    · rename_i h
      rw [List.pairwise_append]
      refine ⟨ih, List.pairwise_singleton _ x, ?_⟩
      intro a ha b hb
      rw [List.mem_singleton.mp hb]
      exact h a ha
    · exact ih

theorem exists_record_ge {xs : List α} {x : α} (h : x ∈ xs) : ∃ y ∈ records f xs, f x ≤ f y := by
  induction xs using List.reverseRecOn with
  | nil => cases h
  | append_singleton xs z ih =>
    rw [records_concat, addRecord]
    rcases List.mem_append.mp h with hx | hx
    · obtain ⟨y, hy, hle⟩ := ih hx
      split
      · exact ⟨y, List.mem_append_left [z] hy, hle⟩
      · exact ⟨y, hy, hle⟩
    · rw [List.mem_singleton.mp hx]
      split
      · exact ⟨z, List.mem_append_right _ (List.mem_singleton_self z), le_refl _⟩
      · rename_i hz
        push Not at hz
        exact hz

theorem le_of_last_record {xs : List α} {w : α} (hw : (records f xs).getLast? = some w) {x : α}
    (h : x ∈ xs) : f x ≤ f w := by
  obtain ⟨y, hy, hxy⟩ := exists_record_ge f h
  obtain ⟨ys, hys⟩ := List.getLast?_eq_some_iff.mp hw
  have hp := records_pairwise f xs
  rw [hys] at hy hp
  rcases List.mem_append.mp hy with hy | hy
  · have hlt := (List.pairwise_append.mp hp).2.2 y hy w (List.mem_singleton_self w)
    exact le_trans hxy (le_of_lt hlt)
  · rw [List.mem_singleton.mp hy] at hxy
    exact hxy

theorem eq_last_record {xs : List α} {w : α} (hw : (records f xs).getLast? = some w) {x : α}
    (h : x ∈ records f xs) (hle : f w ≤ f x) : x = w := by
  obtain ⟨ys, hys⟩ := List.getLast?_eq_some_iff.mp hw
  have hp := records_pairwise f xs
  rw [hys] at h hp
  rcases List.mem_append.mp h with h | h
  · have hlt := (List.pairwise_append.mp hp).2.2 x h w (List.mem_singleton_self w)
    exact absurd hlt (not_lt.mpr hle)
  · exact List.mem_singleton.mp h

theorem records_ne_nil {xs : List α} (h : xs ≠ []) : records f xs ≠ [] := by
  obtain ⟨x, hx⟩ := List.exists_mem_of_ne_nil xs h
  obtain ⟨y, hy, -⟩ := exists_record_ge f hx
  exact List.ne_nil_of_mem hy

theorem forall_records_lt_iff {xs : List α} {w : α} (hw : (records f xs).getLast? = some w) (x : α) :
    (∀ y ∈ records f xs, f y < f x) ↔ f w < f x := by
  constructor
  · intro h
    exact h w (List.mem_of_getLast? hw)
  · intro h y hy
    exact lt_of_le_of_lt (le_of_last_record f hw ((records_sublist f xs).subset hy)) h

end

end Lorawan

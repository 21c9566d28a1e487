import Mathlib.Data.List.Basic

/-!
# The first row of a key

A table whose key column has no unique index may hold several rows of one key. A
query without an order reads the first. What is appended for a key that is there
is never read, and what is removed by its key is gone with all its rows.
-/

namespace Lorawan.FirstRow

variable {ρ κ : Type*} [DecidableEq κ] (key : ρ → κ)

def first (k : κ) (rows : List ρ) : Option ρ := rows.find? fun r => key r = k

variable {key} {k : κ} {rows : List ρ} {r : ρ}

theorem key_of_first (h : first key k rows = some r) : key r = k := by
  have hk := List.find?_some h
  simpa using hk

theorem mem_of_first (h : first key k rows = some r) : r ∈ rows := List.mem_of_find?_eq_some h

theorem first_append (k : κ) (rows : List ρ) (new : ρ) :
    first key k (rows ++ [new]) = (first key k rows).or (if key new = k then some new else none) := by
  simp only [first, List.find?_append, List.find?_singleton, decide_eq_true_eq]

theorem first_remove (k removed : κ) (rows : List ρ) :
    first key k (rows.filter fun r => key r ≠ removed) =
      if k = removed then none else first key k rows := by
  simp only [first, List.find?_filter]
  split
  · rename_i heq
    rw [List.find?_eq_none]
    intro r _ hr
    simp only [ne_eq, decide_not, Bool.decide_and, Bool.and_eq_true, decide_eq_true_eq] at hr
    simp [heq] at hr
  · rename_i hne
    congr 1
    funext r
    by_cases hr : key r = k
    · simp [hr, hne]
    · simp [hr]

theorem first_map {f : ρ → ρ} (hf : ∀ r, key (f r) = key r) (k : κ) (rows : List ρ) :
    first key k (rows.map f) = (first key k rows).map f := by
  simp only [first, List.find?_map, Function.comp_def, hf]

end Lorawan.FirstRow

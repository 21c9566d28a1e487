import Mathlib.Data.List.Nodup
import Mathlib.Logic.Function.Basic

/-!
# A circular buffer

`N` cells between two places, the first that is occupied and the first that is
not. A walk goes from one place to the other and around the end of the array.
-/

namespace Lorawan.Circular

variable {N : ℕ} {α : Type*}

/-- `if (++i == N) i = 0`. -/
def next (i : Fin N) : Fin N :=
  if h : i.val + 1 < N then ⟨i.val + 1, h⟩ else ⟨0, by omega⟩

/-- The number of steps from one place to another. -/
def span (i stop : Fin N) : ℕ := if i ≤ stop then stop - i else stop + N - i

/-- The places of a walk of `k` steps. -/
def walk : ℕ → Fin N → List (Fin N)
  | 0, _ => []
  | k + 1, i => i :: walk k (next i)

/-- The places that `while (i != stop) { .. next i }` visits. -/
def places (i stop : Fin N) : List (Fin N) := walk (span i stop) i

/-- What is between two places. -/
def contents (cells : Fin N → α) (i stop : Fin N) : List α := (places i stop).map cells

theorem next_val (i : Fin N) : (next i).val = if i.val + 1 < N then i.val + 1 else 0 := by
  unfold next
  split <;> rfl

theorem next_inj {i j : Fin N} (h : next i = next j) : i = j := by
  have hval : (next i).val = (next j).val := congrArg Fin.val h
  have hi := i.isLt
  have hj := j.isLt
  rw [next_val, next_val] at hval
  apply Fin.ext
  split at hval <;> split at hval <;> omega

@[simp] theorem span_self (i : Fin N) : span i i = 0 := by
  simp [span]

theorem span_lt (i stop : Fin N) : span i stop < N := by
  unfold span
  split <;> omega

theorem span_next {i stop : Fin N} (h : i ≠ stop) : span i stop = span (next i) stop + 1 := by
  have hne : i.val ≠ stop.val := fun heq => h (Fin.ext heq)
  have hi := i.isLt
  have hstop := stop.isLt
  have hnext := next_val i
  simp only [span, Fin.le_def]
  split at hnext <;> split <;> split <;> omega

theorem span_inj {i j stop : Fin N} (h : span i j = span i stop) : j = stop := by
  apply Fin.ext
  simp only [span, Fin.le_def] at h
  split at h <;> split at h <;> omega

theorem next_eq_iff_span {i stop : Fin N} : next stop = i ↔ span i stop + 1 = N := by
  have hi := i.isLt
  have hstop := stop.isLt
  have hnext := next_val stop
  constructor
  · intro h
    rw [h] at hnext
    simp only [span, Fin.le_def]
    split at hnext <;> split <;> omega
  · intro h
    apply Fin.ext
    simp only [span, Fin.le_def] at h
    split at hnext <;> split at h <;> omega

@[simp] theorem places_self (i : Fin N) : places i i = [] := by
  rw [places, span_self, walk]

theorem places_of_ne {i stop : Fin N} (h : i ≠ stop) :
    places i stop = i :: places (next i) stop := by
  rw [places, span_next h, walk, places]

@[simp] theorem places_length (i stop : Fin N) : (places i stop).length = span i stop := by
  have hwalk : ∀ (k : ℕ) (i : Fin N), (walk k i).length = k := by
    intro k
    induction k with
    | zero => exact fun _ => rfl
    | succ k ih =>
      intro i
      rw [walk, List.length_cons, ih]
  exact hwalk _ i

theorem mem_walk {k : ℕ} {i j : Fin N} (hk : k ≤ N) : j ∈ walk k i ↔ span i j < k := by
  induction k generalizing i with
  | zero => simp [walk]
  | succ k ih =>
    rw [walk, List.mem_cons, ih (by omega)]
    by_cases h : i = j
    · subst h
      simp
    · rw [span_next h]
      have hne : j ≠ i := Ne.symm h
      simp only [hne, false_or]
      omega

theorem mem_places {i j stop : Fin N} : j ∈ places i stop ↔ span i j < span i stop :=
  mem_walk (Nat.le_of_lt (span_lt i stop))

theorem stop_not_mem_places (i stop : Fin N) : stop ∉ places i stop := by
  rw [mem_places]
  exact Nat.lt_irrefl _

theorem not_mem_walk_next {k : ℕ} {i : Fin N} (hk : k + 1 ≤ N) : i ∉ walk k (next i) := by
  have hback : span (next i) i + 1 = N := next_eq_iff_span.mp rfl
  rw [mem_walk (by omega)]
  omega

theorem walk_nodup {k : ℕ} (hk : k ≤ N) (i : Fin N) : (walk k i).Nodup := by
  induction k generalizing i with
  | zero => exact List.nodup_nil
  | succ k ih =>
    rw [walk, List.nodup_cons]
    exact ⟨not_mem_walk_next hk, ih (by omega) (next i)⟩

theorem places_nodup (i stop : Fin N) : (places i stop).Nodup :=
  walk_nodup (Nat.le_of_lt (span_lt i stop)) i

theorem walk_perm (i : Fin N) : (walk N i).Perm (List.finRange N) := by
  rw [List.perm_ext_iff_of_nodup (walk_nodup (Nat.le_refl N) i) (List.nodup_finRange N)]
  intro j
  simp [mem_walk, span_lt]

theorem places_next {i stop : Fin N} (h : next stop ≠ i) :
    places i (next stop) = places i stop ++ [stop] := by
  have hwalk : ∀ (k : ℕ) (i : Fin N), span i stop = k → next stop ≠ i →
      places i (next stop) = places i stop ++ [stop] := by
    intro k
    induction k with
    | zero =>
      intro i hspan hne
      have hi : i = stop := by
        by_contra hi
        rw [span_next hi] at hspan
        omega
      subst hi
      rw [places_of_ne (Ne.symm hne), places_self, places_self, List.nil_append]
    | succ k ih =>
      intro i hspan hne
      have hi : i ≠ stop := by
        intro hi
        rw [hi, span_self] at hspan
        omega
      have hnext : next stop ≠ next i := fun heq => hi (next_inj heq).symm
      rw [span_next hi] at hspan
      rw [places_of_ne (Ne.symm hne), places_of_ne hi, ih (next i) (by omega) hnext,
        List.cons_append]
  exact hwalk _ i rfl h

theorem contents_of_ne (cells : Fin N → α) {i stop : Fin N} (h : i ≠ stop) :
    contents cells i stop = cells i :: contents cells (next i) stop := by
  rw [contents, places_of_ne h, List.map_cons, contents]

@[simp] theorem contents_self (cells : Fin N → α) (i : Fin N) : contents cells i i = [] := by
  rw [contents, places_self, List.map_nil]

@[simp] theorem contents_length (cells : Fin N → α) (i stop : Fin N) :
    (contents cells i stop).length = span i stop := by
  rw [contents, List.length_map, places_length]

theorem map_update_of_not_mem (cells : Fin N → α) {j : Fin N} {l : List (Fin N)} (h : j ∉ l)
    (v : α) : l.map (Function.update cells j v) = l.map cells := by
  apply List.map_congr_left
  intro i hi
  have hne : i ≠ j := by
    intro heq
    rw [heq] at hi
    exact h hi
  exact Function.update_of_ne hne v cells

theorem contents_update (cells : Fin N → α) {i j stop : Fin N} (h : j ∉ places i stop) (v : α) :
    contents (Function.update cells j v) i stop = contents cells i stop :=
  map_update_of_not_mem cells h v

theorem contents_push (cells : Fin N → α) {i stop : Fin N} (h : next stop ≠ i) (v : α) :
    contents (Function.update cells stop v) i (next stop) = contents cells i stop ++ [v] := by
  rw [contents, places_next h, List.map_append, List.map_singleton, Function.update_self,
    map_update_of_not_mem cells (stop_not_mem_places i stop), contents]

/-! ### Values that are put one after the other -/

/-- The cells after that; the first value is put at the place `i`. -/
def pushes (cells : Fin N → α) (i : Fin N) : List α → Fin N → α
  | [] => cells
  | v :: vs => pushes (Function.update cells i v) (next i) vs

theorem pushes_of_not_mem {cells : Fin N → α} {i j : Fin N} {vs : List α}
    (h : j ∉ walk vs.length i) : pushes cells i vs j = cells j := by
  induction vs generalizing cells i with
  | nil => rfl
  | cons v vs ih =>
    rw [List.length_cons, walk, List.mem_cons, not_or] at h
    rw [pushes, ih h.2, Function.update_of_ne h.1]

theorem map_walk_pushes (cells : Fin N → α) (i : Fin N) {vs : List α} (h : vs.length ≤ N) :
    (walk vs.length i).map (pushes cells i vs) = vs := by
  induction vs generalizing cells i with
  | nil => rfl
  | cons v vs ih =>
    rw [List.length_cons] at h
    rw [List.length_cons, walk, List.map_cons, pushes, ih _ _ (by omega),
      pushes_of_not_mem (not_mem_walk_next h), Function.update_self]

end Lorawan.Circular

import Mathlib.Data.List.Basic
import Mathlib.Data.Nat.ModEq

/-!
# A ring of the last values

A ring of `N` cells that were filled with one value at first; a new value takes the
cell of the oldest. It holds the last `N` values of the sequence that starts with
`N` copies of the first value.
-/

namespace Lorawan

structure Ring (α : Type) where
  cells : List α
  next : ℕ

namespace Ring

variable {α : Type} {N : ℕ} {z : α}

def init (N : ℕ) (z : α) : Ring α := ⟨List.replicate N z, 0⟩

/-- The next place on the ring. -/
def after (N i : ℕ) : ℕ := if i + 1 = N then 0 else i + 1

/-- Whether one of `n` cells from `i` on has the value. -/
def holdsFrom [DecidableEq α] (N : ℕ) (cells : List α) (x : α) : ℕ → ℕ → Bool
  | 0, _ => false
  | n + 1, i => decide (cells[i]? = some x) || holdsFrom N cells x n (after N i)

def push (N : ℕ) (x : α) (r : Ring α) : Ring α := ⟨r.cells.set r.next x, after N r.next⟩

/-- The last `N` values after those of `past`. -/
def window (N : ℕ) (z : α) (past : List α) : List α := (List.replicate N z ++ past).drop past.length

/-- The ring after the values `past`. -/
structure Recent (N : ℕ) (z : α) (past : List α) (r : Ring α) : Prop where
  next : r.next = past.length % N
  length : r.cells.length = N
  cell : ∀ k < N, r.cells[(past.length + k) % N]? = (window N z past)[k]?

theorem after_mod {n : ℕ} (hN : 0 < N) : after N (n % N) = (n + 1) % N := by
  have hlt := Nat.mod_lt n hN
  have hdiv := Nat.div_add_mod n N
  unfold after
  split
  · rename_i heq
    have hn : n + 1 = N + N * (n / N) := by omega
    rw [hn, Nat.add_mul_mod_self_left, Nat.mod_self]
  · rename_i hne
    have hmod : (n % N + 1 + N * (n / N)) % N = n % N + 1 := by
      rw [Nat.add_mul_mod_self_left, Nat.mod_eq_of_lt (by omega)]
    rw [← hmod]
    congr 1
    omega

theorem window_length (past : List α) : (window N z past).length = N := by
  simp [window]

theorem window_push (past : List α) (x : α) (hN : 0 < N) :
    window N z (past ++ [x]) = (window N z past).drop 1 ++ [x] := by
  rw [window, window, ← List.append_assoc, List.length_append, List.length_singleton,
    List.drop_append_of_le_length (by simp; omega), List.drop_drop]

theorem mem_window {x : α} {past : List α} :
    x ∈ window N z past ↔
      (past.length < N ∧ x = z) ∨ ∃ i, past.length ≤ i + N ∧ past[i]? = some x := by
  have hcell : ∀ k, (window N z past)[k]? =
      if past.length + k < N then some z else past[past.length + k - N]? := by
    intro k
    rw [window, List.getElem?_drop]
    split
    · rename_i hlt
      rw [List.getElem?_append_left (by simpa using hlt), List.getElem?_replicate, if_pos hlt]
    · rename_i hge
      rw [List.getElem?_append_right (by simpa using hge), List.length_replicate]
  rw [List.mem_iff_getElem?]
  constructor
  · rintro ⟨k, hk⟩
    rw [hcell] at hk
    split at hk
    · exact .inl ⟨by omega, (Option.some.inj hk).symm⟩
    · exact .inr ⟨_, by omega, hk⟩
  · rintro (⟨hlt, rfl⟩ | ⟨i, hle, hi⟩)
    · exact ⟨0, by rw [hcell, if_pos (by omega)]⟩
    · have hlt := (List.getElem?_eq_some_iff.mp hi).1
      refine ⟨i + N - past.length, ?_⟩
      rw [hcell, if_neg (by omega), show past.length + (i + N - past.length) - N = i by omega, hi]

theorem recent_init (N : ℕ) (z : α) : Recent N z [] (init N z) := by
  refine ⟨(Nat.zero_mod N).symm, List.length_replicate .., fun k hk => ?_⟩
  simp only [init, window, List.length_nil, Nat.zero_add, List.drop_zero, List.append_nil,
    Nat.mod_eq_of_lt hk]

theorem recent_push {past : List α} {r : Ring α} (hN : 0 < N) (h : Recent N z past r) (x : α) :
    Recent N z (past ++ [x]) (r.push N x) := by
  have hlt := Nat.mod_lt past.length hN
  refine ⟨?_, ?_, fun k hk => ?_⟩
  · rw [push, h.next, after_mod hN, List.length_append, List.length_singleton]
  · rw [push, List.length_set, h.length]
  · rw [window_push past x hN, List.length_append, List.length_singleton, push]
    by_cases hlast : k + 1 = N
    · have hself : (past.length + 1 + k) % N = past.length % N := by
        rw [show past.length + 1 + k = past.length + N by omega, Nat.add_mod_right]
      rw [hself, ← h.next, List.getElem?_set_self (by rw [h.length, h.next]; exact hlt),
        List.getElem?_append_right (by simp [window_length]; omega)]
      simp [window_length, ← hlast]
    · have hne : (past.length + 1 + k) % N ≠ past.length % N := by
        intro heq
        have hmod : (past.length + (1 + k)) % N = (past.length + 0) % N := by
          rw [← Nat.add_assoc, heq, Nat.add_zero]
        have := Nat.ModEq.add_left_cancel' past.length hmod
        rw [Nat.ModEq, Nat.zero_mod, Nat.mod_eq_of_lt (by omega)] at this
        omega
      rw [List.getElem?_set_ne (by rw [h.next]; exact Ne.symm hne),
        List.getElem?_append_left (by simp [window_length]; omega), List.getElem?_drop,
        Nat.add_assoc, h.cell (1 + k) (by omega)]

theorem holdsFrom_iff [DecidableEq α] {cells : List α} {x : α} (hN : 0 < N) (n : ℕ) : ∀ i,
    holdsFrom N cells x n (i % N) = true ↔ ∃ k, k < n ∧ cells[(i + k) % N]? = some x := by
  induction n with
  | zero => simp [holdsFrom]
  | succ n ih =>
    intro i
    rw [holdsFrom, after_mod hN, Bool.or_eq_true, decide_eq_true_eq, ih]
    constructor
    · rintro (h | ⟨k, hk, h⟩)
      · exact ⟨0, by omega, h⟩
      · exact ⟨k + 1, by omega, by rwa [show i + (k + 1) = i + 1 + k by omega]⟩
    · rintro ⟨k, hk, h⟩
      cases k with
      | zero => exact .inl h
      | succ k => exact .inr ⟨k, by omega, by rwa [show i + 1 + k = i + (k + 1) by omega]⟩

theorem holdsFrom_next [DecidableEq α] {past : List α} {r : Ring α} {x : α} (hN : 0 < N)
    (h : Recent N z past r) :
    holdsFrom N r.cells x N r.next = true ↔ x ∈ window N z past := by
  rw [h.next, holdsFrom_iff hN, List.mem_iff_getElem?]
  constructor
  · rintro ⟨k, hk, hx⟩
    exact ⟨k, by rw [← h.cell k hk, hx]⟩
  · rintro ⟨k, hx⟩
    have hlt := (List.getElem?_eq_some_iff.mp hx).1
    rw [window_length] at hlt
    exact ⟨k, hlt, by rw [h.cell k hlt, hx]⟩

end Ring

end Lorawan

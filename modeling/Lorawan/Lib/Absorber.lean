import Mathlib.Data.List.Basic
import Mathlib.Data.List.Range

/-!
# Streams taken in blocks

A function takes the blocks of a stream one after the other and keeps the last block back, whole or
not, until more of the stream is known. How the stream is cut into pieces makes no difference.
-/

namespace Lorawan.Absorber

variable {σ α : Type*} (f : List α → σ → σ) (n : ℕ)

/-- The number of blocks before the last one, which is empty only where the stream is. -/
def before (m : List α) : ℕ := (m.length - 1) / n

def block (m : List α) (i : ℕ) : List α := (m.drop (n * i)).take n

/-- The state after the first `k` blocks. -/
def chain (s : σ) (m : List α) (k : ℕ) : σ :=
  (List.range k).foldl (fun s i => f (block n m i) s) s

/-- The state before the last block, and the last block. -/
def absorb (s : σ) (m : List α) : σ × List α :=
  (chain f n s m (before n m), m.drop (n * before n m))

/-- The stream in pieces, each after what is kept back of those before it. -/
def absorbAll (s : σ × List α) (pieces : List (List α)) : σ × List α :=
  pieces.foldl (fun s d => absorb f n s.1 (s.2 ++ d)) s

variable {f n}

theorem absorb_short {m : List α} (hn : 0 < n) (h : m.length ≤ n) (s : σ) :
    absorb f n s m = (s, m) := by
  have hbefore : before n m = 0 := Nat.div_eq_of_lt (by omega)
  rw [absorb, hbefore, Nat.mul_zero, List.drop_zero]
  rfl

theorem chain_succ (s : σ) (m : List α) (k : ℕ) :
    chain f n s m (k + 1) = chain f n (f (m.take n) s) (m.drop n) k := by
  have hshift : ∀ i, block n m (i + 1) = block n (m.drop n) i := by
    intro i
    rw [block, block, List.drop_drop, Nat.mul_succ, Nat.add_comm]
  rw [chain, List.range_succ_eq_map, List.foldl_cons, List.foldl_map, chain, block, Nat.mul_zero,
    List.drop_zero]
  simp only [Nat.succ_eq_add_one, hshift]

theorem absorb_long {m : List α} (hn : 0 < n) (h : n < m.length) (s : σ) :
    absorb f n s m = absorb f n (f (m.take n) s) (m.drop n) := by
  have hbefore : before n m = before n (m.drop n) + 1 := by
    rw [before, before, List.length_drop, ← Nat.add_div_right _ hn]
    congr 1
    omega
  rw [absorb, absorb, hbefore, chain_succ, List.drop_drop, Nat.mul_succ, Nat.add_comm (n * _)]

theorem absorb_rest_length (hn : 0 < n) (s : σ) (m : List α) :
    (absorb f n s m).2.length ≤ n := by
  induction h : m.length using Nat.strong_induction_on generalizing s m with
  | _ l ih =>
    by_cases hshort : m.length ≤ n
    · rw [absorb_short hn hshort]
      exact hshort
    · rw [absorb_long hn (by omega)]
      exact ih (m.drop n).length (by rw [List.length_drop]; omega) _ _ rfl

theorem absorb_append (hn : 0 < n) (s : σ) (m d : List α) :
    absorb f n s (m ++ d) = absorb f n (absorb f n s m).1 ((absorb f n s m).2 ++ d) := by
  induction h : m.length using Nat.strong_induction_on generalizing s m with
  | _ l ih =>
    by_cases hshort : m.length ≤ n
    · rw [absorb_short hn hshort]
    · have hlong : n < (m ++ d).length := by
        rw [List.length_append]
        omega
      rw [absorb_long hn hlong, List.take_append_of_le_length (by omega),
        List.drop_append_of_le_length (by omega), absorb_long (m := m) hn (by omega)]
      exact ih (m.drop n).length (by rw [List.length_drop]; omega) _ _ rfl

theorem absorbAll_eq (hn : 0 < n) (s : σ) (m : List α) (pieces : List (List α)) :
    absorbAll f n (absorb f n s m) pieces = absorb f n s (m ++ pieces.flatten) := by
  induction pieces generalizing m with
  | nil => rw [absorbAll, List.foldl_nil, List.flatten_nil, List.append_nil]
  | cons d pieces ih =>
    have hstep := (absorb_append (f := f) hn s m d).symm
    rw [absorbAll, List.foldl_cons, hstep, List.flatten_cons, ← List.append_assoc, ← ih (m ++ d),
      absorbAll]

end Lorawan.Absorber

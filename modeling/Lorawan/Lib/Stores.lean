import Lorawan.Lib.Octets
import Mathlib.Logic.Function.Basic

/-!
# Stores into a buffer

A buffer is a function of the offset, so that what lies behind its end is there as well.
A program's accesses are a list of offsets it reads and a list of octets it stores.
-/

namespace Lorawan

/-- The memory from a pointer on. -/
abbrev Buffer := ℕ → UInt8

/-- The `n` octets from offset `k` on. -/
def Buffer.slice (buf : Buffer) (k n : ℕ) : Octets := (List.range n).map fun j => buf (k + j)

namespace Buffer

variable (buf : Buffer) (k n : ℕ)

@[simp] theorem length_slice : (buf.slice k n).length = n := by simp [slice]

@[simp] theorem slice_zero : buf.slice k 0 = [] := rfl

theorem slice_succ : buf.slice k (n + 1) = buf k :: buf.slice (k + 1) n := by
  unfold slice
  rw [List.range_succ_eq_map, List.map_cons, List.map_map]
  congr 1
  apply List.map_congr_left
  intro j _
  show buf (k + (j + 1)) = buf (k + 1 + j)
  congr 1
  omega

theorem take_slice {m : ℕ} (h : m ≤ n) : (buf.slice k n).take m = buf.slice k m := by
  unfold slice
  rw [← List.map_take, List.take_range, Nat.min_eq_left h]

theorem drop_slice (m : ℕ) : (buf.slice k n).drop m = buf.slice (k + m) (n - m) := by
  induction m generalizing k n with
  | zero => rfl
  | succ m ih =>
    cases n with
    | zero => rw [slice_zero, List.drop_nil, Nat.zero_sub, slice_zero]
    | succ n =>
      rw [slice_succ, List.drop_succ_cons, ih, Nat.add_sub_add_right]
      congr 1
      omega

end Buffer

/-- What a program reads from one buffer and stores in another, in order. -/
structure Accesses where
  reads : List ℕ
  stores : List (ℕ × UInt8)
deriving DecidableEq

namespace Accesses

def none : Accesses := ⟨[], []⟩

def append (a b : Accesses) : Accesses := ⟨a.reads ++ b.reads, a.stores ++ b.stores⟩

/-- The buffer after the stores. -/
def apply (a : Accesses) (out : Buffer) : Buffer :=
  a.stores.foldl (fun out store => Function.update out store.1 store.2) out

theorem foldl_update_of_forall {stores : List (ℕ × UInt8)} {out : Buffer} {k : ℕ} {b : UInt8}
    (hout : out k = b) (h : ∀ store ∈ stores, store.1 = k → store.2 = b) :
    stores.foldl (fun out store => Function.update out store.1 store.2) out k = b := by
  induction stores generalizing out with
  | nil => exact hout
  | cons store stores ih =>
    rw [List.foldl_cons]
    apply ih
    · by_cases hk : store.1 = k
      · rw [← hk, Function.update_self]
        exact h store List.mem_cons_self hk
      · rw [Function.update_of_ne (Ne.symm hk)]
        exact hout
    · intro later hlater
      exact h later (List.mem_cons_of_mem _ hlater)

theorem apply_of_not_mem {a : Accesses} {k : ℕ} (h : ∀ store ∈ a.stores, store.1 ≠ k)
    (out : Buffer) : a.apply out k = out k :=
  foldl_update_of_forall rfl fun store hmem hk => absurd hk (h store hmem)

theorem apply_of_mem {a : Accesses} {k : ℕ} {b : UInt8} (hmem : (k, b) ∈ a.stores)
    (h : ∀ store ∈ a.stores, store.1 = k → store.2 = b) (out : Buffer) : a.apply out k = b := by
  obtain ⟨before, after, heq⟩ := List.append_of_mem hmem
  unfold apply
  rw [heq, List.foldl_append, List.foldl_cons]
  apply foldl_update_of_forall
  · exact Function.update_self ..
  · intro store hstore
    apply h store
    rw [heq]
    exact List.mem_append_right _ (List.mem_cons_of_mem _ hstore)

end Accesses

end Lorawan

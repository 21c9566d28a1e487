import Mathlib.Data.List.Nodup
import Mathlib.Data.List.Perm.Subperm
import Mathlib.Data.List.Range

/-!
# Allocated blocks

Blocks are numbered in the order in which they are allocated. A block that was given back is not
read, and not given back again.
-/

namespace Lorawan

/-- The blocks that were allocated, and the numbers of those that were given back. -/
structure Heap (β : Type) where
  blocks : List β
  freed : List ℕ

namespace Heap

variable {β : Type} (h : Heap β)

def empty : Heap β := ⟨[], []⟩

def alloc (b : β) : ℕ × Heap β := (h.blocks.length, { h with blocks := h.blocks ++ [b] })

def get (i : ℕ) : Option β := if i ∈ h.freed then none else h.blocks[i]?

def update (i : ℕ) (f : β → β) : Heap β := { h with blocks := h.blocks.modify i f }

def free (i : ℕ) : Option (Heap β) :=
  if i < h.blocks.length ∧ i ∉ h.freed then some { h with freed := h.freed ++ [i] } else none

/-- `free` where there is something to free. -/
def freeSome : Option ℕ → Option (Heap β)
  | none => some h
  | some i => h.free i

/-- Every block was given back exactly once, and nothing else. -/
def Balanced : Prop := h.freed.Perm (List.range h.blocks.length)

/-- Only blocks were given back, none twice. -/
structure Valid : Prop where
  nodup : h.freed.Nodup
  lt : ∀ i ∈ h.freed, i < h.blocks.length

variable {h}

theorem valid_of_freed_nil (hnil : h.freed = []) : h.Valid := by
  constructor
  · rw [hnil]
    exact List.nodup_nil
  · intro i hi
    rw [hnil] at hi
    cases hi

theorem free_eq_some_iff {i : ℕ} {h' : Heap β} :
    h.free i = some h' ↔ i < h.blocks.length ∧ i ∉ h.freed ∧
      h' = { h with freed := h.freed ++ [i] } := by
  unfold free
  split
  · rename_i hfree
    simp only [Option.some.injEq, hfree.1, hfree.2, not_false_eq_true, true_and]
    exact eq_comm
  · rename_i hfree
    simp only [reduceCtorEq, false_iff]
    intro hall
    exact hfree ⟨hall.1, hall.2.1⟩

theorem Valid.free {i : ℕ} {h' : Heap β} (hv : h.Valid) (hfree : h.free i = some h') :
    h'.Valid := by
  obtain ⟨hlt, hnot, rfl⟩ := free_eq_some_iff.mp hfree
  constructor
  · rw [List.nodup_append]
    refine ⟨hv.nodup, List.nodup_singleton i, ?_⟩
    rintro a ha b hb rfl
    rw [List.mem_singleton] at hb
    exact hnot (hb ▸ ha)
  · intro j hj
    rcases List.mem_append.mp hj with hj | hj
    · exact hv.lt j hj
    · rw [List.mem_singleton] at hj
      rw [hj]
      exact hlt

theorem Valid.exists_freeSome (hv : h.Valid) {o : Option ℕ}
    (ho : ∀ i ∈ o, i < h.blocks.length ∧ i ∉ h.freed) :
    ∃ h', h.freeSome o = some h' ∧ h'.Valid ∧ h'.blocks = h.blocks ∧
      h'.freed = h.freed ++ o.toList := by
  cases o with
  | none => exact ⟨h, rfl, hv, rfl, (List.append_nil h.freed).symm⟩
  | some i =>
    obtain ⟨hlt, hnot⟩ := ho i rfl
    have hfree : h.free i = some { h with freed := h.freed ++ [i] } :=
      free_eq_some_iff.mpr ⟨hlt, hnot, rfl⟩
    exact ⟨_, hfree, hv.free hfree, rfl, rfl⟩

theorem Valid.balanced_iff (hv : h.Valid) : h.Balanced ↔ h.freed.length = h.blocks.length := by
  constructor
  · intro hperm
    rw [hperm.length_eq, List.length_range]
  · intro hlength
    have hsub : h.freed.Subperm (List.range h.blocks.length) := by
      apply hv.nodup.subperm
      intro i hi
      exact List.mem_range.mpr (hv.lt i hi)
    refine hsub.perm_of_length_le ?_
    rw [List.length_range, hlength]

end Heap

end Lorawan

import Mathlib.Data.Nat.Notation
import Mathlib.Logic.Relation

/-!
# While loops

`while (cond) turn`, with fuel for the turns. A loop returns when some fuel is enough; what it
returns does not depend on how much that is. A walk is a loop over places that needs something at
each place.
-/

namespace Lorawan.Loop

variable {σ : Type*} (cond : σ → Prop) [DecidablePred cond] (turn : σ → σ)

/-- `none` is a loop that goes on for longer than its fuel. -/
def run : ℕ → σ → Option σ
  | 0, _ => none
  | fuel + 1, s => if cond s then run fuel (turn s) else some s

def Returns (s s' : σ) : Prop := ∃ fuel, run cond turn fuel s = some s'

variable {cond turn} {s s' : σ}

theorem returns_turn (h : cond s) : Returns cond turn (turn s) s' ↔ Returns cond turn s s' := by
  constructor
  · rintro ⟨fuel, hrun⟩
    refine ⟨fuel + 1, ?_⟩
    rw [run, if_pos h]
    exact hrun
  · rintro ⟨fuel, hrun⟩
    cases fuel with
    | zero => cases hrun
    | succ fuel =>
      rw [run, if_pos h] at hrun
      exact ⟨fuel, hrun⟩

theorem returns_stop (h : ¬cond s) : Returns cond turn s s := by
  refine ⟨1, ?_⟩
  rw [run, if_neg h]

theorem run_invariant {I : σ → Prop} (hturn : ∀ s, cond s → I s → I (turn s)) {fuel : ℕ}
    (hrun : run cond turn fuel s = some s') (hI : I s) : I s' ∧ ¬cond s' := by
  induction fuel generalizing s with
  | zero => cases hrun
  | succ fuel ih =>
    by_cases h : cond s
    · rw [run, if_pos h] at hrun
      exact ih hrun (hturn s h hI)
    · rw [run, if_neg h] at hrun
      rw [← Option.some.inj hrun]
      exact ⟨hI, h⟩

theorem run_unique {fuel fuel' : ℕ} {s'' : σ} (hrun : run cond turn fuel s = some s')
    (hrun' : run cond turn fuel' s = some s'') : s' = s'' := by
  induction fuel generalizing s fuel' with
  | zero => cases hrun
  | succ fuel ih =>
    cases fuel' with
    | zero => cases hrun'
    | succ fuel' =>
      by_cases h : cond s
      · rw [run, if_pos h] at hrun hrun'
        exact ih hrun hrun'
      · rw [run, if_neg h] at hrun hrun'
        exact Option.some.inj (hrun.symm.trans hrun')

/-! ### Walks -/

/-- A walk that needs `fine` where it stands and then goes on needs it at every place it comes
to. -/
theorem walks_iff_reached (holds fine : σ → Prop) (next : σ → σ → Prop) (left : σ → ℕ)
    (hleft : ∀ s s', next s s' → left s' < left s)
    (h : ∀ s, holds s ↔ fine s ∧ ∀ s', next s s' → holds s') (s : σ) :
    holds s ↔ ∀ s', Relation.ReflTransGen next s s' → fine s' := by
  constructor
  · intro hs s' hreach
    have hs' : holds s' := by
      induction hreach with
      | refl => exact hs
      | tail _ hnext ih => exact ((h _).mp ih).2 _ hnext
    exact ((h s').mp hs').1
  · intro hfine
    induction hn : left s using Nat.strongRecOn generalizing s with
    | ind n ih =>
      refine (h s).mpr ⟨hfine s .refl, ?_⟩
      intro s' hnext
      have hlt := hleft s s' hnext
      exact ih (left s') (hn ▸ hlt) s' (fun s'' hreach => hfine s'' (hreach.head hnext)) rfl

end Lorawan.Loop

import Lorawan.Lib.Loop
import Mathlib.Algebra.Order.Floor.Semiring
import Mathlib.Algebra.Order.Floor.Ring
import Mathlib.Tactic.Linarith
import Mathlib.Tactic.FieldSimp
import Mathlib.Tactic.Ring

/-!
# Spending a budget

A loop raises a number towards a limit for as long as the budget is above a floor, at a
fixed cost each time. How far it gets has a closed form, and so has what is left.
-/

namespace Lorawan.Budget

variable {α : Type} [Field α] [LinearOrder α] [FloorRing α]

/-- How often the budget pays for a step. -/
def affordable (floor cost budget : α) : ℕ := ⌈(budget - floor) / cost⌉₊

/-- How often the loop turns. -/
def steps (floor cost : α) (limit n : ℕ) (budget : α) : ℕ :=
  min (limit - n) (affordable floor cost budget)

/-- `while (n < limit && budget > floor) { n++; budget -= cost; }` -/
def spend (floor cost : α) (limit fuel n : ℕ) (budget : α) : Option (ℕ × α) :=
  Loop.run (fun p => p.1 < limit ∧ floor < p.2) (fun p => (p.1 + 1, p.2 - cost)) fuel (n, budget)

variable {floor cost : α}

theorem steps_le (limit n : ℕ) (budget : α) : steps floor cost limit n budget ≤ limit - n := by
  unfold steps
  omega

theorem add_steps_le (limit n : ℕ) (budget : α) (h : n ≤ limit) :
    n + steps floor cost limit n budget ≤ limit := by
  unfold steps
  omega

variable [IsStrictOrderedRing α]

theorem affordable_eq_zero (hcost : 0 < cost) {budget : α} (h : budget ≤ floor) :
    affordable floor cost budget = 0 := by
  apply Nat.ceil_eq_zero.mpr
  exact div_nonpos_of_nonpos_of_nonneg (by linarith) (le_of_lt hcost)

theorem affordable_pos (hcost : 0 < cost) {budget : α} (h : floor < budget) :
    0 < affordable floor cost budget := by
  apply Nat.ceil_pos.mpr
  exact div_pos (by linarith) hcost

theorem affordable_sub (hcost : 0 < cost) {budget : α} (h : floor < budget) :
    affordable floor cost budget = affordable floor cost (budget - cost) + 1 := by
  have hdiv : (budget - floor) / cost = (budget - cost - floor) / cost + 1 := by
    field_simp
    ring
  by_cases hleft : cost ≤ budget - floor
  · unfold affordable
    rw [hdiv, Nat.ceil_add_one]
    exact div_nonneg (by linarith) (le_of_lt hcost)
  · rw [affordable_eq_zero hcost (by linarith : budget - cost ≤ floor)]
    have hone : (budget - floor) / cost ≤ 1 := by
      rw [div_le_one hcost]
      linarith
    have hle : affordable floor cost budget ≤ 1 := Nat.ceil_le.mpr (by simpa using hone)
    have hpos := affordable_pos hcost h
    omega

theorem steps_of_stop (hcost : 0 < cost) {limit n : ℕ} {budget : α}
    (h : ¬(n < limit ∧ floor < budget)) : steps floor cost limit n budget = 0 := by
  unfold steps
  by_cases hn : n < limit
  · rw [affordable_eq_zero hcost (not_lt.mp fun hb => h ⟨hn, hb⟩)]
    exact Nat.min_zero _
  · rw [Nat.sub_eq_zero_of_le (Nat.le_of_not_lt hn)]
    exact Nat.zero_min _

theorem steps_of_turn (hcost : 0 < cost) {limit n : ℕ} {budget : α}
    (h : n < limit ∧ floor < budget) :
    steps floor cost limit n budget = steps floor cost limit (n + 1) (budget - cost) + 1 := by
  unfold steps
  rw [affordable_sub hcost h.2]
  have hn := h.1
  omega

/-- What the loop makes of the number and the budget. -/
theorem spend_eq (hcost : 0 < cost) (limit fuel n : ℕ) (budget : α) :
    spend floor cost limit fuel n budget =
      if steps floor cost limit n budget < fuel then
        some (n + steps floor cost limit n budget,
          budget - steps floor cost limit n budget * cost)
      else none := by
  induction fuel generalizing n budget with
  | zero => rfl
  | succ fuel ih =>
    unfold spend at ih ⊢
    rw [Loop.run]
    dsimp only
    by_cases hturn : n < limit ∧ floor < budget
    · rw [if_pos hturn, ih, steps_of_turn hcost hturn]
      by_cases hfuel : steps floor cost limit (n + 1) (budget - cost) < fuel
      · rw [if_pos hfuel, if_pos (by omega)]
        congr 2
        · omega
        · push_cast
          ring
      · rw [if_neg hfuel, if_neg (by omega)]
    · rw [if_neg hturn, steps_of_stop hcost hturn, if_pos (Nat.succ_pos fuel)]
      simp

end Lorawan.Budget

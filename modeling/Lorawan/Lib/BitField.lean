import Mathlib.Algebra.Group.Nat.Even

/-!
# Bit fields

A word is put together with masks, shifts and `|`; a reader takes its fields out again.
-/

namespace Lorawan.BitField

/-- The `width` bits of the word from bit `ofs` on. -/
def field (ofs width word : ℕ) : ℕ := word / 2 ^ ofs % 2 ^ width

variable {ofs width : ℕ}

theorem field_zero (word : ℕ) : field 0 width word = word % 2 ^ width := by
  unfold field
  rw [Nat.pow_zero, Nat.div_one]

theorem field_or (a b : ℕ) :
    field ofs width (a ||| b) = field ofs width a ||| field ofs width b := by
  unfold field
  rw [Nat.or_div_two_pow, Nat.or_mod_two_pow]

theorem field_of_lt {word : ℕ} (h : word < 2 ^ ofs) : field ofs width word = 0 := by
  unfold field
  rw [Nat.div_eq_of_lt h, Nat.zero_mod]

theorem field_shiftLeft (v : ℕ) : field ofs width (v <<< ofs) = v % 2 ^ width := by
  unfold field
  rw [Nat.shiftLeft_eq, Nat.mul_div_cancel _ (Nat.two_pow_pos ofs)]

theorem field_shiftLeft_above (v : ℕ) {place : ℕ} (h : ofs + width ≤ place) :
    field ofs width (v <<< place) = 0 := by
  obtain ⟨rest, rfl⟩ := Nat.exists_eq_add_of_le h
  have hsplit : v <<< (ofs + width + rest) = (v * 2 ^ rest * 2 ^ width) * 2 ^ ofs := by
    rw [Nat.shiftLeft_eq, Nat.pow_add, Nat.pow_add]
    ac_rfl
  unfold field
  rw [hsplit, Nat.mul_div_cancel _ (Nat.two_pow_pos ofs), Nat.mul_mod_left]

/-- A field as it is put into a word. -/
def put (place size v : ℕ) : ℕ := (v % 2 ^ size) <<< place

theorem field_put (v : ℕ) : field ofs width (put ofs width v) = v % 2 ^ width := by
  unfold put
  rw [field_shiftLeft, Nat.mod_mod]

theorem field_put_of_disjoint (v : ℕ) {place size : ℕ}
    (h : ofs + width ≤ place ∨ place + size ≤ ofs) : field ofs width (put place size v) = 0 := by
  unfold put
  cases h with
  | inl hbelow => exact field_shiftLeft_above _ hbelow
  | inr habove =>
    apply field_of_lt
    calc (v % 2 ^ size) <<< place
        = v % 2 ^ size * 2 ^ place := Nat.shiftLeft_eq ..
      _ < 2 ^ size * 2 ^ place :=
          Nat.mul_lt_mul_of_pos_right (Nat.mod_lt _ (Nat.two_pow_pos size)) (Nat.two_pow_pos place)
      _ = 2 ^ (place + size) := by rw [Nat.pow_add, Nat.mul_comm]
      _ ≤ 2 ^ ofs := Nat.pow_le_pow_right Nat.two_pos habove

theorem field_mod (word : ℕ) {bits : ℕ} (h : ofs + width ≤ bits) :
    field ofs width (word % 2 ^ bits) = field ofs width word := by
  obtain ⟨rest, rfl⟩ := Nat.exists_eq_add_of_le h
  unfold field
  rw [Nat.add_assoc, Nat.pow_add, Nat.mod_mul_right_div_self, Nat.pow_add, Nat.mod_mul_right_mod]

end Lorawan.BitField

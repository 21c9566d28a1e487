import Mathlib.Data.Nat.Notation

/-!
# A field of octets

Octets as polynomials over two elements modulo `x ^ 8 + x ^ 4 + x ^ 3 + x + 1`: the sum is exclusive
or, and the product adds up the multiples of one factor by the powers of `x` that the bits of the
other stand for.
-/

namespace Lorawan.Gf256

theorem forall_octet {p : UInt8 → Prop} (h : ∀ n < 256, p (UInt8.ofNat n)) (b : UInt8) : p b := by
  have hb := h b.toNat b.toNat_lt
  rwa [UInt8.ofNat_toNat] at hb

/-- The product with `x`. -/
def xtime (b : UInt8) : UInt8 := (b <<< 1) ^^^ (b >>> 7) * (0x1b : UInt8)

/-- The sum over the `n` low bits of `a`. -/
def mulBits : ℕ → UInt8 → UInt8 → UInt8
  | 0, _, _ => 0
  | n + 1, a, b => (if a % 2 = 1 then b else 0) ^^^ mulBits n (a / 2) (xtime b)

def mul (a b : UInt8) : UInt8 := mulBits 8 a b

/-- The product of `acc` with `s ^ 2`, `s ^ 4`, .., `n` factors. -/
def mulSquares : ℕ → UInt8 → UInt8 → UInt8
  | 0, _, acc => acc
  | n + 1, s, acc => mulSquares n (mul s s) (mul acc (mul s s))

/-- The power of 254: the inverse where there is one. -/
def inv (a : UInt8) : UInt8 := mulSquares 7 a 1

/-! ### The product and the sum -/

theorem shiftRight_seven (b : UInt8) : b >>> 7 = 0 ∨ b >>> 7 = 1 := by
  revert b
  apply forall_octet
  decide +kernel

theorem xtime_xor (a b : UInt8) : xtime (a ^^^ b) = xtime a ^^^ xtime b := by
  have hreduce : (a >>> 7 ^^^ b >>> 7) * (0x1b : UInt8) =
      (a >>> 7) * (0x1b : UInt8) ^^^ (b >>> 7) * (0x1b : UInt8) := by
    rcases shiftRight_seven a with ha | ha <;> rcases shiftRight_seven b with hb | hb <;>
      rw [ha, hb] <;> rfl
  unfold xtime
  rw [UInt8.shiftLeft_xor, UInt8.shiftRight_xor, hreduce]
  ac_rfl

theorem mulBits_xor (n : ℕ) (a b c : UInt8) :
    mulBits n a (b ^^^ c) = mulBits n a b ^^^ mulBits n a c := by
  induction n generalizing a b c with
  | zero => rw [mulBits, mulBits, mulBits, UInt8.zero_xor]
  | succ n ih =>
    rw [mulBits, mulBits, mulBits, xtime_xor, ih]
    split
    · ac_rfl
    · rw [UInt8.zero_xor, UInt8.zero_xor, UInt8.zero_xor]

theorem mul_xor (a b c : UInt8) : mul a (b ^^^ c) = mul a b ^^^ mul a c := mulBits_xor 8 a b c

theorem xor_self_left (a b : UInt8) : a ^^^ (a ^^^ b) = b := by
  rw [← UInt8.xor_assoc, UInt8.xor_self, UInt8.zero_xor]

theorem xor_left_comm (a b c : UInt8) : a ^^^ (b ^^^ c) = b ^^^ (a ^^^ c) := by
  rw [← UInt8.xor_assoc, UInt8.xor_comm a b, UInt8.xor_assoc]

/-! ### The inverse

The products of all octets are computed on natural numbers. -/

def natXtime (b : ℕ) : ℕ := (b <<< 1) ^^^ (b >>> 7) * 0x11b

def natMulBits : ℕ → ℕ → ℕ → ℕ
  | 0, _, _ => 0
  | n + 1, a, b => (a % 2 * b) ^^^ natMulBits n (a / 2) (natXtime b)

def natMulSquares : ℕ → ℕ → ℕ → ℕ
  | 0, _, acc => acc
  | n + 1, s, acc =>
    natMulSquares n (natMulBits 8 s s) (natMulBits 8 acc (natMulBits 8 s s))

theorem toNat_xtime (b : UInt8) : (xtime b).toNat = natXtime b.toNat := by
  revert b
  apply forall_octet
  decide +kernel

theorem toNat_mulBits (n : ℕ) (a b : UInt8) :
    (mulBits n a b).toNat = natMulBits n a.toNat b.toNat := by
  induction n generalizing a b with
  | zero => rfl
  | succ n ih =>
    have hbit : a % 2 = 1 ↔ a.toNat % 2 = 1 := by
      rw [← UInt8.toNat_inj, UInt8.toNat_mod]
      rfl
    have hhalf : (a / 2).toNat = a.toNat / 2 := UInt8.toNat_div a 2
    rw [mulBits, natMulBits, UInt8.toNat_xor, ih, hhalf, toNat_xtime]
    by_cases h : a % 2 = 1
    · rw [if_pos h, hbit.mp h, Nat.one_mul]
    · have hzero : a.toNat % 2 = 0 := (Nat.mod_two_eq_zero_or_one a.toNat).resolve_right fun h' =>
        h (hbit.mpr h')
      rw [if_neg h, hzero, Nat.zero_mul]
      rfl

theorem toNat_mul (a b : UInt8) : (mul a b).toNat = natMulBits 8 a.toNat b.toNat :=
  toNat_mulBits 8 a b

theorem toNat_mulSquares (n : ℕ) (s acc : UInt8) :
    (mulSquares n s acc).toNat = natMulSquares n s.toNat acc.toNat := by
  induction n generalizing s acc with
  | zero => rfl
  | succ n ih => rw [mulSquares, natMulSquares, ih, toNat_mul, toNat_mul, toNat_mul]

theorem inv_eq_ofNat (a : UInt8) : inv a = UInt8.ofNat (natMulSquares 7 a.toNat 1) := by
  have h : (inv a).toNat = natMulSquares 7 a.toNat 1 := toNat_mulSquares 7 a 1
  rw [← h, UInt8.ofNat_toNat]

theorem inv_inv (a : UInt8) : inv (inv a) = a := by
  have hall : ∀ n < 256, natMulSquares 7 (natMulSquares 7 n 1) 1 = n := by decide +kernel
  apply UInt8.toNat_inj.mp
  rw [inv, toNat_mulSquares, inv, toNat_mulSquares]
  exact hall a.toNat a.toNat_lt

theorem mul_inv {a : UInt8} (h : a ≠ 0) : mul a (inv a) = 1 := by
  have hall : ∀ n < 256, n ≠ 0 → natMulBits 8 n (natMulSquares 7 n 1) = 1 := by decide +kernel
  apply UInt8.toNat_inj.mp
  rw [toNat_mul, inv, toNat_mulSquares]
  refine hall a.toNat a.toNat_lt fun h0 => h ?_
  exact UInt8.toNat_inj.mp h0

end Lorawan.Gf256

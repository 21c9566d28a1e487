import Mathlib.Data.Nat.Bitwise
import Lorawan.Lib.Absorber
import Lorawan.Lib.Octets

/-!
# The CMAC of a message

A block function on sixteen octets makes a code of a message of any length. Two keys, multiples of
what becomes of the zero block, tell a last block that is whole from one that is filled up.
-/

namespace Lorawan.Cmac

/-! ### Blocks as numbers, most significant octet first -/

def toBits (v : Octets) : BitVec 128 := BitVec.ofNat 128 (Octets.toNat v.reverse)

def ofBits (n : BitVec 128) : Octets := (Octets.ofNat 16 n.toNat).reverse

/-- The multiple by `x` in the field of `2 ^ 128` elements. -/
def double (L : BitVec 128) : BitVec 128 :=
  if L.msb then (L <<< 1) ^^^ 0x87#128 else L <<< 1

/-! ### The code -/

variable (E : Octets → Octets)

def zeroBlock : Octets := List.replicate 16 0

def K₁ : BitVec 128 := double (toBits (E zeroBlock))

def K₂ : BitVec 128 := double (K₁ E)

/-- A one and zeroes, up to a whole block. -/
def pad (m : Octets) : Octets := m ++ 0x80 :: List.replicate (15 - m.length) 0

/-- The blocks before the last one are chained; the last one is met by one of the two keys. -/
def mac (m : Octets) : Octets :=
  let (X, last) := Absorber.absorb (fun b X => E (Octets.xor b X)) 16 zeroBlock m
  let last :=
    if last.length = 16 then Octets.xor last (ofBits (K₁ E))
    else Octets.xor (pad last) (ofBits (K₂ E))
  E (Octets.xor last X)

/-! ### Numbers -/

section

variable {v : Octets}

theorem toNat_append (a b : Octets) :
    Octets.toNat (a ++ b) = Octets.toNat a + 256 ^ a.length * Octets.toNat b := by
  induction a with
  | nil => simp [Octets.toNat]
  | cons x a ih =>
    rw [List.cons_append, Octets.toNat, Octets.toNat, ih, List.length_cons, pow_succ]
    ring

theorem toNat_reverse_cons (b : UInt8) (v : Octets) :
    Octets.toNat (b :: v).reverse = Octets.toNat v.reverse + 256 ^ v.length * b.toNat := by
  rw [List.reverse_cons, toNat_append, List.length_reverse, Octets.toNat, Octets.toNat, Nat.mul_zero,
    Nat.add_zero]

theorem toNat_reverse_lt (v : Octets) : Octets.toNat v.reverse < 256 ^ v.length := by
  have h := Octets.toNat_lt v.reverse
  rwa [List.length_reverse] at h

theorem toBits_toNat (h : v.length = 16) : (toBits v).toNat = Octets.toNat v.reverse := by
  have hlt := toNat_reverse_lt v
  rw [h] at hlt
  exact Nat.mod_eq_of_lt hlt

theorem length_ofBits (n : BitVec 128) : (ofBits n).length = 16 := by
  rw [ofBits, List.length_reverse, Octets.length_ofNat]

theorem ofBits_toBits (h : v.length = 16) : ofBits (toBits v) = v := by
  have hlen : v.reverse.length = 16 := by rw [List.length_reverse, h]
  rw [ofBits, toBits_toNat h, ← hlen, Octets.ofNat_toNat, List.reverse_reverse]

theorem toBits_ofBits (n : BitVec 128) : toBits (ofBits n) = n := by
  apply BitVec.eq_of_toNat_eq
  rw [toBits_toNat (length_ofBits n), ofBits, List.reverse_reverse, Octets.toNat_ofNat]
  exact Nat.mod_eq_of_lt n.isLt

end

end Lorawan.Cmac

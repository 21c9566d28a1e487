import Mathlib.Data.List.Basic
import Mathlib.Data.Nat.Bits
import Mathlib.Tactic.Ring

/-!
# Octet strings

Little-endian integers, exclusive or, and writes into a fixed array. An array
is a list whose length never changes; a write outside it has no result.
-/

namespace Lorawan

/-- A string of octets. -/
abbrev Octets := List UInt8

namespace Octets

/-! ### Little-endian integers -/

/-- The `k` low octets of `n`, least significant first. -/
def ofNat : ℕ → ℕ → Octets
  | 0, _ => []
  | k + 1, n => UInt8.ofNat n :: ofNat k (n / 256)

/-- The integer that `bs` stores least significant octet first. -/
def toNat : Octets → ℕ
  | [] => 0
  | b :: bs => b.toNat + 256 * toNat bs

@[simp] theorem length_ofNat (k n : ℕ) : (ofNat k n).length = k := by
  induction k generalizing n with
  | zero => rfl
  | succ k ih => simp only [ofNat, List.length_cons, ih]

theorem toNat_ofNat (k n : ℕ) : toNat (ofNat k n) = n % 256 ^ k := by
  induction k generalizing n with
  | zero => simp only [ofNat, toNat, pow_zero, Nat.mod_one]
  | succ k ih =>
    simp only [ofNat, toNat, ih, UInt8.toNat_ofNat']
    have h : n % 256 ^ (k + 1) = n % 256 + 256 * (n / 256 % 256 ^ k) := by
      rw [pow_succ, Nat.mul_comm, Nat.mod_mul]
    simpa using h.symm

theorem toNat_lt (bs : Octets) : toNat bs < 256 ^ bs.length := by
  induction bs with
  | nil => simp only [toNat, List.length_nil, pow_zero]; omega
  | cons b bs ih =>
    have hb : b.toNat < 256 := b.toNat_lt
    simp only [toNat, List.length_cons, pow_succ]
    omega

theorem ofNat_toNat (bs : Octets) : ofNat bs.length (toNat bs) = bs := by
  induction bs with
  | nil => rfl
  | cons b bs ih =>
    have hb : b.toNat < 256 := b.toNat_lt
    have hdiv : (b.toNat + 256 * toNat bs) / 256 = toNat bs := by omega
    have hhead : UInt8.ofNat (b.toNat + 256 * toNat bs) = b := by
      apply UInt8.toNat_inj.mp
      simp only [UInt8.toNat_ofNat']
      omega
    simp only [toNat, List.length_cons, ofNat, hdiv, ih, hhead]

theorem ofNat_inj {k m n : ℕ} (h : ofNat k m = ofNat k n) : m % 256 ^ k = n % 256 ^ k := by
  rw [← toNat_ofNat, ← toNat_ofNat, h]

/-! ### Exclusive or -/

/-- Octetwise exclusive or, as long as the shorter argument. -/
def xor (a b : Octets) : Octets := List.zipWith (· ^^^ ·) a b

@[simp] theorem length_xor (a b : Octets) : (xor a b).length = min a.length b.length := by
  simp only [xor, List.length_zipWith]

theorem xor_xor_cancel (a b : Octets) (h : b.length ≤ a.length) : xor a (xor a b) = b := by
  induction a generalizing b with
  | nil =>
    have hb : b = [] := List.length_eq_zero_iff.mp (Nat.le_zero.mp h)
    simp only [hb, xor, List.zipWith_nil_left]
  | cons x a ih =>
    cases b with
    | nil => rfl
    | cons y b =>
      have hrest := ih b (Nat.le_of_succ_le_succ h)
      simp only [xor] at hrest
      simp only [xor, List.zipWith_cons_cons, hrest, List.cons.injEq, and_true]
      rw [← UInt8.xor_assoc, UInt8.xor_self, UInt8.zero_xor]

/-! ### Writes into a fixed array -/

/-- `memcpy(&buf[at], src, n)` with `n = src.length`: the array after the write,
`none` when the write leaves the array. -/
def write (buf : Octets) (at_ : ℕ) (src : Octets) : Option Octets :=
  if at_ + src.length ≤ buf.length then
    some (buf.take at_ ++ src ++ buf.drop (at_ + src.length))
  else none

theorem write_eq_some {buf src out : Octets} {at_ : ℕ} :
    write buf at_ src = some out ↔
      at_ + src.length ≤ buf.length ∧
        out = buf.take at_ ++ src ++ buf.drop (at_ + src.length) := by
  unfold write
  split
  · rename_i h
    simp only [Option.some.injEq, h, true_and]
    exact eq_comm
  · rename_i h
    simp only [reduceCtorEq, h, false_and]

theorem write_length {buf src out : Octets} {at_ : ℕ} (h : write buf at_ src = some out) :
    out.length = buf.length := by
  obtain ⟨hle, rfl⟩ := write_eq_some.mp h
  simp only [List.length_append, List.length_take, List.length_drop]
  omega

theorem write_isSome {buf src : Octets} {at_ : ℕ} :
    (write buf at_ src).isSome ↔ at_ + src.length ≤ buf.length := by
  unfold write
  split
  · rename_i h
    simp only [Option.isSome_some, h]
  · rename_i h
    simp only [Option.isSome_none, Bool.false_eq_true, h]

theorem exists_write (buf : Octets) (at_ : ℕ) (src : Octets)
    (h : at_ + src.length ≤ buf.length) : ∃ out, write buf at_ src = some out :=
  Option.isSome_iff_exists.mp (write_isSome.mpr h)

/-- The `n` octets of `buf` from `at_` on. -/
def slice (buf : Octets) (at_ n : ℕ) : Octets := (buf.drop at_).take n

theorem slice_length {buf : Octets} {at_ n : ℕ} (h : at_ + n ≤ buf.length) :
    (slice buf at_ n).length = n := by
  simp only [slice, List.length_take, List.length_drop]
  omega

theorem slice_write_self {buf src out : Octets} {at_ : ℕ} (h : write buf at_ src = some out) :
    slice out at_ src.length = src := by
  obtain ⟨hle, rfl⟩ := write_eq_some.mp h
  have htake : (buf.take at_).length = at_ := by
    simp only [List.length_take]
    omega
  have hdrop : (buf.take at_ ++ src ++ buf.drop (at_ + src.length)).drop at_ =
      src ++ buf.drop (at_ + src.length) := by
    rw [List.append_assoc, List.drop_left' htake]
  rw [slice, hdrop, List.take_left' rfl]

theorem slice_write_before {buf src out : Octets} {at_ i n : ℕ}
    (h : write buf at_ src = some out) (hn : i + n ≤ at_) : slice out i n = slice buf i n := by
  obtain ⟨hle, rfl⟩ := write_eq_some.mp h
  apply List.ext_getElem?
  intro j
  simp only [slice, List.getElem?_take, List.getElem?_drop]
  split
  · rename_i hj
    have hlt : i + j < (buf.take at_).length := by
      simp only [List.length_take]
      omega
    rw [List.append_assoc, List.getElem?_append_left hlt, List.getElem?_take]
    simp only [show i + j < at_ by omega, if_true]
  · rfl

theorem slice_write_after {buf src out : Octets} {at_ i n : ℕ}
    (h : write buf at_ src = some out) (hn : at_ + src.length ≤ i) :
    slice out i n = slice buf i n := by
  obtain ⟨hle, rfl⟩ := write_eq_some.mp h
  apply List.ext_getElem?
  intro j
  simp only [slice, List.getElem?_take, List.getElem?_drop]
  split
  · have hlen : (buf.take at_ ++ src).length = at_ + src.length := by
      simp only [List.length_append, List.length_take]
      omega
    rw [List.getElem?_append_right (by omega), hlen, List.getElem?_drop]
    congr 1
    omega
  · rfl

theorem getD_eq_slice (buf : Octets) (i : ℕ) : buf.getD i 0 = (slice buf i 1).headD 0 := by
  rw [slice, List.getD_eq_getElem?_getD, List.headD_eq_head?_getD, List.head?_take]
  simp

theorem getD_write_self {buf out : Octets} {at_ : ℕ} {b : UInt8}
    (h : write buf at_ [b] = some out) : out.getD at_ 0 = b := by
  have hs := slice_write_self h
  rw [List.length_singleton] at hs
  rw [getD_eq_slice, hs]
  rfl

theorem getD_write_of_ne {buf src out : Octets} {at_ i : ℕ} (h : write buf at_ src = some out)
    (hi : i < at_ ∨ at_ + src.length ≤ i) : out.getD i 0 = buf.getD i 0 := by
  rw [getD_eq_slice, getD_eq_slice]
  rcases hi with hlt | hle
  · rw [slice_write_before h (by omega)]
  · rw [slice_write_after h hle]

theorem slice_take {buf : Octets} {n i k : ℕ} (h : i + k ≤ n) :
    slice (buf.take n) i k = slice buf i k := by
  simp only [slice, List.drop_take, List.take_take]
  rw [Nat.min_eq_left (by omega)]

theorem getD_take {buf : Octets} {n i : ℕ} (h : i < n) : (buf.take n).getD i 0 = buf.getD i 0 := by
  rw [getD_eq_slice, getD_eq_slice, slice_take (by omega)]

theorem headD_eq_getD (buf : Octets) : buf.headD 0 = buf.getD 0 0 := by
  cases buf <;> rfl

theorem slice_middle (a b c : Octets) : slice (a ++ b ++ c) a.length b.length = b := by
  rw [slice, List.append_assoc, List.drop_left' rfl, List.take_left' rfl]

theorem slice_of_eq {buf a b c : Octets} {i n : ℕ} (h : buf = a ++ b ++ c) (ha : a.length = i)
    (hb : b.length = n) : slice buf i n = b := by
  rw [h, ← ha, ← hb, slice_middle]

theorem slice_append_slice (buf : Octets) (at_ m n : ℕ) :
    slice buf at_ m ++ slice buf (at_ + m) n = slice buf at_ (m + n) := by
  simp only [slice]
  rw [List.take_add, List.drop_drop]

end Octets

end Lorawan

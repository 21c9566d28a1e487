import Mathlib.Data.Fintype.Basic
import Mathlib.Tactic.FinCases
import Lorawan.Lib.Gf256
import Lorawan.Lib.Rounds

/-!
# The AES cipher

The state is four columns of four octets, one after the other. Each round replaces the octets, turns
the rows and multiplies the columns; the keys of the rounds are taken from a schedule of words.
-/

namespace Lorawan.Rijndael
open Gf256

abbrev Block := Fin 16 → UInt8

/-! ### The transformations -/

/-- The bits of an octet, `k` places to the left around. -/
def rotl (k b : UInt8) : UInt8 := (b <<< k) ||| (b >>> (8 - k))

def affine (b : UInt8) : UInt8 := b ^^^ rotl 1 b ^^^ rotl 2 b ^^^ rotl 3 b ^^^ rotl 4 b ^^^ 0x63

def invAffine (b : UInt8) : UInt8 := rotl 1 b ^^^ rotl 3 b ^^^ rotl 6 b ^^^ 0x05

def sBox (b : UInt8) : UInt8 := affine (inv b)

def invSBox (b : UInt8) : UInt8 := inv (invAffine b)

def subBytes (s : Block) : Block := fun i => sBox (s i)

def invSubBytes (s : Block) : Block := fun i => invSBox (s i)

/-- The place in the same column `k` rows below, around. -/
def below (k : ℕ) (i : Fin 16) : Fin 16 := ⟨i / 4 * 4 + (i + k) % 4, by omega⟩

/-- The place in the same row `k` columns to the right, around. -/
def right (k : ℕ) (i : Fin 16) : Fin 16 := ⟨(i + 4 * k) % 16, by omega⟩

/-- Row `r` turns by `r` columns. -/
def shiftRows (s : Block) : Block := fun i => s (right (i % 4) i)

def invShiftRows (s : Block) : Block := fun i => s (right (4 - i % 4) i)

/-- The columns multiplied by a matrix whose rows are turned copies of one. -/
def circulant (k₀ k₁ k₂ k₃ : UInt8) (s : Block) : Block := fun i =>
  mul k₀ (s i) ^^^ mul k₁ (s (below 1 i)) ^^^ mul k₂ (s (below 2 i)) ^^^ mul k₃ (s (below 3 i))

def mixColumns : Block → Block := circulant 2 3 1 1

def invMixColumns : Block → Block := circulant 0x0e 0x0b 0x0d 0x09

def addRoundKey (k s : Block) : Block := fun i => s i ^^^ k i

/-! ### The keys -/

abbrev Word := Fin 4 → UInt8

def subWord (w : Word) : Word := fun j => sBox (w j)

def rotWord (w : Word) : Word := fun j => w (j + 1)

/-- The power of `x` that the `j`-th key schedule step adds, from 1 on. -/
def rcon (j : ℕ) : Word := fun k => if k = 0 then xtime^[j - 1] 1 else 0

/-- Word `i` of the schedule of a key of `Nk` words. -/
def keyWord (Nk : ℕ) (key : ℕ → UInt8) (i : ℕ) : Word :=
  if i < Nk ∨ Nk = 0 then fun j => key (4 * i + j)
  else
    let temp := keyWord Nk key (i - 1)
    let temp :=
      if i % Nk = 0 then fun j => subWord (rotWord temp) j ^^^ rcon (i / Nk) j
      else if 6 < Nk ∧ i % Nk = 4 then subWord temp
      else temp
    fun j => keyWord Nk key (i - Nk) j ^^^ temp j
termination_by i

/-- Four words for each round. -/
def roundKey (Nk : ℕ) (key : ℕ → UInt8) (r : ℕ) : Block := fun i =>
  keyWord Nk key (4 * r + i / 4) ⟨i % 4, by omega⟩

/-! ### The cipher -/

def layer (s : Block) : Block := mixColumns (shiftRows (subBytes s))

def last (s : Block) : Block := shiftRows (subBytes s)

def invLayer (s : Block) : Block := invSubBytes (invShiftRows (invMixColumns s))

def invLast (s : Block) : Block := invSubBytes (invShiftRows s)

/-- A key of `Nk` words makes `Nk + 6` rounds. -/
def cipher (Nk : ℕ) (key : ℕ → UInt8) : Block → Block :=
  Rounds.encrypt addRoundKey layer last (roundKey Nk key) (Nk + 5)

def invCipher (Nk : ℕ) (key : ℕ → UInt8) : Block → Block :=
  Rounds.decrypt addRoundKey invLayer invLast (roundKey Nk key) (Nk + 5)

/-! ### What is undone -/

theorem addRoundKey_addRoundKey (k s : Block) : addRoundKey k (addRoundKey k s) = s := by
  funext i
  rw [addRoundKey, addRoundKey, UInt8.xor_assoc, UInt8.xor_self, UInt8.xor_zero]

theorem invAffine_affine (b : UInt8) : invAffine (affine b) = b := by
  revert b
  apply forall_octet
  decide +kernel

theorem affine_invAffine (b : UInt8) : affine (invAffine b) = b := by
  revert b
  apply forall_octet
  decide +kernel

theorem invSBox_sBox (b : UInt8) : invSBox (sBox b) = b := by
  rw [invSBox, sBox, invAffine_affine, inv_inv]

theorem sBox_invSBox (b : UInt8) : sBox (invSBox b) = b := by
  rw [invSBox, sBox, inv_inv, affine_invAffine]

theorem invShiftRows_shiftRows (s : Block) : invShiftRows (shiftRows s) = s := by
  funext i
  fin_cases i <;> rfl

theorem shiftRows_invShiftRows (s : Block) : shiftRows (invShiftRows s) = s := by
  funext i
  fin_cases i <;> rfl

theorem invSubBytes_subBytes (s : Block) : invSubBytes (subBytes s) = s :=
  funext fun i => invSBox_sBox (s i)

theorem subBytes_invSubBytes (s : Block) : subBytes (invSubBytes s) = s :=
  funext fun i => sBox_invSBox (s i)

/-! ### The columns -/

theorem below_below (m n : ℕ) (i : Fin 16) : below m (below n i) = below (m + n) i := by
  apply Fin.ext
  simp only [below]
  omega

theorem below_add_four (m : ℕ) (i : Fin 16) : below (m + 4) i = below m i := by
  apply Fin.ext
  simp only [below]
  omega

theorem below_four (i : Fin 16) : below 4 i = i := by
  apply Fin.ext
  simp only [below]
  omega

/-- The multiple of one octet that a product of two circulant matrices has in one place. -/
def entry (k₀ k₁ k₂ k₃ l₀ l₁ l₂ l₃ x : UInt8) : UInt8 :=
  mul k₀ (mul l₀ x) ^^^ mul k₁ (mul l₁ x) ^^^ mul k₂ (mul l₂ x) ^^^ mul k₃ (mul l₃ x)

theorem circulant_circulant (k₀ k₁ k₂ k₃ l₀ l₁ l₂ l₃ : UInt8) (s : Block) (i : Fin 16) :
    circulant k₀ k₁ k₂ k₃ (circulant l₀ l₁ l₂ l₃ s) i =
      entry k₀ k₁ k₂ k₃ l₀ l₃ l₂ l₁ (s i) ^^^ entry k₀ k₁ k₂ k₃ l₁ l₀ l₃ l₂ (s (below 1 i)) ^^^
        entry k₀ k₁ k₂ k₃ l₂ l₁ l₀ l₃ (s (below 2 i)) ^^^
        entry k₀ k₁ k₂ k₃ l₃ l₂ l₁ l₀ (s (below 3 i)) := by
  have h5 : below 5 i = below 1 i := below_add_four 1 i
  have h6 : below 6 i = below 2 i := below_add_four 2 i
  simp only [circulant, below_below, Nat.reduceAdd, below_four, h5, h6, mul_xor, entry]
  ac_rfl

section

variable (x : UInt8)

theorem mul_one_left : mul 1 x = x := by simp [mul, mulBits]

theorem mul_two : mul 2 x = xtime x := by simp [mul, mulBits]

theorem mul_three : mul 3 x = x ^^^ xtime x := by simp [mul, mulBits]

theorem mul_nine : mul 0x09 x = x ^^^ xtime (xtime (xtime x)) := by simp [mul, mulBits]

theorem mul_eleven : mul 0x0b x = x ^^^ (xtime x ^^^ xtime (xtime (xtime x))) := by
  simp [mul, mulBits]

theorem mul_thirteen : mul 0x0d x = x ^^^ (xtime (xtime x) ^^^ xtime (xtime (xtime x))) := by
  simp [mul, mulBits]

theorem mul_fourteen : mul 0x0e x = xtime x ^^^ (xtime (xtime x) ^^^ xtime (xtime (xtime x))) := by
  simp [mul, mulBits]

end

theorem invMixColumns_mixColumns (s : Block) : invMixColumns (mixColumns s) = s := by
  funext i
  rw [invMixColumns, mixColumns, circulant_circulant]
  simp only [entry, mul_one_left, mul_two, mul_three, mul_nine, mul_eleven, mul_thirteen,
    mul_fourteen, xtime_xor, UInt8.xor_assoc, UInt8.xor_comm, xor_left_comm, xor_self_left,
    UInt8.xor_self, UInt8.xor_zero]

theorem mixColumns_invMixColumns (s : Block) : mixColumns (invMixColumns s) = s := by
  funext i
  rw [invMixColumns, mixColumns, circulant_circulant]
  simp only [entry, mul_one_left, mul_two, mul_three, mul_nine, mul_eleven, mul_thirteen,
    mul_fourteen, xtime_xor, UInt8.xor_assoc, UInt8.xor_comm, xor_left_comm, xor_self_left,
    UInt8.xor_self, UInt8.xor_zero]

/-! ### Decryption -/

theorem invLayer_layer : Function.LeftInverse invLayer layer := by
  intro s
  rw [invLayer, layer, invMixColumns_mixColumns, invShiftRows_shiftRows, invSubBytes_subBytes]

theorem layer_invLayer : Function.RightInverse invLayer layer := by
  intro s
  rw [invLayer, layer, subBytes_invSubBytes, shiftRows_invShiftRows, mixColumns_invMixColumns]

theorem invLast_last : Function.LeftInverse invLast last := by
  intro s
  rw [invLast, last, invShiftRows_shiftRows, invSubBytes_subBytes]

theorem last_invLast : Function.RightInverse invLast last := by
  intro s
  rw [invLast, last, subBytes_invSubBytes, shiftRows_invShiftRows]

theorem invCipher_cipher (Nk : ℕ) (key : ℕ → UInt8) (s : Block) :
    invCipher Nk key (cipher Nk key s) = s :=
  Rounds.decrypt_encrypt addRoundKey_addRoundKey invLayer_layer invLast_last (Nk + 5) s

theorem cipher_invCipher (Nk : ℕ) (key : ℕ → UInt8) (s : Block) :
    cipher Nk key (invCipher Nk key s) = s :=
  Rounds.encrypt_decrypt addRoundKey_addRoundKey layer_invLayer last_invLast (Nk + 5) s

end Lorawan.Rijndael

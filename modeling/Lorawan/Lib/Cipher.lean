import Lorawan.Lib.Octets
import Mathlib.Data.Finite.Vector
import Mathlib.Data.Fintype.EquivFin

/-!
# Block ciphers

A cipher on blocks of sixteen octets carries the law its users rely on:
encryption undoes decryption. `ecb` applies a block function to the whole
blocks of a text.
-/

namespace Lorawan

/-- A keyed permutation of sixteen-octet blocks. -/
structure BlockCipher where
  encrypt : Octets → Octets → Octets
  decrypt : Octets → Octets → Octets
  encrypt_length : ∀ key block, block.length = 16 → (encrypt key block).length = 16
  decrypt_length : ∀ key block, block.length = 16 → (decrypt key block).length = 16
  encrypt_decrypt : ∀ key block, block.length = 16 → encrypt key (decrypt key block) = block

namespace BlockCipher

/-- Blocks are finitely many, so what decryption undoes is a permutation. -/
theorem encrypt_inj (A : BlockCipher) (key : Octets) {b b' : Octets} (hb : b.length = 16)
    (hb' : b'.length = 16) (h : A.encrypt key b = A.encrypt key b') : b = b' := by
  have : Finite UInt8 := Finite.of_injective UInt8.toFin fun x y => UInt8.toFin_inj.mp
  let f : List.Vector UInt8 16 → List.Vector UInt8 16 :=
    fun v => ⟨A.encrypt key v.1, A.encrypt_length key v.1 v.2⟩
  have hsurj : Function.Surjective f := fun v =>
    ⟨⟨A.decrypt key v.1, A.decrypt_length key v.1 v.2⟩,
      Subtype.ext (A.encrypt_decrypt key v.1 v.2)⟩
  have heq : f ⟨b, hb⟩ = f ⟨b', hb'⟩ := Subtype.ext h
  exact congrArg Subtype.val (Finite.injective_iff_surjective.mpr hsurj heq)

/-- `f` on each of the first `n` blocks of a text. -/
def ecb (f : Octets → Octets) : ℕ → Octets → Octets
  | 0, _ => []
  | n + 1, bs => f (bs.take 16) ++ ecb f n (bs.drop 16)

theorem ecb_length {f : Octets → Octets} (hf : ∀ b : Octets, b.length = 16 → (f b).length = 16)
    (n : ℕ) (bs : Octets) (h : 16 * n ≤ bs.length) : (ecb f n bs).length = 16 * n := by
  induction n generalizing bs with
  | zero => rfl
  | succ n ih =>
    have htake : (bs.take 16).length = 16 := by
      simp only [List.length_take]
      omega
    have hdrop : 16 * n ≤ (bs.drop 16).length := by
      simp only [List.length_drop]
      omega
    simp only [ecb, List.length_append, hf _ htake, ih _ hdrop]
    omega

theorem ecb_encrypt_decrypt (A : BlockCipher) (key : Octets) (n : ℕ) (bs : Octets)
    (h : bs.length = 16 * n) :
    ecb (A.encrypt key) n (ecb (A.decrypt key) n bs) = bs := by
  induction n generalizing bs with
  | zero =>
    have hnil : bs = [] := List.length_eq_zero_iff.mp h
    simp only [ecb, hnil]
  | succ n ih =>
    have htake : (bs.take 16).length = 16 := by
      simp only [List.length_take]
      omega
    have hdrop : (bs.drop 16).length = 16 * n := by
      simp only [List.length_drop]
      omega
    have hblock := A.decrypt_length key _ htake
    simp only [ecb, List.take_left' hblock, List.drop_left' hblock, ih _ hdrop,
      A.encrypt_decrypt key _ htake, List.take_append_drop]

/-- Exclusive or with the key, a cipher in name only: a small instance of the laws. -/
def xorKey : BlockCipher where
  encrypt key block := Octets.xor ((key ++ List.replicate 16 0).take 16) block
  decrypt key block := Octets.xor ((key ++ List.replicate 16 0).take 16) block
  encrypt_length key block h := by
    simp only [Octets.length_xor, List.length_take, List.length_append, List.length_replicate, h]
    omega
  decrypt_length key block h := by
    simp only [Octets.length_xor, List.length_take, List.length_append, List.length_replicate, h]
    omega
  encrypt_decrypt key block h := by
    apply Octets.xor_xor_cancel
    simp only [List.length_take, List.length_append, List.length_replicate, h]
    omega

end BlockCipher

end Lorawan

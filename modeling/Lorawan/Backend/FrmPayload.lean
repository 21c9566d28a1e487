import Lorawan.Backend.PayloadCipher
import Lorawan.Lib.Keystream

/-!
# The cipher of FRMPayload

What both ends of a payload compute: LoRaWAN's counter mode. `LoRa_Encrypt` from block 1 on
(libserver.c:1647-1685) is it, on a payload of any length.
-/

namespace Lorawan.Backend
open Lorawan

variable (A : BlockCipher)

/-- Octet `k` of the keystream of a payload. -/
def payloadStream (key : Octets) (address : ℕ) (up : Bool) (FCnt : ℕ) (k : ℕ) : UInt8 :=
  keystreamOctet A key address up FCnt (1 + k / 16) (k % 16)

/-- A payload that is enciphered or deciphered. -/
def frmPayload (key : Octets) (address : ℕ) (up : Bool) (FCnt : ℕ) (payload : Octets) : Octets :=
  Keystream.combine (· ^^^ ·) (payloadStream A key address up FCnt) payload

section Cipher

variable (key : Octets) (address : ℕ) (up : Bool) (FCnt : ℕ)

@[simp] theorem length_frmPayload (payload : Octets) :
    (frmPayload A key address up FCnt payload).length = payload.length :=
  Keystream.length_combine ..

theorem frmPayload_frmPayload (payload : Octets) :
    frmPayload A key address up FCnt (frmPayload A key address up FCnt payload) = payload :=
  Keystream.combine_combine _ _ (fun x b => by rw [UInt8.xor_assoc, UInt8.xor_self, UInt8.xor_zero])
    payload

theorem getD_frmPayload {payload : Octets} {k : ℕ} (hk : k < payload.length) :
    (frmPayload A key address up FCnt payload).getD k 0 =
      payload.getD k 0 ^^^ payloadStream A key address up FCnt k := by
  have hk' : k < (frmPayload A key address up FCnt payload).length := by
    rwa [length_frmPayload]
  rw [List.getD_eq_getElem _ _ hk', List.getD_eq_getElem _ _ hk]
  exact Keystream.getElem_combine ..

/-! ### LoRa_Encrypt -/

theorem xor_keystream {n j : ℕ} {text : Octets} (htext : text.length = n - 16 * j)
    (hj : 16 * j < n) :
    Octets.xor (keystream A key address up FCnt n (1 + j)) text =
      Keystream.combine (· ^^^ ·) (fun k => keystreamOctet A key address up FCnt (1 + j) k)
        (text.take 16) := by
  have hS : (A.encrypt key (encryptBlock (1 + j) address up FCnt)).length = 16 :=
    A.encrypt_length key _ (encryptBlock_length (1 + j) address up FCnt)
  have hbytes : bytesToExOr (1 + j) n = min 16 text.length := by
    unfold bytesToExOr CountBlocks FindBlockOverhang
    split <;> split at * <;> omega
  apply List.ext_getElem
  · rw [Octets.length_xor, keystream, List.length_take, hS, hbytes, Keystream.length_combine,
      List.length_take]
    omega
  · intro k hk hk'
    have hlt : k < min 16 text.length := by
      simpa using hk'
    have hk16 : k < (text.take 16).length := by rwa [List.length_take]
    rw [Keystream.getElem_combine _ _ _ hk' hk16, List.getElem_take]
    simp only [Octets.xor, keystream, List.getElem_zipWith, List.getElem_take]
    rw [keystreamOctet, List.getD_eq_getElem _ _ (by omega), UInt8.xor_comm]

theorem encryptLoop_eq_combine {n : ℕ} (count : ℕ) :
    ∀ (j : ℕ) (text : Octets), text.length = n - 16 * j → CountBlocks n = j + count →
      encryptLoop A key text address up FCnt n (1 + j) count =
        Keystream.combine (· ^^^ ·)
          (fun k => keystreamOctet A key address up FCnt (1 + j + k / 16) (k % 16)) text := by
  induction count with
  | zero =>
    intro j text htext hblocks
    have hnil : text = [] := by
      apply List.eq_nil_of_length_eq_zero
      have := (le_countBlocks n).1
      omega
    rw [hnil]
    rfl
  | succ count ih =>
    intro j text htext hblocks
    have hj : 16 * j < n := by
      have := (le_countBlocks n).2
      omega
    have hrest := ih (j + 1) (text.drop 16) (by rw [List.length_drop]; omega) (by omega)
    have hhead := xor_keystream A key address up FCnt htext hj
    have hstream : Keystream.combine (· ^^^ ·)
        (fun k => keystreamOctet A key address up FCnt (1 + j) k) (text.take 16) =
          Keystream.combine (· ^^^ ·)
            (fun k => keystreamOctet A key address up FCnt (1 + j + k / 16) (k % 16))
            (text.take 16) := by
      apply Keystream.combine_congr
      intro k hk
      rw [List.length_take] at hk
      rw [Nat.div_eq_of_lt (by omega), Nat.mod_eq_of_lt (by omega), Nat.add_zero]
    rw [encryptLoop, show 1 + j + 1 = 1 + (j + 1) by omega, hrest, hhead, hstream]
    conv_rhs => rw [← List.take_append_drop 16 text, Keystream.combine_append]
    congr 1
    by_cases hlong : 16 ≤ text.length
    · have htake : (text.take 16).length = 16 := by
        rw [List.length_take]
        omega
      apply Keystream.combine_congr
      intro k _
      rw [htake, show (16 + k) / 16 = 1 + k / 16 by omega, show (16 + k) % 16 = k % 16 by omega]
      congr 1
      omega
    · have hnil : text.drop 16 = [] := List.drop_eq_nil_of_le (by omega)
      rw [hnil]
      rfl

theorem LoRa_Encrypt_eq_frmPayload (payload : Octets) :
    LoRa_Encrypt A 1 key payload payload.length address up FCnt =
      frmPayload A key address up FCnt payload := by
  unfold LoRa_Encrypt
  by_cases hnil : payload.length = 0
  · rw [if_pos hnil, List.eq_nil_of_length_eq_zero hnil]
    rfl
  · rw [if_neg hnil, Nat.add_sub_cancel]
    exact encryptLoop_eq_combine A key address up FCnt (CountBlocks payload.length) 0 payload rfl
      (Nat.zero_add _).symm

/-- The call of `app_uplink`: its loop ends, and the octets that it stores are the payload
deciphered. -/
theorem encryptAccesses_eq_frmPayload {payload : Octets} (h : payload.length ≤ 255) {fuel : ℕ}
    (hfuel : 16 < fuel) :
    ∃ run, encryptAccesses A key (payload.getD · 0) address up FCnt 1
        (.ofNat payload.length) fuel = some run ∧
      ∀ out, ∀ k < payload.length,
        run.apply out k = (frmPayload A key address up FCnt payload).getD k 0 := by
  have hlen : (UInt16.ofNat payload.length).toNat = payload.length := by
    rw [UInt16.toNat_ofNat']
    exact Nat.mod_eq_of_lt (by omega)
  unfold encryptAccesses
  by_cases hzero : UInt16.ofNat payload.length = 0
  · have hnil : payload.length = 0 := by
      rw [← hlen, hzero]
      rfl
    rw [if_pos hzero]
    exact ⟨_, rfl, fun out k hk => absurd hk (by omega)⟩
  · have hblocks := (le_countBlocks payload.length).2
    have hone : (1 : UInt8).toNat = 1 := rfl
    rw [if_neg hzero, encryptFrom_eq A key _ address up FCnt (by rw [hlen]; omega), hlen, hone,
      if_pos (by omega)]
    refine ⟨_, rfl, ?_⟩
    intro out k hk
    rw [getD_frmPayload A key address up FCnt hk, Nat.add_sub_cancel]
    exact combined_from_one A key address up FCnt _ out hk

end Cipher

end Lorawan.Backend

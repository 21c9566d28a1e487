import Lorawan.Lib.Cmac
import Lorawan.Backend.Aes
import Lorawan.Backend.Crypto

/-!
# The keyed hash is CMAC (cmac.c)

`LSHIFT` works on the octets of a key what doubling works on its number; the context after any
number of calls of `AES_CMAC_Update` holds what the octets of all the calls make together.
-/

namespace Lorawan.Backend
open Lorawan

variable (A : BlockCipher)

/-! ### The keys -/

theorem LSHIFT_cons (b : UInt8) (v : Octets) :
    LSHIFT (b :: v) = ((b <<< 1) ||| (v.headD 0 >>> 7)) :: LSHIFT v := by
  cases v with
  | nil => rfl
  | cons c v => rfl

theorem LSHIFT_length_eq (v : Octets) : (LSHIFT v).length = v.length := by
  induction v with
  | nil => rfl
  | cons b v ih => rw [LSHIFT_cons, List.length_cons, List.length_cons, ih]

theorem shifted_toNat (b c : UInt8) :
    ((b <<< 1) ||| (c >>> 7)).toNat = 2 * b.toNat % 256 + c.toNat / 128 := by
  have hc := c.toNat_lt
  have hcarry : c.toNat / 128 < 2 ^ 1 := by omega
  have heven : 2 * b.toNat % 256 = 2 ^ 1 * (b.toNat % 128) := by omega
  rw [heven, Nat.two_pow_add_eq_or_of_lt hcarry, ← heven]
  simp [Nat.shiftLeft_eq, Nat.shiftRight_eq_div_pow, Nat.mul_comm]

theorem carry_eq (v : Octets) :
    2 * Octets.toNat v.reverse / 256 ^ v.length = (v.headD 0).toNat / 128 := by
  cases v with
  | nil => rfl
  | cons b v =>
    have hv := Cmac.toNat_reverse_lt v
    have hdiv : (2 * Octets.toNat v.reverse + 256 ^ v.length * (2 * b.toNat)) /
        256 ^ v.length / 256 = b.toNat / 128 := by
      have hcarry : 2 * Octets.toNat v.reverse / 256 ^ v.length < 2 := by
        rw [Nat.div_lt_iff_lt_mul (Nat.pow_pos (by omega))]
        omega
      rw [Nat.add_mul_div_left _ _ (Nat.pow_pos (by omega))]
      generalize 2 * Octets.toNat v.reverse / 256 ^ v.length = q at hcarry ⊢
      omega
    rw [Cmac.toNat_reverse_cons, List.length_cons, pow_succ, ← Nat.div_div_eq_div_mul, Nat.mul_add,
      Nat.mul_left_comm]
    exact hdiv

theorem LSHIFT_toNat (v : Octets) :
    Octets.toNat (LSHIFT v).reverse = 2 * Octets.toNat v.reverse % 256 ^ v.length := by
  induction v with
  | nil => rfl
  | cons b v ih =>
    have hb := b.toNat_lt
    have hhead := (v.headD 0).toNat_lt
    have hmod : 2 * (Octets.toNat v.reverse + 256 ^ v.length * b.toNat) % 256 ^ v.length =
        2 * Octets.toNat v.reverse % 256 ^ v.length := by
      rw [Nat.mul_add, Nat.mul_left_comm, Nat.add_mul_mod_self_left]
    have hdiv : 2 * (Octets.toNat v.reverse + 256 ^ v.length * b.toNat) / 256 ^ v.length =
        (v.headD 0).toNat / 128 + 2 * b.toNat := by
      rw [Nat.mul_add, Nat.mul_left_comm, Nat.add_mul_div_left _ _ (Nat.pow_pos (by omega)),
        carry_eq]
    have hsum : ((v.headD 0).toNat / 128 + 2 * b.toNat) % 256 =
        2 * b.toNat % 256 + (v.headD 0).toNat / 128 := by omega
    rw [LSHIFT_cons, Cmac.toNat_reverse_cons, Cmac.toNat_reverse_cons, ih, LSHIFT_length_eq,
      shifted_toNat, List.length_cons, pow_succ, Nat.mod_mul, hmod, hdiv, hsum]

theorem toBits_LSHIFT {K : Octets} (h : K.length = 16) :
    Cmac.toBits (LSHIFT K) = Cmac.toBits K <<< 1 := by
  apply BitVec.eq_of_toNat_eq
  rw [Cmac.toBits_toNat (LSHIFT_length h), LSHIFT_toNat, BitVec.toNat_shiftLeft,
    Cmac.toBits_toNat h, h, Nat.shiftLeft_eq, Nat.mul_comm]
  rfl

theorem low_octet_xor (t : ℕ) (b c : UInt8) :
    (b.toNat + 256 * t) ^^^ c.toNat = (b ^^^ c).toNat + 256 * t := by
  have hb := b.toNat_lt
  have hc := c.toNat_lt
  have hbc := (b ^^^ c).toNat_lt
  have hmod : ((b.toNat + 256 * t) ^^^ c.toNat) % 2 ^ 8 = (b ^^^ c).toNat := by
    have hlow : (b.toNat + 256 * t) % 2 ^ 8 = b.toNat := by omega
    rw [Nat.xor_mod_two_pow, hlow, Nat.mod_eq_of_lt hc, UInt8.toNat_xor]
  have hdiv : ((b.toNat + 256 * t) ^^^ c.toNat) / 2 ^ 8 = t := by
    have hhigh : (b.toNat + 256 * t) / 2 ^ 8 = t := by omega
    rw [Nat.xor_div_two_pow, hhigh, Nat.div_eq_of_lt hc, Nat.xor_zero]
  omega

theorem xor_replicate_zero (v : Octets) : Octets.xor v (List.replicate v.length 0) = v := by
  induction v with
  | nil => rfl
  | cons b v ih =>
    rw [List.length_cons, List.replicate_succ, Octets.xor, List.zipWith_cons_cons, UInt8.xor_zero]
    exact congrArg (b :: ·) ih

theorem xor_comm (a b : Octets) : Octets.xor a b = Octets.xor b a :=
  List.zipWith_comm_of_comm UInt8.xor_comm

theorem toBits_xor_last {K : Octets} (h : K.length = 16) (c : UInt8) :
    Cmac.toBits (Octets.xor K (List.replicate 15 0 ++ [c])) =
      Cmac.toBits K ^^^ BitVec.ofNat 128 c.toNat := by
  obtain ⟨v, b, rfl⟩ : ∃ v b, K = v ++ [b] :=
    ⟨K.dropLast, K.getLast (List.ne_nil_of_length_pos (by omega)),
      (List.dropLast_append_getLast _).symm⟩
  have hv : v.length = 15 := by
    rw [List.length_append, List.length_singleton] at h
    omega
  have hxor : Octets.xor (v ++ [b]) (List.replicate 15 0 ++ [c]) = v ++ [b ^^^ c] := by
    have hzero := xor_replicate_zero v
    rw [hv] at hzero
    rw [Octets.xor, List.zipWith_append (by rw [hv, List.length_replicate])]
    exact congrArg (· ++ [b ^^^ c]) hzero
  have hreverse : ∀ x : UInt8, Octets.toNat (v ++ [x]).reverse =
      x.toNat + 256 * Octets.toNat v.reverse := by
    intro x
    rw [List.reverse_append, List.reverse_singleton, List.singleton_append, Octets.toNat]
  have hc : c.toNat < 2 ^ 128 := lt_of_lt_of_le c.toNat_lt (by decide)
  apply BitVec.eq_of_toNat_eq
  rw [hxor, BitVec.toNat_xor, Cmac.toBits_toNat h, BitVec.toNat_ofNat, Nat.mod_eq_of_lt hc,
    Cmac.toBits_toNat (by rw [List.length_append, hv, List.length_singleton]), hreverse, hreverse,
    low_octet_xor]

theorem top_bit (b : UInt8) : b &&& 0x80 ≠ 0 ↔ b.toNat / 128 = 1 := by
  revert b
  apply Gf256.forall_octet
  decide +kernel

theorem msb_toBits {K : Octets} (h : K.length = 16) :
    (Cmac.toBits K).msb = true ↔ K.headD 0 &&& 0x80 ≠ 0 := by
  have hcarry := carry_eq K
  have hlt := Cmac.toNat_reverse_lt K
  rw [h] at hcarry hlt
  rw [top_bit, ← hcarry, BitVec.msb_eq_decide, decide_eq_true_iff, Cmac.toBits_toNat h]
  norm_num at hlt ⊢
  omega

theorem cmacSubkey_eq {K : Octets} (h : K.length = 16) :
    cmacSubkey K = Cmac.ofBits (Cmac.double (Cmac.toBits K)) := by
  rw [← Cmac.ofBits_toBits (cmacSubkey_length h)]
  congr 1
  rw [cmacSubkey, Cmac.double]
  by_cases htop : K.headD 0 &&& 0x80 ≠ 0
  · rw [if_pos htop, if_pos ((msb_toBits h).mpr htop), toBits_xor_last (LSHIFT_length h),
      toBits_LSHIFT h]
    rfl
  · rw [if_neg htop, if_neg (mt (msb_toBits h).mp htop), toBits_LSHIFT h]

/-! ### The blocks -/

/-- One block of the message in the chain. -/
def cmacChain (key b X : Octets) : Octets := A.encrypt key (Octets.xor b X)

theorem cmacBlocks_eq (key : Octets) {fuel : ℕ} {X data : Octets} (h : data.length ≤ fuel) :
    cmacBlocks A key fuel X data =
      ⟨(Absorber.absorb (cmacChain A key) 16 X data).1,
        (Absorber.absorb (cmacChain A key) 16 X data).2⟩ := by
  induction fuel generalizing X data with
  | zero => rw [cmacBlocks, Absorber.absorb_short (by omega) (by omega)]
  | succ fuel ih =>
    rw [cmacBlocks]
    by_cases hlong : 16 < data.length
    · rw [if_pos hlong, Absorber.absorb_long (by omega) hlong]
      exact ih (by rw [List.length_drop]; omega)
    · rw [if_neg hlong, Absorber.absorb_short (by omega) (by omega)]

theorem AES_CMAC_Update_eq (key : Octets) {ctx : AES_CMAC_CTX} (h : ctx.M_last.length ≤ 16)
    (data : Octets) :
    AES_CMAC_Update A key ctx data =
      ⟨(Absorber.absorb (cmacChain A key) 16 ctx.X (ctx.M_last ++ data)).1,
        (Absorber.absorb (cmacChain A key) 16 ctx.X (ctx.M_last ++ data)).2⟩ := by
  have hlength : (ctx.M_last ++ data).length = ctx.M_last.length + data.length :=
    List.length_append
  rw [AES_CMAC_Update]
  by_cases hpending : 0 < ctx.M_last.length
  · rw [if_pos hpending]
    dsimp only
    by_cases hroom : ctx.M_last.length + data.length ≤ 16
    · have hall : min (16 - ctx.M_last.length) data.length = data.length := by omega
      rw [hall, if_pos (Or.inr rfl), List.take_length, Absorber.absorb_short (by omega) (by omega)]
    · have hfull : min (16 - ctx.M_last.length) data.length = 16 - ctx.M_last.length := by omega
      have hblock : (ctx.M_last ++ data.take (16 - ctx.M_last.length)).length = 16 := by
        rw [List.length_append, List.length_take]
        omega
      have htake : (ctx.M_last ++ data).take 16 =
          ctx.M_last ++ data.take (16 - ctx.M_last.length) := by
        rw [List.take_append, List.take_of_length_le h]
      have hdrop : (ctx.M_last ++ data).drop 16 = data.drop (16 - ctx.M_last.length) := by
        rw [List.drop_append, List.drop_of_length_le h, List.nil_append]
      have hnot : ¬((ctx.M_last ++ data.take (16 - ctx.M_last.length)).length < 16 ∨
          data.length = 16 - ctx.M_last.length) := by omega
      rw [hfull, if_neg hnot, Absorber.absorb_long (by omega) (by omega), htake, hdrop,
        cmacBlocks_eq A key (by rw [List.length_drop]; omega)]
      rfl
  · have hnil : ctx.M_last = [] := List.length_eq_zero_iff.mp (by omega)
    rw [if_neg hpending, hnil, List.nil_append, cmacBlocks_eq A key le_rfl]

theorem AES_CMAC_Updates_eq (key : Octets) (chunks : List Octets) {ctx : AES_CMAC_CTX}
    (h : ctx.M_last.length ≤ 16) :
    chunks.foldl (AES_CMAC_Update A key) ctx =
      ⟨(Absorber.absorbAll (cmacChain A key) 16 (ctx.X, ctx.M_last) chunks).1,
        (Absorber.absorbAll (cmacChain A key) 16 (ctx.X, ctx.M_last) chunks).2⟩ := by
  induction chunks generalizing ctx with
  | nil => rfl
  | cons data chunks ih =>
    have hrest := Absorber.absorb_rest_length (f := cmacChain A key) (n := 16) (by omega) ctx.X
      (ctx.M_last ++ data)
    rw [List.foldl_cons, AES_CMAC_Update_eq A key h, ih hrest, Absorber.absorbAll,
      Absorber.absorbAll, List.foldl_cons]

theorem AES_CMAC_Final_eq (key m : Octets) :
    AES_CMAC_Final A key ⟨(Absorber.absorb (cmacChain A key) 16 Cmac.zeroBlock m).1,
      (Absorber.absorb (cmacChain A key) 16 Cmac.zeroBlock m).2⟩ = Cmac.mac (A.encrypt key) m := by
  have hzero : (A.encrypt key (List.replicate 16 0)).length = 16 :=
    A.encrypt_length key _ List.length_replicate
  have hK₁ : cmacSubkey (A.encrypt key (List.replicate 16 0)) =
      Cmac.ofBits (Cmac.K₁ (A.encrypt key)) :=
    cmacSubkey_eq hzero
  have hK₂ : cmacSubkey (Cmac.ofBits (Cmac.K₁ (A.encrypt key))) =
      Cmac.ofBits (Cmac.K₂ (A.encrypt key)) := by
    rw [cmacSubkey_eq (Cmac.length_ofBits _), Cmac.toBits_ofBits, Cmac.K₂]
  have hchain : Absorber.absorb (fun b X => A.encrypt key (Octets.xor b X)) 16 Cmac.zeroBlock m =
    Absorber.absorb (cmacChain A key) 16 Cmac.zeroBlock m := rfl
  rw [AES_CMAC_Final, Cmac.mac, hchain]
  dsimp only
  rw [hK₁, hK₂, Cmac.pad, xor_comm (Cmac.ofBits (Cmac.K₁ _)),
    xor_comm (Cmac.ofBits (Cmac.K₂ _)), List.append_assoc, List.singleton_append]

theorem AES_CMAC_run (key : Octets) (chunks : List Octets) :
    AES_CMAC_Final A key (chunks.foldl (AES_CMAC_Update A key) AES_CMAC_Init) =
      Cmac.mac (A.encrypt key) chunks.flatten := by
  have hstart : (AES_CMAC_Init.X, AES_CMAC_Init.M_last) =
      Absorber.absorb (cmacChain A key) 16 Cmac.zeroBlock [] :=
    (Absorber.absorb_short (by omega) (Nat.zero_le _) _).symm
  rw [AES_CMAC_Updates_eq _ key chunks AES_CMAC_Init_wf.M_n_le, hstart,
    Absorber.absorbAll_eq (by omega), List.nil_append, AES_CMAC_Final_eq]

/-- The hash of the sixteen octets of a key, over the octets of any calls of `AES_CMAC_Update`, is
the CMAC of these octets under the AES of the key. -/
theorem AES_CMAC_computes (ctx : Aes.aes_context) (key : Octets) (chunks : List Octets) :
    AES_CMAC_Final (Aes.aes ctx) key
        (chunks.foldl (AES_CMAC_Update (Aes.aes ctx) key) AES_CMAC_Init) =
      Cmac.mac (fun block => Aes.ofBlock (Rijndael.cipher 4 (key.getD · 0) (Aes.toBlock block)))
        chunks.flatten := by
  have haes : (Aes.aes ctx).encrypt key =
      fun block => Aes.ofBlock (Rijndael.cipher 4 (key.getD · 0) (Aes.toBlock block)) :=
    funext fun block => Aes.withKey_aes_encrypt ctx key block
  rw [AES_CMAC_run, haes]

theorem LoRa_GenerateDataFrameIntegrityCode_eq (block : block_t) (key pktPayload : Octets) :
    LoRa_GenerateDataFrameIntegrityCode A block key pktPayload =
      (Cmac.mac (A.encrypt key)
        (block.octets ++ pktPayload.take (block.lenMsg % 256))).take 4 := by
  have h := AES_CMAC_run A key [block.octets, pktPayload.take (block.lenMsg % 256)]
  rw [List.foldl_cons, List.foldl_cons, List.foldl_nil, List.flatten_cons, List.flatten_singleton]
    at h
  rw [LoRa_GenerateDataFrameIntegrityCode, h]

theorem LoRa_GenerateJoinFrameIntegrityCode_eq (key input : Octets) :
    LoRa_GenerateJoinFrameIntegrityCode A key input =
      (Cmac.mac (A.encrypt key) input).take 4 := by
  have h := AES_CMAC_run A key [input]
  rw [List.foldl_cons, List.foldl_nil, List.flatten_singleton] at h
  rw [LoRa_GenerateJoinFrameIntegrityCode, h]

end Lorawan.Backend

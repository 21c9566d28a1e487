import Lorawan.Lib.BitField
import Lorawan.Backend.Frame
import Mathlib.Tactic.IntervalCases

/-!
# NetID and DevAddr (fNS.c:363-421, web.c:3299-3318, libserver.c:1734-1786)

A network server builds the upper bits of its DevAddrs out of its NetID: a prefix that
tells the type, and the ID. `parseDevAddr` takes a DevAddr apart. The encoder keeps six,
nine or twenty-one bits of the ID, the decoder as many as the format has room for.
-/

namespace Lorawan.NetworkServer
open Lorawan Lorawan.Backend

/-! ### The encoder -/

/-- `ID` of `fNS_init`. -/
def initID (myNetwork_id32 : UInt32) : UInt32 :=
  let NetID_Type := myNetwork_id32 >>> 21
  if NetID_Type < 2 then myNetwork_id32 &&& 0x3f
  else if NetID_Type = 2 then myNetwork_id32 &&& 0x1ff
  else myNetwork_id32 &&& 0x1fffff

/-- The prefix and `nwkAddrBits` of a type. -/
def initType : ℕ → Option (UInt32 × ℕ)
  | 0 => some (0x00000000, 25)
  | 1 => some (0x80000000, 24)
  | 2 => some (0xc0000000, 20)
  | 3 => some (0xe0000000, 18)
  | 4 => some (0xf0000000, 16)
  | 5 => some (0xf8000000, 13)
  | 6 => some (0xfc000000, 10)
  | 7 => some (0xfe000000, 7)
  | _ => none

/-- `fNS_init`: `devAddrBase` and `nwkAddrBits`. -/
def fNS_init (myNetwork_id32 : UInt32) : Option (UInt32 × ℕ) :=
  (initType (myNetwork_id32 >>> 21).toNat).map fun (devAddrBase, nwkAddrBits) =>
    (devAddrBase ||| (initID myNetwork_id32 <<< UInt32.ofNat nwkAddrBits), nwkAddrBits)

/-- `NwkAddrStr_to_devAddrStr`; `none` is failure. -/
def NwkAddrStr_to_devAddrStr (devAddrBase : UInt32) (nwkAddrBits : ℕ) (NwkAddrStr : List Char) :
    Option (List Char) :=
  match Text.scan 16 32 NwkAddrStr with
  | none => none
  | some nwkAddr =>
    if 2 ^ nwkAddrBits + 1 < nwkAddr then none
    else some (Text.print 10 (devAddrBase ||| UInt32.ofNat nwkAddr).toNat)

/-! ### Agreement -/

/-- The type of a NetID: the three bits above the ID. -/
def netIDType (NetID : BitVec 24) : ℕ := NetID.toNat / 2 ^ 21

def netIDID (NetID : BitVec 24) : ℕ := NetID.toNat % 2 ^ 21

/-- What the decoder knows of a type. -/
def decoderType (t : ℕ) : NetIdType := netIdTypes.getD (7 - t) ⟨0, 0, 0, 0, 0⟩

/-- `(devAddrBase, nwkAddrBits)` serves a NetID. -/
structure ServesNetID (NetID : BitVec 24) (devAddrBase : UInt32) (nwkAddrBits : ℕ)
    (nwkAddr : UInt32) : Prop where
  /-- The prefix is that of the type. -/
  marker : devAddrBase.toNat / 2 ^ (32 - (decoderType (netIDType NetID)).bits) =
    (decoderType (netIDType NetID)).marker
  /-- The type, the ID bits the format can carry and the address come back. -/
  roundtrip : nwkAddr.toNat < 2 ^ nwkAddrBits →
    parseDevAddr (devAddrBase ||| nwkAddr).toNat =
      some (netIDType NetID * 2 ^ 21 +
          netIDID NetID % 2 ^ (decoderType (netIDType NetID)).nwkIdBits,
        netIDID NetID % 2 ^ (decoderType (netIDType NetID)).nwkIdBits, nwkAddr.toNat)
  /-- An ID that fits comes back whole. -/
  original : nwkAddr.toNat < 2 ^ nwkAddrBits →
    netIDID NetID < 2 ^ (decoderType (netIDType NetID)).nwkIdBits →
      (parseDevAddr (devAddrBase ||| nwkAddr).toNat).map (·.1) = some NetID.toNat
  /-- The web page accepts the address exactly when it has room. -/
  range : ∀ NwkAddrStr, Text.scan 16 32 NwkAddrStr = some nwkAddr.toNat →
    ((NwkAddrStr_to_devAddrStr devAddrBase nwkAddrBits NwkAddrStr).isSome ↔
      nwkAddr.toNat < 2 ^ nwkAddrBits)

/-- Encoder and decoder agree on a NetID and an address. -/
def CodecsAgree (NetID : BitVec 24) (nwkAddr : UInt32) : Prop :=
  ∃ devAddrBase nwkAddrBits, fNS_init (UInt32.ofNat NetID.toNat) = some (devAddrBase, nwkAddrBits) ∧
    ServesNetID NetID devAddrBase nwkAddrBits nwkAddr

/-- The lowest bit of the ID that the format has no room for is clear, unless the encoder masks
it, and the address is not one of the two above the range. -/
def FitsFormat (NetID : BitVec 24) (nwkAddr : UInt32) : Prop :=
  (netIDType NetID < 3 ∨
      (netIDID NetID).testBit (decoderType (netIDType NetID)).nwkIdBits = false) ∧
    nwkAddr.toNat ≠ 2 ^ (decoderType (netIDType NetID)).nwkAddrBits ∧
    nwkAddr.toNat ≠ 2 ^ (decoderType (netIDType NetID)).nwkAddrBits + 1

/-! ### Fields of a word -/

/-- The ID bits that the encoder shifts into place. -/
def shiftedID (NetID : BitVec 24) : ℕ :=
  if netIDType NetID < 3 then netIDID NetID % 2 ^ (decoderType (netIDType NetID)).nwkIdBits
  else netIDID NetID

theorem netIDType_lt (NetID : BitVec 24) : netIDType NetID < 8 := by
  have := NetID.isLt
  unfold netIDType
  omega

theorem decoderType_bits {t : ℕ} (ht : t < 8) :
    (decoderType t).nwkAddrBits + (decoderType t).nwkIdBits = 32 - (decoderType t).bits := by
  revert t
  decide

theorem initType_eq {t : ℕ} (ht : t < 8) : ∃ devAddrBase : UInt32,
    initType t = some (devAddrBase, (decoderType t).nwkAddrBits) ∧
      devAddrBase.toNat = (decoderType t).marker * 2 ^ (32 - (decoderType t).bits) := by
  interval_cases t <;> exact ⟨_, rfl, by decide⟩

theorem toNat_myNetwork_id32 (NetID : BitVec 24) :
    (UInt32.ofNat NetID.toNat).toNat = NetID.toNat := by
  have := NetID.isLt
  exact UInt32.toNat_ofNat_of_lt' (show NetID.toNat < 2 ^ 32 by omega)

theorem toNat_NetID_Type (NetID : BitVec 24) :
    (UInt32.ofNat NetID.toNat >>> 21).toNat = netIDType NetID := by
  rw [UInt32.toNat_shiftRight, toNat_myNetwork_id32]
  exact Nat.shiftRight_eq_div_pow _ _

theorem toNat_initID (NetID : BitVec 24) :
    (initID (UInt32.ofNat NetID.toNat)).toNat = shiftedID NetID := by
  have ht := toNat_NetID_Type NetID
  have hlt := netIDType_lt NetID
  have hmask : ∀ n k : ℕ, n &&& (2 ^ k - 1) = n % 2 ^ k := Nat.and_two_pow_sub_one_eq_mod
  unfold initID shiftedID netIDID
  dsimp only
  simp only [UInt32.lt_iff_toNat_lt, ← UInt32.toNat_inj, ht, UInt32.reduceToNat]
  by_cases h2 : netIDType NetID < 2
  · have hw : (decoderType (netIDType NetID)).nwkIdBits = 6 := by
      interval_cases netIDType NetID <;> rfl
    rw [if_pos h2, if_pos (by omega), UInt32.toNat_and, toNat_myNetwork_id32, hw]
    exact (hmask _ 6).trans (by omega)
  · rw [if_neg h2]
    by_cases h3 : netIDType NetID = 2
    · rw [if_pos h3, if_pos (by omega), UInt32.toNat_and, toNat_myNetwork_id32, h3]
      exact (hmask _ 9).trans (show _ = NetID.toNat % 2 ^ 21 % 2 ^ 9 by omega)
    · rw [if_neg h3, if_neg (by omega), UInt32.toNat_and, toNat_myNetwork_id32]
      exact hmask _ 21

theorem fNS_init_eq (NetID : BitVec 24) : ∃ devAddrBase : UInt32,
    fNS_init (UInt32.ofNat NetID.toNat) =
        some (devAddrBase, (decoderType (netIDType NetID)).nwkAddrBits) ∧
      devAddrBase.toNat = (decoderType (netIDType NetID)).marker *
          2 ^ (32 - (decoderType (netIDType NetID)).bits) |||
        shiftedID NetID * 2 ^ (decoderType (netIDType NetID)).nwkAddrBits % 2 ^ 32 := by
  have ht := netIDType_lt NetID
  obtain ⟨base, hinit, hbase⟩ := initType_eq ht
  have hbits : (decoderType (netIDType NetID)).nwkAddrBits < 32 := by
    interval_cases netIDType NetID <;> decide
  refine ⟨base ||| (initID (UInt32.ofNat NetID.toNat) <<<
    UInt32.ofNat (decoderType (netIDType NetID)).nwkAddrBits), ?_, ?_⟩
  · unfold fNS_init
    rw [toNat_NetID_Type, hinit]
    rfl
  · rw [UInt32.toNat_or, hbase, UInt32.toNat_shiftLeft, toNat_initID,
      UInt32.toNat_ofNat_of_lt' (show _ < 2 ^ 32 by omega), Nat.mod_eq_of_lt hbits, Nat.shiftLeft_eq]

section Fields

open BitField

variable {p a w i n : ℕ}

/-- A prefix, an ID and an address put together as `fNS_init` and its users do. -/
def packed (p a w i n : ℕ) : ℕ := p * 2 ^ (a + w) ||| i * 2 ^ a % 2 ^ 32 ||| n

theorem packed_eq : packed p a w i n = p <<< (a + w) ||| i <<< a % 2 ^ 32 ||| n := by
  rw [packed, Nat.shiftLeft_eq, Nat.shiftLeft_eq]

theorem packed_mod (h : a + w ≤ 32) (hn : n < 2 ^ a) : packed p a w i n % 2 ^ a = n := by
  rw [← field_zero, packed_eq, field_or, field_or, field_shiftLeft_above p (by omega),
    field_mod _ (by omega), field_shiftLeft_above i (by omega), Nat.zero_or, Nat.zero_or,
    field_zero, Nat.mod_eq_of_lt hn]

theorem packed_div (h : a + w ≤ 32) (hn : n < 2 ^ a) :
    packed p a w i n / 2 ^ a = p * 2 ^ w ||| i % 2 ^ (32 - a) := by
  have h1 : p * 2 ^ (a + w) / 2 ^ a = p * 2 ^ w := by
    rw [Nat.pow_add, Nat.mul_comm (2 ^ a), ← Nat.mul_assoc]
    exact Nat.mul_div_cancel _ (Nat.two_pow_pos a)
  have h2 : i * 2 ^ a % 2 ^ 32 / 2 ^ a = i % 2 ^ (32 - a) := by
    rw [show (2 : ℕ) ^ 32 = 2 ^ (32 - a) * 2 ^ a by rw [← Nat.pow_add]; congr 1; omega,
      Nat.mul_mod_mul_right]
    exact Nat.mul_div_cancel _ (Nat.two_pow_pos a)
  unfold packed
  rw [Nat.or_div_two_pow, Nat.or_div_two_pow, h1, h2, Nat.div_eq_of_lt hn, Nat.or_zero]

theorem packed_id (h : a + w ≤ 32) (hn : n < 2 ^ a) :
    packed p a w i n / 2 ^ a % 2 ^ w = i % 2 ^ w := by
  show field a w (packed p a w i n) = _
  rw [packed_eq, field_or, field_or, field_shiftLeft_above p (Nat.le_refl _), field_mod _ h,
    field_shiftLeft, field_of_lt hn, Nat.zero_or, Nat.or_zero]

theorem packed_prefix (h : a + w ≤ 32) (hn : n < 2 ^ a) :
    packed p a w i n / 2 ^ (a + w) = p ||| i / 2 ^ w % 2 ^ (32 - (a + w)) := by
  rw [Nat.pow_add, ← Nat.div_div_eq_div_mul, packed_div h hn, Nat.or_div_two_pow,
    Nat.mul_div_cancel _ (Nat.two_pow_pos w)]
  congr 1
  rw [show 32 - a = w + (32 - (a + w)) by omega, Nat.pow_add, Nat.mod_mul_right_div_self]

end Fields

/-- A word with the prefix of a type is decoded as one of that type. -/
theorem parseDevAddr_of_marker {t : ℕ} (ht : t < 8) {d : ℕ}
    (h : d / 2 ^ (32 - (decoderType t).bits) = (decoderType t).marker) :
    parseDevAddr d = some ((decoderType t).netId +
        d / 2 ^ (decoderType t).nwkAddrBits % 2 ^ (decoderType t).nwkIdBits,
      d / 2 ^ (decoderType t).nwkAddrBits % 2 ^ (decoderType t).nwkIdBits,
      d % 2 ^ (decoderType t).nwkAddrBits) := by
  -- no longer prefix, which is tried before, fits as well
  have hfind : (netIdTypes.find? fun ty => decide (d / 2 ^ (32 - ty.bits) = ty.marker)) =
      some (decoderType t) := by
    unfold netIdTypes
    interval_cases t <;> simp only [decoderType, netIdTypes, List.getD_cons_succ,
      List.getD_cons_zero, Nat.reduceSub] at h ⊢ <;>
      simp only [List.find?_cons, Nat.reduceSub, Nat.reducePow] at h ⊢ <;>
      simp (disch := omega) only [decide_eq_false, decide_eq_true]
  unfold parseDevAddr
  rw [hfind]
  rfl

/-! ### When they agree -/

theorem decoderType_netId {t : ℕ} (ht : t < 8) : (decoderType t).netId = t * 2 ^ 21 := by
  interval_cases t <;> rfl

/-- From type 3 on a prefix ends in a zero, which only an odd number changes. -/
theorem marker_or_iff {t y : ℕ} (ht : t < 8) (h3 : 3 ≤ t) (hy : y < 2 ^ (decoderType t).bits) :
    (decoderType t).marker ||| y = (decoderType t).marker ↔ y % 2 = 0 := by
  have hall : ∀ t < 8, 3 ≤ t → ∀ y < 2 ^ (decoderType t).bits,
      ((decoderType t).marker ||| y = (decoderType t).marker ↔ y % 2 = 0) := by
    decide +kernel
  exact hall t ht h3 y hy

/-- The ID leaves the prefix alone exactly when it has the bit above its width clear. -/
theorem prefix_kept_iff (NetID : BitVec 24) :
    (decoderType (netIDType NetID)).marker |||
          shiftedID NetID / 2 ^ (decoderType (netIDType NetID)).nwkIdBits %
            2 ^ (decoderType (netIDType NetID)).bits =
        (decoderType (netIDType NetID)).marker ↔
      netIDType NetID < 3 ∨
        (netIDID NetID).testBit (decoderType (netIDType NetID)).nwkIdBits = false := by
  have ht := netIDType_lt NetID
  unfold shiftedID
  by_cases h3 : netIDType NetID < 3
  · rw [if_pos h3, Nat.div_eq_of_lt (Nat.mod_lt _ (Nat.two_pow_pos _)), Nat.zero_mod, Nat.or_zero]
    exact iff_of_true rfl (Or.inl h3)
  · have hp : 2 ∣ 2 ^ (decoderType (netIDType NetID)).bits := by
      interval_cases netIDType NetID <;> decide
    rw [if_neg h3, marker_or_iff ht (by omega) (Nat.mod_lt _ (Nat.two_pow_pos _)),
      Nat.mod_mod_of_dvd _ hp, Nat.testBit_eq_decide_div_mod_eq, decide_eq_false_iff_not]
    omega

/-- A base with the prefix of its type in place makes addresses that are decoded alike. -/
theorem parseDevAddr_packed (NetID : BitVec 24) {n : ℕ}
    (hn : n < 2 ^ (decoderType (netIDType NetID)).nwkAddrBits)
    (hkept : (decoderType (netIDType NetID)).marker |||
          shiftedID NetID / 2 ^ (decoderType (netIDType NetID)).nwkIdBits %
            2 ^ (decoderType (netIDType NetID)).bits =
        (decoderType (netIDType NetID)).marker) :
    parseDevAddr (packed (decoderType (netIDType NetID)).marker
        (decoderType (netIDType NetID)).nwkAddrBits (decoderType (netIDType NetID)).nwkIdBits
        (shiftedID NetID) n) =
      some (netIDType NetID * 2 ^ 21 +
          netIDID NetID % 2 ^ (decoderType (netIDType NetID)).nwkIdBits,
        netIDID NetID % 2 ^ (decoderType (netIDType NetID)).nwkIdBits, n) := by
  have ht := netIDType_lt NetID
  have hsum := decoderType_bits ht
  have hbits : (decoderType (netIDType NetID)).bits ≤ 32 := by
    interval_cases netIDType NetID <;> decide
  have hle : (decoderType (netIDType NetID)).nwkAddrBits +
      (decoderType (netIDType NetID)).nwkIdBits ≤ 32 := by omega
  have hid : shiftedID NetID % 2 ^ (decoderType (netIDType NetID)).nwkIdBits =
      netIDID NetID % 2 ^ (decoderType (netIDType NetID)).nwkIdBits := by
    unfold shiftedID
    split
    · exact Nat.mod_mod _ _
    · rfl
  rw [parseDevAddr_of_marker ht, packed_id hle hn, packed_mod hle hn, hid, decoderType_netId ht]
  rw [← hsum, packed_prefix hle hn, hsum,
    show 32 - (32 - (decoderType (netIDType NetID)).bits) = (decoderType (netIDType NetID)).bits by
      omega]
  exact hkept

theorem isSome_NwkAddrStr_to_devAddrStr {NwkAddrStr : List Char} {nwkAddr : ℕ}
    (h : Text.scan 16 32 NwkAddrStr = some nwkAddr) (devAddrBase : UInt32) (nwkAddrBits : ℕ) :
    (NwkAddrStr_to_devAddrStr devAddrBase nwkAddrBits NwkAddrStr).isSome ↔
      nwkAddr ≤ 2 ^ nwkAddrBits + 1 := by
  simp only [NwkAddrStr_to_devAddrStr, h]
  split <;> simp <;> omega

/-- The range check lets in the two numbers above the last address. -/
theorem range_iff (devAddrBase : UInt32) (nwkAddrBits : ℕ) (nwkAddr : UInt32) :
    (∀ NwkAddrStr, Text.scan 16 32 NwkAddrStr = some nwkAddr.toNat →
      ((NwkAddrStr_to_devAddrStr devAddrBase nwkAddrBits NwkAddrStr).isSome ↔
        nwkAddr.toNat < 2 ^ nwkAddrBits)) ↔
      nwkAddr.toNat ≠ 2 ^ nwkAddrBits ∧ nwkAddr.toNat ≠ 2 ^ nwkAddrBits + 1 := by
  constructor
  · intro h
    have hscan := @Text.scan_print 16 32 nwkAddr.toNat (by omega) (by omega) (by omega)
      nwkAddr.toNat_lt
    have := (isSome_NwkAddrStr_to_devAddrStr hscan devAddrBase nwkAddrBits).symm.trans (h _ hscan)
    omega
  · intro h NwkAddrStr hscan
    rw [isSome_NwkAddrStr_to_devAddrStr hscan]
    omega

/-- **Encoder and decoder agree on exactly the NetIDs whose ID leaves the prefix alone and
the addresses that are not the two just above the range.** -/
theorem codecsAgree_iff (NetID : BitVec 24) (nwkAddr : UInt32) :
    CodecsAgree NetID nwkAddr ↔ FitsFormat NetID nwkAddr := by
  have ht := netIDType_lt NetID
  have hsum := decoderType_bits ht
  have hbits : (decoderType (netIDType NetID)).bits ≤ 32 := by
    interval_cases netIDType NetID <;> decide
  have hle : (decoderType (netIDType NetID)).nwkAddrBits +
      (decoderType (netIDType NetID)).nwkIdBits ≤ 32 := by omega
  obtain ⟨base, hinit, hbase⟩ := fNS_init_eq NetID
  rw [← hsum] at hbase
  have hpacked : base.toNat = packed (decoderType (netIDType NetID)).marker
      (decoderType (netIDType NetID)).nwkAddrBits (decoderType (netIDType NetID)).nwkIdBits
      (shiftedID NetID) 0 := by
    rw [hbase, packed, Nat.or_zero]
  have hmarker : base.toNat / 2 ^ (32 - (decoderType (netIDType NetID)).bits) =
      (decoderType (netIDType NetID)).marker |||
          shiftedID NetID / 2 ^ (decoderType (netIDType NetID)).nwkIdBits %
            2 ^ (decoderType (netIDType NetID)).bits := by
    rw [hpacked, ← hsum, packed_prefix hle (Nat.two_pow_pos _), hsum]
    congr 3
    omega
  constructor
  · rintro ⟨base', bits', hinit', h⟩
    obtain ⟨rfl, rfl⟩ := Prod.mk.inj (Option.some.inj (hinit.symm.trans hinit'))
    exact ⟨(prefix_kept_iff NetID).1 (hmarker.symm.trans h.marker), (range_iff ..).1 h.range⟩
  · rintro ⟨hclear, hrange⟩
    have hkept := (prefix_kept_iff NetID).2 hclear
    have hparse : nwkAddr.toNat < 2 ^ (decoderType (netIDType NetID)).nwkAddrBits →
        parseDevAddr (base ||| nwkAddr).toNat =
          some (netIDType NetID * 2 ^ 21 +
              netIDID NetID % 2 ^ (decoderType (netIDType NetID)).nwkIdBits,
            netIDID NetID % 2 ^ (decoderType (netIDType NetID)).nwkIdBits, nwkAddr.toNat) := by
      intro hn
      rw [UInt32.toNat_or, hbase]
      exact parseDevAddr_packed NetID hn hkept
    refine ⟨base, _, hinit, hmarker.trans hkept, hparse, ?_, (range_iff ..).2 hrange⟩
    intro hn hfits
    rw [hparse hn, Nat.mod_eq_of_lt hfits]
    exact congrArg some (Nat.div_add_mod' NetID.toNat (2 ^ 21))

/-- NetID type 3 with ID 400 (hex): its bit 10 lands in the prefix, so its DevAddrs are decoded
as type 4. -/
theorem netID_type3_as_type4 : ¬CodecsAgree 0x600400 0 ∧
    (fNS_init 0x600400).map (fun b => parseDevAddr b.1.toNat) = some (some (0x800000, 0, 0)) := by
  constructor
  · rintro ⟨base, bits, hinit, h⟩
    have hbase : base = 0xf0000000 := congrArg Prod.fst (Option.some.inj hinit.symm)
    have := h.marker
    rw [hbase] at this
    revert this
    decide +kernel
  · decide +kernel

end Lorawan.NetworkServer

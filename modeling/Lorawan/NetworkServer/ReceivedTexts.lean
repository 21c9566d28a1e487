import Lorawan.Backend.HexTexts
import Lorawan.Backend.PayloadCipher
import Lorawan.NetworkServer.Transactions

/-!
# Hex texts from outside (network_server/web.c:2153-2195, 2445-2473, app_server/main.c:302-335)

The payloads of messages go into buffers of 256 octets, the keys of a form into buffers of 16.
Texts are C strings, one `Char` for each octet.
-/

namespace Lorawan.NetworkServer
open Lorawan Lorawan.Backend

/-! ### ParseJson of the network server -/

/-- `frm` -/
inductive PayloadKind
  | PHYPayload
  | FRMPayload
deriving DecidableEq

/-- `payBuf` from its start on, and the length that goes with it. -/
structure ReceivedPayload where
  payBuf : Octets
  payloadLen : ℕ
deriving DecidableEq

/-- `int len = strlen(phyStr)` -/
def strlenInt (text : List Char) : ℤ := Int.bmod text.length 0x100000000

/-- `len / 2` as a `uint8_t`. -/
def payloadLen8 (text : List Char) : ℕ := ((strlenInt text).tdiv 2 % 256).toNat

/-- `for (i = 0; i < len; i += 2)` -/
def turns (text : List Char) : ℕ := ((strlenInt text).toNat + 1) / 2

def refusesPayload (frm : PayloadKind) (text : List Char) : Prop :=
  match frm with
  | .PHYPayload => payloadLen8 text < MINIMUM_PHY_SIZE
  | .FRMPayload => MAXIMUM_FRM_SIZE < payloadLen8 text

instance (frm : PayloadKind) (text : List Char) : Decidable (refusesPayload frm text) := by
  unfold refusesPayload
  split <;> infer_instance

/-- A pair without a number stores `junk`. -/
def parsePayload (junk : UInt8) (frm : PayloadKind) (text : List Char) :
    Except Result ReceivedPayload :=
  if refusesPayload frm text then .error .FrameSizeError
  else .ok ⟨(Text.scanOctets junk text).take (turns text), payloadLen8 text⟩

/-! ### app_uplink of the application server -/

structure AppUplink where
  encrypted : Octets
  /-- What `LoRa_Encrypt` gets, as a `uint16_t`. -/
  inputDataLength : UInt16
  /-- The accesses of `LoRa_Encrypt` to its two buffers, given fuel for its loop. -/
  decrypted : ℕ → Option Accesses
  /-- What `save_frame` gets, as a `uint8_t`. -/
  payLen : UInt8

def app_uplink (A : BlockCipher) (junk : UInt8) (AppSKeyBin : Octets) (DevAddr FCntUp : ℕ)
    (frmStr : List Char) : AppUplink :=
  let encrypted := Text.scanOctets junk frmStr
  { encrypted := encrypted
    inputDataLength := .ofNat encrypted.length
    decrypted := encryptAccesses A AppSKeyBin (encrypted.getD · 0) DevAddr true FCntUp 1
      (.ofNat encrypted.length)
    payLen := .ofNat encrypted.length }

/-! ### updateSKeys -/

/-- `numHexDigits(str) < 32 || ascii_hex_to_buf(str, bin) < 0` fails. -/
def takeKey (text : List Char) : Octets × Bool :=
  if numHexDigits text < 32 then ([], false) else ascii_hex_to_buf text

/-- The three buffers, and whether the form was refused. -/
structure StoredSKeys where
  refused : Bool
  SNwkSIntKeyBin : Octets
  FNwkSIntKeyBin : Octets
  NwkSEncKeyBin : Octets
deriving DecidableEq

def updateSKeys (SNwkSIntKey FNwkSIntKey NwkSEncKey : List Char) : StoredSKeys :=
  let s := takeKey SNwkSIntKey
  if s.2 = false then ⟨true, s.1, [], []⟩
  else
    let f := takeKey FNwkSIntKey
    if f.2 = false then ⟨true, s.1, f.1, []⟩
    else
      let n := takeKey NwkSEncKey
      ⟨!n.2, s.1, f.1, n.1⟩

/-! ### The properties and the conditions -/

def PayloadSound (text : List Char) (r : Except Result ReceivedPayload) : Prop :=
  ∀ p, r = .ok p → SoundText 256 text p.payBuf p.payloadLen

structure UplinkSound (text : List Char) (r : AppUplink) : Prop where
  saved : SoundText 256 text r.encrypted r.payLen.toNat
  deciphered : r.inputDataLength.toNat = r.encrypted.length
  inside : ∀ fuel run, r.decrypted fuel = some run → ∀ store ∈ run.stores, store.1 < 256

/-- Sixteen octets of each key go into the query. -/
structure SKeysSound (s f n : List Char) (r : StoredSKeys) : Prop where
  SNwkSIntKey : SoundText 16 s r.SNwkSIntKeyBin 16
  FNwkSIntKey : SoundText 16 f r.FNwkSIntKeyBin 16
  NwkSEncKey : SoundText 16 n r.NwkSEncKeyBin 16

structure SKeysInside (r : StoredSKeys) : Prop where
  SNwkSIntKey : r.SNwkSIntKeyBin.length ≤ 16
  FNwkSIntKey : r.FNwkSIntKeyBin.length ≤ 16
  NwkSEncKey : r.NwkSEncKeyBin.length ≤ 16

/-- Digit pairs for at most 255 octets. -/
def FitsPayload (text : List Char) : Prop := HexPairs text ∧ text.length ≤ 510

/-- Too few digits at the start, or a later pair that is none. -/
def RefusesKey (text : List Char) : Prop :=
  numHexDigits text < 32 ∨ hexPrefix text / 2 ≠ text.length / 2

def FitsKey (text : List Char) : Prop := text.length = 32 ∧ hexPrefix text = 32

/-- Nothing is stored, or at most 33 digits are read. -/
def ReadsKey (text : List Char) : Prop := numHexDigits text < 32 ∨ hexPrefix text ≤ 33

/-! ### Payloads -/

theorem strlenInt_of_short {text : List Char} (h : text.length ≤ 510) :
    strlenInt text = text.length := by
  unfold strlenInt Int.bmod
  dsimp only
  split <;> omega

theorem payloadLen8_lt (text : List Char) : payloadLen8 text < 256 := by
  unfold payloadLen8
  omega

theorem payloadLen8_of_short {text : List Char} (h : text.length ≤ 510) :
    payloadLen8 text = text.length / 2 := by
  rw [payloadLen8, strlenInt_of_short h, show ((text.length : ℤ).tdiv 2) = (text.length / 2 : ℕ) from
    rfl]
  omega

theorem parsePayload_of_short (junk : UInt8) {frm : PayloadKind} {text : List Char}
    (hok : ¬refusesPayload frm text) (h : text.length ≤ 510) :
    parsePayload junk frm text = .ok ⟨Text.scanOctets junk text, text.length / 2⟩ := by
  have hall : (Text.scanOctets junk text).length ≤ turns text := by
    rw [scanOctets_length, turns, strlenInt_of_short h]
    omega
  rw [parsePayload, if_neg hok, payloadLen8_of_short h, List.take_of_length_le hall]

theorem payloadSound_iff (junk : UInt8) (frm : PayloadKind) (text : List Char) :
    PayloadSound text (parsePayload junk frm text) ↔ refusesPayload frm text ∨ FitsPayload text := by
  by_cases hrefuse : refusesPayload frm text
  · refine iff_of_true (fun p hp => ?_) (Or.inl hrefuse)
    rw [parsePayload, if_pos hrefuse] at hp
    cases hp
  · rw [or_iff_right hrefuse]
    constructor
    · intro h
      have hsound := h _ (if_neg hrefuse)
      have hlt := payloadLen8_lt text
      have hhalf := hsound.half
      have hpassed := hsound.passed_eq
      dsimp only at hhalf hpassed
      exact ⟨hsound.pairs, by omega⟩
    · rintro ⟨hpairs, hshort⟩ p hp
      rw [parsePayload_of_short junk hrefuse hshort] at hp
      cases hp
      have heven := hpairs.1
      have hlen := scanOctets_length junk text
      refine ⟨hpairs, ?_, ?_, ?_⟩
      · dsimp only
        omega
      · dsimp only
        omega
      · dsimp only
        omega

theorem encryptAccesses_one_lt (A : BlockCipher) (key : Octets) (input : Buffer) (address : ℕ)
    (up : Bool) (sequenceNumber : ℕ) {n : UInt16} {fuel : ℕ} {run : Accesses}
    (h : encryptAccesses A key input address up sequenceNumber 1 n fuel = some run) :
    ∀ store ∈ run.stores, store.1 < n.toNat := by
  by_cases hn : n = 0
  · rw [encryptAccesses, if_pos hn] at h
    cases h
    exact fun store hstore => nomatch hstore
  · obtain ⟨-, rfl⟩ := encryptAccesses_eq A key address up sequenceNumber hn h
    intro store hstore
    obtain ⟨j, hj, k, hk, rfl⟩ := (mem_blockAccesses ..).mp hstore
    have hone : (1 : UInt8).toNat = 1 := rfl
    rw [hone] at hj hk
    have hlt := bytesToExOr_le (1 + j) n.toNat
    have := (octet_lt_iff (by omega : k < 16)).mp ⟨by omega, hk⟩
    dsimp only
    omega

theorem uplinkSound_iff (A : BlockCipher) (junk : UInt8) (AppSKeyBin : Octets)
    (DevAddr FCntUp : ℕ) (frmStr : List Char) :
    UplinkSound frmStr (app_uplink A junk AppSKeyBin DevAddr FCntUp frmStr) ↔
      FitsPayload frmStr := by
  have hlen := scanOctets_length junk frmStr
  constructor
  · intro h
    have hhalf := h.saved.half
    have hpassed := h.saved.passed_eq
    have hlt := (app_uplink A junk AppSKeyBin DevAddr FCntUp frmStr).payLen.toNat_lt
    exact ⟨h.saved.pairs, by omega⟩
  · rintro ⟨hpairs, hshort⟩
    have heven := hpairs.1
    have h8 : (UInt8.ofNat (Text.scanOctets junk frmStr).length).toNat =
        (Text.scanOctets junk frmStr).length := UInt8.toNat_ofNat_of_lt' (by
      show _ < 256
      omega)
    have h16 : (UInt16.ofNat (Text.scanOctets junk frmStr).length).toNat =
        (Text.scanOctets junk frmStr).length := UInt16.toNat_ofNat_of_lt' (by
      show _ < 65536
      omega)
    refine ⟨⟨hpairs, ?_, h8, ?_⟩, h16, ?_⟩
    · show 2 * (Text.scanOctets junk frmStr).length = _
      omega
    · show (Text.scanOctets junk frmStr).length ≤ 256
      omega
    · intro fuel run hrun store hstore
      have := encryptAccesses_one_lt A AppSKeyBin _ DevAddr true FCntUp hrun store hstore
      omega

/-! ### Keys -/

theorem takeKey_refuses_iff (text : List Char) : (takeKey text).2 = false ↔ RefusesKey text := by
  unfold takeKey RefusesKey
  split
  · rename_i hfew
    exact iff_of_true rfl (Or.inl hfew)
  · rename_i hmany
    rw [or_iff_right hmany, ← Bool.not_eq_true, ascii_hex_to_buf_ok_iff]

theorem takeKey_length (text : List Char) :
    (takeKey text).1.length = if numHexDigits text < 32 then 0 else hexPrefix text / 2 := by
  unfold takeKey
  split
  · rfl
  · exact ascii_hex_to_buf_length text

theorem takeKey_inside_iff (text : List Char) : (takeKey text).1.length ≤ 16 ↔ ReadsKey text := by
  rw [takeKey_length, ReadsKey]
  split <;> omega

theorem takeKey_sound_iff {text : List Char} (h : ¬RefusesKey text) :
    SoundText 16 text (takeKey text).1 16 ↔ FitsKey text := by
  have hmany : ¬numHexDigits text < 32 := fun hfew => h (Or.inl hfew)
  have hpairs : hexPrefix text / 2 = text.length / 2 := not_not.mp fun hne => h (Or.inr hne)
  have hlen := takeKey_length text
  rw [if_neg hmany] at hlen
  constructor
  · intro hsound
    have hprefix := (hexPairs_iff.mp hsound.pairs).2
    have hhalf := hsound.half
    have hpassed := hsound.passed_eq
    exact ⟨by omega, by omega⟩
  · rintro ⟨hlength, hprefix⟩
    refine ⟨hexPairs_iff.mpr ⟨by omega, by omega⟩, by omega, by omega, by omega⟩

theorem updateSKeys_refused_iff (s f n : List Char) :
    (updateSKeys s f n).refused = true ↔ RefusesKey s ∨ RefusesKey f ∨ RefusesKey n := by
  simp only [← takeKey_refuses_iff]
  unfold updateSKeys
  dsimp only
  split
  · rename_i hs
    exact iff_of_true rfl (Or.inl hs)
  · rename_i hs
    rw [or_iff_right hs]
    split
    · rename_i hf
      exact iff_of_true rfl (Or.inl hf)
    · rename_i hf
      rw [or_iff_right hf]
      simp

theorem sKeysSound_iff (s f n : List Char) :
    ((updateSKeys s f n).refused = true ∨ SKeysSound s f n (updateSKeys s f n)) ↔
      (RefusesKey s ∨ RefusesKey f ∨ RefusesKey n) ∨ FitsKey s ∧ FitsKey f ∧ FitsKey n := by
  rw [updateSKeys_refused_iff]
  by_cases hrefuse : RefusesKey s ∨ RefusesKey f ∨ RefusesKey n
  · exact iff_of_true (Or.inl hrefuse) (Or.inl hrefuse)
  · rw [or_iff_right hrefuse, or_iff_right hrefuse]
    obtain ⟨hs, hrefuse⟩ := not_or.mp hrefuse
    obtain ⟨hf, hn⟩ := not_or.mp hrefuse
    have hstored : updateSKeys s f n =
        ⟨!(takeKey n).2, (takeKey s).1, (takeKey f).1, (takeKey n).1⟩ := by
      unfold updateSKeys
      dsimp only
      rw [if_neg fun h => hs ((takeKey_refuses_iff s).mp h),
        if_neg fun h => hf ((takeKey_refuses_iff f).mp h)]
    rw [hstored, ← takeKey_sound_iff hs, ← takeKey_sound_iff hf, ← takeKey_sound_iff hn]
    exact ⟨fun h => ⟨h.SNwkSIntKey, h.FNwkSIntKey, h.NwkSEncKey⟩, fun h => ⟨h.1, h.2.1, h.2.2⟩⟩

theorem sKeysInside_iff (s f n : List Char) :
    SKeysInside (updateSKeys s f n) ↔
      ReadsKey s ∧ (RefusesKey s ∨ ReadsKey f ∧ (RefusesKey f ∨ ReadsKey n)) := by
  simp only [← takeKey_refuses_iff, ← takeKey_inside_iff]
  unfold updateSKeys
  dsimp only
  split
  · rename_i hs
    exact ⟨fun h => ⟨h.SNwkSIntKey, Or.inl hs⟩, fun h => ⟨h.1, Nat.zero_le _, Nat.zero_le _⟩⟩
  · rename_i hs
    rw [or_iff_right hs]
    split
    · rename_i hf
      exact ⟨fun h => ⟨h.SNwkSIntKey, h.FNwkSIntKey, Or.inl hf⟩,
        fun h => ⟨h.1, h.2.1, Nat.zero_le _⟩⟩
    · rename_i hf
      rw [or_iff_right hf]
      exact ⟨fun h => ⟨h.SNwkSIntKey, h.FNwkSIntKey, h.NwkSEncKey⟩, fun h => ⟨h.1, h.2.1, h.2.2⟩⟩

/-- Each text, where it comes in, is refused or decoded as it should be exactly in these cases; the
last part is about the keys of a form that is refused as well. -/
theorem receivedTexts_iff (A : BlockCipher) (junk : UInt8) (text : List Char) (AppSKeyBin : Octets)
    (DevAddr FCntUp : ℕ) (s f n : List Char) :
    (∀ frm, PayloadSound text (parsePayload junk frm text) ↔
        refusesPayload frm text ∨ FitsPayload text) ∧
      (UplinkSound text (app_uplink A junk AppSKeyBin DevAddr FCntUp text) ↔ FitsPayload text) ∧
      ((updateSKeys s f n).refused = true ∨ SKeysSound s f n (updateSKeys s f n) ↔
        (RefusesKey s ∨ RefusesKey f ∨ RefusesKey n) ∨ FitsKey s ∧ FitsKey f ∧ FitsKey n) ∧
      (SKeysInside (updateSKeys s f n) ↔
        ReadsKey s ∧ (RefusesKey s ∨ ReadsKey f ∧ (RefusesKey f ∨ ReadsKey n))) :=
  ⟨fun frm => payloadSound_iff junk frm text,
    uplinkSound_iff A junk AppSKeyBin DevAddr FCntUp text, sKeysSound_iff s f n,
    sKeysInside_iff s f n⟩

/-- 268 octets pass for twelve. -/
theorem longPayload_not_sound :
    ¬PayloadSound (List.replicate 536 '0')
      (parsePayload 0 .PHYPayload (List.replicate 536 '0')) := by
  rw [payloadSound_iff]
  rintro (hrefuse | hfits)
  · exact absurd hrefuse (by decide +kernel)
  · have hshort := hfits.2
    rw [List.length_replicate] at hshort
    omega

end Lorawan.NetworkServer

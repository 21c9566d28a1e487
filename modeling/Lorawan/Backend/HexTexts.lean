import Mathlib.Data.List.TakeWhile
import Lorawan.Backend.Message

/-!
# Hex texts (libserver.c:474-524, 1687-1705)

Three loops turn a hex text into octets. The one with `sscanf` takes what it finds for a digit pair
and stores an octet for a last digit alone; `ascii_hex_to_buf` ends at the first pair that is none.
-/

namespace Lorawan.Backend
open Lorawan

/-- Only pairs of hex digits. -/
def HexPairs (text : List Char) : Prop := 2 ∣ text.length ∧ ∀ c ∈ text, isHexDigit c = true

/-- The digits before the first other character. -/
def hexPrefix (text : List Char) : ℕ := (text.takeWhile isHexDigit).length

/-- `numHexDigits`; the count is an `unsigned`. -/
def numHexDigits (text : List Char) : ℕ := hexPrefix text % 0x100000000

/-- `ascii_hex_to_buf`: the octets it stores, and whether it succeeds. -/
def ascii_hex_to_buf : List Char → Octets × Bool
  | hi :: lo :: cs =>
    match Text.digitVal 16 hi, Text.digitVal 16 lo with
    | some h, some l =>
      (UInt8.ofNat (h * 16 + l) :: (ascii_hex_to_buf cs).1, (ascii_hex_to_buf cs).2)
    | _, _ => ([], false)
  | _ => ([], true)

/-- What a request leaves that decodes `text` into a buffer of `size` octets. -/
structure SoundText (size : ℕ) (text : List Char) (stored : Octets) (passed : ℕ) : Prop where
  pairs : HexPairs text
  half : 2 * stored.length = text.length
  passed_eq : passed = stored.length
  inside : stored.length ≤ size

/-! ### Lengths -/

theorem scanOctets_length (junk : UInt8) (text : List Char) :
    (Text.scanOctets junk text).length = (text.length + 1) / 2 := by
  induction text using Text.scanOctets.induct with
  | case1 => rfl
  | case2 c => simp only [Text.scanOctets, List.length_cons, List.length_nil]
  | case3 c d cs ih =>
    simp only [Text.scanOctets, List.length_cons, ih]
    omega

theorem hexPrefix_le (text : List Char) : hexPrefix text ≤ text.length :=
  (List.takeWhile_prefix isHexDigit).length_le

theorem hexPrefix_eq_length_iff {text : List Char} :
    hexPrefix text = text.length ↔ ∀ c ∈ text, isHexDigit c = true := by
  constructor
  · intro h
    have heq := (List.takeWhile_prefix (l := text) isHexDigit).eq_of_length h
    exact List.takeWhile_eq_self_iff.mp heq
  · intro h
    rw [hexPrefix, List.takeWhile_eq_self_iff.mpr h]

theorem hexPairs_iff {text : List Char} :
    HexPairs text ↔ 2 ∣ text.length ∧ hexPrefix text = text.length := by
  rw [HexPairs, hexPrefix_eq_length_iff]

theorem hexPrefix_cons_cons {hi lo : Char} {cs : List Char} (hhi : isHexDigit hi = true)
    (hlo : isHexDigit lo = true) : hexPrefix (hi :: lo :: cs) = hexPrefix cs + 2 := by
  simp only [hexPrefix, List.takeWhile_cons_of_pos hhi, List.takeWhile_cons_of_pos hlo,
    List.length_cons]

theorem hexPrefix_of_not_pair {hi lo : Char} {cs : List Char}
    (h : ¬(isHexDigit hi = true ∧ isHexDigit lo = true)) : hexPrefix (hi :: lo :: cs) / 2 = 0 := by
  by_cases hhi : isHexDigit hi = true
  · have hlo : ¬isHexDigit lo = true := fun hlo => h ⟨hhi, hlo⟩
    simp [hexPrefix, List.takeWhile_cons_of_pos hhi, List.takeWhile_cons_of_neg hlo]
  · simp [hexPrefix, List.takeWhile_cons_of_neg hhi]

theorem ascii_hex_to_buf_pair {hi lo : Char} {cs : List Char} (hhi : isHexDigit hi = true)
    (hlo : isHexDigit lo = true) :
    (ascii_hex_to_buf (hi :: lo :: cs)).1.length = (ascii_hex_to_buf cs).1.length + 1 ∧
      (ascii_hex_to_buf (hi :: lo :: cs)).2 = (ascii_hex_to_buf cs).2 := by
  obtain ⟨h, hh⟩ := Option.isSome_iff_exists.mp hhi
  obtain ⟨l, hl⟩ := Option.isSome_iff_exists.mp hlo
  simp only [ascii_hex_to_buf, hh, hl, List.length_cons, and_self]

theorem ascii_hex_to_buf_not_pair {hi lo : Char} {cs : List Char}
    (h : ¬(isHexDigit hi = true ∧ isHexDigit lo = true)) :
    ascii_hex_to_buf (hi :: lo :: cs) = ([], false) := by
  rw [ascii_hex_to_buf]
  split
  · rename_i x y hx hy
    exact absurd ⟨by rw [isHexDigit, hx]; rfl, by rw [isHexDigit, hy]; rfl⟩ h
  · rfl

theorem ascii_hex_to_buf_length (text : List Char) :
    (ascii_hex_to_buf text).1.length = hexPrefix text / 2 := by
  induction text using ascii_hex.induct with
  | case1 hi lo cs ih =>
    by_cases h : isHexDigit hi = true ∧ isHexDigit lo = true
    · rw [(ascii_hex_to_buf_pair h.1 h.2).1, ih, hexPrefix_cons_cons h.1 h.2]
      omega
    · rw [ascii_hex_to_buf_not_pair h, hexPrefix_of_not_pair h]
      rfl
  | case2 text hshort =>
    have hle := hexPrefix_le text
    match text with
    | [] => rfl
    | [c] =>
      have hlt : hexPrefix [c] < 2 := by simpa [Nat.lt_succ_iff] using hle
      rw [Nat.div_eq_of_lt hlt]
      rfl
    | hi :: lo :: cs => exact absurd rfl (hshort hi lo cs)

theorem ascii_hex_to_buf_ok_iff (text : List Char) :
    (ascii_hex_to_buf text).2 = true ↔ hexPrefix text / 2 = text.length / 2 := by
  induction text using ascii_hex.induct with
  | case1 hi lo cs ih =>
    by_cases h : isHexDigit hi = true ∧ isHexDigit lo = true
    · rw [(ascii_hex_to_buf_pair h.1 h.2).2, ih, hexPrefix_cons_cons h.1 h.2, List.length_cons,
        List.length_cons]
      omega
    · rw [ascii_hex_to_buf_not_pair h, hexPrefix_of_not_pair h, List.length_cons, List.length_cons]
      simp only [Bool.false_eq_true, false_iff]
      omega
  | case2 text hshort =>
    have hle := hexPrefix_le text
    match text with
    | [] => exact iff_of_true rfl rfl
    | [c] =>
      have hlt : hexPrefix [c] < 2 := by simpa [Nat.lt_succ_iff] using hle
      exact iff_of_true rfl (by rw [Nat.div_eq_of_lt hlt, List.length_singleton])
    | hi :: lo :: cs => exact absurd rfl (hshort hi lo cs)

end Lorawan.Backend

import Lorawan.Lib.Octets
import Lorawan.Lib.Gf256

/-!
# Base64 (app_server/base64.c)

`base64_encode` writes into memory that it allocates by a bound on the length of the text, and
`base64_decode` passes over octets that are not of the alphabet.
-/

namespace Lorawan.AppServer
open Lorawan

/-! ### The source -/

def base64_table : Octets := [
  'A', 'B', 'C', 'D', 'E', 'F', 'G', 'H', 'I', 'J', 'K', 'L', 'M', 'N', 'O', 'P', 'Q', 'R', 'S',
  'T', 'U', 'V', 'W', 'X', 'Y', 'Z', 'a', 'b', 'c', 'd', 'e', 'f', 'g', 'h', 'i', 'j', 'k', 'l',
  'm', 'n', 'o', 'p', 'q', 'r', 's', 't', 'u', 'v', 'w', 'x', 'y', 'z', '0', '1', '2', '3', '4',
  '5', '6', '7', '8', '9', '+', '/'].map fun c => UInt8.ofNat c.toNat

/-- `'='`. -/
def equals : UInt8 := 0x3d

/-- `base64_table[i]`. -/
def tableAt (i : UInt8) : UInt8 := base64_table.getD i.toNat 0

/-- What the loop writes from `out` on, the rest of one or two octets as well. -/
def encodeLoop : Octets → Octets
  | a :: b :: c :: rest =>
    tableAt (a >>> 2) :: tableAt ((a &&& 0x03) <<< 4 ||| b >>> 4) ::
      tableAt ((b &&& 0x0f) <<< 2 ||| c >>> 6) :: tableAt (c &&& 0x3f) :: encodeLoop rest
  | [a, b] =>
    [tableAt (a >>> 2), tableAt ((a &&& 0x03) <<< 4 ||| b >>> 4), tableAt ((b &&& 0x0f) <<< 2),
      equals]
  | [a] => [tableAt (a >>> 2), tableAt ((a &&& 0x03) <<< 4), equals, equals]
  | [] => []

/-- The length of the memory, in arithmetic on `size_t`. -/
def encodeLength (len : ℕ) : ℕ :=
  let olen := (len * 4 % 2 ^ 64 / 3 + 4) % 2 ^ 64
  let olen := (olen + olen / 72) % 2 ^ 64
  (olen + 1) % 2 ^ 64

/-- The length of the memory at `out` and what is written from there on; `malloc` says which lengths
there is memory for. -/
def base64_encode (malloc : ℕ → Bool) (src : Octets) : Option (ℕ × Octets) :=
  let olen := encodeLength src.length
  if olen < src.length then none
  else if malloc olen then some (olen, encodeLoop src ++ [0])
  else none

def dtable : UInt8 → UInt8 :=
  let cleared : UInt8 → UInt8 := fun _ => 0x80
  let filled := (List.range 64).foldl
    (fun d i => Function.update d (base64_table.getD i 0) (UInt8.ofNat i)) cleared
  Function.update filled equals 0

/-- The octets that a whole block gives. -/
def decodeBlock (block : Octets) : Octets :=
  [(block.getD 0 0 <<< 2) ||| (block.getD 1 0 >>> 4),
    (block.getD 1 0 <<< 4) ||| (block.getD 2 0 >>> 2),
    (block.getD 2 0 <<< 6) ||| block.getD 3 0]

/-- The second loop, from what it has in `block`, `pad` and the memory at `out`: what is written
there in the end, and how many octets of it stand; `none` is the return of `NULL`. -/
def decodeLoop : Octets → Octets → ℕ → Octets → Octets × Option ℕ
  | [], _, _, out => (out, some out.length)
  | c :: src, block, pad, out =>
    let tmp := dtable c
    if tmp = 0x80 then decodeLoop src block pad out
    else
      let pad := if c = equals then pad + 1 else pad
      let block := block ++ [tmp]
      if block.length = 4 then
        let out := out ++ decodeBlock block
        if pad ≠ 0 then
          if pad = 1 then (out, some (out.length - 1))
          else if pad = 2 then (out, some (out.length - 2))
          else (out, none)
        else decodeLoop src [] pad out
      else decodeLoop src block pad out

/-- What the first loop counts. -/
def decodeCount (src : Octets) : ℕ := src.countP fun c => dtable c ≠ 0x80

/-- The length of the memory at `out`, what is written from there on, and the length that is
returned. -/
def base64_decode (malloc : ℕ → Bool) (src : Octets) : Option (ℕ × Octets × Option ℕ) :=
  let count := decodeCount src
  if count = 0 ∨ count % 4 ≠ 0 then none
  else
    let olen := count / 4 * 3
    if malloc olen then some (olen, decodeLoop src [] 0 []) else none

/-! ### The text of the octets -/

/-- The digit of the alphabet. -/
def digit (v : ℕ) : UInt8 := base64_table.getD (v % 64) 0

/-- Three octets are a number of four digits; where octets are missing, so are digits. -/
def base64 : Octets → Octets
  | a :: b :: c :: rest =>
    let v := a.toNat * 65536 + b.toNat * 256 + c.toNat
    digit (v / 262144) :: digit (v / 4096) :: digit (v / 64) :: digit v :: base64 rest
  | [a, b] =>
    let v := a.toNat * 65536 + b.toNat * 256
    [digit (v / 262144), digit (v / 4096), digit (v / 64), equals]
  | [a] =>
    let v := a.toNat * 65536
    [digit (v / 262144), digit (v / 4096), equals, equals]
  | [] => []

/-! ### Octets and sixes of bits -/

section

variable (a b c : UInt8)

theorem and_three : (a &&& 0x03).toNat = a.toNat % 4 := by
  rw [UInt8.toNat_and]
  exact Nat.and_two_pow_sub_one_eq_mod a.toNat 2

theorem and_fifteen : (a &&& 0x0f).toNat = a.toNat % 16 := by
  rw [UInt8.toNat_and]
  exact Nat.and_two_pow_sub_one_eq_mod a.toNat 4

theorem and_sixtythree : (a &&& 0x3f).toNat = a.toNat % 64 := by
  rw [UInt8.toNat_and]
  exact Nat.and_two_pow_sub_one_eq_mod a.toNat 6

theorem or_toNat {x y : UInt8} (k : ℕ) (hx : 2 ^ k ∣ x.toNat) (hy : y.toNat < 2 ^ k) :
    (x ||| y).toNat = x.toNat + y.toNat := by
  obtain ⟨q, hq⟩ := hx
  rw [UInt8.toNat_or, hq, Nat.two_pow_add_eq_or_of_lt hy]

theorem first_six : (a >>> 2).toNat = a.toNat / 4 := by
  simp [Nat.shiftRight_eq_div_pow]

theorem left_two : ((a &&& 0x03) <<< 4).toNat = a.toNat % 4 * 16 := by
  rw [UInt8.toNat_shiftLeft, and_three]
  simp only [UInt8.reduceToNat, Nat.shiftLeft_eq, Nat.reduceMod, Nat.reducePow]
  omega

theorem left_four : ((b &&& 0x0f) <<< 2).toNat = b.toNat % 16 * 4 := by
  rw [UInt8.toNat_shiftLeft, and_fifteen]
  simp only [UInt8.reduceToNat, Nat.shiftLeft_eq, Nat.reduceMod, Nat.reducePow]
  omega

theorem right_four : (b >>> 4).toNat = b.toNat / 16 := by
  simp [Nat.shiftRight_eq_div_pow]

theorem right_two : (c >>> 6).toNat = c.toNat / 64 := by
  simp [Nat.shiftRight_eq_div_pow]

theorem second_six :
    ((a &&& 0x03) <<< 4 ||| b >>> 4).toNat = a.toNat % 4 * 16 + b.toNat / 16 := by
  have hb := b.toNat_lt
  rw [or_toNat 4, left_two, right_four]
  · rw [left_two]
    exact Nat.dvd_mul_left 16 _
  · rw [right_four]
    omega

theorem third_six :
    ((b &&& 0x0f) <<< 2 ||| c >>> 6).toNat = b.toNat % 16 * 4 + c.toNat / 64 := by
  have hc := c.toNat_lt
  rw [or_toNat 2, left_four, right_two]
  · rw [left_four]
    exact Nat.dvd_mul_left 4 _
  · rw [right_two]
    omega

theorem shiftLeft_two : (a <<< 2).toNat = a.toNat % 64 * 4 := by
  rw [UInt8.toNat_shiftLeft]
  simp only [UInt8.reduceToNat, Nat.shiftLeft_eq, Nat.reduceMod, Nat.reducePow]
  omega

theorem shiftLeft_four : (a <<< 4).toNat = a.toNat % 16 * 16 := by
  rw [UInt8.toNat_shiftLeft]
  simp only [UInt8.reduceToNat, Nat.shiftLeft_eq, Nat.reduceMod, Nat.reducePow]
  omega

theorem shiftLeft_six : (a <<< 6).toNat = a.toNat % 4 * 64 := by
  rw [UInt8.toNat_shiftLeft]
  simp only [UInt8.reduceToNat, Nat.shiftLeft_eq, Nat.reduceMod, Nat.reducePow]
  omega

variable {a b c}

theorem first_octet (hb : b.toNat < 64) :
    (a <<< 2 ||| b >>> 4).toNat = a.toNat % 64 * 4 + b.toNat / 16 := by
  rw [or_toNat 2, shiftLeft_two, right_four]
  · rw [shiftLeft_two]
    exact Nat.dvd_mul_left 4 _
  · rw [right_four]
    omega

theorem second_octet (hb : b.toNat < 64) :
    (a <<< 4 ||| b >>> 2).toNat = a.toNat % 16 * 16 + b.toNat / 4 := by
  rw [or_toNat 4, shiftLeft_four, first_six]
  · rw [shiftLeft_four]
    exact Nat.dvd_mul_left 16 _
  · rw [first_six]
    omega

theorem third_octet (hb : b.toNat < 64) : (a <<< 6 ||| b).toNat = a.toNat % 4 * 64 + b.toNat := by
  rw [or_toNat 6 _ hb, shiftLeft_six]
  rw [shiftLeft_six]
  exact Nat.dvd_mul_left 64 _

end

/-! ### The memory -/

theorem tableAt_eq {i : UInt8} {v : ℕ} (h : i.toNat = v % 64) : tableAt i = digit v := by
  rw [tableAt, digit, h]

theorem encodeLoop_eq (src : Octets) : encodeLoop src = base64 src := by
  induction src using encodeLoop.induct with
  | case1 a b c rest ih =>
    have ha := a.toNat_lt
    have hb := b.toNat_lt
    have hc := c.toNat_lt
    have h1 : tableAt (a >>> 2) =
        digit ((a.toNat * 65536 + b.toNat * 256 + c.toNat) / 262144) :=
      tableAt_eq (by rw [first_six]; omega)
    have h2 : tableAt ((a &&& 0x03) <<< 4 ||| b >>> 4) =
        digit ((a.toNat * 65536 + b.toNat * 256 + c.toNat) / 4096) :=
      tableAt_eq (by rw [second_six]; omega)
    have h3 : tableAt ((b &&& 0x0f) <<< 2 ||| c >>> 6) =
        digit ((a.toNat * 65536 + b.toNat * 256 + c.toNat) / 64) :=
      tableAt_eq (by rw [third_six]; omega)
    have h4 : tableAt (c &&& 0x3f) = digit (a.toNat * 65536 + b.toNat * 256 + c.toNat) :=
      tableAt_eq (by rw [and_sixtythree]; omega)
    rw [encodeLoop, base64, ih, h1, h2, h3, h4]
  | case2 a b =>
    have ha := a.toNat_lt
    have hb := b.toNat_lt
    have h1 : tableAt (a >>> 2) = digit ((a.toNat * 65536 + b.toNat * 256) / 262144) :=
      tableAt_eq (by rw [first_six]; omega)
    have h2 : tableAt ((a &&& 0x03) <<< 4 ||| b >>> 4) =
        digit ((a.toNat * 65536 + b.toNat * 256) / 4096) :=
      tableAt_eq (by rw [second_six]; omega)
    have h3 : tableAt ((b &&& 0x0f) <<< 2) = digit ((a.toNat * 65536 + b.toNat * 256) / 64) :=
      tableAt_eq (by rw [left_four]; omega)
    rw [encodeLoop, base64, h1, h2, h3]
  | case3 a =>
    have ha := a.toNat_lt
    have h1 : tableAt (a >>> 2) = digit (a.toNat * 65536 / 262144) :=
      tableAt_eq (by rw [first_six]; omega)
    have h2 : tableAt ((a &&& 0x03) <<< 4) = digit (a.toNat * 65536 / 4096) :=
      tableAt_eq (by rw [left_two]; omega)
    rw [encodeLoop, base64, h1, h2]
  | case4 => rw [encodeLoop, base64]

theorem length_base64 (src : Octets) : (base64 src).length = (src.length + 2) / 3 * 4 := by
  induction src using base64.induct with
  | case1 a b c rest ih =>
    rw [base64]
    simp only [List.length_cons, ih]
    omega
  | case2 a b => rw [base64, List.length_cons, List.length_cons, List.length_cons, List.length_cons,
      List.length_nil, List.length_cons, List.length_cons, List.length_nil]
  | case3 a => rw [base64, List.length_cons, List.length_cons, List.length_cons, List.length_cons,
      List.length_nil, List.length_cons, List.length_nil]
  | case4 => rw [base64, List.length_nil]

theorem encodeLength_eq {len : ℕ} (h : 4 * len < 2 ^ 64) :
    encodeLength len = len * 4 / 3 + 4 + (len * 4 / 3 + 4) / 72 + 1 := by
  unfold encodeLength
  dsimp only
  rw [Nat.mod_eq_of_lt (show len * 4 < 2 ^ 64 by omega),
    Nat.mod_eq_of_lt (show len * 4 / 3 + 4 < 2 ^ 64 by omega),
    Nat.mod_eq_of_lt (show len * 4 / 3 + 4 + (len * 4 / 3 + 4) / 72 < 2 ^ 64 by omega),
    Nat.mod_eq_of_lt (by omega)]

theorem encodeLength_lt {len : ℕ} (h : 2 ^ 64 ≤ 4 * len) (hlen : len < 2 ^ 64) :
    encodeLength len < len := by
  unfold encodeLength
  dsimp only
  have hrest : len * 4 % 2 ^ 64 ≤ len * 4 - 2 ^ 64 := by omega
  have hlt : len * 4 % 2 ^ 64 < 2 ^ 64 := Nat.mod_lt _ (by omega)
  generalize len * 4 % 2 ^ 64 = rest at hrest hlt ⊢
  rw [Nat.mod_eq_of_lt (show rest / 3 + 4 < 2 ^ 64 by omega),
    Nat.mod_eq_of_lt (show rest / 3 + 4 + (rest / 3 + 4) / 72 < 2 ^ 64 by omega),
    Nat.mod_eq_of_lt (by omega)]
  omega

/-- `base64_encode` answers exactly where the fourfold length is a `size_t` and there is memory; the
text and the zero after it are within the memory. -/
theorem base64_encode_fits (malloc : ℕ → Bool) {src : Octets} (h : src.length < 2 ^ 64) :
    base64_encode malloc src =
        (if 4 * src.length < 2 ^ 64 ∧ malloc (encodeLength src.length) = true then
          some (encodeLength src.length, base64 src ++ [0])
        else none) ∧
      (4 * src.length < 2 ^ 64 →
        (base64 src ++ [0]).length ≤ encodeLength src.length) := by
  constructor
  · rw [base64_encode]
    by_cases hwrap : 4 * src.length < 2 ^ 64
    · have hge : ¬encodeLength src.length < src.length := by
        rw [encodeLength_eq hwrap]
        omega
      rw [if_neg hge, encodeLoop_eq]
      by_cases hmalloc : malloc (encodeLength src.length) = true
      · rw [if_pos hmalloc, if_pos ⟨hwrap, hmalloc⟩]
      · rw [if_neg hmalloc, if_neg fun hboth => hmalloc hboth.2]
    · rw [if_pos (encodeLength_lt (by omega) h), if_neg fun hboth => hwrap hboth.1]
  · intro hwrap
    rw [List.length_append, length_base64, List.length_singleton, encodeLength_eq hwrap]
    omega

theorem base64_encode_one_octet :
    base64_encode (fun _ => true) [0x4d] = some (6, [0x54, 0x51, 0x3d, 0x3d, 0]) := by
  rw [(@base64_encode_fits (fun _ => true) [0x4d] (by decide)).1]
  decide +kernel

/-! ### The way back -/

/-- An octet that `base64_decode` does not pass over. -/
def significant (c : UInt8) : Bool := decide (dtable c ≠ 0x80)

theorem digit_read (v : ℕ) :
    (dtable (digit v)).toNat = v % 64 ∧ digit v ≠ equals ∧ significant (digit v) = true := by
  have hall : ∀ n < 64, (dtable (base64_table.getD n 0)).toNat = n ∧
      base64_table.getD n 0 ≠ equals ∧ significant (base64_table.getD n 0) = true := by
    decide +kernel
  exact hall (v % 64) (Nat.mod_lt v (by omega))

theorem dtable_equals : dtable equals = 0 := by decide +kernel

theorem significant_equals : significant equals = true := by decide +kernel

theorem decodeLoop_filter (src block : Octets) (pad : ℕ) (out : Octets) :
    decodeLoop src block pad out = decodeLoop (src.filter significant) block pad out := by
  induction src generalizing block pad out with
  | nil => rfl
  | cons c src ih =>
    by_cases hskip : dtable c = 0x80
    · have hnot : ¬significant c = true := fun h => of_decide_eq_true h hskip
      rw [List.filter_cons_of_neg hnot, decodeLoop]
      dsimp only
      rw [if_pos hskip, ih]
    · have hstays : significant c = true := decide_eq_true hskip
      rw [List.filter_cons_of_pos hstays, decodeLoop, decodeLoop]
      dsimp only
      rw [if_neg hskip, if_neg hskip, ih, ih]

/-- How many octets of a group fill it up. -/
def padding (group : Octets) : ℕ := group.count equals

/-- The loop on groups of four octets, none of them passed over. -/
def decodeGroups : Octets → Octets → Octets × Option ℕ
  | c₀ :: c₁ :: c₂ :: c₃ :: rest, out =>
    let out := out ++ decodeBlock [dtable c₀, dtable c₁, dtable c₂, dtable c₃]
    match padding [c₀, c₁, c₂, c₃] with
    | 0 => decodeGroups rest out
    | 1 => (out, some (out.length - 1))
    | 2 => (out, some (out.length - 2))
    | _ => (out, none)
  | _, out => (out, some out.length)

theorem decodeLoop_short {c : UInt8} {src block : Octets} (hc : significant c = true)
    (hblock : block.length < 3) (pad : ℕ) (out : Octets) :
    decodeLoop (c :: src) block pad out =
      decodeLoop src (block ++ [dtable c]) (pad + if c = equals then 1 else 0) out := by
  have hlength : (block ++ [dtable c]).length ≠ 4 := by
    rw [List.length_append, List.length_singleton]
    omega
  have hpad : (if c = equals then pad + 1 else pad) = pad + if c = equals then 1 else 0 := by
    split <;> rfl
  rw [decodeLoop]
  dsimp only
  rw [if_neg (of_decide_eq_true hc), if_neg hlength, hpad]

theorem decodeLoop_full {c : UInt8} {src block : Octets} (hc : significant c = true)
    (hblock : block.length = 3) (pad : ℕ) (out : Octets) :
    decodeLoop (c :: src) block pad out =
      match pad + if c = equals then 1 else 0 with
      | 0 => decodeLoop src [] 0 (out ++ decodeBlock (block ++ [dtable c]))
      | 1 => (out ++ decodeBlock (block ++ [dtable c]),
          some ((out ++ decodeBlock (block ++ [dtable c])).length - 1))
      | 2 => (out ++ decodeBlock (block ++ [dtable c]),
          some ((out ++ decodeBlock (block ++ [dtable c])).length - 2))
      | _ => (out ++ decodeBlock (block ++ [dtable c]), none) := by
  have hlength : (block ++ [dtable c]).length = 4 := by
    rw [List.length_append, List.length_singleton, hblock]
  have hpad : (if c = equals then pad + 1 else pad) = pad + if c = equals then 1 else 0 := by
    split <;> rfl
  rw [decodeLoop]
  dsimp only
  rw [if_neg (of_decide_eq_true hc), if_pos hlength, hpad]
  rcases pad + (if c = equals then 1 else 0) with _ | _ | _ | n
  · rfl
  · rfl
  · rfl
  · rw [if_pos (by omega), if_neg (by omega), if_neg (by omega)]
    rfl

theorem padding_four (c₀ c₁ c₂ c₃ : UInt8) :
    padding [c₀, c₁, c₂, c₃] = 0 + (if c₀ = equals then 1 else 0) + (if c₁ = equals then 1 else 0) +
      (if c₂ = equals then 1 else 0) + if c₃ = equals then 1 else 0 := by
  simp only [padding, List.count_cons, List.count_nil, beq_iff_eq]
  omega

theorem decodeLoop_four {c₀ c₁ c₂ c₃ : UInt8} {rest : Octets} (h₀ : significant c₀ = true)
    (h₁ : significant c₁ = true) (h₂ : significant c₂ = true) (h₃ : significant c₃ = true)
    (out : Octets) :
    decodeLoop (c₀ :: c₁ :: c₂ :: c₃ :: rest) [] 0 out =
      let out := out ++ decodeBlock [dtable c₀, dtable c₁, dtable c₂, dtable c₃]
      match padding [c₀, c₁, c₂, c₃] with
      | 0 => decodeLoop rest [] 0 out
      | 1 => (out, some (out.length - 1))
      | 2 => (out, some (out.length - 2))
      | _ => (out, none) := by
  rw [decodeLoop_short h₀ (by rw [List.length_nil]; omega),
    decodeLoop_short h₁ (by rw [List.nil_append, List.length_singleton]; omega),
    decodeLoop_short h₂ (by simp only [List.nil_append, List.length_append, List.length_singleton]
                            omega),
    decodeLoop_full h₃ (by simp only [List.nil_append, List.length_append, List.length_singleton]),
    padding_four]
  rfl

theorem decodeLoop_eq_groups {text : Octets} (h : ∀ c ∈ text, significant c = true) (out : Octets) :
    decodeLoop text [] 0 out = decodeGroups text out := by
  match text with
  | c₀ :: c₁ :: c₂ :: c₃ :: rest =>
    have hrest := fun out => @decodeLoop_eq_groups rest
      (fun c hc => h c (by simp only [List.mem_cons, hc, or_true])) out
    rw [decodeLoop_four (h c₀ (by simp)) (h c₁ (by simp)) (h c₂ (by simp)) (h c₃ (by simp)),
      decodeGroups]
    dsimp only
    rw [hrest]
  | [] =>
    rw [decodeLoop, decodeGroups]
    all_goals simp
  | [c₀] =>
    rw [decodeLoop_short (h c₀ (by simp)) (by simp), decodeLoop, decodeGroups]
    all_goals simp
  | [c₀, c₁] =>
    rw [decodeLoop_short (h c₀ (by simp)) (by simp), decodeLoop_short (h c₁ (by simp)) (by simp),
      decodeLoop, decodeGroups]
    all_goals simp
  | [c₀, c₁, c₂] =>
    rw [decodeLoop_short (h c₀ (by simp)) (by simp), decodeLoop_short (h c₁ (by simp)) (by simp),
      decodeLoop_short (h c₂ (by simp)) (by simp), decodeLoop, decodeGroups]
    all_goals simp

theorem significant_base64 (src : Octets) : ∀ c ∈ base64 src, significant c = true := by
  have hdigit := fun v => (digit_read v).2.2
  have hequals := significant_equals
  induction src using base64.induct with
  | case1 a b c rest ih =>
    rw [base64]
    simpa only [List.forall_mem_cons, hdigit, true_and] using ih
  | case2 a b =>
    simp only [base64, List.forall_mem_cons, hdigit, hequals, true_and, List.not_mem_nil,
      false_imp_iff, implies_true]
  | case3 a =>
    simp only [base64, List.forall_mem_cons, hdigit, hequals, true_and, List.not_mem_nil,
      false_imp_iff, implies_true]
  | case4 => simp only [base64, List.not_mem_nil, false_imp_iff, implies_true]

theorem decodeBlock_digits {x y z w : UInt8} {v : ℕ} (hx : x.toNat = v / 262144 % 64)
    (hy : y.toNat = v / 4096 % 64) (hz : z.toNat = v / 64 % 64) (hw : w.toNat = v % 64) :
    decodeBlock [x, y, z, w] =
      [UInt8.ofNat (v / 65536), UInt8.ofNat (v / 256), UInt8.ofNat v] := by
  have h1 : x <<< 2 ||| y >>> 4 = UInt8.ofNat (v / 65536) := by
    apply UInt8.toNat_inj.mp
    rw [first_octet (by omega), UInt8.toNat_ofNat', hx, hy]
    omega
  have h2 : y <<< 4 ||| z >>> 2 = UInt8.ofNat (v / 256) := by
    apply UInt8.toNat_inj.mp
    rw [second_octet (by omega), UInt8.toNat_ofNat', hy, hz]
    omega
  have h3 : z <<< 6 ||| w = UInt8.ofNat v := by
    apply UInt8.toNat_inj.mp
    rw [third_octet (by omega), UInt8.toNat_ofNat', hz, hw]
    omega
  exact congrArg₂ List.cons h1 (congrArg₂ List.cons h2 (congrArg₂ List.cons h3 rfl))

theorem octets_of_value (a b c : UInt8) :
    UInt8.ofNat ((a.toNat * 65536 + b.toNat * 256 + c.toNat) / 65536) = a ∧
      UInt8.ofNat ((a.toNat * 65536 + b.toNat * 256 + c.toNat) / 256) = b ∧
      UInt8.ofNat (a.toNat * 65536 + b.toNat * 256 + c.toNat) = c := by
  have ha := a.toNat_lt
  have hb := b.toNat_lt
  have hc := c.toNat_lt
  refine ⟨?_, ?_, ?_⟩ <;>
  · apply UInt8.toNat_inj.mp
    rw [UInt8.toNat_ofNat']
    omega

/-- What four octets of the text, of which the last may be no digits, give of three octets. -/
theorem decodeBlock_octets (a b c : UInt8) {z w : UInt8}
    (hz : z.toNat = (a.toNat * 65536 + b.toNat * 256 + c.toNat) / 64 % 64)
    (hw : w.toNat = (a.toNat * 65536 + b.toNat * 256 + c.toNat) % 64) :
    decodeBlock [dtable (digit ((a.toNat * 65536 + b.toNat * 256 + c.toNat) / 262144)),
      dtable (digit ((a.toNat * 65536 + b.toNat * 256 + c.toNat) / 4096)), z, w] = [a, b, c] := by
  obtain ⟨h1, h2, h3⟩ := octets_of_value a b c
  rw [decodeBlock_digits (digit_read _).1 (digit_read _).1 hz hw, h1, h2, h3]

theorem padding_digits (v₀ v₁ : ℕ) (z w : UInt8) :
    padding [digit v₀, digit v₁, z, w] =
      (if z = equals then 1 else 0) + if w = equals then 1 else 0 := by
  rw [padding_four, if_neg (digit_read v₀).2.1, if_neg (digit_read v₁).2.1]
  omega

theorem decodeGroups_base64 (src out : Octets) :
    ∃ extra, decodeGroups (base64 src) out =
      (out ++ src ++ extra, some (out.length + src.length)) := by
  induction src using base64.induct generalizing out with
  | case1 a b c rest ih =>
    obtain ⟨extra, hrest⟩ := ih (out ++ [a, b, c])
    refine ⟨extra, ?_⟩
    rw [base64, decodeGroups, padding_digits, if_neg (digit_read _).2.1, if_neg (digit_read _).2.1,
      decodeBlock_octets a b c (digit_read _).1 (digit_read _).1, hrest, List.append_assoc out,
      List.length_append]
    simp only [List.length_cons, List.length_nil, List.cons_append, List.nil_append]
    rw [Nat.add_assoc, Nat.add_comm 3 rest.length]
  | case2 a b =>
    refine ⟨[0], ?_⟩
    have hzero : (dtable equals).toNat =
        (a.toNat * 65536 + b.toNat * 256 + (0 : UInt8).toNat) % 64 := by
      rw [dtable_equals, UInt8.toNat_zero]
      omega
    rw [base64, decodeGroups, padding_digits, if_neg (digit_read _).2.1, if_pos rfl]
    have hblock := decodeBlock_octets a b 0 (digit_read _).1 hzero
    rw [UInt8.toNat_zero, Nat.add_zero] at hblock
    rw [hblock]
    simp
  | case3 a =>
    refine ⟨[0, 0], ?_⟩
    have hzero : (dtable equals).toNat =
        (a.toNat * 65536 + (0 : UInt8).toNat * 256 + (0 : UInt8).toNat) % 64 := by
      rw [dtable_equals, UInt8.toNat_zero]
      omega
    have hzero' : (dtable equals).toNat =
        (a.toNat * 65536 + (0 : UInt8).toNat * 256 + (0 : UInt8).toNat) / 64 % 64 := by
      rw [dtable_equals, UInt8.toNat_zero]
      omega
    have hblock := decodeBlock_octets a 0 0 hzero' hzero
    rw [UInt8.toNat_zero, Nat.zero_mul, Nat.add_zero] at hblock
    rw [base64, decodeGroups, padding_digits, if_pos rfl, hblock]
    simp
  | case4 =>
    refine ⟨[], ?_⟩
    rw [base64, decodeGroups]
    · simp
    · simp

theorem decodeLoop_length (src : Octets) {block : Octets} (h : block.length < 4) (pad : ℕ)
    (out : Octets) :
    (decodeLoop src block pad out).1.length ≤
      out.length + (block.length + decodeCount src) / 4 * 3 := by
  induction src generalizing block pad out with
  | nil =>
    rw [decodeLoop]
    exact Nat.le_add_right _ _
  | cons c src ih =>
    rw [decodeLoop]
    dsimp only
    by_cases hskip : dtable c = 0x80
    · have hcount : decodeCount (c :: src) = decodeCount src :=
        List.countP_cons_of_neg (by simpa using hskip)
      rw [if_pos hskip, hcount]
      exact ih h pad out
    · have hcount : decodeCount (c :: src) = decodeCount src + 1 :=
        List.countP_cons_of_pos (by simpa using hskip)
      have hlength : (block ++ [dtable c]).length = block.length + 1 := List.length_append
      have hwritten : (out ++ decodeBlock (block ++ [dtable c])).length = out.length + 3 :=
        List.length_append
      rw [if_neg hskip, hcount]
      generalize (if c = equals then pad + 1 else pad) = pad
      by_cases hfull : (block ++ [dtable c]).length = 4
      · have hstay : out.length + 3 ≤
            out.length + (block.length + (decodeCount src + 1)) / 4 * 3 := by
          omega
        rw [if_pos hfull]
        by_cases hpad : pad = 0
        · have hrest := @ih [] (by rw [List.length_nil]; omega) pad
            (out ++ decodeBlock (block ++ [dtable c]))
          rw [hwritten, List.length_nil] at hrest
          rw [if_neg (not_not.mpr hpad)]
          omega
        · rw [if_pos hpad]
          split
          · rwa [hwritten]
          · split <;> rwa [hwritten]
      · have hrest := @ih (block ++ [dtable c]) (by omega) pad out
        rw [if_neg hfull]
        rw [hlength] at hrest
        omega

theorem decodeLoop_stands (src block : Octets) (pad : ℕ) (out : Octets) {k : ℕ}
    (h : (decodeLoop src block pad out).2 = some k) :
    k ≤ (decodeLoop src block pad out).1.length := by
  induction src generalizing block pad out with
  | nil =>
    rw [decodeLoop] at h ⊢
    exact le_of_eq (Option.some_inj.mp h).symm
  | cons c src ih =>
    rw [decodeLoop] at h ⊢
    dsimp only at h ⊢
    by_cases hskip : dtable c = 0x80
    · rw [if_pos hskip] at h ⊢
      exact ih block pad out h
    · rw [if_neg hskip] at h ⊢
      generalize (if c = equals then pad + 1 else pad) = pad at h ⊢
      by_cases hfull : (block ++ [dtable c]).length = 4
      · rw [if_pos hfull] at h ⊢
        by_cases hpad : pad = 0
        · rw [if_neg (not_not.mpr hpad)] at h ⊢
          exact ih [] pad _ h
        · rw [if_pos hpad] at h ⊢
          split at h
          · rename_i hone
            rw [if_pos hone, ← Option.some_inj.mp h]
            exact Nat.sub_le _ _
          · rename_i hone
            rw [if_neg hone]
            split at h
            · rename_i htwo
              rw [if_pos htwo, ← Option.some_inj.mp h]
              exact Nat.sub_le _ _
            · cases h
      · rw [if_neg hfull] at h ⊢
        exact ih _ pad out h

theorem decodeCount_filter (src : Octets) :
    decodeCount src = (src.filter significant).length :=
  List.countP_eq_length_filter ..

/-- Whatever the text is, nothing is written beyond the memory. The text of some octets, with any
octets between that are passed over, gives the octets back, but for the text of no octets. -/
theorem base64_decode_base64 (malloc : ℕ → Bool) (text : Octets) :
    (∀ olen out n, base64_decode malloc text = some (olen, out, n) →
      out.length ≤ olen ∧ ∀ k, n = some k → k ≤ out.length) ∧
    ∀ src, text.filter significant = base64 src →
      if src = [] then base64_decode malloc text = none
      else malloc ((src.length + 2) / 3 * 3) = true → ∃ out,
        base64_decode malloc text = some ((src.length + 2) / 3 * 3, out, some src.length) ∧
          out.take src.length = src := by
  constructor
  · intro olen out n h
    rw [base64_decode] at h
    dsimp only at h
    split at h
    · cases h
    · split at h
      · have hfits := @decodeLoop_length text [] (by rw [List.length_nil]; omega) 0 []
        have hstands := fun k => decodeLoop_stands text [] 0 [] (k := k)
        obtain ⟨rfl, hloop⟩ := Prod.mk.inj (Option.some_inj.mp h)
        rw [hloop] at hfits
        rw [hloop] at hstands
        exact ⟨by simpa using hfits, hstands⟩
      · cases h
  · intro src h
    have hcount : decodeCount text = (src.length + 2) / 3 * 4 := by
      rw [decodeCount_filter, h, length_base64]
    by_cases hnil : src = []
    · have hzero : decodeCount text = 0 := by rw [hcount, hnil, List.length_nil]
      rw [if_pos hnil, base64_decode]
      exact if_pos (Or.inl hzero)
    · have hlength := List.length_pos_iff.mpr hnil
      have hwhole : ¬(decodeCount text = 0 ∨ decodeCount text % 4 ≠ 0) := by omega
      have hmemory : decodeCount text / 4 * 3 = (src.length + 2) / 3 * 3 := by omega
      obtain ⟨extra, hgroups⟩ := decodeGroups_base64 src []
      rw [if_neg hnil]
      intro hmalloc
      refine ⟨src ++ extra, ?_, List.take_left⟩
      rw [base64_decode]
      dsimp only
      rw [if_neg hwhole, hmemory, if_pos hmalloc, decodeLoop_filter, h,
        decodeLoop_eq_groups (significant_base64 src), hgroups, List.nil_append, List.length_nil,
        Nat.zero_add]

end Lorawan.AppServer

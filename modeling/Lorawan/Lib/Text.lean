import Lorawan.Lib.Octets

/-!
# Numbers as text

The `printf` and `scanf` conversions that carry numbers between programs:
`%x`, `%u` and `%02x` on the printing side, `%x`, `%u` and `%02x` on the
scanning side. Scanning follows the C library: leading white space is skipped,
then an optional sign, an optional `0x` when the base is 16, and the longest
run of digits. A conversion without digits stores nothing, also behind a prefix.
-/

namespace Lorawan.Text

/-! ### Printing -/

/-- `%x` for base 16, `%u` for base 10. -/
def print (base n : ℕ) : List Char := Nat.toDigits base n

/-- `%06x` and the like: zeros up to a width. -/
def printPad (width base n : ℕ) : List Char :=
  List.replicate (width - (print base n).length) '0' ++ print base n

/-- `%02x` of one octet. -/
def print2 (b : UInt8) : List Char :=
  [Nat.digitChar (b.toNat / 16), Nat.digitChar (b.toNat % 16)]

/-- One `%02x` for each octet. -/
def printOctets (bs : Octets) : List Char := bs.flatMap print2

theorem printOctets_length (bs : Octets) : (printOctets bs).length = 2 * bs.length := by
  induction bs with
  | nil => rfl
  | cons b bs ih =>
    simp only [printOctets, List.flatMap_cons, List.length_append, List.length_cons] at ih ⊢
    rw [ih]
    simp only [print2, List.length_cons, List.length_nil]
    omega

/-! ### Scanning -/

def isSpace (c : Char) : Bool := c ∈ [' ', '\t', '\n', '\x0b', '\x0c', '\r']

/-- Value of a digit, in lower or upper case. -/
def digitVal (base : ℕ) (c : Char) : Option ℕ :=
  let v :=
    if '0' ≤ c ∧ c ≤ '9' then some (c.toNat - 48)
    else if 'a' ≤ c ∧ c ≤ 'f' then some (c.toNat - 87)
    else if 'A' ≤ c ∧ c ≤ 'F' then some (c.toNat - 55)
    else none
  v.filter (· < base)

/-- The longest run of digits, most significant first. -/
def readDigits (base : ℕ) : ℕ → List Char → ℕ
  | acc, [] => acc
  | acc, c :: cs =>
    match digitVal base c with
    | some d => readDigits base (acc * base + d) cs
    | none => acc

/-- An optional sign: whether it was `-`, and what follows. -/
def readSign : List Char → Bool × List Char
  | '-' :: cs => (true, cs)
  | '+' :: cs => (false, cs)
  | cs => (false, cs)

/-- An optional `0x` before a hexadecimal number. -/
def readPrefix (base : ℕ) : List Char → List Char
  | '0' :: 'x' :: cs => if base = 16 then cs else '0' :: 'x' :: cs
  | '0' :: 'X' :: cs => if base = 16 then cs else '0' :: 'X' :: cs
  | cs => cs

/-- What `strtoul` makes of the digits: a number out of range saturates, whatever its sign. -/
def strtoul (neg : Bool) (v : ℕ) : ℕ :=
  if 2 ^ 64 ≤ v then 2 ^ 64 - 1 else if neg then 2 ^ 64 - v else v

/-- `sscanf` of one unsigned number of `bits` bits after white space was skipped.
The library converts to 64 bits, and the store keeps the low bits. -/
def scanNumber (base bits : ℕ) (cs : List Char) : Option ℕ :=
  let (neg, cs) := readSign cs
  let cs := readPrefix base cs
  if (cs.head?.bind (digitVal base)).isSome then
    some (strtoul neg (readDigits base 0 cs) % 2 ^ bits)
  else none

/-- `sscanf(str, "%x")` and its relatives. -/
def scan (base bits : ℕ) (cs : List Char) : Option ℕ :=
  scanNumber base bits (cs.dropWhile isSpace)

/-- `sscanf(str, "%02x")`: at most two characters after the white space. -/
def scan2 (cs : List Char) : Option ℕ :=
  scanNumber 16 32 ((cs.dropWhile isSpace).take 2)

/-- The loop `for (i = 0; i < len; i += 2) { sscanf(str, "%02x", &o); ..; str += 2; }`.
A pair that holds no number leaves `o` as it was on the stack: `junk`. -/
def scanOctets (junk : UInt8) : List Char → Octets
  | [] => []
  | [c] => [((scan2 [c]).map UInt8.ofNat).getD junk]
  | c :: d :: cs => ((scan2 (c :: d :: cs)).map UInt8.ofNat).getD junk :: scanOctets junk cs

/-! ### What was printed is scanned back -/

theorem strtoul_of_lt {v : ℕ} (h : v < 2 ^ 64) : strtoul false v = v := by
  rw [strtoul, if_neg (Nat.not_le_of_lt h), if_neg Bool.false_ne_true]

theorem digitVal_digitChar {base d : ℕ} (hb : base ≤ 16) (hd : d < base) :
    digitVal base (Nat.digitChar d) = some d := by
  have h16 : d < 16 := by omega
  have hval : ∀ e < 16, digitVal 16 (Nat.digitChar e) = some e := by decide
  have h := hval d h16
  simp only [digitVal, Option.filter_eq_some_iff] at h ⊢
  exact ⟨h.1, by simpa using hd⟩

theorem digit_ne {c : Char} (hc : (digitVal 16 c).isSome) :
    isSpace c = false ∧ c ≠ '-' ∧ c ≠ '+' ∧ c ≠ 'x' ∧ c ≠ 'X' := by
  refine ⟨?_, ?_, ?_, ?_, ?_⟩
  · by_contra hs
    simp only [isSpace, Bool.not_eq_false, decide_eq_true_eq, List.mem_cons, List.not_mem_nil,
      or_false] at hs
    rcases hs with rfl | rfl | rfl | rfl | rfl | rfl <;> revert hc <;> decide
  all_goals
    rintro rfl
    revert hc
    decide

theorem readDigits_of_digits (base : ℕ) (ds : List ℕ) (hb : base ≤ 16) (hds : ∀ d ∈ ds, d < base)
    (acc : ℕ) :
    readDigits base acc (ds.map Nat.digitChar) = ds.foldl (fun a d => a * base + d) acc := by
  induction ds generalizing acc with
  | nil => rfl
  | cons d ds ih =>
    have hd := hds d (List.mem_cons_self ..)
    have hrest := fun e he => hds e (List.mem_cons_of_mem d he)
    simp only [List.map_cons, readDigits, digitVal_digitChar hb hd, ih hrest, List.foldl_cons]

theorem print_digits (base n : ℕ) (hb : 1 < base) :
    ∃ ds : List ℕ, print base n = ds.map Nat.digitChar ∧ ds ≠ [] ∧ (∀ d ∈ ds, d < base) ∧
      ds.foldl (fun a d => a * base + d) 0 = n := by
  induction n using Nat.strongRecOn with
  | _ n ih =>
    rcases Nat.lt_or_ge n base with hlt | hge
    · refine ⟨[n], ?_, by simp, by simpa using hlt, by simp⟩
      simp only [print, Nat.toDigits_of_lt_base hlt, List.map_cons, List.map_nil]
    · obtain ⟨ds, hprint, -, hds, hval⟩ := ih (n / base) (Nat.div_lt_self (by omega) hb)
      refine ⟨ds ++ [n % base], ?_, by simp, ?_, ?_⟩
      · simp only [print] at hprint
        simp only [print, Nat.toDigits_of_base_le hb hge, hprint, List.map_append, List.map_cons,
          List.map_nil]
      · intro d hd
        rcases List.mem_append.mp hd with hd | hd
        · exact hds d hd
        · rw [List.mem_singleton.mp hd]
          exact Nat.mod_lt _ (by omega)
      · simp only [List.foldl_append, List.foldl_cons, List.foldl_nil, hval]
        exact Nat.div_add_mod' n base

theorem scanNumber_of_digits {base : ℕ} (bits : ℕ) (ds : List ℕ) (hb : base ≤ 16)
    (hds : ∀ d ∈ ds, d < base) (hne : ds ≠ []) :
    scanNumber base bits (ds.map Nat.digitChar) =
      some (strtoul false (ds.foldl (fun a d => a * base + d) 0) % 2 ^ bits) := by
  cases ds with
  | nil => exact absurd rfl hne
  | cons d ds =>
    have hd := hds d (List.mem_cons_self ..)
    have hchar : ∀ e < base, (digitVal 16 (Nat.digitChar e)).isSome := by
      intro e he
      rw [digitVal_digitChar (le_refl 16) (by omega)]
      rfl
    have hsign : readSign ((d :: ds).map Nat.digitChar) =
        (false, (d :: ds).map Nat.digitChar) := by
      obtain ⟨-, hminus, hplus, -, -⟩ := digit_ne (hchar d hd)
      simp only [List.map_cons]
      unfold readSign
      split
      · rename_i heq
        exact absurd (List.cons.inj heq).1 hminus
      · rename_i heq
        exact absurd (List.cons.inj heq).1 hplus
      · rfl
    have hpre : readPrefix base ((d :: ds).map Nat.digitChar) = (d :: ds).map Nat.digitChar := by
      unfold readPrefix
      split
      all_goals first | rfl | skip
      all_goals
        rename_i heq
        cases ds with
        | nil => simp at heq
        | cons e ds =>
          have he := hchar e (hds e (by simp))
          obtain ⟨-, -, -, hx, hX⟩ := digit_ne he
          simp only [List.map_cons, List.cons.injEq] at heq
          exact absurd heq.2.1 (by assumption)
    have hdigit : (digitVal base (Nat.digitChar d)).isSome := by
      rw [digitVal_digitChar hb hd]
      rfl
    unfold scanNumber
    rw [hsign]
    simp only [hpre]
    rw [readDigits_of_digits base (d :: ds) hb hds]
    simp only [List.map_cons, List.head?_cons, Option.bind_some, hdigit, if_true]

theorem scan_of_digits {base : ℕ} (bits : ℕ) (ds : List ℕ) (hb : base ≤ 16) (hbits : bits ≤ 64)
    (hds : ∀ d ∈ ds, d < base) (hne : ds ≠ [])
    (hn : ds.foldl (fun a d => a * base + d) 0 < 2 ^ bits) :
    scan base bits (ds.map Nat.digitChar) = some (ds.foldl (fun a d => a * base + d) 0) := by
  have h64 : (2 : ℕ) ^ bits ≤ 2 ^ 64 := Nat.pow_le_pow_right (by omega) hbits
  have hspace : (ds.map Nat.digitChar).dropWhile isSpace = ds.map Nat.digitChar := by
    cases ds with
    | nil => rfl
    | cons d ds =>
      have hd := hds d (List.mem_cons_self ..)
      have hsome : (digitVal 16 (Nat.digitChar d)).isSome := by
        rw [digitVal_digitChar (le_refl 16) (by omega)]
        rfl
      simp only [List.map_cons, List.dropWhile_cons, (digit_ne hsome).1, Bool.false_eq_true,
        if_false]
  rw [scan, hspace, scanNumber_of_digits bits ds hb hds hne]
  rw [strtoul_of_lt (Nat.lt_of_lt_of_le hn h64), Nat.mod_eq_of_lt hn]

theorem scan_print {base : ℕ} (bits n : ℕ) (h1 : 1 < base) (hb : base ≤ 16) (hbits : bits ≤ 64)
    (hn : n < 2 ^ bits) : scan base bits (print base n) = some n := by
  obtain ⟨ds, hprint, hne, hds, hval⟩ := print_digits base n h1
  rw [hprint, scan_of_digits bits ds hb hbits hds hne (by rw [hval]; exact hn), hval]

theorem foldl_zeros (base k : ℕ) (ds : List ℕ) :
    (List.replicate k 0 ++ ds).foldl (fun a d => a * base + d) 0 =
      ds.foldl (fun a d => a * base + d) 0 := by
  induction k with
  | zero => rfl
  | succ k ih =>
    simp only [List.replicate_succ, List.cons_append, List.foldl_cons, Nat.zero_mul,
      Nat.add_zero] at ih ⊢
    exact ih

theorem scan_printPad {base : ℕ} (width bits n : ℕ) (h1 : 1 < base) (hb : base ≤ 16)
    (hbits : bits ≤ 64) (hn : n < 2 ^ bits) : scan base bits (printPad width base n) = some n := by
  obtain ⟨ds, hprint, hne, hds, hval⟩ := print_digits base n h1
  let zeros := width - (ds.map Nat.digitChar).length
  have hpad : printPad width base n = (List.replicate zeros 0 ++ ds).map Nat.digitChar := by
    simp only [printPad, hprint, zeros, List.map_append, List.map_replicate]
    rfl
  have hds' : ∀ d ∈ List.replicate zeros 0 ++ ds, d < base := by
    intro d hd
    rcases List.mem_append.mp hd with hd | hd
    · rw [List.eq_of_mem_replicate hd]
      omega
    · exact hds d hd
  have hval' := foldl_zeros base zeros ds
  rw [hval] at hval'
  rw [hpad, scan_of_digits bits _ hb hbits hds' (by simp [hne]) (by rw [hval']; exact hn), hval']

theorem scan2_print2 (b : UInt8) (cs : List Char) :
    (scan2 (print2 b ++ cs)).map UInt8.ofNat = some b := by
  have hlt : b.toNat < 256 := b.toNat_lt
  have hds : ∀ d ∈ [b.toNat / 16, b.toNat % 16], d < 16 := by
    intro d hd
    simp only [List.mem_cons, List.not_mem_nil, or_false] at hd
    omega
  have hsome : (digitVal 16 (Nat.digitChar (b.toNat / 16))).isSome := by
    rw [digitVal_digitChar (le_refl 16) (by omega)]
    rfl
  have hspace : ((print2 b ++ cs).dropWhile isSpace).take 2 =
      [b.toNat / 16, b.toNat % 16].map Nat.digitChar := by
    simp only [print2, List.cons_append, List.nil_append, List.dropWhile_cons,
      (digit_ne hsome).1, Bool.false_eq_true, if_false, List.take_succ_cons, List.take_zero,
      List.map_cons, List.map_nil]
  rw [scan2, hspace, scanNumber_of_digits 32 _ (le_refl 16) hds (by simp)]
  rw [strtoul_of_lt (by simp only [List.foldl_cons, List.foldl_nil]; omega)]
  simp only [List.foldl_cons, List.foldl_nil, Option.map_some, Option.some.injEq]
  apply UInt8.toNat_inj.mp
  simp only [UInt8.toNat_ofNat']
  omega

theorem drop_printOctets (bs : Octets) (i : ℕ) :
    (printOctets bs).drop (2 * i) = printOctets (bs.drop i) := by
  induction i generalizing bs with
  | zero => rfl
  | succ i ih =>
    cases bs with
    | nil => rfl
    | cons b bs =>
      rw [List.drop_succ_cons, ← ih bs]
      rfl

theorem scanOctets_printOctets (junk : UInt8) (bs : Octets) :
    scanOctets junk (printOctets bs) = bs := by
  induction bs with
  | nil => rfl
  | cons b bs ih =>
    have hb := scan2_print2 b (printOctets bs)
    simp only [printOctets, List.flatMap_cons, print2, List.cons_append, List.nil_append] at ih hb ⊢
    simp only [scanOctets, hb, ih, Option.getD_some]

end Lorawan.Text

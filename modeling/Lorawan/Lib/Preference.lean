import Mathlib.Data.List.MinMax
import Mathlib.Data.List.ReduceOption
import Mathlib.Data.Nat.Basic
import Mathlib.Data.Prod.Lex

/-!
# Choosing among the least records

A list holds a record in some of its slots. A record with the least first key and, among those, the
least second key is chosen in three passes: the least first key; the least second key, counting the
records that come down to it; the record whose number among the least is the random number modulo
that count.
-/

namespace Lorawan.Preference

variable {α : Type*}

/-! ### The passes -/

/-- What a key is compared with before a record was seen. -/
def UINT_MAX : ℕ := 0xffffffff

def lowest (key : α → ℕ) : ℕ → List (Option α) → ℕ
  | low, [] => low
  | low, none :: rs => lowest key low rs
  | low, some a :: rs => lowest key (if key a < low then key a else low) rs

/-- The second pass: the least second key so far, and the records that were at most that. -/
def countLowest (primary secondary : α → ℕ) (low : ℕ) : ℕ × ℕ → List (Option α) → ℕ × ℕ
  | s, [] => s
  | s, none :: rs => countLowest primary secondary low s rs
  | s, some a :: rs =>
    if low < primary a then countLowest primary secondary low s rs
    else if secondary a ≤ s.1 then countLowest primary secondary low (secondary a, s.2 + 1) rs
    else countLowest primary secondary low s rs

/-- The slot of the record of number `use` among those with `p`, the next of which has number
`i`. -/
def nth (p : α → Bool) (use : ℕ) : ℕ → List (Option α) → Option ℕ
  | _, [] => none
  | i, none :: rs => (nth p use i rs).map (· + 1)
  | i, some a :: rs =>
    if p a then
      if i = use then some 0 else (nth p use (i + 1) rs).map (· + 1)
    else (nth p use i rs).map (· + 1)

variable (primary secondary : α → ℕ)

/-- The slot of the record that is chosen. -/
def select (rand : ℕ) (records : List (Option α)) : Option ℕ :=
  let low := lowest primary UINT_MAX records
  if low = UINT_MAX then none
  else
    let found := countLowest primary secondary low (UINT_MAX, 0) records
    if found.1 = UINT_MAX then none
    else
      nth (fun a => !(decide (low < primary a) || decide (found.1 < secondary a)))
        (rand % found.2) 0 records

/-! ### Least records -/

/-- A record that none is before in the order of the two keys. -/
structure Least (records : List α) (a : α) : Prop where
  mem : a ∈ records
  primary_le : ∀ b ∈ records, primary a ≤ primary b
  secondary_le : ∀ b ∈ records, primary b = primary a → secondary a ≤ secondary b

/-- Of the records with the least first key the first one is least. -/
def LeastFirst (records : List α) : Prop :=
  ∃ before a after, records = before ++ a :: after ∧ Least primary secondary records a ∧
    ∀ b ∈ before, primary a < primary b

/-- What a choice by a random number is for: only a least record is chosen, one is chosen where
there are records, and each of the least ones for some number. -/
structure Prefers (choose : ℕ → Option ℕ) (records : List (Option α)) : Prop where
  least : ∀ rand k, choose rand = some k →
    ∃ a, records[k]? = some (some a) ∧ Least primary secondary records.reduceOption a
  found : ∀ rand, choose rand = none → records.reduceOption = []
  reached : ∀ k a, records[k]? = some (some a) →
    Least primary secondary records.reduceOption a →
      ∃ rand, rand < records.length ∧ choose rand = some k

variable {primary secondary}

theorem Least.eq {records : List α} {a b : α} (ha : Least primary secondary records a)
    (hb : Least primary secondary records b) :
    primary a = primary b ∧ secondary a = secondary b := by
  have hfirst : primary a = primary b :=
    le_antisymm (ha.primary_le b hb.mem) (hb.primary_le a ha.mem)
  refine ⟨hfirst, le_antisymm ?_ ?_⟩
  · exact ha.secondary_le b hb.mem hfirst.symm
  · exact hb.secondary_le a ha.mem hfirst

/-! ### What the passes find -/

theorem lowest_le (key : α → ℕ) (low : ℕ) (records : List (Option α)) :
    lowest key low records ≤ low ∧ ∀ a ∈ records.reduceOption, lowest key low records ≤ key a := by
  induction records generalizing low with
  | nil => exact ⟨le_refl low, fun a ha => nomatch ha⟩
  | cons r rs ih =>
    cases r with
    | none => exact ih low
    | some a =>
      have hrest := ih (if key a < low then key a else low)
      rw [lowest, List.reduceOption_cons_of_some, List.forall_mem_cons]
      split at hrest
      · rename_i hlt
        rw [if_pos hlt]
        exact ⟨by omega, hrest.1, hrest.2⟩
      · rename_i hge
        rw [if_neg hge]
        exact ⟨hrest.1, by omega, hrest.2⟩

theorem lowest_attained (key : α → ℕ) (low : ℕ) (records : List (Option α)) :
    lowest key low records = low ∨ ∃ a ∈ records.reduceOption, key a = lowest key low records := by
  induction records generalizing low with
  | nil => exact Or.inl rfl
  | cons r rs ih =>
    cases r with
    | none => exact ih low
    | some a =>
      rw [lowest, List.reduceOption_cons_of_some]
      rcases ih (if key a < low then key a else low) with heq | ⟨b, hb, hkey⟩
      · rw [heq]
        by_cases hlt : key a < low
        · rw [if_pos hlt]
          exact Or.inr ⟨a, List.mem_cons_self, rfl⟩
        · rw [if_neg hlt]
          exact Or.inl rfl
      · exact Or.inr ⟨b, List.mem_cons_of_mem a hb, hkey⟩

theorem lowest_of_nil (key : α → ℕ) (low : ℕ) {records : List (Option α)}
    (hnil : records.reduceOption = []) : lowest key low records = low := by
  rcases lowest_attained key low records with heq | ⟨a, ha, -⟩
  · exact heq
  · rw [hnil] at ha
    cases ha

theorem lowest_found {key : α → ℕ} (hkey : ∀ a, key a < UINT_MAX) {records : List (Option α)}
    (hne : records.reduceOption ≠ []) :
    ∃ a ∈ records.reduceOption, lowest key UINT_MAX records = key a ∧
      ∀ b ∈ records.reduceOption, key a ≤ key b := by
  obtain ⟨-, hle⟩ := lowest_le key UINT_MAX records
  rcases lowest_attained key UINT_MAX records with heq | ⟨a, ha, heq⟩
  · obtain ⟨b, hb⟩ := List.exists_mem_of_ne_nil _ hne
    have hlt := hkey b
    have hge := hle b hb
    omega
  · rw [← heq] at hle
    exact ⟨a, ha, heq.symm, hle⟩

theorem reduceOption_map_some (as : List α) : (as.map some).reduceOption = as := by
  simp [List.reduceOption]

/-- How many elements of a list are at most all before them and at most `m`. -/
def descents (key : α → ℕ) : ℕ → List α → ℕ
  | _, [] => 0
  | m, a :: as => if key a ≤ m then descents key (key a) as + 1 else descents key m as

theorem countLowest_eq (low : ℕ) (s : ℕ × ℕ) (records : List (Option α)) :
    countLowest primary secondary low s records =
      (lowest secondary s.1 ((records.reduceOption.filter fun a => primary a ≤ low).map some),
        s.2 + descents secondary s.1 (records.reduceOption.filter fun a => primary a ≤ low)) := by
  induction records generalizing s with
  | nil => rfl
  | cons r rs ih =>
    cases r with
    | none => exact ih s
    | some a =>
      rw [List.reduceOption_cons_of_some, List.filter_cons, countLowest]
      by_cases hlow : low < primary a
      · have hout : decide (primary a ≤ low) = false := decide_eq_false (by omega)
        rw [if_pos hlow, hout, if_neg Bool.false_ne_true]
        exact ih s
      · have hin : decide (primary a ≤ low) = true := decide_eq_true (by omega)
        rw [if_neg hlow, hin, if_pos rfl, List.map_cons, lowest, descents]
        by_cases hle : secondary a ≤ s.1
        · rw [if_pos hle, if_pos hle, ih]
          congr 1
          · congr 1
            split <;> omega
          · dsimp only
            omega
        · rw [if_neg hle, if_neg hle, if_neg (by omega)]
          exact ih s

theorem countP_le_descents (key : α → ℕ) {low m : ℕ} {as : List α} (hm : low ≤ m)
    (h : ∀ a ∈ as, low ≤ key a) : (as.countP fun a => key a = low) ≤ descents key m as := by
  induction as generalizing m with
  | nil => exact le_refl 0
  | cons a as ih =>
    obtain ⟨ha, has⟩ := List.forall_mem_cons.mp h
    rw [descents, List.countP_cons]
    by_cases hle : key a ≤ m
    · have hrest := ih ha has
      rw [if_pos hle]
      split <;> omega
    · have hne : ¬ key a = low := by omega
      have hrest := ih hm has
      simp only [hne, if_neg hle, decide_false, Bool.false_eq_true, if_false]
      omega

theorem descents_low (key : α → ℕ) {low : ℕ} {as : List α} (h : ∀ a ∈ as, low ≤ key a) :
    descents key low as = as.countP fun a => key a = low := by
  induction as with
  | nil => rfl
  | cons a as ih =>
    obtain ⟨ha, has⟩ := List.forall_mem_cons.mp h
    rw [descents, List.countP_cons]
    by_cases heq : key a = low
    · rw [if_pos (le_of_eq heq), heq, ih has]
      simp
    · rw [if_neg (by omega), ih has]
      simp [heq]

theorem descents_eq_iff (key : α → ℕ) {low m : ℕ} {a : α} {as : List α} (hm : key a ≤ m)
    (h : ∀ b ∈ a :: as, low ≤ key b) :
    descents key m (a :: as) = ((a :: as).countP fun b => key b = low) ↔ key a = low := by
  obtain ⟨ha, has⟩ := List.forall_mem_cons.mp h
  rw [descents, if_pos hm, List.countP_cons]
  constructor
  · intro heq
    by_contra hne
    have hle := countP_le_descents key ha has
    simp only [hne, decide_false, Bool.false_eq_true, if_false] at heq
    omega
  · intro heq
    rw [heq, descents_low key has]
    simp

theorem nth_some {p : α → Bool} {use i k : ℕ} {records : List (Option α)}
    (h : nth p use i records = some k) : ∃ a, records[k]? = some (some a) ∧ p a = true := by
  induction records generalizing i k with
  | nil => cases h
  | cons r rs ih =>
    have hlater : ∀ j, (nth p use j rs).map (· + 1) = some k →
        ∃ a, (r :: rs)[k]? = some (some a) ∧ p a = true := by
      intro j hj
      obtain ⟨k', hk', rfl⟩ := Option.map_eq_some_iff.mp hj
      exact ih hk'
    cases r with
    | none => exact hlater i h
    | some a =>
      rw [nth] at h
      split at h
      · rename_i hp
        split at h
        · cases h
          exact ⟨a, rfl, hp⟩
        · exact hlater (i + 1) h
      · exact hlater i h

theorem nth_eq_none_iff {p : α → Bool} {use i : ℕ} {records : List (Option α)} (hi : i ≤ use) :
    nth p use i records = none ↔ i + records.reduceOption.countP p ≤ use := by
  induction records generalizing i with
  | nil => simpa [nth] using hi
  | cons r rs ih =>
    cases r with
    | none =>
      rw [nth, Option.map_eq_none_iff, List.reduceOption_cons_of_none]
      exact ih hi
    | some a =>
      rw [nth, List.reduceOption_cons_of_some, List.countP_cons]
      cases hp : p a with
      | false =>
        rw [if_neg Bool.false_ne_true, Option.map_eq_none_iff, ih hi, if_neg Bool.false_ne_true,
          Nat.add_zero]
      | true =>
        rw [if_pos rfl, if_pos rfl]
        by_cases heq : i = use
        · rw [if_pos heq]
          simp only [reduceCtorEq, false_iff]
          omega
        · rw [if_neg heq, Option.map_eq_none_iff, ih (by omega)]
          omega

theorem nth_reaches {p : α → Bool} {k : ℕ} {a : α} {records : List (Option α)}
    (hk : records[k]? = some (some a)) (hp : p a = true) (i : ℕ) :
    ∃ use, i ≤ use ∧ use < i + records.reduceOption.countP p ∧ nth p use i records = some k := by
  induction records generalizing i k with
  | nil => cases hk
  | cons r rs ih =>
    cases k with
    | zero =>
      obtain rfl : r = some a := by simpa using hk
      refine ⟨i, le_refl i, ?_, ?_⟩
      · rw [List.reduceOption_cons_of_some, List.countP_cons, if_pos hp]
        omega
      · rw [nth, if_pos hp, if_pos rfl]
    | succ k =>
      have hk' : rs[k]? = some (some a) := hk
      cases r with
      | none =>
        obtain ⟨use, hle, hlt, hnth⟩ := ih hk' i
        exact ⟨use, hle, hlt, by rw [nth, hnth]; rfl⟩
      | some b =>
        rw [List.reduceOption_cons_of_some, List.countP_cons]
        cases hb : p b with
        | false =>
          obtain ⟨use, hle, hlt, hnth⟩ := ih hk' i
          refine ⟨use, hle, hlt, ?_⟩
          rw [nth, hb, if_neg Bool.false_ne_true, hnth]
          rfl
        | true =>
          obtain ⟨use, hle, hlt, hnth⟩ := ih hk' (i + 1)
          refine ⟨use, by omega, by simp only [if_true]; omega, ?_⟩
          rw [nth, hb, if_pos rfl, if_neg (by omega), hnth]
          rfl

/-! ### What is chosen -/

section

variable {records : List (Option α)} (hprimary : ∀ a, primary a < UINT_MAX)
  (hsecondary : ∀ a, secondary a < UINT_MAX)

include hprimary hsecondary in
/-- The choice among records of which some are there: the records of least first key, in order, and
the number that is drawn. -/
theorem select_eq (hne : records.reduceOption ≠ []) :
    ∃ a low, Least primary secondary records.reduceOption a ∧ low = secondary a ∧
      ∀ rand, select primary secondary rand records =
        nth (fun b => decide (primary b ≤ primary a) && decide (secondary b ≤ low))
          (rand % descents secondary UINT_MAX
            (records.reduceOption.filter fun b => primary b ≤ primary a)) 0 records := by
  obtain ⟨b, hb, hlow, hfirst⟩ := lowest_found hprimary hne
  have hfirsts : ((records.reduceOption.filter fun c => primary c ≤ primary b).map
      some).reduceOption ≠ [] := by
    rw [reduceOption_map_some]
    exact List.ne_nil_of_mem (List.mem_filter.mpr ⟨hb, decide_eq_true (le_refl _)⟩)
  obtain ⟨a, ha, hlow2, hsecond⟩ := lowest_found hsecondary hfirsts
  rw [reduceOption_map_some] at ha hsecond
  obtain ⟨hmem, hle⟩ := List.mem_filter.mp ha
  have hab : primary a = primary b := le_antisymm (of_decide_eq_true hle) (hfirst a hmem)
  refine ⟨a, _, ⟨hmem, ?_, ?_⟩, rfl, ?_⟩
  · rw [hab]
    exact hfirst
  · intro c hc hsame
    exact hsecond c (List.mem_filter.mpr ⟨hc, decide_eq_true (le_of_eq (hsame.trans hab))⟩)
  · intro rand
    unfold select
    dsimp only
    rw [hlow, if_neg (Nat.ne_of_lt (hprimary b)), countLowest_eq]
    dsimp only
    rw [hlow2, if_neg (Nat.ne_of_lt (hsecondary a)), Nat.zero_add, ← hab]
    congr 1
    funext c
    simp only [Bool.not_or, ← decide_not, not_lt]

theorem least_iff {records : List α} {a b : α} (ha : Least primary secondary records a) :
    Least primary secondary records b ↔
      b ∈ records ∧ (decide (primary b ≤ primary a) && decide (secondary b ≤ secondary a)) := by
  rw [Bool.and_eq_true, decide_eq_true_eq, decide_eq_true_eq]
  constructor
  · intro hb
    have heq := hb.eq ha
    exact ⟨hb.mem, by omega, by omega⟩
  · rintro ⟨hb, hfirst, hsecond⟩
    have hge := ha.primary_le b hb
    have hsame : primary b = primary a := by omega
    refine ⟨hb, ?_, ?_⟩
    · intro c hc
      have hle := ha.primary_le c hc
      omega
    · intro c hc hcb
      have hle := ha.secondary_le c hc (hcb.trans hsame)
      omega

theorem mem_reduceOption_of_slot {records : List (Option α)} {k : ℕ} {a : α}
    (h : records[k]? = some (some a)) : a ∈ records.reduceOption :=
  List.reduceOption_mem_iff.mpr (List.mem_of_getElem? h)

theorem reduceOption_set_none {records : List (Option α)} {k : ℕ} {a : α}
    (h : records[k]? = some (some a)) :
    ∃ before after, records.reduceOption = before ++ a :: after ∧
      (records.set k none).reduceOption = before ++ after := by
  induction records generalizing k with
  | nil => cases h
  | cons r rs ih =>
    cases k with
    | zero =>
      obtain rfl : r = some a := by simpa using h
      exact ⟨[], rs.reduceOption, List.reduceOption_cons_of_some a rs,
        List.reduceOption_cons_of_none rs⟩
    | succ k =>
      obtain ⟨before, after, hsplit, hset⟩ := ih (show rs[k]? = some (some a) from h)
      cases r with
      | none =>
        refine ⟨before, after, ?_, ?_⟩
        · rw [List.reduceOption_cons_of_none, hsplit]
        · rw [List.set_cons_succ, List.reduceOption_cons_of_none, hset]
      | some b =>
        refine ⟨b :: before, after, ?_, ?_⟩
        · rw [List.reduceOption_cons_of_some, hsplit, List.cons_append]
        · rw [List.set_cons_succ, List.reduceOption_cons_of_some, hset, List.cons_append]

theorem select_nil (rand : ℕ) (hnil : records.reduceOption = []) :
    select primary secondary rand records = none := by
  unfold select
  dsimp only
  rw [if_pos (lowest_of_nil primary UINT_MAX hnil)]

include hprimary hsecondary in
theorem select_least {rand k : ℕ} (h : select primary secondary rand records = some k) :
    ∃ a, records[k]? = some (some a) ∧ Least primary secondary records.reduceOption a := by
  by_cases hnil : records.reduceOption = []
  · rw [select_nil rand hnil] at h
    cases h
  · obtain ⟨a, -, ha, rfl, hselect⟩ := select_eq hprimary hsecondary hnil
    rw [hselect] at h
    obtain ⟨b, hslot, hb⟩ := nth_some h
    exact ⟨b, hslot, (least_iff ha).mpr ⟨mem_reduceOption_of_slot hslot, hb⟩⟩

theorem countP_least {records : List α} {a : α} (ha : Least primary secondary records a) :
    (records.countP fun b => decide (primary b ≤ primary a) && decide (secondary b ≤ secondary a)) =
      (records.filter fun b => primary b ≤ primary a).countP
        fun b => secondary b = secondary a := by
  rw [List.countP_filter]
  apply List.countP_congr
  intro b hb
  have hge := ha.primary_le b hb
  simp only [Bool.and_eq_true, decide_eq_true_eq]
  constructor
  · rintro ⟨hfirst, hsecond⟩
    have hle := ha.secondary_le b hb (by omega)
    exact ⟨by omega, hfirst⟩
  · rintro ⟨hsecond, hfirst⟩
    exact ⟨hfirst, by omega⟩

theorem secondary_le_of_mem_filter {records : List α} {a : α}
    (ha : Least primary secondary records a) :
    ∀ b ∈ records.filter fun b => primary b ≤ primary a, secondary a ≤ secondary b := by
  intro b hb
  obtain ⟨hmem, hfirst⟩ := List.mem_filter.mp hb
  have hge := ha.primary_le b hmem
  have hle := of_decide_eq_true hfirst
  exact ha.secondary_le b hmem (by omega)

theorem leastFirst_iff {records : List α} {a : α} (ha : Least primary secondary records a) :
    LeastFirst primary secondary records ↔
      ∃ b bs, (records.filter fun b => primary b ≤ primary a) = b :: bs ∧
        secondary b = secondary a := by
  constructor
  · rintro ⟨before, b, after, hsplit, hb, hbefore⟩
    obtain ⟨hfirst, hsecond⟩ := hb.eq ha
    refine ⟨b, after.filter fun c => primary c ≤ primary a, ?_, hsecond⟩
    have hnone : (before.filter fun c => primary c ≤ primary a) = [] := by
      rw [List.filter_eq_nil_iff]
      intro c hc
      have hlt := hbefore c hc
      rw [decide_eq_true_eq]
      omega
    have hin : decide (primary b ≤ primary a) = true := decide_eq_true (le_of_eq hfirst)
    rw [hsplit, List.filter_append, hnone, List.nil_append, List.filter_cons, hin, if_pos rfl]
  · rintro ⟨b, bs, hfilter, hsecond⟩
    obtain ⟨before, after, hsplit, hbefore, hfirst, -⟩ := List.filter_eq_cons_iff.mp hfilter
    have hmem : b ∈ records := by
      rw [hsplit]
      exact List.mem_append_right before List.mem_cons_self
    have hle := of_decide_eq_true hfirst
    have hge := ha.primary_le b hmem
    refine ⟨before, b, after, hsplit, (least_iff ha).mpr ⟨hmem, ?_⟩, ?_⟩
    · simpa [hsecond] using hle
    · intro c hc
      have hgt := hbefore c hc
      rw [decide_eq_true_eq] at hgt
      omega

include hprimary hsecondary in
theorem select_reaches {k : ℕ} {b : α} (hslot : records[k]? = some (some b))
    (hb : Least primary secondary records.reduceOption b) :
    ∃ rand, rand < records.length ∧ select primary secondary rand records = some k := by
  have hmem := mem_reduceOption_of_slot hslot
  obtain ⟨a, low, ha, hlow, hselect⟩ := select_eq hprimary hsecondary (List.ne_nil_of_mem hmem)
  subst hlow
  have hnumbered := ((least_iff ha).mp hb).2
  obtain ⟨use, -, hlt, hnth⟩ := nth_reaches (p := fun c =>
    decide (primary c ≤ primary a) && decide (secondary c ≤ secondary a)) hslot hnumbered 0
  rw [Nat.zero_add] at hlt
  refine ⟨use, ?_, ?_⟩
  · calc use < records.reduceOption.countP _ := hlt
      _ ≤ records.reduceOption.length := List.countP_le_length
      _ ≤ records.length := records.reduceOption_length_le
  · have hcount := countP_le_descents secondary (Nat.le_of_lt (hsecondary a))
      (secondary_le_of_mem_filter ha)
    rw [countP_least ha] at hlt
    rw [hselect, Nat.mod_eq_of_lt (Nat.lt_of_lt_of_le hlt hcount), hnth]

include hprimary hsecondary in
/-- A record is chosen whatever the number is if and only if one that comes first is least. -/
theorem select_ne_none_iff (hne : records.reduceOption ≠ []) :
    (∀ rand, select primary secondary rand records ≠ none) ↔
      LeastFirst primary secondary records.reduceOption := by
  obtain ⟨a, low, ha, hlow, hselect⟩ := select_eq hprimary hsecondary hne
  subst hlow
  obtain ⟨b, bs, hfilter⟩ : ∃ b bs,
      (records.reduceOption.filter fun b => primary b ≤ primary a) = b :: bs := by
    rw [← List.ne_nil_iff_exists_cons]
    exact List.ne_nil_of_mem (List.mem_filter.mpr ⟨ha.mem, decide_eq_true (le_refl _)⟩)
  have hge := secondary_le_of_mem_filter ha
  have hcount := countP_le_descents secondary (Nat.le_of_lt (hsecondary a)) hge
  have hpos : 0 < (records.reduceOption.filter fun b => primary b ≤ primary a).countP
      fun b => secondary b = secondary a := by
    rw [List.countP_pos_iff]
    exact ⟨a, List.mem_filter.mpr ⟨ha.mem, decide_eq_true (le_refl _)⟩, decide_eq_true rfl⟩
  have hchosen : (∀ rand, select primary secondary rand records ≠ none) ↔
      descents secondary UINT_MAX (b :: bs) = (b :: bs).countP fun c => secondary c = secondary a := by
    simp only [hselect, ne_eq, nth_eq_none_iff (Nat.zero_le _), Nat.zero_add, countP_least ha,
      hfilter, not_le]
    rw [hfilter] at hcount hpos
    constructor
    · intro h
      have hlt := h ((b :: bs).countP fun c => secondary c = secondary a)
      by_contra hne
      rw [Nat.mod_eq_of_lt (by omega)] at hlt
      omega
    · intro heq rand
      rw [heq]
      exact Nat.mod_lt rand hpos
  rw [hfilter] at hge
  rw [hchosen, descents_eq_iff secondary (Nat.le_of_lt (hsecondary b)) hge, leastFirst_iff ha,
    hfilter]
  constructor
  · intro heq
    exact ⟨b, bs, rfl, heq⟩
  · rintro ⟨c, cs, hcons, heq⟩
    cases hcons
    exact heq

include hprimary hsecondary in
theorem select_prefers_iff :
    Prefers primary secondary (fun rand => select primary secondary rand records) records ↔
      records.reduceOption = [] ∨ LeastFirst primary secondary records.reduceOption := by
  by_cases hnil : records.reduceOption = []
  · refine iff_of_true ⟨?_, fun rand _ => hnil, ?_⟩ (Or.inl hnil)
    · intro rand k hk
      exact select_least hprimary hsecondary hk
    · intro k a hslot ha
      exact select_reaches hprimary hsecondary hslot ha
  · have hall := select_ne_none_iff hprimary hsecondary hnil
    constructor
    · intro h
      refine Or.inr (hall.mp ?_)
      intro rand hnone
      exact hnil (h.found rand hnone)
    · intro h
      have hfirst := h.resolve_left hnil
      refine ⟨?_, ?_, ?_⟩
      · intro rand k hk
        exact select_least hprimary hsecondary hk
      · intro rand hnone
        exact absurd hnone (hall.mpr hfirst rand)
      · intro k a hslot ha
        exact select_reaches hprimary hsecondary hslot ha

include hprimary hsecondary in
theorem select_takes {rand k : ℕ} (h : select primary secondary rand records = some k) :
    ∃ a before after, records[k]? = some (some a) ∧
      Least primary secondary records.reduceOption a ∧
      records.reduceOption = before ++ a :: after ∧
      (records.set k none).reduceOption = before ++ after := by
  obtain ⟨a, hslot, ha⟩ := select_least hprimary hsecondary h
  obtain ⟨before, after, hsplit, hset⟩ := reduceOption_set_none hslot
  exact ⟨a, before, after, hslot, ha, hsplit, hset⟩

end

/-! ### Taking one record after the other -/

section

variable (primary secondary)

/-- `a` is tried before `b`. -/
def Before (a b : α) : Prop :=
  primary a < primary b ∨ primary a = primary b ∧ secondary a < secondary b

/-- While records are taken out, none is missed before one of the best is taken: no worse record of
its first key stands before a record that is better than the best ones, nor before the first of
them. -/
structure Steady (best : α → Prop) (records : List α) : Prop where
  earlier : ∀ n b, best b → Before primary secondary n b → ∀ m, [m, n].Sublist records →
    primary m = primary n → secondary m ≤ secondary n
  first : ∃ before b after, records = before ++ b :: after ∧ best b ∧
    ∀ m ∈ before, primary m = primary b → secondary m ≤ secondary b

variable {primary secondary}

theorem Least.not_before {records : List α} {a b : α} (ha : Least primary secondary records a)
    (hb : b ∈ records) : ¬Before primary secondary b a := by
  rintro (hlt | ⟨heq, hlt⟩)
  · have hle := ha.primary_le b hb
    omega
  · have hle := ha.secondary_le b hb heq
    omega

theorem exists_least (primary secondary : α → ℕ) {records : List α} (hne : records ≠ []) :
    ∃ a, Least primary secondary records a := by
  obtain ⟨a, ha⟩ : ∃ a, List.argmin (fun a => toLex (primary a, secondary a)) records = some a := by
    rw [← Option.ne_none_iff_exists', ne_eq, List.argmin_eq_none]
    exact hne
  have hle : ∀ b ∈ records,
      primary a < primary b ∨ primary a = primary b ∧ secondary a ≤ secondary b := by
    intro b hb
    exact Prod.Lex.toLex_le_toLex.mp (List.le_of_mem_argmin hb ha)
  refine ⟨a, List.argmin_mem ha, ?_, ?_⟩
  · intro b hb
    have hab := hle b hb
    omega
  · intro b hb hsame
    have hab := hle b hb
    omega

theorem Steady.erase {best : α → Prop} {a : α} {before after : List α}
    (h : Steady primary secondary best (before ++ a :: after)) (ha : ¬best a) :
    Steady primary secondary best (before ++ after) := by
  have hsub : (before ++ after).Sublist (before ++ a :: after) :=
    List.Sublist.append_left (List.sublist_cons_self a after) before
  refine ⟨?_, ?_⟩
  · intro n b hb hn m hmn
    exact h.earlier n b hb hn m (hmn.trans hsub)
  · obtain ⟨pre, b, post, hsplit, hb, hpre⟩ := h.first
    rcases List.append_eq_append_iff.mp hsplit with ⟨mid, rfl, hmid⟩ | ⟨mid, rfl, hmid⟩
    · cases mid with
      | nil =>
        obtain ⟨rfl, rfl⟩ := List.cons.inj hmid
        exact absurd hb ha
      | cons c mid =>
        obtain ⟨rfl, rfl⟩ := List.cons.inj hmid
        refine ⟨before ++ mid, b, post, (List.append_assoc before mid (b :: post)).symm, hb, ?_⟩
        intro m hm
        apply hpre
        rcases List.mem_append.mp hm with hm | hm
        · exact List.mem_append_left _ hm
        · exact List.mem_append_right _ (List.mem_cons_of_mem a hm)
    · cases mid with
      | nil =>
        obtain ⟨rfl, rfl⟩ := List.cons.inj hmid
        exact absurd hb ha
      | cons c mid =>
        obtain ⟨rfl, rfl⟩ := List.cons.inj hmid
        refine ⟨pre, b, mid ++ after, ?_, hb, hpre⟩
        rw [List.append_assoc, List.cons_append]

/-- The record that a search by the first key finds stands before the others of that key. -/
theorem find_sublist {key : ℕ} {records : List α} {f n : α}
    (hf : records.find? (fun c => primary c = key) = some f) (hn : n ∈ records)
    (hkey : primary n = key) : n = f ∨ [f, n].Sublist records := by
  obtain ⟨-, before, after, hsplit, hbefore⟩ := List.find?_eq_some_iff_append.mp hf
  rw [hsplit] at hn ⊢
  rcases List.mem_append.mp hn with hn | hn
  · have hne := hbefore n hn
    rw [decide_eq_true hkey] at hne
    cases hne
  · rcases List.mem_cons.mp hn with rfl | hn
    · exact Or.inl rfl
    · have htail : [f, n].Sublist (f :: after) := (List.singleton_sublist.mpr hn).cons_cons f
      exact Or.inr (htail.trans (List.sublist_append_right before _))

/-- In a steady list the first of the records with the least first key has the least second one. -/
theorem Steady.first_le {best : α → Prop} {records : List α}
    (h : Steady primary secondary best records) {n f : α} (hn : Least primary secondary records n)
    (hf : records.find? (fun c => primary c = primary n) = some f) : secondary f ≤ secondary n := by
  have hkey : primary f = primary n := by simpa using List.find?_some hf
  obtain ⟨pre, b, post, hsplit, hb, hpre⟩ := h.first
  by_cases hnb : Before primary secondary n b
  · rcases find_sublist hf hn.mem rfl with rfl | hplace
    · exact le_refl _
    · exact h.earlier n b hb hnb f hplace hkey
  -- one of the best is least, and `f` is the first of them or stands before it
  · have hsame : primary n = primary b ∧ secondary n = secondary b := by
      have hmem : b ∈ records := by
        rw [hsplit]
        exact List.mem_append_right pre List.mem_cons_self
      have hle := hn.primary_le b hmem
      have hle2 := hn.secondary_le b hmem
      unfold Before at hnb
      omega
    rw [hsplit, List.find?_append] at hf
    cases hfind : pre.find? (fun c => decide (primary c = primary n)) with
    | some c =>
      rw [hfind] at hf
      cases hf
      have hle := hpre f (List.mem_of_find?_eq_some hfind) (hkey.trans hsame.1)
      omega
    | none =>
      rw [hfind, Option.none_or, List.find?_cons_of_pos (by simp [hsame.1])] at hf
      cases hf
      omega

theorem Steady.leastFirst {best : α → Prop} {records : List α}
    (h : Steady primary secondary best records) : LeastFirst primary secondary records := by
  have hne : records ≠ [] := by
    obtain ⟨pre, b, post, hsplit, -, -⟩ := h.first
    rw [hsplit]
    exact List.append_ne_nil_of_right_ne_nil pre (List.cons_ne_nil b post)
  obtain ⟨n, hn⟩ := exists_least primary secondary hne
  -- the first of the records that have the least first key
  obtain ⟨f, hf⟩ : ∃ f, records.find? (fun c => primary c = primary n) = some f := by
    rw [← Option.isSome_iff_exists, List.find?_isSome]
    exact ⟨n, hn.mem, decide_eq_true rfl⟩
  have hle := h.first_le hn hf
  obtain ⟨hkey, before, after, hfirst, hbefore⟩ := List.find?_eq_some_iff_append.mp hf
  have hkey : primary f = primary n := of_decide_eq_true hkey
  refine ⟨before, f, after, hfirst, ⟨List.mem_of_find?_eq_some hf, ?_, ?_⟩, ?_⟩
  · intro c hc
    have hge := hn.primary_le c hc
    omega
  · intro c hc hsame
    have hge := hn.secondary_le c hc (by omega)
    omega
  · intro c hc
    have hne := hbefore c hc
    have hge := hn.primary_le c (by rw [hfirst]; exact List.mem_append_left _ hc)
    simp only [Bool.not_eq_true', decide_eq_false_iff_not] at hne
    omega

theorem leastFirst_of_alike {records : List α} (hne : records ≠ [])
    (h : ∀ a ∈ records, ∀ b ∈ records, primary a = primary b ∧ secondary a = secondary b) :
    LeastFirst primary secondary records := by
  obtain ⟨a, rest, rfl⟩ := List.exists_cons_of_ne_nil hne
  refine ⟨[], a, rest, rfl, ⟨List.mem_cons_self, ?_, ?_⟩, fun b hb => nomatch hb⟩
  · intro b hb
    exact le_of_eq (h a List.mem_cons_self b hb).1
  · intro b hb _
    exact le_of_eq (h a List.mem_cons_self b hb).2

end

end Lorawan.Preference

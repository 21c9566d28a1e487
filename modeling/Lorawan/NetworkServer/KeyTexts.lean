import Lorawan.Backend.Exchange
import Lorawan.Backend.KeyEnvelope

/-!
# Key texts (libserver.c:647-714, common.c:2805-2863)

A key arrives as hex text in a JSON object. `parse_key_envelope` and `get_nsns_key` read
it by rules of their own. What they read is not always there: here the contents of a
variable or a buffer that nothing was written to, and of the memory behind a text, are an
argument. A text is what a C program sees of it.
-/

namespace Lorawan.NetworkServer.KeyTexts
open Lorawan Lorawan.Backend

/-! ### The parsers -/

/-- Key wrap of sixteen octets: what is unwrapped has twenty-four. -/
structure AESWRAP extends KeyWrap where
  unwrap_length : ∀ kek c key, unwrap kek c = some key → c.length = 24 ∧ key.length = 16

inductive KeyMember
  | AESKey
  | KEKLabel
deriving DecidableEq

/-- What is in memory that the functions do not write to. -/
structure Unset where
  /-- `unsigned o` of turn `i`, cut to an octet. -/
  octet : ℕ → UInt8
  encryptedBin : ℕ → UInt8
  /-- Behind the end of the text. -/
  after : List Char

/-- What a parser returns, with what it leaves in `keyOut`. -/
inductive KeyResult
  | Success (keyOut : Octets)
  | refused (result : Result)
  | null
  | crash
deriving DecidableEq

/-- What `sscanf(str, "%02x", &o)` leaves in `o`. -/
def Unset.scanned (U : Unset) (i : ℕ) (str : List Char) : UInt8 :=
  ((Text.scan2 str).map UInt8.ofNat).getD (U.octet i)

/-- `uint8_t encryptedBinLen = strlen(inStr) / 2`. -/
def encryptedBinLen (inStr : List Char) : ℕ := inStr.length / 2 % 256

/-- `uint8_t encryptedBin[LORA_KEYENVELOPE_LEN]` after the loop. -/
def Unset.encrypted (U : Unset) (inStr : List Char) : Octets :=
  (List.range 24).map fun i =>
    if i < encryptedBinLen inStr then U.scanned i (inStr.drop (2 * i)) else U.encryptedBin i

variable {D : Type} (C : Json.Conversions KeyMember D) (W : AESWRAP) (U : Unset)

/-- `libserver.c:647-714`. -/
def parse_key_envelope (obj : Json KeyMember D) (ke : key_envelope_t) : KeyResult :=
  match obj.get_ex .AESKey with
  | none => .refused .MalformedRequest
  | some o =>
    match o.get_string C with
    | none => .crash
    | some inStr =>
      if 24 < encryptedBinLen inStr then .refused .Other
      else
        match obj.get_ex .KEKLabel with
        | none => .Success ((U.encrypted inStr).take 16)
        | some o =>
          match ke.kek_label with
          | none => .refused .Other
          | some kek_label =>
            match o.get_string C with
            | none => .crash
            | some rxLabel =>
              if rxLabel ≠ kek_label then .refused .Other
              else
                match W.unwrap ke.key_bin ((U.encrypted inStr).take (encryptedBinLen inStr)) with
                | none => .refused .Other
                | some keyOut => .Success keyOut

/-- `sprintf(query, "SELECT KEK FROM roaming WHERE NetID = %u AND KEKlabel = '%s'", ..)`. -/
def kekQuery (netid : ℕ) (label : List Char) : List Char :=
  "SELECT KEK FROM roaming WHERE NetID = ".toList ++ Text.print 10 netid ++
    " AND KEKlabel = '".toList ++ label ++ ['\'']

/-- The database server's answer: nothing, no row, or the column of the first row. -/
inductive Answer
  | failed
  | noRow
  | row (KEK : Option Octets)
deriving DecidableEq

/-- The text at `str`, when `text` and its NUL are at the start of memory. -/
def Unset.textAt (U : Unset) (text : List Char) (str : ℕ) : List Char :=
  ((text ++ '\x00' :: U.after).drop str).takeWhile (· ≠ '\x00')

/-- `get_nsns_key` (common.c:2805-2863); `netid` is what the variable holds before it is
scanned. A query that does not fit its buffer overwrites the stack. -/
def get_nsns_key (answer : List Char → Answer) (obj : Option (Json KeyMember D))
    (netIDstr : List Char) (netid : ℕ) : KeyResult :=
  match obj with
  | none => .null
  | some obj =>
    match obj.get_ex .AESKey with
    | none => .refused .Other
    | some o =>
      match obj.get_ex .KEKLabel with
      | none =>
        match o.get_string C with
        | none => .crash
        | some AESKeyStr =>
          .Success ((List.range 16).map fun n => U.scanned n (U.textAt AESKeyStr (2 * n)))
      | some l =>
        let query := kekQuery ((Text.scan 16 32 netIDstr).getD netid)
          ((l.get_string C).getD "(null)".toList)
        if 256 ≤ query.length then .crash
        else
          match answer query with
          | .failed => .refused .Other
          | .noRow => .refused .Other
          | .row KEK =>
            match l.get_string C, KEK with
            | some label, some KEK => parse_key_envelope C W U obj ⟨some label, KEK⟩
            | _, _ => .crash

/-! ### What they are for -/

/-- The object of `create_KeyEnvelope`. -/
def envelopeJson (obj : KeyEnvelopeJson) : Json KeyMember D :=
  .object (Json.add .AESKey (.string obj.AESKey)
    (Json.addSome .KEKLabel (obj.KEKLabel.map .string) Json.noMembers))

/-- A holder of the same label and KEK takes out every key that was put in. -/
def RoundTrip (ke : key_envelope_t) : Prop :=
  ∀ (W : AESWRAP) (U : Unset) (key : Octets) (obj : KeyEnvelopeJson), key.length = 16 →
    create_KeyEnvelope W.toKeyWrap key ke = some obj →
      parse_key_envelope C W U (envelopeJson obj) ke = .Success key

/-- A label that a statement can quote as it is. -/
def Quotable (label : List Char) : Prop := '\'' ∉ label ∧ '\\' ∉ label

/-- The server holds the KEK of a label: it answers with it, if the label is quoted well. -/
def Holds (answer : List Char → Answer) (netid : ℕ) (ke : key_envelope_t) : Prop :=
  ∀ label, ke.kek_label = some label → Quotable label →
    answer (kekQuery netid label) = .row (some ke.key_bin)

/-- The same for a receiver that has the KEK of the sender `netid` in its database. -/
def RoundTripNS (ke : key_envelope_t) (netid : ℕ) : Prop :=
  ∀ (W : AESWRAP) (U : Unset) (key : Octets) (obj : KeyEnvelopeJson)
    (answer : List Char → Answer) (netIDstr : List Char) (before : ℕ), key.length = 16 →
    create_KeyEnvelope W.toKeyWrap key ke = some obj → Text.scan 16 32 netIDstr = some netid →
      Holds answer netid ke →
        get_nsns_key C W U answer (some (envelopeJson obj)) netIDstr before = .Success key

/-- The member is a text of exactly as many hex digits as the envelope needs. -/
def ExactText (obj : Json KeyMember D) : Prop :=
  ∃ o text, obj.get_ex .AESKey = some o ∧ o.get_string C = some text ∧
    (∀ c ∈ text, isHexDigit c = true) ∧
      text.length = if (obj.get_ex .KEKLabel).isSome then 48 else 32

/-- Success means that the sixteen octets come from an exact text, whatever is in memory. -/
def Sound (obj : Json KeyMember D) (parser : AESWRAP → Unset → KeyResult) : Prop :=
  ∀ W U keyOut, parser W U = .Success keyOut →
    keyOut.length = 16 ∧ (∀ U', parser W U' = .Success keyOut) ∧ ExactText C obj

/-- What `parse_key_envelope` looks at before it uses the text. -/
def Passes (obj : Json KeyMember D) (kek_label : Option (List Char)) : Prop :=
  ∃ o text, obj.get_ex .AESKey = some o ∧ o.get_string C = some text ∧
    match obj.get_ex .KEKLabel with
    | none => encryptedBinLen text ≤ 24
    | some l => encryptedBinLen text = 24 ∧ kek_label.isSome ∧ l.get_string C = kek_label

/-- What `get_nsns_key` looks at: in the clear, only that there is a text. -/
def PassesNS (obj : Json KeyMember D) (netid : ℕ) : Prop :=
  ∃ o text, obj.get_ex .AESKey = some o ∧ o.get_string C = some text ∧
    ∀ l, obj.get_ex .KEKLabel = some l → encryptedBinLen text = 24 ∧
      ∃ label, l.get_string C = some label ∧ (kekQuery netid label).length < 256

/-! ### Reading hex text -/

theorem scan2_of_hex {hi lo : Char} (cs : List Char) (hhi : isHexDigit hi = true)
    (hlo : isHexDigit lo = true) : (Text.scan2 (hi :: lo :: cs)).isSome := by
  have hspace := (Text.digit_ne hhi).1
  have h := @scan_isSome_of_hex hi lo [] 32 hhi hlo
  rw [Text.scan, List.dropWhile_cons_of_neg (by simp [hspace])] at h
  rw [Text.scan2, List.dropWhile_cons_of_neg (by simp [hspace])]
  exact h

theorem scanned_of_hex {text : List Char} (h : ∀ c ∈ text, isHexDigit c = true) {i : ℕ}
    (hi : 2 * i + 1 < text.length) (U U' : Unset) :
    U.scanned i (text.drop (2 * i)) = U'.scanned i (text.drop (2 * i)) := by
  have hdrop : text.drop (2 * i) =
      text.get ⟨2 * i, by omega⟩ :: text.get ⟨2 * i + 1, hi⟩ :: text.drop (2 * i + 2) := by
    rw [List.drop_eq_getElem_cons (by omega : 2 * i < text.length), List.drop_eq_getElem_cons hi]
    rfl
  have hsome := scan2_of_hex (text.drop (2 * i + 2)) (h _ (List.get_mem text ⟨2 * i, by omega⟩))
    (h _ (List.get_mem text ⟨2 * i + 1, hi⟩))
  rw [← hdrop] at hsome
  obtain ⟨n, hn⟩ := Option.isSome_iff_exists.mp hsome
  simp only [Unset.scanned, hn, Option.map_some, Option.getD_some]

theorem take_encrypted (U : Unset) {inStr : List Char} {n : ℕ} (hn : n ≤ 24)
    (hlen : n ≤ encryptedBinLen inStr) :
    (U.encrypted inStr).take n =
      (List.range n).map fun i => U.scanned i (inStr.drop (2 * i)) := by
  unfold Unset.encrypted
  rw [← List.map_take, List.take_range, Nat.min_eq_left hn]
  apply List.map_congr_left
  intro i hi
  have := List.mem_range.mp hi
  exact if_pos (by omega)

theorem take_encrypted_of_hex {text : List Char} (h : ∀ c ∈ text, isHexDigit c = true) {n : ℕ}
    (hn : n ≤ 24) (hlen : text.length = 2 * n) (U U' : Unset) :
    (U.encrypted text).take n = (U'.encrypted text).take n := by
  have hbin : n ≤ encryptedBinLen text := by
    unfold encryptedBinLen
    omega
  rw [take_encrypted U hn hbin, take_encrypted U' hn hbin]
  apply List.map_congr_left
  intro i hi
  have := List.mem_range.mp hi
  exact scanned_of_hex h (by omega) U U'

theorem take_encrypted_printed (U : Unset) {bs : Octets} (h : bs.length ≤ 24) :
    (U.encrypted (Text.printOctets bs)).take bs.length = bs := by
  have hbin : encryptedBinLen (Text.printOctets bs) = bs.length := by
    unfold encryptedBinLen
    rw [Text.printOctets_length]
    omega
  rw [take_encrypted U h (le_of_eq hbin.symm)]
  apply List.ext_getElem
  · simp
  · intro i hi hi'
    rw [List.getElem_map, List.getElem_range, Text.drop_printOctets, List.drop_eq_getElem_cons hi']
    have hscan := Text.scan2_print2 bs[i] (Text.printOctets (bs.drop (i + 1)))
    simp only [Unset.scanned, Text.printOctets, List.flatMap_cons] at hscan ⊢
    rw [hscan]
    rfl

theorem isHexDigit_printed (bs : Octets) : ∀ c ∈ Text.printOctets bs, isHexDigit c = true := by
  have hdigit : ∀ d < 16, isHexDigit (Nat.digitChar d) = true := by decide
  intro c hc
  obtain ⟨b, -, hb⟩ := List.mem_flatMap.mp hc
  have hlt : b.toNat < 256 := b.toNat_lt
  simp only [Text.print2, List.mem_cons, List.not_mem_nil, or_false] at hb
  rcases hb with rfl | rfl
  · exact hdigit _ (by omega)
  · exact hdigit _ (by omega)

theorem textAt_of_hex (U : Unset) {text : List Char} (h : ∀ c ∈ text, isHexDigit c = true)
    {str : ℕ} (hstr : str ≤ text.length) : U.textAt text str = text.drop str := by
  have hne : ∀ c ∈ text.drop str, decide (c ≠ '\x00') = true := by
    intro c hc
    have hhex := h c (List.mem_of_mem_drop hc)
    apply decide_eq_true
    rintro rfl
    exact absurd hhex (by decide)
  unfold Unset.textAt
  rw [List.drop_append_of_le_length hstr, List.takeWhile_append_of_pos hne]
  simp

/-! ### The envelope of `KeyEnvelope.lean` -/

@[simp] theorem envelopeJson_AESKey (e : KeyEnvelopeJson) :
    (envelopeJson e : Json KeyMember D).get_ex .AESKey = some (.string e.AESKey) := by
  simp [envelopeJson]

@[simp] theorem envelopeJson_KEKLabel (e : KeyEnvelopeJson) :
    (envelopeJson e : Json KeyMember D).get_ex .KEKLabel = e.KEKLabel.map .string := by
  simp [envelopeJson]

def KeyResult.key : KeyResult → Option Octets
  | .Success keyOut => some keyOut
  | _ => none

theorem take_scanOctets (junk : UInt8) {text : List Char} {n : ℕ} (hn : 2 * n ≤ text.length) :
    (Text.scanOctets junk text).take n =
      (List.range n).map fun i => ((Text.scan2 (text.drop (2 * i))).map UInt8.ofNat).getD junk := by
  induction n generalizing text with
  | zero => rfl
  | succ n ih =>
    obtain ⟨c, d, cs, rfl⟩ : ∃ c d cs, text = c :: d :: cs := by
      cases text with
      | nil => simp at hn
      | cons c rest =>
        cases rest with
        | nil =>
          simp only [List.length_cons, List.length_nil] at hn
          omega
        | cons d cs => exact ⟨c, d, cs, rfl⟩
    have hcs : 2 * n ≤ cs.length := by
      simp only [List.length_cons] at hn
      omega
    rw [Text.scanOctets, List.take_succ_cons, ih hcs, List.range_succ_eq_map, List.map_cons,
      List.map_map]
    rfl

/-- With one content for the variable, and a text that fills a key, the parser is that of
`KeyEnvelope.lean`. -/
theorem parse_key_envelope_key (junk : UInt8) (e : KeyEnvelopeJson) (ke : key_envelope_t)
    (hU : ∀ i, U.octet i = junk) (hlen : 16 ≤ encryptedBinLen e.AESKey) :
    (parse_key_envelope C W U (envelopeJson e) ke).key =
      Backend.parse_key_envelope W.toKeyWrap junk e ke := by
  have htake : ∀ n ≤ 24, n ≤ encryptedBinLen e.AESKey →
      (U.encrypted e.AESKey).take n = (Text.scanOctets junk e.AESKey).take n := by
    intro n h24 hn
    have hhalf : encryptedBinLen e.AESKey ≤ e.AESKey.length / 2 := Nat.mod_le _ _
    rw [take_encrypted U h24 hn, take_scanOctets junk (by omega)]
    simp only [Unset.scanned, hU]
  unfold parse_key_envelope Backend.parse_key_envelope
  simp only [envelopeJson_AESKey, envelopeJson_KEKLabel, Json.get_string_string]
  rw [show e.AESKey.length / 2 % 256 = encryptedBinLen e.AESKey from rfl]
  by_cases hlong : 24 < encryptedBinLen e.AESKey
  · rw [if_pos hlong, if_pos hlong]
    rfl
  · rw [if_neg hlong, if_neg hlong, htake _ (by omega) (le_refl _)]
    cases e.KEKLabel with
    | none =>
      have h16 := htake 16 (by omega) hlen
      simp only [Option.map_none, KeyResult.key, h16, List.take_take, Nat.min_eq_left hlen]
    | some rxLabel =>
      cases ke.kek_label with
      | none => simp [KeyResult.key]
      | some kek_label =>
        by_cases heq : rxLabel = kek_label
        · cases hkey : W.unwrap ke.key_bin ((Text.scanOctets junk e.AESKey).take
            (encryptedBinLen e.AESKey)) <;> simp [heq, KeyResult.key]
        · have hne : ¬kek_label = rxLabel := fun h => heq h.symm
          simp [heq, hne, KeyResult.key]

/-! ### When a parser succeeds -/

section Parsers

variable {C W U} {obj : Json KeyMember D} {ke : key_envelope_t} {keyOut : Octets}

theorem success_clear {o : Json KeyMember D} {text : List Char} (ho : obj.get_ex .AESKey = some o)
    (htext : o.get_string C = some text) (hlabel : obj.get_ex .KEKLabel = none) :
    parse_key_envelope C W U obj ke = .Success keyOut ↔
      encryptedBinLen text ≤ 24 ∧ (U.encrypted text).take 16 = keyOut := by
  simp only [parse_key_envelope, ho, htext, hlabel]
  by_cases hlen : 24 < encryptedBinLen text
  · simp [hlen]
  · simp [if_neg hlen, Nat.le_of_not_lt hlen]

theorem success_wrapped {o l : Json KeyMember D} {text : List Char}
    (ho : obj.get_ex .AESKey = some o) (htext : o.get_string C = some text)
    (hlabel : obj.get_ex .KEKLabel = some l) :
    parse_key_envelope C W U obj ke = .Success keyOut ↔
      encryptedBinLen text ≤ 24 ∧ ke.kek_label.isSome ∧ l.get_string C = ke.kek_label ∧
        W.unwrap ke.key_bin ((U.encrypted text).take (encryptedBinLen text)) = some keyOut := by
  simp only [parse_key_envelope, ho, htext, hlabel]
  by_cases hlen : 24 < encryptedBinLen text
  · simp [hlen]
  · rw [if_neg hlen]
    have hle := Nat.le_of_not_lt hlen
    cases hown : ke.kek_label with
    | none => simp
    | some kek_label =>
      cases hrx : l.get_string C with
      | none => simp
      | some rxLabel =>
        by_cases heq : rxLabel = kek_label
        · cases hkey : W.unwrap ke.key_bin ((U.encrypted text).take (encryptedBinLen text)) <;>
            simp [heq, hle]
        · simp [heq]

theorem exists_text_of_success (h : parse_key_envelope C W U obj ke = .Success keyOut) :
    ∃ o text, obj.get_ex .AESKey = some o ∧ o.get_string C = some text := by
  unfold parse_key_envelope at h
  cases ho : obj.get_ex .AESKey with
  | none => simp [ho] at h
  | some o =>
    cases htext : o.get_string C with
    | none => simp [ho, htext] at h
    | some text => exact ⟨o, text, rfl, htext⟩

theorem length_of_unwrap {text : List Char} {kek : Octets}
    (h : W.unwrap kek ((U.encrypted text).take (encryptedBinLen text)) = some keyOut)
    (hlen : encryptedBinLen text ≤ 24) : encryptedBinLen text = 24 := by
  have h24 := (W.unwrap_length _ _ _ h).1
  rw [take_encrypted U hlen (le_refl _)] at h24
  simpa using h24

theorem passes_of_success (h : parse_key_envelope C W U obj ke = .Success keyOut) :
    Passes C obj ke.kek_label ∧ keyOut.length = 16 := by
  obtain ⟨o, text, ho, htext⟩ := exists_text_of_success h
  cases hlabel : obj.get_ex .KEKLabel with
  | none =>
    obtain ⟨hlen, rfl⟩ := (success_clear ho htext hlabel).mp h
    refine ⟨⟨o, text, ho, htext, ?_⟩, by simp [Unset.encrypted]⟩
    rw [hlabel]
    exact hlen
  | some l =>
    obtain ⟨hlen, hown, hrx, hkey⟩ := (success_wrapped ho htext hlabel).mp h
    refine ⟨⟨o, text, ho, htext, ?_⟩, (W.unwrap_length _ _ _ hkey).2⟩
    rw [hlabel]
    exact ⟨length_of_unwrap hkey hlen, hown, hrx⟩

theorem success_of_exact (hexact : ExactText C obj)
    (h : parse_key_envelope C W U obj ke = .Success keyOut) (U' : Unset) :
    parse_key_envelope C W U' obj ke = .Success keyOut := by
  obtain ⟨o, text, ho, htext, hhex, hlength⟩ := hexact
  cases hlabel : obj.get_ex .KEKLabel with
  | none =>
    rw [hlabel] at hlength
    rw [success_clear ho htext hlabel] at h ⊢
    rwa [take_encrypted_of_hex hhex (by omega) hlength U' U]
  | some l =>
    rw [hlabel] at hlength
    have hlength : text.length = 2 * 24 := hlength
    have hbin : encryptedBinLen text = 24 := by
      unfold encryptedBinLen
      omega
    rw [success_wrapped ho htext hlabel, hbin] at h ⊢
    rwa [take_encrypted_of_hex hhex (le_refl 24) hlength U' U]

end Parsers

/-- A key wrap of one key into one envelope. -/
def AESWRAP.single (key c : Octets) (hkey : key.length = 16) (hc : c.length = 24) : AESWRAP where
  wrap _ k := if k = key then some c else none
  unwrap _ d := if d = c then some key else none
  wrap_length := by
    intro kek k d h
    split at h
    · rw [← Option.some.inj h]
      exact hc
    · cases h
  unwrap_wrap := by
    intro kek k d h
    split at h
    · rename_i hk
      rw [if_pos (Option.some.inj h).symm, hk]
    · cases h
  unwrap_length := by
    intro kek d k h
    split at h
    · rename_i hd
      rw [hd, ← Option.some.inj h]
      exact ⟨hc, hkey⟩
    · cases h

theorem exists_success {obj : Json KeyMember D} {ke : key_envelope_t}
    (h : Passes C obj ke.kek_label) (U : Unset) :
    ∃ W keyOut, parse_key_envelope C W U obj ke = .Success keyOut := by
  obtain ⟨o, text, ho, htext, hpasses⟩ := h
  have hc : ((U.encrypted text).take 24).length = 24 := by simp [Unset.encrypted]
  let W := AESWRAP.single (List.replicate 16 0) _ List.length_replicate hc
  cases hlabel : obj.get_ex .KEKLabel with
  | none =>
    rw [hlabel] at hpasses
    exact ⟨W, _, (success_clear ho htext hlabel).mpr ⟨hpasses, rfl⟩⟩
  | some l =>
    rw [hlabel] at hpasses
    obtain ⟨hbin, hown, hrx⟩ := hpasses
    refine ⟨W, List.replicate 16 0, (success_wrapped ho htext hlabel).mpr ⟨by omega, hown, hrx, ?_⟩⟩
    rw [hbin]
    exact if_pos rfl

theorem sound_parse_iff (obj : Json KeyMember D) (ke : key_envelope_t) :
    Sound C obj (fun W U => parse_key_envelope C W U obj ke) ↔
      (Passes C obj ke.kek_label → ExactText C obj) := by
  constructor
  · intro h hpasses
    obtain ⟨W, keyOut, hsuccess⟩ := exists_success C hpasses ⟨fun _ => 0, fun _ => 0, []⟩
    exact (h W _ keyOut hsuccess).2.2
  · intro h W U keyOut hsuccess
    obtain ⟨hpasses, hlength⟩ := passes_of_success hsuccess
    exact ⟨hlength, success_of_exact (h hpasses) hsuccess, h hpasses⟩

section NetworkServers

variable {C W U} {obj : Json KeyMember D} {answer : List Char → Answer} {netIDstr : List Char}
  {netid : ℕ} {keyOut : Octets}

theorem nsns_clear (hlabel : obj.get_ex .KEKLabel = none) :
    get_nsns_key C W U answer (some obj) netIDstr netid = .Success keyOut ↔
      ∃ o text, obj.get_ex .AESKey = some o ∧ o.get_string C = some text ∧
        ((List.range 16).map fun n => U.scanned n (U.textAt text (2 * n))) = keyOut := by
  cases ho : obj.get_ex .AESKey with
  | none => simp [get_nsns_key, ho]
  | some o =>
    cases htext : o.get_string C with
    | none => simp [get_nsns_key, ho, hlabel, htext]
    | some text => simp [get_nsns_key, ho, hlabel, htext]

theorem nsns_wrapped {l : Json KeyMember D} (hlabel : obj.get_ex .KEKLabel = some l) :
    get_nsns_key C W U answer (some obj) netIDstr netid = .Success keyOut ↔
      ∃ label KEK, l.get_string C = some label ∧
        (kekQuery ((Text.scan 16 32 netIDstr).getD netid) label).length < 256 ∧
        answer (kekQuery ((Text.scan 16 32 netIDstr).getD netid) label) = .row (some KEK) ∧
        parse_key_envelope C W U obj ⟨some label, KEK⟩ = .Success keyOut := by
  constructor
  · intro h
    unfold get_nsns_key at h
    cases ho : obj.get_ex .AESKey with
    | none => simp [ho] at h
    | some o =>
      simp only [ho, hlabel] at h
      split at h
      · cases h
      · rename_i hfits
        split at h
        · cases h
        · cases h
        · rename_i KEK hrow
          cases hrx : l.get_string C with
          | none => simp [hrx] at h
          | some label =>
            cases KEK with
            | none => simp [hrx] at h
            | some KEK =>
              simp only [hrx, Option.getD_some] at h hfits hrow
              exact ⟨label, KEK, rfl, Nat.lt_of_not_le hfits, hrow, h⟩
  · rintro ⟨label, KEK, hrx, hfits, hrow, h⟩
    obtain ⟨o, text, ho, -⟩ := exists_text_of_success h
    simp only [get_nsns_key, ho, hlabel, hrx, Option.getD_some, hrow]
    rw [if_neg (Nat.not_le_of_lt hfits)]
    exact h

theorem passesNS_of_success
    (h : get_nsns_key C W U answer (some obj) netIDstr netid = .Success keyOut) :
    PassesNS C obj ((Text.scan 16 32 netIDstr).getD netid) ∧ keyOut.length = 16 := by
  cases hlabel : obj.get_ex .KEKLabel with
  | none =>
    obtain ⟨o, text, ho, htext, rfl⟩ := (nsns_clear hlabel).mp h
    refine ⟨⟨o, text, ho, htext, ?_⟩, by simp⟩
    intro l hl
    rw [hlabel] at hl
    cases hl
  | some l =>
    obtain ⟨label, KEK, hrx, hfits, hrow, hparse⟩ := (nsns_wrapped hlabel).mp h
    obtain ⟨⟨o, text, ho, htext, hpasses⟩, hlength⟩ := passes_of_success hparse
    rw [hlabel] at hpasses
    refine ⟨⟨o, text, ho, htext, ?_⟩, hlength⟩
    intro l' hl'
    obtain rfl := Option.some.inj (hlabel.symm.trans hl')
    exact ⟨hpasses.1, label, hrx, hfits⟩

theorem nsns_of_exact (hexact : ExactText C obj)
    (h : get_nsns_key C W U answer (some obj) netIDstr netid = .Success keyOut) (U' : Unset) :
    get_nsns_key C W U' answer (some obj) netIDstr netid = .Success keyOut := by
  cases hlabel : obj.get_ex .KEKLabel with
  | none =>
    obtain ⟨o, text, ho, htext, hhex, hlength⟩ := hexact
    rw [hlabel] at hlength
    have hlength : text.length = 32 := hlength
    obtain ⟨o', text', ho', htext', hkey⟩ := (nsns_clear hlabel).mp h
    obtain rfl := Option.some.inj (ho.symm.trans ho')
    obtain rfl := Option.some.inj (htext.symm.trans htext')
    refine (nsns_clear hlabel).mpr ⟨o, text, ho, htext, ?_⟩
    rw [← hkey]
    apply List.map_congr_left
    intro n hn
    have hlt := List.mem_range.mp hn
    rw [textAt_of_hex U' hhex (by omega), textAt_of_hex U hhex (by omega)]
    exact scanned_of_hex hhex (by omega) U' U
  | some l =>
    obtain ⟨label, KEK, hrx, hfits, hrow, hparse⟩ := (nsns_wrapped hlabel).mp h
    exact (nsns_wrapped hlabel).mpr
      ⟨label, KEK, hrx, hfits, hrow, success_of_exact hexact hparse U'⟩

theorem exists_nsns_success
    (h : PassesNS C obj ((Text.scan 16 32 netIDstr).getD netid)) (U : Unset) :
    ∃ W answer keyOut, get_nsns_key C W U answer (some obj) netIDstr netid = .Success keyOut := by
  obtain ⟨o, text, ho, htext, hpasses⟩ := h
  cases hlabel : obj.get_ex .KEKLabel with
  | none =>
    let W := AESWRAP.single (List.replicate 16 0) (List.replicate 24 0) List.length_replicate
      List.length_replicate
    exact ⟨W, fun _ => .failed, _, (nsns_clear hlabel).mpr ⟨o, text, ho, htext, rfl⟩⟩
  | some l =>
    obtain ⟨hbin, label, hrx, hfits⟩ := hpasses l hlabel
    have hparse : Passes C obj (some label) := by
      refine ⟨o, text, ho, htext, ?_⟩
      rw [hlabel]
      exact ⟨hbin, rfl, hrx⟩
    obtain ⟨W, keyOut, hsuccess⟩ := @exists_success D C obj ⟨some label, []⟩ hparse U
    exact ⟨W, fun _ => .row (some []), keyOut,
      (nsns_wrapped hlabel).mpr ⟨label, [], hrx, hfits, rfl, hsuccess⟩⟩

variable (C)

theorem sound_nsns_iff (obj : Json KeyMember D) (netIDstr : List Char) (netid : ℕ) :
    (∀ answer, Sound C obj fun W U => get_nsns_key C W U answer (some obj) netIDstr netid) ↔
      (PassesNS C obj ((Text.scan 16 32 netIDstr).getD netid) → ExactText C obj) := by
  constructor
  · intro h hpasses
    obtain ⟨W, answer, keyOut, hsuccess⟩ :=
      exists_nsns_success hpasses ⟨fun _ => 0, fun _ => 0, []⟩
    exact (h answer W _ keyOut hsuccess).2.2
  · intro h answer W U keyOut hsuccess
    obtain ⟨hpasses, hlength⟩ := passesNS_of_success hsuccess
    exact ⟨hlength, nsns_of_exact (h hpasses) hsuccess, h hpasses⟩

end NetworkServers

/-! ### What was put in is taken out -/

theorem roundTrip (ke : key_envelope_t) : RoundTrip C ke := by
  intro W U key obj hkey hobj
  unfold create_KeyEnvelope at hobj
  cases hlabel : ke.kek_label with
  | none =>
    simp only [hlabel, Option.some.injEq] at hobj
    subst hobj
    have htake := take_encrypted_printed U (by omega : key.length ≤ 24)
    rw [hkey] at htake
    refine (success_clear (envelopeJson_AESKey _) rfl (envelopeJson_KEKLabel _)).mpr ⟨?_, htake⟩
    simp [encryptedBinLen, Text.printOctets_length, hkey]
  | some label =>
    simp only [hlabel] at hobj
    obtain ⟨c, hwrap, rfl⟩ := Option.map_eq_some_iff.mp hobj
    have hc := W.wrap_length _ _ _ hwrap
    have htake := take_encrypted_printed U (by omega : c.length ≤ 24)
    have hbin : encryptedBinLen (Text.printOctets c) = c.length := by
      simp [encryptedBinLen, Text.printOctets_length, hc]
    refine (success_wrapped (envelopeJson_AESKey _) rfl (envelopeJson_KEKLabel _)).mpr
      ⟨(hbin.trans hc).le, by rw [hlabel]; rfl, by rw [hlabel]; rfl, ?_⟩
    rw [hbin, htake]
    exact W.unwrap_wrap _ _ _ hwrap

/-- A network server looks a label up by a statement, which must quote it and hold it. -/
theorem roundTripNS_iff (ke : key_envelope_t) (netid : UInt32) :
    RoundTripNS C ke netid.toNat ↔ ∀ label, ke.kek_label = some label →
      Quotable label ∧ (kekQuery netid.toNat label).length < 256 := by
  constructor
  · intro h label hlabel
    have hscan := @Text.scan_print 16 32 netid.toNat (by omega) (by omega) (by omega)
      netid.toNat_lt
    let W := AESWRAP.single (List.replicate 16 0) (List.replicate 24 0) List.length_replicate
      List.length_replicate
    have hobj : create_KeyEnvelope W.toKeyWrap (List.replicate 16 0) ke =
        some ⟨some label, Text.printOctets (List.replicate 24 0)⟩ := by
      simp [create_KeyEnvelope, hlabel, W, AESWRAP.single]
    have hcall : ∀ answer, Holds answer netid.toNat ke →
        (kekQuery netid.toNat label).length < 256 ∧
          ∃ KEK, answer (kekQuery netid.toNat label) = .row (some KEK) := by
      intro answer hanswer
      have hsuccess := h W ⟨fun _ => 0, fun _ => 0, []⟩ _ _ answer _ 0 List.length_replicate hobj
        hscan hanswer
      rw [nsns_wrapped (envelopeJson_KEKLabel _)] at hsuccess
      obtain ⟨label', KEK, hrx, hfits, hrow, -⟩ := hsuccess
      obtain rfl : label = label' := Option.some.inj hrx
      rw [hscan, Option.getD_some] at hfits hrow
      exact ⟨hfits, KEK, hrow⟩
    refine ⟨?_, (hcall (fun _ => .row (some ke.key_bin)) fun _ _ _ => rfl).1⟩
    by_contra hquote
    -- the server may refuse a statement that does not quote its label
    have hrefused : Holds (fun _ => .failed) netid.toNat ke := by
      intro label' hlabel' hquote'
      obtain rfl := Option.some.inj (hlabel.symm.trans hlabel')
      exact absurd hquote' hquote
    obtain ⟨-, KEK, hrow⟩ := hcall _ hrefused
    cases hrow
  · intro h W U key obj answer netIDstr before hkey hobj hscan hholds
    have hparse := roundTrip C ke W U key obj hkey hobj
    cases hlabel : ke.kek_label with
    | none =>
      unfold create_KeyEnvelope at hobj
      rw [hlabel] at hobj
      obtain rfl := Option.some.inj hobj
      have hlen : (Text.printOctets key).length = 32 := by rw [Text.printOctets_length, hkey]
      refine (nsns_clear (envelopeJson_KEKLabel _)).mpr ⟨_, _, envelopeJson_AESKey _, rfl, ?_⟩
      have hbin : 16 ≤ encryptedBinLen (Text.printOctets key) := by
        unfold encryptedBinLen
        omega
      have htake := take_encrypted_printed U (by omega : key.length ≤ 24)
      rw [hkey, take_encrypted U (by omega) hbin] at htake
      rw [← htake]
      apply List.map_congr_left
      intro n hn
      have hlt := List.mem_range.mp hn
      rw [htake, textAt_of_hex U (isHexDigit_printed key) (by omega)]
    | some label =>
      obtain ⟨hquote, hfits⟩ := h label hlabel
      unfold create_KeyEnvelope at hobj
      simp only [hlabel] at hobj
      obtain ⟨c, hwrap, rfl⟩ := Option.map_eq_some_iff.mp hobj
      rw [nsns_wrapped (envelopeJson_KEKLabel _), hscan, Option.getD_some]
      have hke : (⟨some label, ke.key_bin⟩ : key_envelope_t) = ke := by
        rw [← hlabel]
      exact ⟨label, ke.key_bin, rfl, hfits, hholds label hlabel hquote, by rw [hke]; exact hparse⟩

/-- **Both parsers take out what a matching sender put in, the one that asks its database
if the label can be quoted; and a key they take out is an exact text's, exactly for the
objects whose text is exact or that do not pass.** -/
theorem keyEnvelopes (ke ke' : key_envelope_t) (netid : UInt32) (obj : Json KeyMember D)
    (netIDstr : List Char) (before : ℕ) :
    RoundTrip C ke ∧
      (RoundTripNS C ke netid.toNat ↔ ∀ label, ke.kek_label = some label →
        Quotable label ∧ (kekQuery netid.toNat label).length < 256) ∧
      (Sound C obj (fun W U => parse_key_envelope C W U obj ke') ↔
        (Passes C obj ke'.kek_label → ExactText C obj)) ∧
      ((∀ answer, Sound C obj fun W U =>
          get_nsns_key C W U answer (some obj) netIDstr before) ↔
        (PassesNS C obj ((Text.scan 16 32 netIDstr).getD before) → ExactText C obj)) :=
  ⟨roundTrip C ke, roundTripNS_iff C ke netid, sound_parse_iff C obj ke',
    sound_nsns_iff C obj netIDstr before⟩

/-- A text of two digits in the clear. -/
def shortKey : Json KeyMember Unit :=
  .object (Json.add .AESKey (.string ['0', '0']) Json.noMembers)

def noConversions : Json.Conversions KeyMember Unit :=
  ⟨fun _ => [], fun _ => 0, fun _ => (), fun _ => false⟩

/-- Fifteen octets of the key are what the stack, or the memory behind the text, held. -/
theorem short_text_is_a_key :
    (∃ W U, parse_key_envelope noConversions W U shortKey ⟨none, []⟩ =
        .Success (0 :: List.replicate 15 0x77)) ∧
      ¬Sound noConversions shortKey
        (fun W U => parse_key_envelope noConversions W U shortKey ⟨none, []⟩) ∧
      ¬Sound noConversions shortKey (fun W U =>
        get_nsns_key noConversions W U (fun _ => .failed) (some shortKey) [] 0) := by
  let W := AESWRAP.single (List.replicate 16 0) (List.replicate 24 0) List.length_replicate
    List.length_replicate
  let U : Unset := ⟨fun _ => 0, fun _ => 0x77, []⟩
  have hparse : parse_key_envelope noConversions W U shortKey ⟨none, []⟩ =
      .Success (0 :: List.replicate 15 0x77) := by
    decide +kernel
  have hnsns : get_nsns_key noConversions W U (fun _ => .failed) (some shortKey) [] 0 =
      .Success (List.replicate 16 0) := by
    decide +kernel
  have hshort : ¬ExactText noConversions shortKey := by
    rintro ⟨o, text, ho, htext, -, hlength⟩
    obtain rfl := Option.some.inj ho
    obtain rfl := Option.some.inj htext
    revert hlength
    decide
  exact ⟨⟨W, U, hparse⟩, fun h => hshort (h W U _ hparse).2.2,
    fun h => hshort (h W U _ hnsns).2.2⟩

end Lorawan.NetworkServer.KeyTexts

import Lorawan.Lib.Loop
import Lorawan.Backend.DnsRecords
import Lorawan.Backend.MetaData

/-!
# Parsing a DNS response (libbackend/resolve.c:156-349)

`msg` is what the buffer holds and `fin` the offset that the code takes for the response's end. The
buffer has `MAX_QUERY_SIZE` octets, and the length that `res_search` returns can be larger. A read
behind what the buffer holds and a write behind an array have no defined outcome.
-/

namespace Lorawan.Backend
open Lorawan

def MAX_DNS_STRING : ℕ := 255

def MAX_DNS_NAME : ℕ := 256

def MAX_QUERY_SIZE : ℕ := 8192

def DNS_HDR_SIZE : ℕ := 12

def T_SRV : UInt16 := 33

def T_NAPTR : UInt16 := 35

/-! ### Accesses -/

def readOctets (msg : Octets) (i n : ℕ) : Except Fault Octets :=
  if i + n ≤ msg.length then .ok (msg.slice i n) else .error .undefined

/-- `memcpy` to the start of an array of `size` characters, and a terminator behind the copy. -/
def storeString (size : ℕ) (str : Octets) : Except Fault Octets :=
  if size < str.length then .error .undefined
  else if size ≤ str.length then .error .undefined
  else .ok str

def ntohs (bs : Octets) : UInt16 := UInt16.ofNat (Octets.toNat bs.reverse)

def ntohl (bs : Octets) : UInt32 := UInt32.ofNat (Octets.toNat bs.reverse)

/-- The resolver library's `dn_expand`: the name, where there is one, and how far it looks at the
message. It keeps to the message's end and to the room it is given. -/
structure DnExpand where
  name : Octets → ℕ → ℕ → ℕ → Option Octets
  reads : Octets → ℕ → ℕ → ℕ
  name_length : ∀ msg fin src dstsiz dst, name msg fin src dstsiz = some dst → dst.length < dstsiz
  reads_le : ∀ msg fin src, reads msg fin src ≤ fin

variable (X : DnExpand) (msg : Octets) (fin : ℕ)

/-- `dn_expand` into an array of `MAX_DNS_NAME` characters. -/
def dn_expand (src dstsiz : ℕ) : Except Fault (Option Octets) :=
  if msg.length < X.reads msg fin src then .error .undefined
  else
    match X.name msg fin src dstsiz with
    | none => .ok none
    | some dst => do
      let name ← storeString MAX_DNS_NAME dst
      pure (some name)

/-! ### Record data (`resolve.c:156-222`) -/

/-- `dns_srv_parser`. -/
def dnsSrvParser (rdata : ℕ) : Except Fault (Option srv_rdata) :=
  if fin ≤ rdata + 6 then .ok none
  else do
    let priority ← readOctets msg rdata 2
    let weight ← readOctets msg (rdata + 2) 2
    let port ← readOctets msg (rdata + 4) 2
    let name ← dn_expand X msg fin (rdata + 6) (MAX_DNS_NAME - 1)
    pure (name.map fun name => ⟨ntohs priority, ntohs weight, ntohs port, name⟩)

/-- A string with its length in front at `i`, refused where it ends less than `slack` octets before
the end. -/
def counted_string (slack i : ℕ) : Except Fault (Option Octets) := do
  let len ← deref msg[i]?
  if fin ≤ i + slack + len.toNat then pure none
  else do
    let str ← readOctets msg (i + 1) len.toNat
    let stored ← storeString MAX_DNS_STRING str
    pure (some stored)

/-- `dns_naptr_parser`. -/
def dnsNaptrParser (rdata : ℕ) : Except Fault (Option naptr_rdata) :=
  if fin ≤ rdata + 7 then .ok none
  else do
    let order ← readOctets msg rdata 2
    let pref ← readOctets msg (rdata + 2) 2
    match ← counted_string msg fin 3 (rdata + 4) with
    | none => pure none
    | some flags =>
      match ← counted_string msg fin 2 (rdata + 5 + flags.length) with
      | none => pure none
      | some services =>
        match ← counted_string msg fin 1 (rdata + 6 + flags.length + services.length) with
        | none => pure none
        | some regexp => do
          let repl ← dn_expand X msg fin
            (rdata + 7 + flags.length + services.length + regexp.length) (MAX_DNS_NAME - 1)
          pure (repl.map fun repl => ⟨ntohs order, ntohs pref, flags, services, regexp, repl⟩)

/-! ### The response (`resolve.c:224-349`) -/

/-- `(p >= end) ? 0 : p`. -/
def before (p : ℕ) : Option ℕ := if fin ≤ p then none else some p

def skipDnsName (p : ℕ) : Except Fault (Option ℕ) :=
  if p < fin then do
    let b ← deref msg[p]?
    if b = 0 then pure (before fin (p + 1))
    else if b &&& 0xc0 = 0xc0 then pure (before fin (p + 2))
    else skipDnsName (p + b.toNat + 1)
  else .ok (before fin p)
termination_by fin - p
decreasing_by omega

/-- `answer_md_t`, in the host's order. -/
structure answer_md_t where
  rtype : UInt16
  class_ : UInt16
  ttl : UInt32
  rdlength : UInt16

def answer_md_t.ofOctets (bs : Octets) : answer_md_t :=
  ⟨ntohs (bs.slice 0 2), ntohs (bs.slice 2 2), ntohl (bs.slice 4 4), ntohs (bs.slice 8 2)⟩

/-- What `vp` points to. -/
inductive Rdata
  | srv (s : srv_rdata)
  | naptr (n : naptr_rdata)

structure _result_list where
  class_ : UInt16
  ttl : UInt32
  vp : Option Rdata

/-- `remaining` questions are to be skipped. -/
def skipQuestions : ℕ → ℕ → Except Fault (Option ℕ)
  | 0, p => .ok (some p)
  | remaining + 1, p => do
    match ← skipDnsName msg fin p with
    | none => pure none
    | some q => if fin ≤ q + 4 then pure none else skipQuestions remaining (q + 4)

def readRdata (rtype : UInt16) (p : ℕ) : Except Fault (Option Rdata) :=
  if rtype = T_SRV then do
    let s ← dnsSrvParser X msg fin p
    pure (s.map .srv)
  else if rtype = T_NAPTR then do
    let n ← dnsNaptrParser X msg fin p
    pure (n.map .naptr)
  else .ok none

/-- `remaining` answers are to be read, `rl` is the list so far. -/
def readAnswers : ℕ → ℕ → List _result_list → Except Fault (List _result_list)
  | 0, _, rl => .ok rl
  | remaining + 1, p, rl =>
    if p < fin then do
      match ← skipDnsName msg fin p with
      | none => pure []
      | some q =>
        if fin ≤ q + 10 then pure []
        else do
          let bs ← readOctets msg q 10
          let a := answer_md_t.ofOctets bs
          let vp ← readRdata X msg fin a.rtype (q + 10)
          readAnswers remaining (q + 10 + a.rdlength.toNat) (rl ++ [⟨a.class_, a.ttl, vp⟩])
    else .ok rl

/-- The walk over a buffer that holds `msg`, of a response of `fin` octets; `NULL` is no record. -/
def parseResponse : Except Fault (List _result_list) :=
  if fin ≤ DNS_HDR_SIZE then .ok []
  else do
    let qdcount ← readOctets msg 4 2
    match ← skipQuestions msg fin (ntohs qdcount).toNat DNS_HDR_SIZE with
    | none => pure []
    | some p => do
      let ancount ← readOctets msg 6 2
      readAnswers X msg fin (ntohs ancount).toNat p []

/-- `response` is what `res_search` finds; it fails where there is none. -/
def getRecord (response : Option Octets) : Except Fault (List _result_list) :=
  match response with
  | none => .ok []
  | some bs => parseResponse X (bs.take MAX_QUERY_SIZE) bs.length

/-! ### Places of the walk -/

/-- From a label to the one behind it. -/
def LabelStep (p p' : ℕ) : Prop :=
  p < fin ∧ ∃ b, msg[p]? = some b ∧ b ≠ 0 ∧ ¬b &&& 0xc0 = 0xc0 ∧ p' = p + b.toNat + 1

/-- The name at `p` has a length octet at `q`. -/
def LabelAt (p q : ℕ) : Prop := Relation.ReflTransGen (LabelStep msg fin) p q ∧ q < fin

/-- The name at `p` ends before `q`, with its root label or with a pointer. -/
def NameEnd (p q : ℕ) : Prop :=
  q < fin ∧ ∃ l b, LabelAt msg fin p l ∧ msg[l]? = some b ∧
    (b = 0 ∧ q = l + 1 ∨ b ≠ 0 ∧ b &&& 0xc0 = 0xc0 ∧ q = l + 2)

/-- From a question to the next one; the first component is how many are left. -/
def QuestionStep (s s' : ℕ × ℕ) : Prop :=
  s.1 = s'.1 + 1 ∧ ∃ q, NameEnd msg fin s.2 q ∧ q + 4 < fin ∧ s'.2 = q + 4

/-- The answer whose name is at `p` has `a` at `q`. -/
def AnswerAt (p q : ℕ) (a : answer_md_t) : Prop :=
  NameEnd msg fin p q ∧ q + 10 < fin ∧ a = .ofOctets (msg.slice q 10)

/-- From an answer to the next one. -/
def AnswerStep (s s' : ℕ × ℕ) : Prop :=
  s.1 = s'.1 + 1 ∧ s.2 < fin ∧ ∃ q a, AnswerAt msg fin s.2 q a ∧
    s'.2 = q + 10 + a.rdlength.toNat

/-- At `i` is the length of a string of `n` octets that is not refused. -/
def StringAt (slack i n : ℕ) : Prop :=
  i + slack + n < fin ∧ ∃ b, msg[i]? = some b ∧ b.toNat = n

/-! ### What each place needs -/

def NameFits (p : ℕ) : Prop := ∀ q, LabelAt msg fin p q → q < msg.length

/-- The string is in the buffer, and the terminator fits behind it. -/
def StringFits (slack i : ℕ) : Prop :=
  i < msg.length ∧ ∀ n, StringAt msg fin slack i n → i + 1 + n ≤ msg.length ∧ n < MAX_DNS_STRING

def ExpandFits (p : ℕ) : Prop := X.reads msg fin p ≤ msg.length

def SrvFits (p : ℕ) : Prop := p + 6 < fin → p + 6 ≤ msg.length ∧ ExpandFits X msg fin (p + 6)

/-- The flags, the services and the regular expression, each behind the one before. -/
def NaptrStringsFit (p : ℕ) : Prop :=
  StringFits msg fin 3 (p + 4) ∧ ∀ f, StringAt msg fin 3 (p + 4) f →
    StringFits msg fin 2 (p + 5 + f) ∧ ∀ s, StringAt msg fin 2 (p + 5 + f) s →
      StringFits msg fin 1 (p + 6 + f + s) ∧ ∀ r, StringAt msg fin 1 (p + 6 + f + s) r →
        ExpandFits X msg fin (p + 7 + f + s + r)

/-- No string that is copied fills its array. -/
def NaptrShort (p : ℕ) : Prop :=
  p + 7 < fin → ∀ f, StringAt msg fin 3 (p + 4) f → f < MAX_DNS_STRING ∧
    ∀ s, StringAt msg fin 2 (p + 5 + f) s → s < MAX_DNS_STRING ∧
      ∀ r, StringAt msg fin 1 (p + 6 + f + s) r → r < MAX_DNS_STRING

def NaptrFits (p : ℕ) : Prop := p + 7 < fin → NaptrStringsFit X msg fin p

def QuestionFits (s : ℕ × ℕ) : Prop := s.1 ≠ 0 → NameFits msg fin s.2

def AnswerFits (s : ℕ × ℕ) : Prop :=
  s.1 ≠ 0 → s.2 < fin →
    NameFits msg fin s.2 ∧ ∀ q a, AnswerAt msg fin s.2 q a →
      q + 10 ≤ msg.length ∧ (a.rtype = T_SRV → SrvFits X msg fin (q + 10)) ∧
        (a.rtype = T_NAPTR → NaptrFits X msg fin (q + 10))

/-- Where the walk over the questions and the answers begins. -/
def firstQuestion : ℕ × ℕ := ((ntohs (msg.slice 4 2)).toNat, DNS_HDR_SIZE)

/-- The first answer is behind the last question. -/
def FirstAnswer (s : ℕ × ℕ) : Prop :=
  s.1 = (ntohs (msg.slice 6 2)).toNat ∧
    Relation.ReflTransGen (QuestionStep msg fin) (firstQuestion msg) (0, s.2)

/-- Every place that the walk comes to has what it needs. -/
structure ResponseFits : Prop where
  questions : ∀ s, Relation.ReflTransGen (QuestionStep msg fin) (firstQuestion msg) s →
    QuestionFits msg fin s
  answers : ∀ first s, FirstAnswer msg fin first →
    Relation.ReflTransGen (AnswerStep msg fin) first s → AnswerFits X msg fin s

/-! ### Each access -/

def InBounds {α : Type} (x : Except Fault α) : Prop := ∃ a, x = .ok a

variable {X msg fin}

@[simp] theorem inBounds_ok {α : Type} (a : α) : InBounds (.ok a : Except Fault α) := ⟨a, rfl⟩

@[simp] theorem inBounds_pure {α : Type} (a : α) : InBounds (pure a : Except Fault α) := ⟨a, rfl⟩

@[simp] theorem not_inBounds_error {α : Type} (e : Fault) :
    ¬InBounds (.error e : Except Fault α) := by
  rintro ⟨a, h⟩
  cases h

theorem inBounds_bind_iff {α β : Type} {x : Except Fault α} {f : α → Except Fault β} :
    InBounds (x >>= f) ↔ ∃ a, x = .ok a ∧ InBounds (f a) := by
  unfold InBounds
  simp only [bind_ok_iff]
  constructor
  · rintro ⟨b, a, hx, hf⟩
    exact ⟨a, hx, b, hf⟩
  · rintro ⟨a, hx, b, hf⟩
    exact ⟨b, a, hx, hf⟩

theorem readOctets_ok_iff {i n : ℕ} {bs : Octets} :
    readOctets msg i n = .ok bs ↔ i + n ≤ msg.length ∧ msg.slice i n = bs := by
  unfold readOctets
  split <;> simp_all

theorem storeString_ok_iff {size : ℕ} {str out : Octets} :
    storeString size str = .ok out ↔ str.length < size ∧ str = out := by
  unfold storeString
  split
  · simp only [reduceCtorEq, false_iff]
    omega
  · split
    · simp only [reduceCtorEq, false_iff]
      omega
    · rename_i hlt
      simp only [Except.ok.injEq, not_le.mp hlt, true_and]

theorem inBounds_dn_expand {src : ℕ} :
    InBounds (dn_expand X msg fin src (MAX_DNS_NAME - 1)) ↔ ExpandFits X msg fin src := by
  unfold dn_expand ExpandFits
  split
  · rename_i hlt
    simp only [not_inBounds_error, false_iff]
    omega
  · rename_i hle
    refine iff_of_true ?_ (not_lt.mp hle)
    split
    · exact inBounds_ok none
    · rename_i dst hname
      have hlength := X.name_length _ _ _ _ _ hname
      have hstore : storeString MAX_DNS_NAME dst = .ok dst := by
        rw [storeString_ok_iff]
        exact ⟨by omega, rfl⟩
      rw [inBounds_bind_iff]
      exact ⟨dst, hstore, inBounds_pure (some dst)⟩

theorem inBounds_readOctets_bind {α : Type} {i n : ℕ} {f : Octets → Except Fault α} {P : Prop}
    (hf : ∀ bs, InBounds (f bs) ↔ P) :
    InBounds (readOctets msg i n >>= f) ↔ i + n ≤ msg.length ∧ P := by
  simp only [inBounds_bind_iff, readOctets_ok_iff, hf]
  constructor
  · rintro ⟨bs, ⟨hread, -⟩, hP⟩
    exact ⟨hread, hP⟩
  · rintro ⟨hread, hP⟩
    exact ⟨_, ⟨hread, rfl⟩, hP⟩

theorem inBounds_bind_pure {α β : Type} {x : Except Fault α} {g : α → β} :
    InBounds (x >>= fun a => pure (g a)) ↔ InBounds x := by
  rw [inBounds_bind_iff]
  simp only [inBounds_pure, and_true]
  exact Iff.rfl

theorem inBounds_dnsSrvParser {rdata : ℕ} :
    InBounds (dnsSrvParser X msg fin rdata) ↔ SrvFits X msg fin rdata := by
  unfold dnsSrvParser SrvFits
  split
  · rename_i hle
    refine iff_of_true (inBounds_ok none) ?_
    intro hlt
    omega
  · rename_i hlt
    rw [not_le] at hlt
    have hparse : InBounds (do
        let priority ← readOctets msg rdata 2
        let weight ← readOctets msg (rdata + 2) 2
        let port ← readOctets msg (rdata + 4) 2
        let name ← dn_expand X msg fin (rdata + 6) (MAX_DNS_NAME - 1)
        pure (name.map fun name =>
          (⟨ntohs priority, ntohs weight, ntohs port, name⟩ : srv_rdata))) ↔
        rdata + 2 ≤ msg.length ∧ rdata + 2 + 2 ≤ msg.length ∧ rdata + 4 + 2 ≤ msg.length ∧
          ExpandFits X msg fin (rdata + 6) := by
      refine inBounds_readOctets_bind fun priority => ?_
      refine inBounds_readOctets_bind fun weight => ?_
      refine inBounds_readOctets_bind fun port => ?_
      exact inBounds_bind_pure.trans inBounds_dn_expand
    rw [hparse]
    constructor
    · rintro ⟨-, -, hread, hname⟩ -
      exact ⟨hread, hname⟩
    · intro h
      obtain ⟨hread, hname⟩ := h hlt
      exact ⟨by omega, by omega, hread, hname⟩

theorem counted_string_ok_iff {slack i : ℕ} {r : Option Octets} :
    counted_string msg fin slack i = .ok r ↔
      ∃ b, msg[i]? = some b ∧
        (fin ≤ i + slack + b.toNat ∧ r = none ∨
          i + slack + b.toNat < fin ∧ i + 1 + b.toNat ≤ msg.length ∧ b.toNat < MAX_DNS_STRING ∧
            r = some (msg.slice (i + 1) b.toNat)) := by
  unfold counted_string
  simp only [bind_ok_iff, deref_ok_iff]
  constructor
  · rintro ⟨b, hb, hrest⟩
    refine ⟨b, hb, ?_⟩
    split at hrest
    · rename_i hle
      exact Or.inl ⟨hle, (pure_ok_iff.mp hrest).symm⟩
    · rename_i hlt
      simp only [bind_ok_iff, readOctets_ok_iff, storeString_ok_iff] at hrest
      obtain ⟨str, ⟨hread, rfl⟩, stored, ⟨hstore, rfl⟩, hr⟩ := hrest
      rw [Octets.slice_length hread] at hstore
      exact Or.inr ⟨not_le.mp hlt, hread, hstore, (pure_ok_iff.mp hr).symm⟩
  · rintro ⟨b, hb, ⟨hle, rfl⟩ | ⟨hlt, hread, hstore, rfl⟩⟩
    · refine ⟨b, hb, ?_⟩
      rw [if_pos hle]
      rfl
    · refine ⟨b, hb, ?_⟩
      rw [if_neg (not_le.mpr hlt)]
      simp only [bind_ok_iff, readOctets_ok_iff, storeString_ok_iff]
      refine ⟨_, ⟨hread, rfl⟩, _, ⟨?_, rfl⟩, rfl⟩
      rw [Octets.slice_length hread]
      exact hstore

theorem inBounds_counted_string_bind {α : Type} {slack i : ℕ}
    {f : Option Octets → Except Fault α} {P : ℕ → Prop} (hnone : InBounds (f none))
    (hsome : ∀ str, InBounds (f (some str)) ↔ P str.length) :
    InBounds (counted_string msg fin slack i >>= f) ↔
      StringFits msg fin slack i ∧ ∀ n, StringAt msg fin slack i n → P n := by
  rw [inBounds_bind_iff]
  simp only [counted_string_ok_iff]
  constructor
  · rintro ⟨r, ⟨b, hb, hr⟩, hf⟩
    have hlt : i < msg.length := by
      rw [List.getElem?_eq_some_iff] at hb
      exact hb.1
    have hlength : ∀ n, StringAt msg fin slack i n → i + slack + n < fin ∧ n = b.toNat := by
      rintro n ⟨hn, b', hb', hlen⟩
      rw [hb] at hb'
      cases hb'
      exact ⟨hn, hlen.symm⟩
    rcases hr with ⟨hle, -⟩ | ⟨hin, hread, hstore, rfl⟩
    · refine ⟨⟨hlt, ?_⟩, ?_⟩
      · intro n hn
        obtain ⟨hn, rfl⟩ := hlength n hn
        omega
      · intro n hn
        obtain ⟨hn, rfl⟩ := hlength n hn
        omega
    · refine ⟨⟨hlt, ?_⟩, ?_⟩
      · intro n hn
        obtain ⟨-, rfl⟩ := hlength n hn
        exact ⟨hread, hstore⟩
      · intro n hn
        obtain ⟨-, rfl⟩ := hlength n hn
        rw [hsome, Octets.slice_length hread] at hf
        exact hf
  · rintro ⟨⟨hlt, hfits⟩, hP⟩
    have hb : msg[i]? = some msg[i] := List.getElem?_eq_getElem hlt
    by_cases hin : i + slack + msg[i].toNat < fin
    · have hat : StringAt msg fin slack i msg[i].toNat := ⟨hin, msg[i], hb, rfl⟩
      obtain ⟨hread, hstore⟩ := hfits _ hat
      refine ⟨_, ⟨msg[i], hb, Or.inr ⟨hin, hread, hstore, rfl⟩⟩, ?_⟩
      rw [hsome, Octets.slice_length hread]
      exact hP _ hat
    · exact ⟨none, ⟨msg[i], hb, Or.inl ⟨not_lt.mp hin, rfl⟩⟩, hnone⟩

theorem inBounds_dnsNaptrParser {rdata : ℕ} :
    InBounds (dnsNaptrParser X msg fin rdata) ↔ NaptrFits X msg fin rdata := by
  unfold dnsNaptrParser NaptrFits
  split
  · rename_i hle
    refine iff_of_true (inBounds_ok none) ?_
    intro hlt
    omega
  · rename_i hlt
    rw [not_le] at hlt
    refine (inBounds_readOctets_bind (P := rdata + 2 + 2 ≤ msg.length ∧
      NaptrStringsFit X msg fin rdata) fun order => ?_).trans ?_
    · refine inBounds_readOctets_bind fun pref => ?_
      refine inBounds_counted_string_bind (inBounds_pure none) fun flags => ?_
      refine inBounds_counted_string_bind (inBounds_pure none) fun services => ?_
      refine inBounds_counted_string_bind (inBounds_pure none) fun regexp => ?_
      exact inBounds_bind_pure.trans inBounds_dn_expand
    · constructor
      · rintro ⟨-, -, hstrings⟩ -
        exact hstrings
      · intro h
        have hstrings := h hlt
        have hread := hstrings.1.1
        exact ⟨by omega, by omega, hstrings⟩

theorem inBounds_readRdata {rtype : UInt16} {p : ℕ} :
    InBounds (readRdata X msg fin rtype p) ↔
      (rtype = T_SRV → SrvFits X msg fin p) ∧ (rtype = T_NAPTR → NaptrFits X msg fin p) := by
  unfold readRdata
  split
  · rename_i hsrv
    have hne : rtype ≠ T_NAPTR := by
      rw [hsrv]
      decide
    rw [inBounds_bind_pure, inBounds_dnsSrvParser]
    simp only [hsrv, true_implies]
    rw [hsrv] at hne
    simp only [hne, false_implies, and_true]
  · rename_i hsrv
    split
    · rename_i hnaptr
      rw [inBounds_bind_pure, inBounds_dnsNaptrParser]
      simp only [hnaptr, true_implies]
      rw [hnaptr] at hsrv
      simp only [hsrv, false_implies, true_and]
    · rename_i hnaptr
      simp only [inBounds_ok, hsrv, hnaptr, false_implies, and_self]

/-! ### Each walk -/

theorem before_eq_some_iff {p q : ℕ} : before fin p = some q ↔ p < fin ∧ p = q := by
  unfold before
  split
  · simp only [reduceCtorEq, false_iff]
    omega
  · rename_i hlt
    simp only [not_le.mp hlt, Option.some.injEq, true_and]

theorem skipDnsName_turn {p : ℕ} (h : p < fin) :
    skipDnsName msg fin p = (deref msg[p]? >>= fun b =>
      if b = 0 then pure (before fin (p + 1))
      else if b &&& 0xc0 = 0xc0 then pure (before fin (p + 2))
      else skipDnsName msg fin (p + b.toNat + 1)) := by
  rw [skipDnsName, if_pos h]

theorem inBounds_skipDnsName {p : ℕ} :
    InBounds (skipDnsName msg fin p) ↔ NameFits msg fin p := by
  have hwalk := Loop.walks_iff_reached (fun p => InBounds (skipDnsName msg fin p))
    (fun p => p < fin → p < msg.length) (LabelStep msg fin) (fun p => fin - p)
    (by
      rintro p p' ⟨hlt, b, -, -, -, rfl⟩
      omega)
    (by
      intro p
      by_cases hlt : p < fin
      · rw [skipDnsName_turn hlt, inBounds_bind_iff]
        simp only [deref_ok_iff, hlt, true_implies]
        constructor
        · rintro ⟨b, hb, hrest⟩
          refine ⟨(List.getElem?_eq_some_iff.mp hb).1, ?_⟩
          rintro p' ⟨-, b', hb', hroot, hpointer, rfl⟩
          rw [hb] at hb'
          cases hb'
          rw [if_neg hroot, if_neg hpointer] at hrest
          exact hrest
        · rintro ⟨hread, hrest⟩
          have hb : msg[p]? = some msg[p] := List.getElem?_eq_getElem hread
          refine ⟨msg[p], hb, ?_⟩
          split
          · exact inBounds_pure _
          · rename_i hroot
            split
            · exact inBounds_pure _
            · rename_i hpointer
              exact hrest _ ⟨hlt, msg[p], hb, hroot, hpointer, rfl⟩
      · rw [skipDnsName, if_neg hlt]
        refine iff_of_true (inBounds_ok _) ⟨fun h => absurd h hlt, ?_⟩
        rintro p' ⟨h, -⟩
        exact absurd h hlt) p
  rw [hwalk]
  constructor
  · intro h q ⟨hreach, hlt⟩
    exact h q hreach hlt
  · intro h q hreach hlt
    exact h q ⟨hreach, hlt⟩

theorem nameEnd_iff {p q : ℕ} {b : UInt8} (hlt : p < fin) (hb : msg[p]? = some b) :
    NameEnd msg fin p q ↔
      if b = 0 then q < fin ∧ q = p + 1
      else if b &&& 0xc0 = 0xc0 then q < fin ∧ q = p + 2
      else NameEnd msg fin (p + b.toNat + 1) q := by
  constructor
  · rintro ⟨hq, l, b', ⟨hreach, hl⟩, hb', hend⟩
    rcases Relation.ReflTransGen.cases_head hreach with rfl | ⟨p', ⟨-, b₁, hb₁, hroot, hptr, rfl⟩, htail⟩
    · rw [hb] at hb'
      cases hb'
      rcases hend with ⟨hroot, rfl⟩ | ⟨hroot, hptr, rfl⟩
      · rw [if_pos hroot]
        exact ⟨hq, rfl⟩
      · rw [if_neg hroot, if_pos hptr]
        exact ⟨hq, rfl⟩
    · rw [hb] at hb₁
      cases hb₁
      rw [if_neg hroot, if_neg hptr]
      exact ⟨hq, l, b', ⟨htail, hl⟩, hb', hend⟩
  · intro h
    split at h
    · rename_i hroot
      exact ⟨h.1, p, b, ⟨.refl, hlt⟩, hb, Or.inl ⟨hroot, h.2⟩⟩
    · rename_i hroot
      split at h
      · rename_i hptr
        exact ⟨h.1, p, b, ⟨.refl, hlt⟩, hb, Or.inr ⟨hroot, hptr, h.2⟩⟩
      · rename_i hptr
        obtain ⟨hq, l, b', ⟨htail, hl⟩, hb', hend⟩ := h
        exact ⟨hq, l, b', ⟨htail.head ⟨hlt, b, hb, hroot, hptr, rfl⟩, hl⟩, hb', hend⟩

theorem skipDnsName_eq_some_iff {p q : ℕ} :
    skipDnsName msg fin p = .ok (some q) ↔ NameEnd msg fin p q := by
  induction hn : fin - p using Nat.strongRecOn generalizing p with
  | ind n ih =>
    by_cases hlt : p < fin
    · rw [skipDnsName_turn hlt]
      cases hb : msg[p]? with
      | none =>
        simp only [deref_none, bind, Except.bind, reduceCtorEq, false_iff]
        rintro ⟨-, l, b, ⟨hreach, -⟩, hbl, -⟩
        rcases Relation.ReflTransGen.cases_head hreach with rfl | ⟨p', ⟨-, b', hb', -⟩, -⟩
        · rw [hb] at hbl
          cases hbl
        · rw [hb] at hb'
          cases hb'
      | some b =>
        rw [nameEnd_iff hlt hb]
        simp only [deref_some, bind, Except.bind]
        split
        · rw [pure_ok_iff, before_eq_some_iff]
          constructor <;> rintro ⟨h, rfl⟩ <;> exact ⟨h, rfl⟩
        · split
          · rw [pure_ok_iff, before_eq_some_iff]
            constructor <;> rintro ⟨h, rfl⟩ <;> exact ⟨h, rfl⟩
          · exact ih (fin - (p + b.toNat + 1)) (by omega) rfl
    · rw [skipDnsName, if_neg hlt]
      have hnone : before fin p = none := by
        unfold before
        rw [if_pos (not_lt.mp hlt)]
      simp only [hnone, Except.ok.injEq, reduceCtorEq, false_iff]
      rintro ⟨-, l, b, ⟨hreach, hl⟩, -⟩
      rcases Relation.ReflTransGen.cases_head hreach with rfl | ⟨p', ⟨h, -⟩, -⟩
      · exact hlt hl
      · exact hlt h

theorem inBounds_skipDnsName_bind {α : Type} {p : ℕ} {f : Option ℕ → Except Fault α}
    {P : ℕ → Prop} (hnone : InBounds (f none)) (hsome : ∀ q, InBounds (f (some q)) ↔ P q) :
    InBounds (skipDnsName msg fin p >>= f) ↔
      NameFits msg fin p ∧ ∀ q, NameEnd msg fin p q → P q := by
  rw [inBounds_bind_iff, ← inBounds_skipDnsName]
  constructor
  · rintro ⟨r, hr, hf⟩
    refine ⟨⟨r, hr⟩, ?_⟩
    intro q hq
    rw [skipDnsName_eq_some_iff.mpr hq] at hr
    cases hr
    exact (hsome q).mp hf
  · rintro ⟨⟨r, hr⟩, hP⟩
    refine ⟨r, hr, ?_⟩
    cases r with
    | none => exact hnone
    | some q => exact (hsome q).mpr (hP q (skipDnsName_eq_some_iff.mp hr))

theorem inBounds_skipQuestions (s : ℕ × ℕ) :
    InBounds (skipQuestions msg fin s.1 s.2) ↔
      ∀ s', Relation.ReflTransGen (QuestionStep msg fin) s s' → QuestionFits msg fin s' := by
  refine Loop.walks_iff_reached (fun s => InBounds (skipQuestions msg fin s.1 s.2)) _ _ Prod.fst
    ?_ ?_ s
  · rintro s s' ⟨hleft, -⟩
    omega
  · rintro ⟨remaining, p⟩
    cases remaining with
    | zero =>
      refine iff_of_true (inBounds_ok _) ⟨fun h => absurd rfl h, ?_⟩
      rintro s' ⟨hleft, -⟩
      cases hleft
    | succ remaining =>
      have hnext : ∀ q, InBounds (if fin ≤ q + 4 then pure none
          else skipQuestions msg fin remaining (q + 4) : Except Fault (Option ℕ)) ↔
          (q + 4 < fin → InBounds (skipQuestions msg fin remaining (q + 4))) := by
        intro q
        split
        · rename_i hle
          refine iff_of_true (inBounds_pure none) ?_
          intro hlt
          omega
        · rename_i hlt
          simp only [not_le.mp hlt, true_implies]
      have hturn : InBounds (skipQuestions msg fin (remaining + 1) p) ↔
          NameFits msg fin p ∧ ∀ q, NameEnd msg fin p q → q + 4 < fin →
            InBounds (skipQuestions msg fin remaining (q + 4)) := by
        rw [skipQuestions]
        refine inBounds_skipDnsName_bind ?_ hnext
        exact inBounds_pure none
      refine hturn.trans ?_
      constructor
      · rintro ⟨hname, hrest⟩
        refine ⟨fun _ => hname, ?_⟩
        rintro ⟨left, p'⟩ ⟨hleft, q, hq, hlt, hp⟩
        obtain rfl : remaining = left := Nat.succ.inj hleft
        obtain rfl : p' = q + 4 := hp
        exact hrest q hq hlt
      · rintro ⟨hname, hrest⟩
        refine ⟨hname (Nat.succ_ne_zero remaining), ?_⟩
        intro q hq hlt
        exact hrest (remaining, q + 4) ⟨rfl, q, hq, hlt, rfl⟩

theorem inBounds_readAnswers_nil {remaining p : ℕ} {rl : List _result_list} :
    InBounds (readAnswers X msg fin remaining p rl) ↔
      InBounds (readAnswers X msg fin remaining p []) := by
  induction remaining generalizing p rl with
  | zero => exact iff_of_true (inBounds_ok rl) (inBounds_ok [])
  | succ remaining ih =>
    rw [readAnswers, readAnswers]
    split
    · rw [inBounds_bind_iff, inBounds_bind_iff]
      apply exists_congr
      intro r
      apply and_congr_right
      intro _
      cases r with
      | none => exact Iff.rfl
      | some q =>
        dsimp only
        split
        · exact Iff.rfl
        · simp only [inBounds_bind_iff]
          apply exists_congr
          intro bs
          apply and_congr_right
          intro _
          apply exists_congr
          intro vp
          apply and_congr_right
          intro _
          exact ih.trans ih.symm
    · exact iff_of_true (inBounds_ok rl) (inBounds_ok [])

theorem inBounds_readAnswers_succ {remaining p : ℕ} (hlt : p < fin) :
    InBounds (readAnswers X msg fin (remaining + 1) p []) ↔
      NameFits msg fin p ∧ ∀ q, NameEnd msg fin p q → q + 10 < fin →
        q + 10 ≤ msg.length ∧
          ((answer_md_t.ofOctets (msg.slice q 10)).rtype = T_SRV → SrvFits X msg fin (q + 10)) ∧
          ((answer_md_t.ofOctets (msg.slice q 10)).rtype = T_NAPTR →
            NaptrFits X msg fin (q + 10)) ∧
          InBounds (readAnswers X msg fin remaining
            (q + 10 + (answer_md_t.ofOctets (msg.slice q 10)).rdlength.toNat) []) := by
  rw [readAnswers, if_pos hlt]
  refine inBounds_skipDnsName_bind ?_ ?_
  · exact inBounds_pure []
  · intro q
    dsimp only
    split
    · rename_i hle
      refine iff_of_true (inBounds_pure []) ?_
      intro h
      omega
    · rename_i hin
      simp only [not_le.mp hin, true_implies, inBounds_bind_iff, readOctets_ok_iff]
      constructor
      · rintro ⟨bs, ⟨hread, rfl⟩, vp, hvp, hrest⟩
        obtain ⟨hsrv, hnaptr⟩ := inBounds_readRdata.mp ⟨vp, hvp⟩
        exact ⟨hread, hsrv, hnaptr, inBounds_readAnswers_nil.mp hrest⟩
      · rintro ⟨hread, hsrv, hnaptr, hrest⟩
        obtain ⟨vp, hvp⟩ := inBounds_readRdata.mpr ⟨hsrv, hnaptr⟩
        exact ⟨_, ⟨hread, rfl⟩, vp, hvp, inBounds_readAnswers_nil.mpr hrest⟩

theorem inBounds_readAnswers (s : ℕ × ℕ) :
    InBounds (readAnswers X msg fin s.1 s.2 []) ↔
      ∀ s', Relation.ReflTransGen (AnswerStep msg fin) s s' → AnswerFits X msg fin s' := by
  refine Loop.walks_iff_reached (fun s => InBounds (readAnswers X msg fin s.1 s.2 [])) _ _
    Prod.fst ?_ ?_ s
  · rintro s s' ⟨hleft, -⟩
    omega
  · rintro ⟨remaining, p⟩
    cases remaining with
    | zero =>
      refine iff_of_true (inBounds_ok _) ⟨fun h => absurd rfl h, ?_⟩
      rintro s' ⟨hleft, -⟩
      cases hleft
    | succ remaining =>
      by_cases hlt : p < fin
      · refine (inBounds_readAnswers_succ hlt).trans ?_
        constructor
        · rintro ⟨hname, hanswer⟩
          refine ⟨?_, ?_⟩
          · intro _ _
            refine ⟨hname, ?_⟩
            rintro q a ⟨hq, hin, rfl⟩
            obtain ⟨hread, hsrv, hnaptr, -⟩ := hanswer q hq hin
            exact ⟨hread, hsrv, hnaptr⟩
          · rintro ⟨left, p'⟩ ⟨hleft, -, q, a, ⟨hq, hin, rfl⟩, hp⟩
            obtain rfl : remaining = left := Nat.succ.inj hleft
            obtain ⟨-, -, -, hrest⟩ := hanswer q hq hin
            dsimp only at hp
            rw [hp]
            exact hrest
        · rintro ⟨hfits, hrest⟩
          obtain ⟨hname, hanswer⟩ := hfits (Nat.succ_ne_zero remaining) hlt
          refine ⟨hname, ?_⟩
          intro q hq hin
          obtain ⟨hread, hsrv, hnaptr⟩ := hanswer q _ ⟨hq, hin, rfl⟩
          exact ⟨hread, hsrv, hnaptr, hrest (remaining, _) ⟨rfl, hlt, q, _, ⟨hq, hin, rfl⟩, rfl⟩⟩
      · have hstop : InBounds (readAnswers X msg fin (remaining + 1) p []) := by
          rw [readAnswers, if_neg hlt]
          exact inBounds_ok []
        refine iff_of_true hstop ⟨fun _ h => absurd h hlt, ?_⟩
        rintro s' ⟨-, h, -⟩
        exact absurd h hlt

theorem skipQuestions_eq_some_iff {remaining p p' : ℕ} :
    skipQuestions msg fin remaining p = .ok (some p') ↔
      Relation.ReflTransGen (QuestionStep msg fin) (remaining, p) (0, p') := by
  induction remaining generalizing p with
  | zero =>
    simp only [skipQuestions, Except.ok.injEq, Option.some.injEq]
    constructor
    · rintro rfl
      exact .refl
    · intro h
      rcases Relation.ReflTransGen.cases_head h with heq | ⟨s, ⟨hleft, -⟩, -⟩
      · exact congrArg Prod.snd heq
      · cases hleft
  | succ remaining ih =>
    rw [skipQuestions, bind_ok_iff]
    constructor
    · rintro ⟨r, hr, hrest⟩
      cases r with
      | none => cases hrest
      | some q =>
        dsimp only at hrest
        split at hrest
        · cases hrest
        · rename_i hlt
          have hstep : QuestionStep msg fin (remaining + 1, p) (remaining, q + 4) :=
            ⟨rfl, q, skipDnsName_eq_some_iff.mp hr, not_le.mp hlt, rfl⟩
          exact (ih.mp hrest).head hstep
    · intro h
      rcases Relation.ReflTransGen.cases_head h with heq | ⟨⟨left, p₁⟩, ⟨hleft, q, hq, hlt, hp⟩, htail⟩
      · cases heq
      · obtain rfl : remaining = left := Nat.succ.inj hleft
        obtain rfl : p₁ = q + 4 := hp
        refine ⟨some q, skipDnsName_eq_some_iff.mpr hq, ?_⟩
        dsimp only
        rw [if_neg (not_le.mpr hlt)]
        exact ih.mpr htail

theorem responseFits_of_le (h : fin ≤ DNS_HDR_SIZE) : ResponseFits X msg fin := by
  have hquestion : ∀ s, Relation.ReflTransGen (QuestionStep msg fin) (firstQuestion msg) s →
      s.2 = DNS_HDR_SIZE := by
    intro s hs
    induction hs with
    | refl => rfl
    | tail _ hstep ih =>
      obtain ⟨-, q, ⟨-, l, -, ⟨hreach, hl⟩, -⟩, -⟩ := hstep
      rcases Relation.ReflTransGen.cases_head hreach with heq | ⟨p, ⟨hlt, -⟩, -⟩
      · omega
      · omega
  constructor
  · intro s hs _ q hq
    obtain ⟨hreach, hlt⟩ := hq
    have hs := hquestion s hs
    rcases Relation.ReflTransGen.cases_head hreach with heq | ⟨p, ⟨hlt, -⟩, -⟩
    · omega
    · omega
  · rintro first s ⟨-, hfirst⟩ hs - hlt
    have hfirst := hquestion _ hfirst
    dsimp only at hfirst
    rcases Relation.ReflTransGen.cases_head hs with rfl | ⟨s', ⟨-, hlt', -⟩, -⟩
    · omega
    · omega

theorem inBounds_parseResponse (h : DNS_HDR_SIZE < fin → 8 ≤ msg.length) :
    InBounds (parseResponse X msg fin) ↔ ResponseFits X msg fin := by
  unfold parseResponse
  split
  · rename_i hle
    exact iff_of_true (inBounds_ok []) (responseFits_of_le hle)
  · rename_i hlt
    have hread := h (not_le.mp hlt)
    rw [inBounds_bind_iff]
    constructor
    · rintro ⟨bs, hbs, hrest⟩
      obtain ⟨-, rfl⟩ := readOctets_ok_iff.mp hbs
      obtain ⟨r, hr, hrest⟩ := inBounds_bind_iff.mp hrest
      refine ⟨(inBounds_skipQuestions (firstQuestion msg)).mp ⟨r, hr⟩, ?_⟩
      rintro ⟨k, p⟩ s ⟨rfl, hfirst⟩ hs
      rw [skipQuestions_eq_some_iff.mpr hfirst] at hr
      cases hr
      obtain ⟨bs, hbs, hanswers⟩ := inBounds_bind_iff.mp hrest
      obtain ⟨-, rfl⟩ := readOctets_ok_iff.mp hbs
      exact (inBounds_readAnswers (_, p)).mp hanswers s hs
    · rintro ⟨hquestions, hanswers⟩
      refine ⟨_, readOctets_ok_iff.mpr ⟨by omega, rfl⟩, ?_⟩
      rw [inBounds_bind_iff]
      obtain ⟨r, hr⟩ := (inBounds_skipQuestions (firstQuestion msg)).mpr hquestions
      refine ⟨r, hr, ?_⟩
      cases r with
      | none => exact inBounds_pure []
      | some p =>
        dsimp only
        rw [inBounds_bind_iff]
        refine ⟨_, readOctets_ok_iff.mpr ⟨by omega, rfl⟩, ?_⟩
        refine (inBounds_readAnswers (_, p)).mpr (hanswers _ · ?_)
        exact ⟨rfl, skipQuestions_eq_some_iff.mp hr⟩

theorem lt_of_nameEnd {p q : ℕ} (h : NameEnd msg fin p q) : p < fin := by
  obtain ⟨-, l, b, ⟨hreach, hl⟩, -⟩ := h
  rcases Relation.ReflTransGen.cases_head hreach with rfl | ⟨p', ⟨hlt, -⟩, -⟩
  · exact hl
  · exact hlt

theorem naptrFits_iff {p : ℕ} (hheld : fin ≤ msg.length) :
    NaptrFits X msg fin p ↔ NaptrShort msg fin p := by
  have hfits : ∀ {slack i : ℕ}, 0 < slack → i < fin →
      (StringFits msg fin slack i ↔ ∀ n, StringAt msg fin slack i n → n < MAX_DNS_STRING) := by
    intro slack i hslack hi
    constructor
    · rintro ⟨-, h⟩ n hn
      exact (h n hn).2
    · intro h
      refine ⟨by omega, ?_⟩
      intro n hn
      have hlt := hn.1
      exact ⟨by omega, h n hn⟩
  have hexpand : ∀ q, ExpandFits X msg fin q := fun q => (X.reads_le msg fin q).trans hheld
  unfold NaptrFits NaptrShort NaptrStringsFit
  constructor
  · intro h hlt f hf
    obtain ⟨hflags, hrest⟩ := h hlt
    obtain ⟨hservices, hrest⟩ := hrest f hf
    refine ⟨(hflags.2 f hf).2, ?_⟩
    intro s hs
    obtain ⟨hregexp, -⟩ := hrest s hs
    refine ⟨(hservices.2 s hs).2, ?_⟩
    intro r hr
    exact (hregexp.2 r hr).2
  · intro h hlt
    refine ⟨(hfits (by omega) (by omega)).mpr fun f hf => (h hlt f hf).1, ?_⟩
    intro f hf
    obtain ⟨-, hservices⟩ := h hlt f hf
    have hf := hf.1
    refine ⟨(hfits (by omega) (by omega)).mpr fun s hs => (hservices s hs).1, ?_⟩
    intro s hs
    obtain ⟨-, hregexp⟩ := hservices s hs
    have hs := hs.1
    exact ⟨(hfits (by omega) (by omega)).mpr hregexp, fun r hr => hexpand _⟩

/-- Where the buffer holds the whole response, only a terminator can leave its array. -/
theorem responseFits_iff (hheld : fin ≤ msg.length) :
    ResponseFits X msg fin ↔
      ∀ first s q a, FirstAnswer msg fin first →
        Relation.ReflTransGen (AnswerStep msg fin) first s → s.1 ≠ 0 →
        AnswerAt msg fin s.2 q a → a.rtype = T_NAPTR → NaptrShort msg fin (q + 10) := by
  have hname : ∀ p, NameFits msg fin p := by
    rintro p q ⟨-, hlt⟩
    omega
  constructor
  · intro h first s q a hfirst hs hleft ha htype
    have hanswer := h.answers first s hfirst hs hleft (lt_of_nameEnd ha.1)
    exact (naptrFits_iff hheld).mp ((hanswer.2 q a ha).2.2 htype)
  · intro h
    refine ⟨fun s _ _ => hname s.2, ?_⟩
    intro first s hfirst hs hleft _
    refine ⟨hname s.2, ?_⟩
    intro q a ha
    have hlt := ha.2.1
    refine ⟨by omega, ?_, ?_⟩
    · intro _ hin
      exact ⟨by omega, (X.reads_le msg fin _).trans hheld⟩
    · intro htype
      exact (naptrFits_iff hheld).mpr (h first s q a hfirst hs hleft ha htype)

/-- The parsers stay in bounds exactly where every place they come to has what it needs; the whole
walk needs it of every place. -/
theorem getRecord_inBounds_iff (X : DnExpand) :
    (∀ response, InBounds (getRecord X response) ↔
      ∀ bs, response = some bs → ResponseFits X (bs.take MAX_QUERY_SIZE) bs.length) ∧
    ∀ msg fin p, (InBounds (skipDnsName msg fin p) ↔ NameFits msg fin p) ∧
      (InBounds (dnsSrvParser X msg fin p) ↔ SrvFits X msg fin p) ∧
      (InBounds (dnsNaptrParser X msg fin p) ↔ NaptrFits X msg fin p) := by
  constructor
  · intro response
    cases response with
    | none => exact iff_of_true (inBounds_ok []) (fun bs h => nomatch h)
    | some bs =>
      have hheld : DNS_HDR_SIZE < bs.length → 8 ≤ (bs.take MAX_QUERY_SIZE).length := by
        intro h
        rw [List.length_take]
        unfold DNS_HDR_SIZE at h
        unfold MAX_QUERY_SIZE
        omega
      refine (inBounds_parseResponse hheld).trans ?_
      constructor
      · intro hfits bs' heq
        cases heq
        exact hfits
      · intro h
        exact h bs rfl
  · intro msg fin p
    exact ⟨inBounds_skipDnsName, inBounds_dnsSrvParser, inBounds_dnsNaptrParser⟩

/-- Names are never expanded. -/
def noNames : DnExpand where
  name _ _ _ _ := none
  reads _ _ _ := 0
  name_length := by
    intro msg fin src dstsiz dst h
    cases h
  reads_le := by
    intro msg fin src
    exact Nat.zero_le fin

/-- One NAPTR answer, with 255 flags. -/
def longFlags : Octets :=
  [0, 0, 0, 0, 0, 0, 0, 1, 0, 0, 0, 0] ++ [0] ++ [0, 35, 0, 1, 0, 0, 0, 0, 1, 8] ++
    [0, 10, 0, 10, 255] ++ List.replicate 255 83 ++ [0, 0, 0]

theorem longFlags_leaves_array : ¬InBounds (getRecord noNames (some longFlags)) := by
  have hlength : longFlags.length = 286 := by
    unfold longFlags
    simp only [List.length_append, List.length_replicate, List.length_cons, List.length_nil]
  have hheld : longFlags.take MAX_QUERY_SIZE = longFlags := by
    apply List.take_of_length_le
    rw [hlength]
    decide
  rw [getRecord, hheld, hlength, inBounds_parseResponse (by rw [hlength]; omega),
    responseFits_iff (by rw [hlength])]
  intro h
  have hroot : LabelAt longFlags 286 12 12 := ⟨.refl, by omega⟩
  have hname : NameEnd longFlags 286 12 13 :=
    ⟨by omega, 12, 0, hroot, by decide, Or.inl ⟨rfl, rfl⟩⟩
  have hshort := h (1, 12) (1, 12) 13 _ ⟨by decide, .refl⟩ .refl (by omega)
    ⟨hname, by omega, rfl⟩ (by decide) (by omega) 255 ⟨by omega, 255, by decide, rfl⟩
  exact absurd hshort.1 (by decide)

end Lorawan.Backend

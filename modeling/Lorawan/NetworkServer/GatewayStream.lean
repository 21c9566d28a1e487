import Lorawan.Lib.Octets

/-!
# The stream of a gateway (gateway.c:864-1126, gw_server.h)

A gateway sends messages over TCP: a command, the length of the body, its EUI and the body.
`read_from_client` parses what one `read` brings, each time from the first octet, until as many
octets as were read are used up. What the part for a command then does with the gateway is left
open: it is given by the messages handled so far.
-/

namespace Lorawan.NetworkServer.GatewayStream
open Lorawan

/-! ### The code -/

def PROT_VER : ℕ := 3
def REQ_CONF : UInt8 := 0
def BEACON_INDICATION : UInt8 := 1
def UPLINK : UInt8 := 2
def BEACON_INIT : UInt8 := 4

def MAXMSG : ℕ := 512

/-- `sizeof(alignedBuf)` -/
def sizeof_alignedBuf : ℕ := 1024

/-- What the part for a command is given: the gateway, and the octets it goes over. -/
structure Handled where
  cmd : UInt8
  eui : ℕ
  body : Octets
deriving DecidableEq

/-- How far the part for a command moves `abuf`. -/
def moved (cmd : UInt8) (msg_len : ℕ) : ℕ :=
  if cmd = REQ_CONF then 4 + 1
  else if cmd = BEACON_INIT then 4 + 4 + 8 + 8 + 2 + 1 + 1
  else if cmd = BEACON_INDICATION then 4 + 4 + 8 + 8 + 2 + 1
  else if cmd = UPLINK then msg_len
  else 0

/-- What `alignedBuf` holds before it is written. -/
abbrev Stack := { s : Octets // s.length = sizeof_alignedBuf }

-- whether `send_gateway_config` fails, as the database and the files say
variable (unconfigured : Handled → Bool)

/-- The part for the command ends with -1. -/
def refuses (h : Handled) : Bool :=
  h.cmd = REQ_CONF && (Octets.toNat (h.body.take 4) ≠ PROT_VER || unconfigured h)

/-- What is handled, and the octets used up: none where -1 is returned. -/
def parse_gateway (stack : Stack) (buf : Octets) (nbytes : UInt8) : Option (Handled × Option ℕ) :=
  if nbytes.toNat < 9 then none
  else
    let cmd := buf.headD 0
    let msg_len := Octets.toNat (buf.slice 1 2)
    let eui := Octets.toNat (buf.slice 3 6).reverse
    let size := nbytes.toNat - 9
    if sizeof_alignedBuf < size then none
    else
      let abuf := buf.slice 9 size ++ stack.val.drop size
      let h := ⟨cmd, eui, abuf.take (moved cmd msg_len)⟩
      some (h, if refuses unconfigured h then none else some (moved cmd msg_len + 9))

/-- What the calls of `parse_gateway` find on the stack. -/
abbrev Stacks := ℕ → Stack

variable (junk : Stacks)

/-- `while (nbytes > 0)`: what was handled, and whether the connection stays. -/
def parseAll (buf : Octets) : ℕ → ℕ → List Handled → List Handled × Bool
  | _, 0, done => (done, true)
  | 0, _ + 1, done => (done, false)
  | fuel + 1, n + 1, done =>
    -- `nbytes` becomes an octet here
    match parse_gateway unconfigured (junk done.length) buf (UInt8.ofNat (n + 1)) with
    | none => (done, false)
    | some (h, none) => (done ++ [h], false)
    | some (h, some r) => parseAll buf fuel (n + 1 - r) (done ++ [h])

def read_from_client (buf : Octets) (done : List Handled) : List Handled × Bool :=
  parseAll unconfigured junk buf buf.length buf.length done

/-- The reads of a connection, until it is dropped. -/
def serve : List Octets → List Handled → List Handled × Bool
  | [], done => (done, true)
  | buf :: reads, done =>
    match read_from_client unconfigured junk buf done with
    | (done, true) => serve reads done
    | (done, false) => (done, false)

/-! ### Messages -/

structure Message where
  cmd : UInt8
  eui : ℕ
  eui_lt : eui < 2 ^ 48
  body : Octets
  body_length : body.length < 2 ^ 16

namespace Message

def header (m : Message) : Octets :=
  m.cmd :: Octets.ofNat 2 m.body.length ++ (Octets.ofNat 6 m.eui).reverse

def bytes (m : Message) : Octets := m.header ++ m.body

def handled (m : Message) : Handled := ⟨m.cmd, m.eui, m.body⟩

/-- The part for the command goes over the whole body. -/
def Fits (m : Message) : Prop := moved m.cmd m.body.length = m.body.length

instance (m : Message) : Decidable m.Fits := inferInstanceAs (Decidable (_ = _))

theorem header_length (m : Message) : m.header.length = 9 := by
  simp [header]

theorem bytes_length (m : Message) : m.bytes.length = m.body.length + 9 := by
  rw [bytes, List.length_append, header_length]
  omega

theorem handled_inj {m m' : Message} (h : m.handled = m'.handled) : m = m' := by
  cases m
  cases m'
  simp only [handled, Handled.mk.injEq] at h
  obtain ⟨rfl, rfl, rfl⟩ := h
  rfl

end Message

def encode (ms : List Message) : Octets := ms.flatMap Message.bytes

/-- A way in which TCP brings the messages. -/
structure Segmentation (ms : List Message) where
  reads : List Octets
  sized : ∀ buf ∈ reads, buf ≠ [] ∧ buf.length ≤ MAXMSG
  joined : reads.flatten = encode ms

/-- Each message once, in order and with its body, up to one that ends the connection. -/
def deliver : List Message → List Handled → List Handled × Bool
  | [], done => (done, true)
  | m :: ms, done =>
    if refuses unconfigured m.handled then (done ++ [m.handled], false)
    else deliver ms (done ++ [m.handled])

/-- The octets of the messages are all that counts, whatever the stack holds. -/
def Framed (reads : List Octets) (ms : List Message) : Prop :=
  ∀ junk, serve unconfigured junk reads [] = deliver unconfigured ms []

/-- Each read brings copies of one message, 255 octets at most. A message that ends the connection
may have anything behind it. -/
inductive WholeReads : List Octets → List Message → Prop
  | done : WholeReads [] []
  | ended (m : Message) (ms : List Message) (buf : Octets) (reads : List Octets)
      (hrefuses : refuses unconfigured m.handled = true) (hfits : m.Fits)
      (hsize : m.bytes.length ≤ buf.length % 256) : WholeReads (buf :: reads) (m :: ms)
  | copies (m : Message) (k : ℕ) (ms : List Message) (reads : List Octets)
      (hkeeps : refuses unconfigured m.handled = false) (hfits : m.Fits)
      (hsize : k * m.bytes.length < 256) (hrest : WholeReads reads ms) :
      WholeReads ((List.replicate k m.bytes).flatten :: reads) (List.replicate k m ++ ms)

variable {unconfigured : Handled → Bool}

/-! ### One call -/

/-- What a part for a command that goes over `k` octets is given, when `c` octets were copied. -/
def given (stack : Stack) (t : Octets) (c k : ℕ) : Octets := (t.take c ++ stack.val.drop c).take k

theorem given_eq (stack : Stack) {t : Octets} {c k : ℕ} (hk : k ≤ c) (hc : c ≤ t.length) :
    given stack t c k = t.take k := by
  have hlen : k ≤ (t.take c).length := by
    rw [List.length_take]
    omega
  rw [given, List.take_append_of_le_length hlen, List.take_take, Nat.min_eq_left hk]

/-- A stack of one octet. -/
def Stack.of (b : UInt8) : Stack := ⟨List.replicate sizeof_alignedBuf b, List.length_replicate⟩

theorem le_of_given {t b : Octets} {c k : ℕ} (hc : c ≤ t.length) (hsize : c < sizeof_alignedBuf)
    (h : ∀ x, given (Stack.of x) t c k = b) : k ≤ c := by
  by_contra hlt
  have hk : c < k := Nat.lt_of_not_le hlt
  have hoctet : ∀ x, b[c]? = some x := by
    intro x
    have hlen : (t.take c).length = c := by
      rw [List.length_take]
      omega
    rw [← h x, given, List.getElem?_take_of_lt hk, List.getElem?_append_right (le_of_eq hlen), hlen,
      Nat.sub_self, List.getElem?_drop, Nat.add_zero]
    simp only [Stack.of, List.getElem?_replicate, hsize, if_true]
  have h01 := (hoctet 0).symm.trans (hoctet 1)
  exact absurd (Option.some.inj h01) (by decide)

theorem toNat_ofNat_toNat (n : ℕ) : (UInt8.ofNat n).toNat = n % 256 := UInt8.toNat_ofNat'

theorem parse_gateway_header (stack : Stack) (m : Message) (t : Octets) {n : ℕ}
    (hn : 9 ≤ n % 256) :
    parse_gateway unconfigured stack (m.header ++ t) (UInt8.ofNat n) =
      let h := ⟨m.cmd, m.eui, given stack t (n % 256 - 9) (moved m.cmd m.body.length)⟩
      some (h, if refuses unconfigured h then none
        else some (moved m.cmd m.body.length + 9)) := by
  have hlen : Octets.toNat (Octets.ofNat 2 m.body.length) = m.body.length := by
    rw [Octets.toNat_ofNat]
    exact Nat.mod_eq_of_lt m.body_length
  have heui : Octets.toNat (Octets.ofNat 6 m.eui) = m.eui := by
    rw [Octets.toNat_ofNat]
    exact Nat.mod_eq_of_lt m.eui_lt
  have hcmd : (m.header ++ t).headD 0 = m.cmd := rfl
  have hlo : Octets.slice (m.header ++ t) 1 2 = Octets.ofNat 2 m.body.length := by
    apply Octets.slice_of_eq (a := [m.cmd]) (c := (Octets.ofNat 6 m.eui).reverse ++ t)
    · simp [Message.header]
    · rfl
    · exact Octets.length_ofNat ..
  have hid : Octets.slice (m.header ++ t) 3 6 = (Octets.ofNat 6 m.eui).reverse := by
    apply Octets.slice_of_eq (a := m.cmd :: Octets.ofNat 2 m.body.length) (c := t)
    · simp [Message.header]
    · simp
    · simp
  have hbody : ∀ c, Octets.slice (m.header ++ t) 9 c = t.take c := by
    intro c
    rw [Octets.slice, List.drop_left' m.header_length]
  have h256 : n % 256 < 256 := Nat.mod_lt _ (by omega)
  have hsmall : ¬ sizeof_alignedBuf < n % 256 - 9 := by
    rw [sizeof_alignedBuf]
    omega
  simp only [parse_gateway, toNat_ofNat_toNat, Nat.not_lt.mpr hn, if_false, hcmd, hlo, hlen, hid,
    List.reverse_reverse, heui, hbody, hsmall, given]
  rfl

theorem parse_gateway_short (stack : Stack) (buf : Octets) {n : ℕ} (hn : n % 256 < 9) :
    parse_gateway unconfigured stack buf (UInt8.ofNat n) = none := by
  simp only [parse_gateway, toNat_ofNat_toNat, hn, if_true]

theorem parse_gateway_pos {stack : Stack} {buf : Octets} {b : UInt8} {h : Handled} {r : ℕ}
    (hp : parse_gateway unconfigured stack buf b = some (h, some r)) : 0 < r := by
  simp only [parse_gateway, Option.ite_none_left_eq_some, Option.some.injEq, Prod.mk.injEq] at hp
  obtain ⟨-, -, -, -, rfl⟩ := hp
  omega

/-! ### The loop over what was read -/

variable {junk : Stacks}

theorem parseAll_fuel (buf : Octets) {fuel fuel' n : ℕ} (hf : n ≤ fuel) (hf' : n ≤ fuel')
    (done : List Handled) :
    parseAll unconfigured junk buf fuel n done = parseAll unconfigured junk buf fuel' n done := by
  induction fuel generalizing fuel' n done with
  | zero =>
    have hn : n = 0 := Nat.le_zero.mp hf
    subst hn
    cases fuel' <;> rfl
  | succ fuel ih =>
    cases n with
    | zero => cases fuel' <;> rfl
    | succ n =>
      cases fuel' with
      | zero => omega
      | succ fuel' =>
        rw [parseAll, parseAll]
        cases hp : parse_gateway unconfigured (junk done.length) buf (UInt8.ofNat (n + 1)) with
        | none => rfl
        | some hr =>
          obtain ⟨h, r⟩ := hr
          cases r with
          | none => rfl
          | some r =>
            have hr := parse_gateway_pos hp
            exact ih (by omega) (by omega) _

/-- The loop with as much fuel as it needs. -/
def loop (unconfigured : Handled → Bool) (junk : Stacks) (buf : Octets) (n : ℕ)
    (done : List Handled) : List Handled × Bool :=
  parseAll unconfigured junk buf n n done

theorem loop_zero (buf : Octets) (done : List Handled) :
    loop unconfigured junk buf 0 done = (done, true) := rfl

theorem loop_pos (buf : Octets) {n : ℕ} (hn : 0 < n) (done : List Handled) :
    loop unconfigured junk buf n done =
      match parse_gateway unconfigured (junk done.length) buf (UInt8.ofNat n) with
      | none => (done, false)
      | some (h, none) => (done ++ [h], false)
      | some (h, some r) => loop unconfigured junk buf (n - r) (done ++ [h]) := by
  obtain ⟨k, rfl⟩ : ∃ k, n = k + 1 := ⟨n - 1, by omega⟩
  rw [loop, parseAll]
  cases hp : parse_gateway unconfigured (junk done.length) buf (UInt8.ofNat (k + 1)) with
  | none => rfl
  | some hr =>
    obtain ⟨h, r⟩ := hr
    cases r with
    | none => rfl
    | some r =>
      have hr := parse_gateway_pos hp
      exact parseAll_fuel buf (by omega) (le_refl _) _

theorem loop_short (buf : Octets) {n : ℕ} (hn : 0 < n) (h9 : n % 256 < 9) (done : List Handled) :
    loop unconfigured junk buf n done = (done, false) := by
  rw [loop_pos buf hn, parse_gateway_short _ _ h9]

theorem loop_header (m : Message) (t : Octets) {n : ℕ} (h9 : 9 ≤ n % 256) (done : List Handled) :
    loop unconfigured junk (m.header ++ t) n done =
      let h := ⟨m.cmd, m.eui,
        given (junk done.length) t (n % 256 - 9) (moved m.cmd m.body.length)⟩
      if refuses unconfigured h then (done ++ [h], false)
      else loop unconfigured junk (m.header ++ t) (n - (moved m.cmd m.body.length + 9))
        (done ++ [h]) := by
  have hn : 0 < n := by omega
  rw [loop_pos _ hn, parse_gateway_header _ m t h9]
  dsimp only
  generalize Handled.mk m.cmd m.eui _ = h
  cases refuses unconfigured h <;> rfl

/-- A message that lies whole in the buffer, and in the octet that counts it. -/
theorem loop_message {m : Message} {t : Octets} (hfits : m.Fits)
    (hbody : t.take m.body.length = m.body) {n : ℕ} (hn : n ≤ (m.header ++ t).length)
    (hsize : m.bytes.length ≤ n % 256) (done : List Handled) :
    loop unconfigured junk (m.header ++ t) n done =
      if refuses unconfigured m.handled then (done ++ [m.handled], false)
      else loop unconfigured junk (m.header ++ t) (n - m.bytes.length) (done ++ [m.handled]) := by
  rw [Message.bytes_length] at hsize ⊢
  rw [List.length_append, m.header_length] at hn
  have hmod : n % 256 ≤ n := Nat.mod_le n 256
  have hgiven : given (junk done.length) t (n % 256 - 9) (moved m.cmd m.body.length) = m.body := by
    rw [hfits, given_eq _ (by omega) (by omega), hbody]
  rw [loop_header m t (by omega)]
  simp only [hgiven, Message.handled]
  rw [hfits]
  rfl

theorem done_prefix_loop (buf : Octets) (n : ℕ) (done : List Handled) :
    done <+: (loop unconfigured junk buf n done).1 := by
  induction n using Nat.strongRecOn generalizing done with
  | _ n ih =>
    rcases Nat.eq_zero_or_pos n with rfl | hn
    · exact List.prefix_refl done
    · rw [loop_pos buf hn]
      cases hp : parse_gateway unconfigured (junk done.length) buf (UInt8.ofNat n) with
      | none => exact List.prefix_refl done
      | some hr =>
        obtain ⟨h, r⟩ := hr
        cases r with
        | none => exact List.prefix_append done [h]
        | some r =>
          have hr := parse_gateway_pos hp
          exact (List.prefix_append done [h]).trans (ih (n - r) (by omega) _)

/-! ### The reads of a connection -/

/-- The reads that follow, when the connection stays. -/
def followed (unconfigured : Handled → Bool) (junk : Stacks) (reads : List Octets)
    (p : List Handled × Bool) : List Handled × Bool :=
  if p.2 then serve unconfigured junk reads p.1 else p

theorem serve_cons (buf : Octets) (reads : List Octets) (done : List Handled) :
    serve unconfigured junk (buf :: reads) done =
      followed unconfigured junk reads (loop unconfigured junk buf buf.length done) := by
  rw [serve, read_from_client, followed, loop]
  cases hp : parseAll unconfigured junk buf buf.length buf.length done with
  | mk done' kept => cases kept <;> rfl

theorem done_prefix_serve (reads : List Octets) (done : List Handled) :
    done <+: (serve unconfigured junk reads done).1 := by
  induction reads generalizing done with
  | nil => exact List.prefix_refl done
  | cons buf reads ih =>
    have hloop := @done_prefix_loop unconfigured junk buf buf.length done
    rw [serve_cons, followed]
    split
    · exact hloop.trans (ih _)
    · exact hloop

theorem prefix_followed (reads : List Octets) (p : List Handled × Bool) :
    p.1 <+: (followed unconfigured junk reads p).1 := by
  rw [followed]
  split
  · exact done_prefix_serve reads p.1
  · exact List.prefix_refl _

theorem done_prefix_deliver (ms : List Message) (done : List Handled) :
    done <+: (deliver unconfigured ms done).1 := by
  induction ms generalizing done with
  | nil => exact List.prefix_refl done
  | cons m ms ih =>
    rw [deliver]
    split
    · exact List.prefix_append done _
    · exact (List.prefix_append done _).trans (ih _)

theorem next_prefix_deliver (m : Message) (ms : List Message) (done : List Handled) :
    done ++ [m.handled] <+: (deliver unconfigured (m :: ms) done).1 := by
  rw [deliver]
  split
  · exact List.prefix_refl _
  · exact done_prefix_deliver ms _

theorem deliver_copies {m : Message} (hkeeps : refuses unconfigured m.handled = false) (k : ℕ)
    (ms : List Message) (done : List Handled) :
    deliver unconfigured (List.replicate k m ++ ms) done =
      deliver unconfigured ms (done ++ List.replicate k m.handled) := by
  induction k generalizing done with
  | zero => simp
  | succ k ih =>
    rw [List.replicate_succ, List.cons_append, deliver, hkeeps, if_neg Bool.false_ne_true, ih,
      List.append_assoc, List.singleton_append, List.replicate_succ]

/-! ### Whole reads are enough -/

theorem take_body {m : Message} {t rest rest' : Octets}
    (h : m.header ++ t ++ rest = m.bytes ++ rest') (hlen : m.body.length ≤ t.length) :
    t.take m.body.length = m.body := by
  rw [Message.bytes, List.append_assoc, List.append_assoc, List.append_cancel_left_eq] at h
  have htake := congrArg (List.take m.body.length) h
  rwa [List.take_append_of_le_length hlen, List.take_left' rfl] at htake

theorem exists_header {m : Message} {buf rest rest' : Octets} (h : buf ++ rest = m.bytes ++ rest')
    (hlen : 9 ≤ buf.length) : ∃ t, buf = m.header ++ t := by
  have hbuf : buf <+: m.bytes ++ rest' := ⟨rest, h⟩
  have hheader : m.header <+: m.bytes ++ rest' := by
    rw [Message.bytes, List.append_assoc]
    exact List.prefix_append ..
  obtain ⟨t, ht⟩ := List.prefix_of_prefix_length_le hheader hbuf (by rw [m.header_length]; exact hlen)
  exact ⟨t, ht.symm⟩

theorem loop_copies {m : Message} {t : Octets} (hfits : m.Fits)
    (hkeeps : refuses unconfigured m.handled = false) (hbody : t.take m.body.length = m.body)
    {k : ℕ} (hn : k * m.bytes.length ≤ (m.header ++ t).length) (hsize : k * m.bytes.length < 256)
    (done : List Handled) :
    loop unconfigured junk (m.header ++ t) (k * m.bytes.length) done =
      (done ++ List.replicate k m.handled, true) := by
  induction k generalizing done with
  | zero =>
    rw [Nat.zero_mul, loop_zero]
    simp
  | succ k ih =>
    rw [Nat.succ_mul] at hn hsize ⊢
    have hmod : (k * m.bytes.length + m.bytes.length) % 256 =
        k * m.bytes.length + m.bytes.length := Nat.mod_eq_of_lt hsize
    rw [loop_message hfits hbody hn (by omega), hkeeps, if_neg Bool.false_ne_true,
      Nat.add_sub_cancel, ih (by omega) (by omega), List.append_assoc, List.singleton_append,
      List.replicate_succ]

theorem replicate_bytes_length (m : Message) (k : ℕ) :
    (List.replicate k m.bytes).flatten.length = k * m.bytes.length := by
  simp

theorem encode_copies (m : Message) (k : ℕ) (ms : List Message) :
    encode (List.replicate k m ++ ms) = (List.replicate k m.bytes).flatten ++ encode ms := by
  simp [encode, List.flatMap_append, List.flatMap_replicate]

theorem serve_of_wholeReads {reads : List Octets} {ms : List Message}
    (hw : WholeReads unconfigured reads ms) (hjoined : reads.flatten = encode ms)
    (done : List Handled) :
    serve unconfigured junk reads done = deliver unconfigured ms done := by
  induction hw generalizing done with
  | done => rfl
  | ended m ms buf reads hrefuses hfits hsize =>
    have hstart : buf ++ reads.flatten = m.bytes ++ encode ms := by
      simpa only [List.flatten_cons, encode, List.flatMap_cons] using hjoined
    have hmod : buf.length % 256 ≤ buf.length := Nat.mod_le _ _
    have hlen := m.bytes_length
    obtain ⟨t, rfl⟩ := exists_header hstart (by omega)
    have ht : m.body.length ≤ t.length := by
      rw [List.length_append, m.header_length] at hmod
      rw [List.length_append, m.header_length] at hsize
      omega
    rw [serve_cons, loop_message hfits (take_body hstart ht) (le_refl _) hsize, deliver, hrefuses,
      if_pos rfl, if_pos rfl]
    rfl
  | copies m k ms reads hkeeps hfits hsize _ ih =>
    rw [List.flatten_cons, encode_copies, List.append_cancel_left_eq] at hjoined
    cases k with
    | zero => exact ih hjoined done
    | succ k =>
      have hbuf : (List.replicate (k + 1) m.bytes).flatten =
          m.header ++ (m.body ++ (List.replicate k m.bytes).flatten) := by
        rw [List.replicate_succ, List.flatten_cons, Message.bytes, List.append_assoc]
      have hlen := replicate_bytes_length m (k + 1)
      rw [serve_cons, hlen]
      rw [hbuf] at hlen ⊢
      rw [loop_copies hfits hkeeps (List.take_left' rfl) (le_of_eq hlen.symm) hsize, followed,
        if_pos rfl, ih hjoined, deliver_copies hkeeps]

/-! ### Nothing else is -/

theorem eq_of_next_prefix {done l : List Handled} {h h' : Handled} (hl : done ++ [h] <+: l)
    (hl' : done ++ [h'] <+: l) : h = h' := by
  have heq := List.prefix_of_prefix_length_le hl hl' (by simp)
  have hlist := heq.eq_of_length (by simp)
  simpa using hlist

theorem long_of_delivered {buf : Octets} {n : ℕ} {reads : List Octets} {ms : List Message}
    {done : List Handled} (hpos : 0 < n)
    (h : ∀ junk, followed unconfigured junk reads (loop unconfigured junk buf n done) =
      deliver unconfigured ms done) : 9 ≤ n % 256 := by
  by_contra hshort
  have h0 := h fun _ => Stack.of 0
  rw [loop_short _ hpos (by omega), followed, if_neg Bool.false_ne_true] at h0
  cases ms with
  | nil => exact absurd (congrArg Prod.snd h0) Bool.false_ne_true
  | cons m ms =>
    have hprefix := @next_prefix_deliver unconfigured m ms done
    rw [← h0] at hprefix
    have hle := hprefix.length_le
    simp only [List.length_append, List.length_singleton] at hle
    omega

/-- What is handled next is the next message, whatever the stack holds. -/
theorem next_of_delivered {m : Message} {t : Octets} {n : ℕ} {reads : List Octets}
    {ms : List Message} {done : List Handled} (hpos : 0 < n) (hn : n ≤ (m.header ++ t).length)
    (h : ∀ junk, followed unconfigured junk reads (loop unconfigured junk (m.header ++ t) n done) =
      deliver unconfigured ms done) :
    ∃ m' ms', ms = m' :: ms' ∧ m'.cmd = m.cmd ∧ m'.eui = m.eui ∧
      moved m.cmd m.body.length + 9 ≤ n % 256 ∧
      t.take (moved m.cmd m.body.length) = m'.body := by
  have hlong := long_of_delivered hpos h
  have hnext : ∀ x, done ++ [⟨m.cmd, m.eui, given (Stack.of x) t (n % 256 - 9)
      (moved m.cmd m.body.length)⟩] <+: (deliver unconfigured ms done).1 := by
    intro x
    rw [← h fun _ => Stack.of x, loop_header m t hlong]
    dsimp only
    split
    · exact prefix_followed reads (_, false)
    · exact (done_prefix_loop _ _ _).trans (prefix_followed reads _)
  cases ms with
  | nil =>
    have hle := (hnext 0).length_le
    simp only [deliver, List.length_append, List.length_singleton] at hle
    omega
  | cons m' ms' =>
    have heq := fun x => eq_of_next_prefix (hnext x) (next_prefix_deliver m' ms' done)
    simp only [Message.handled, Handled.mk.injEq] at heq
    rw [List.length_append, m.header_length] at hn
    have hmod : n % 256 ≤ n := Nat.mod_le n 256
    have h256 : n % 256 < 256 := Nat.mod_lt _ (by omega)
    have hsize : n % 256 - 9 < sizeof_alignedBuf := by
      rw [sizeof_alignedBuf]
      omega
    have hk := le_of_given (by omega) hsize fun x => (heq x).2.2
    have hbody := (heq 0).2.2
    rw [given_eq _ hk (by omega)] at hbody
    exact ⟨m', ms', rfl, (heq 0).1.symm, (heq 0).2.1.symm, by omega, hbody⟩

theorem copies_of_delivered {m : Message} {t : Octets} (hfits : m.Fits)
    (hkeeps : refuses unconfigured m.handled = false) (hbody : t.take m.body.length = m.body)
    {reads : List Octets} {n : ℕ} (hn : n ≤ (m.header ++ t).length) (hmax : n ≤ MAXMSG)
    {ms : List Message} {done : List Handled}
    (h : ∀ junk, followed unconfigured junk reads (loop unconfigured junk (m.header ++ t) n done) =
      deliver unconfigured ms done) :
    ∃ k rest, ms = List.replicate k m ++ rest ∧ n = k * m.bytes.length ∧ n < 256 ∧
      ∀ junk, serve unconfigured junk reads (done ++ List.replicate k m.handled) =
        deliver unconfigured rest (done ++ List.replicate k m.handled) := by
  induction n using Nat.strongRecOn generalizing ms done with
  | _ n ih =>
    rcases Nat.eq_zero_or_pos n with rfl | hpos
    · refine ⟨0, ms, rfl, (Nat.zero_mul _).symm, by omega, fun junk => ?_⟩
      have hserve := h junk
      rw [loop_zero, followed, if_pos rfl] at hserve
      simpa using hserve
    · obtain ⟨m', ms', rfl, hcmd, heui, hsize, htake⟩ := next_of_delivered hpos hn h
      rw [hfits] at hsize htake
      have hm : m' = m := by
        apply Message.handled_inj
        rw [Message.handled, hcmd, heui, ← htake, hbody, Message.handled]
      subst hm
      have hlen := m'.bytes_length
      have hrest : ∀ junk, followed unconfigured junk reads (loop unconfigured junk (m'.header ++ t)
          (n - m'.bytes.length) (done ++ [m'.handled])) =
            deliver unconfigured ms' (done ++ [m'.handled]) := by
        intro junk
        have hstep := h junk
        rwa [loop_message hfits hbody hn (by omega), deliver, hkeeps,
          if_neg Bool.false_ne_true, if_neg Bool.false_ne_true] at hstep
      have hmod : n % 256 ≤ n := Nat.mod_le n 256
      obtain ⟨k, rest, hms, hk, hlt, hserve⟩ := ih _ (by omega) (by omega) (by omega) hrest
      refine ⟨k + 1, rest, ?_, ?_, ?_, ?_⟩
      · rw [hms, List.replicate_succ, List.cons_append]
      · rw [Nat.succ_mul]
        omega
      · -- past 255 the octet that counts the rest is too small for a message
        rw [MAXMSG] at hmax
        omega
      · intro junk
        have happ := hserve junk
        rwa [List.append_assoc, List.singleton_append, ← List.replicate_succ] at happ

theorem wholeReads_of_delivered {reads : List Octets} {ms : List Message} {done : List Handled}
    (hsized : ∀ buf ∈ reads, buf ≠ [] ∧ buf.length ≤ MAXMSG) (hjoined : reads.flatten = encode ms)
    (h : ∀ junk, serve unconfigured junk reads done = deliver unconfigured ms done) :
    WholeReads unconfigured reads ms := by
  induction reads generalizing ms done with
  | nil =>
    cases ms with
    | nil => exact .done
    | cons m ms => simp [encode, Message.bytes, Message.header] at hjoined
  | cons buf reads ih =>
    obtain ⟨hne, hmax⟩ := hsized buf (List.mem_cons_self ..)
    have hpos : 0 < buf.length := List.length_pos_iff.mpr hne
    simp only [serve_cons] at h
    have hlong := long_of_delivered hpos h
    have hmod : buf.length % 256 ≤ buf.length := Nat.mod_le _ _
    cases ms with
    | nil =>
      simp only [List.flatten_cons, encode, List.flatMap_nil, List.append_eq_nil_iff] at hjoined
      exact absurd hjoined.1 hne
    | cons m ms =>
      have hstart : buf ++ reads.flatten = m.bytes ++ encode ms := by
        simpa only [List.flatten_cons, encode, List.flatMap_cons] using hjoined
      obtain ⟨t, rfl⟩ := exists_header hstart (by omega)
      obtain ⟨m', ms', hms, -, -, hsize, htake⟩ := next_of_delivered hpos (le_refl _) h
      obtain ⟨rfl, rfl⟩ := List.cons.inj hms
      have ht : moved m.cmd m.body.length ≤ t.length := by
        have hbuf : (m.header ++ t).length = m.header.length + t.length := List.length_append
        rw [m.header_length] at hbuf
        omega
      have hlen := congrArg List.length htake
      rw [List.length_take, Nat.min_eq_left ht] at hlen
      have hfits : m.Fits := hlen
      rw [hfits] at htake hsize
      have hbytes := m.bytes_length
      cases hkeeps : refuses unconfigured m.handled with
      | true => exact .ended m ms _ reads hkeeps hfits (by omega)
      | false =>
        obtain ⟨k, rest, hrest, hk, hlt, hserve⟩ :=
          copies_of_delivered hfits hkeeps htake (le_refl _) hmax h
        rw [hrest, encode_copies, List.flatten_cons] at hjoined
        have hk' : (m.header ++ t).length = (List.replicate k m.bytes).flatten.length := by
          rw [hk, replicate_bytes_length]
        obtain ⟨hbuf, htail⟩ := List.append_inj hjoined hk'
        rw [hrest, hbuf]
        have hsized' := fun b hb => hsized b (List.mem_cons_of_mem _ hb)
        exact .copies m k rest reads hkeeps hfits (by omega) (ih hsized' htail hserve)

/-- The octets are all that counts exactly when each read is whole, of copies of one message that is
counted in an octet. -/
theorem framed_iff_wholeReads (unconfigured : Handled → Bool) {ms : List Message}
    (seg : Segmentation ms) :
    Framed unconfigured seg.reads ms ↔ WholeReads unconfigured seg.reads ms := by
  constructor
  · exact fun h => wholeReads_of_delivered seg.sized seg.joined h
  · exact fun hw junk => serve_of_wholeReads hw seg.joined []

/-- The request of a gateway with one modem. -/
def sampleRequest : Message where
  cmd := REQ_CONF
  eui := 1
  eui_lt := by decide
  body := [3, 0, 0, 0, 1]
  body_length := by decide

/-- The beacon indication of a gateway that has no position. -/
def sampleIndication : Message where
  cmd := BEACON_INDICATION
  eui := 1
  eui_lt := by decide
  body := List.replicate 27 0
  body_length := by decide

def sampleMessages : List Message := [sampleRequest, sampleIndication]

/-- TCP joins both messages, or splits the first. -/
def sampleJoined : Segmentation sampleMessages where
  reads := [encode sampleMessages]
  sized := by decide
  joined := by decide

def sampleSplit : Segmentation sampleMessages where
  reads := [sampleRequest.bytes.take 12, sampleRequest.bytes.drop 12, sampleIndication.bytes]
  sized := by decide
  joined := by decide

/-- When two messages come in one read the first is handled three times, and the connection is
dropped; when the first is split it is handled with what the stack holds. -/
theorem joined_messages_lost :
    serve (fun _ => false) (fun _ => Stack.of 0) sampleJoined.reads [] =
        (List.replicate 3 sampleRequest.handled, false) ∧
      ¬ Framed (fun _ => false) sampleJoined.reads sampleMessages ∧
      ¬ Framed (fun _ => false) sampleSplit.reads sampleMessages := by
  have hjoined : serve (fun _ => false) (fun _ => Stack.of 0) sampleJoined.reads [] =
      (List.replicate 3 sampleRequest.handled, false) := by decide
  have hdeliver : deliver (fun _ => false) sampleMessages [] =
      (sampleMessages.map Message.handled, true) := by decide
  have hsplit : (serve (fun _ => false) (fun _ => Stack.of 0) sampleSplit.reads []).2 = false := by
    decide
  refine ⟨hjoined, fun h => ?_, fun h => ?_⟩
  · have heq := (hjoined.symm.trans (h _)).trans hdeliver
    exact absurd (congrArg Prod.snd heq) Bool.false_ne_true
  · have heq := (h fun _ => Stack.of 0).trans hdeliver
    exact absurd (hsplit.symm.trans (congrArg Prod.snd heq)) Bool.false_ne_true

end Lorawan.NetworkServer.GatewayStream

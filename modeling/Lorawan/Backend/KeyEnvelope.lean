import Lorawan.Backend.Frame

/-!
# Key envelopes (libserver.c:647-765)

A key travels as hex text, in the clear or wrapped under a key both ends hold.
The key wrap is the crypto library's; `KeyWrap` carries its one law.
-/

namespace Lorawan.Backend
open Lorawan

/-- The crypto library's AES key wrap of sixteen octets into twenty-four. -/
structure KeyWrap where
  wrap : Octets → Octets → Option Octets
  unwrap : Octets → Octets → Option Octets
  wrap_length : ∀ kek key c, wrap kek key = some c → c.length = 24
  unwrap_wrap : ∀ kek key c, wrap kek key = some c → unwrap kek c = some key

/-- The crypto library refuses every key wrap. -/
def noWrap : KeyWrap := ⟨fun _ _ => none, fun _ _ => none, by simp, by simp⟩

/-- `key_envelope_t` (`libserver.h:361-365`). -/
structure key_envelope_t where
  kek_label : Option (List Char)
  key_bin : Octets
deriving DecidableEq

/-- The JSON object of a key. -/
structure KeyEnvelopeJson where
  KEKLabel : Option (List Char)
  AESKey : List Char
deriving DecidableEq

/-- `libserver.c:716-768`. -/
def create_KeyEnvelope (W : KeyWrap) (key_bin : Octets) (ke : key_envelope_t) :
    Option KeyEnvelopeJson :=
  match ke.kek_label with
  | some label =>
    (W.wrap ke.key_bin key_bin).map fun encrypted => ⟨some label, Text.printOctets encrypted⟩
  | none => some ⟨none, Text.printOctets key_bin⟩

/-- `libserver.c:647-714`; `none` stands for any `Result` but `Success`. -/
def parse_key_envelope (W : KeyWrap) (junk : UInt8) (obj : KeyEnvelopeJson) (ke : key_envelope_t) :
    Option Octets :=
  let encryptedBinLen := obj.AESKey.length / 2 % 256
  if 24 < encryptedBinLen then none
  else
    let encryptedBin := (Text.scanOctets junk obj.AESKey).take encryptedBinLen
    match obj.KEKLabel with
    | some rxLabel =>
      if ke.kek_label = some rxLabel then W.unwrap ke.key_bin encryptedBin else none
    | none => some (encryptedBin.take 16)

/-- A key put into an envelope is taken out of it by a holder of the same wrapping key. -/
theorem parse_create_KeyEnvelope (W : KeyWrap) (junk : UInt8) (key : Octets)
    (hkey : key.length = 16) (ke : key_envelope_t) {obj : KeyEnvelopeJson}
    (h : create_KeyEnvelope W key ke = some obj) : parse_key_envelope W junk obj ke = some key := by
  unfold create_KeyEnvelope at h
  cases hlabel : ke.kek_label with
  | none =>
    simp only [hlabel, Option.some.injEq] at h
    subst h
    have hlen : (Text.printOctets key).length / 2 % 256 = 16 := by
      rw [Text.printOctets_length, hkey]
    have htake : key.take 16 = key := List.take_of_length_le (le_of_eq hkey)
    simp only [parse_key_envelope, hlen, Text.scanOctets_printOctets, htake]
    rfl
  | some label =>
    simp only [hlabel] at h
    cases hwrap : W.wrap ke.key_bin key with
    | none => simp [hwrap] at h
    | some c =>
      simp only [hwrap, Option.map_some, Option.some.injEq] at h
      subst h
      have hc := W.wrap_length _ _ _ hwrap
      have hlen : (Text.printOctets c).length / 2 % 256 = 24 := by
        rw [Text.printOctets_length, hc]
      have htake : c.take 24 = c := List.take_of_length_le (le_of_eq hc)
      simp only [parse_key_envelope, hlen, Text.scanOctets_printOctets, htake, hlabel, if_true]
      exact W.unwrap_wrap _ _ _ hwrap

end Lorawan.Backend

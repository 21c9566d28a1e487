import Lorawan.Lib.Text

/-!
# Frames and messages shared by the servers (lorawan.h, libserver.c)

The MAC header, the EUI conversions, the `Result` texts and the JSON values of
the backend interface.
-/

namespace Lorawan.Backend
open Lorawan

/-! ### MAC header (lorawan.h:27-48) -/

inductive mtype_e
  | MTYPE_JOIN_REQ
  | MTYPE_JOIN_ACC
  | MTYPE_UNCONF_UP
  | MTYPE_UNCONF_DN
  | MTYPE_CONF_UP
  | MTYPE_CONF_DN
  | MTYPE_REJOIN_REQ
  | MTYPE_P
deriving DecidableEq, Repr

open mtype_e

def mtype_e.code : mtype_e → UInt8
  | MTYPE_JOIN_REQ => 0
  | MTYPE_JOIN_ACC => 1
  | MTYPE_UNCONF_UP => 2
  | MTYPE_UNCONF_DN => 3
  | MTYPE_CONF_UP => 4
  | MTYPE_CONF_DN => 5
  | MTYPE_REJOIN_REQ => 6
  | MTYPE_P => 7

/-- The octet `mtype << 5`, with `major` and `rfu` zero. -/
def mhdr (t : mtype_e) : UInt8 := t.code <<< 5

/-- `mhdr->bits.MType`: the three top bits. -/
def MType (octet : UInt8) : mtype_e :=
  match (octet >>> 5).toNat with
  | 0 => MTYPE_JOIN_REQ
  | 1 => MTYPE_JOIN_ACC
  | 2 => MTYPE_UNCONF_UP
  | 3 => MTYPE_UNCONF_DN
  | 4 => MTYPE_CONF_UP
  | 5 => MTYPE_CONF_DN
  | 6 => MTYPE_REJOIN_REQ
  | _ => MTYPE_P

@[simp] theorem MType_mhdr (t : mtype_e) : MType (mhdr t) = t := by
  cases t <;> rfl

/-! ### EUI-64 (libserver.c:479-504) -/

/-- Most significant octet last over the air. -/
def eui_buf_to_uint64 (eui : Octets) : ℕ := Octets.toNat (eui.take 8)

def uint64_to_eui_buf (n : ℕ) : Octets := Octets.ofNat 8 n

theorem eui_buf_roundtrip (n : ℕ) (h : n < 2 ^ 64) :
    eui_buf_to_uint64 (uint64_to_eui_buf n) = n := by
  have htake : (Octets.ofNat 8 n).take 8 = Octets.ofNat 8 n :=
    List.take_of_length_le (by simp only [Octets.length_ofNat]; omega)
  rw [eui_buf_to_uint64, uint64_to_eui_buf, htake, Octets.toNat_ofNat]
  exact Nat.mod_eq_of_lt (by omega)

/-- No device: `0xffffffffffffffff` and `0xffffffff` (libserver.h:463-464). -/
def NONE_DEVEUI : ℕ := 2 ^ 64 - 1

def NONE_DEVADDR : ℕ := 2 ^ 32 - 1

/-! ### NetID of a DevAddr (libserver.c:1733-1778) -/

/-- A NetID type: the DevAddr prefix of `bits` bits that marks it, the lengths of NwkID and
NwkAddr, and the type bits of the NetID. -/
structure NetIdType where
  bits : ℕ
  marker : ℕ
  nwkIdBits : ℕ
  nwkAddrBits : ℕ
  netId : ℕ
deriving DecidableEq

/-- Types 7 down to 0, in the order of the tests. -/
def netIdTypes : List NetIdType :=
  [⟨8, 0xfe, 17, 7, 0xe00000⟩, ⟨7, 0x7e, 15, 10, 0xc00000⟩, ⟨6, 0x3e, 13, 13, 0xa00000⟩,
    ⟨5, 0x1e, 11, 16, 0x800000⟩, ⟨4, 0x0e, 10, 18, 0x600000⟩, ⟨3, 0x06, 9, 20, 0x400000⟩,
    ⟨2, 0x02, 6, 24, 0x200000⟩, ⟨1, 0x00, 6, 25, 0x000000⟩]

/-- `parseDevAddr`: NetID, NwkID and NwkAddr; `none` is `UINT_MAX`. -/
def parseDevAddr (devAddr : ℕ) : Option (ℕ × ℕ × ℕ) :=
  (netIdTypes.find? fun ty => devAddr / 2 ^ (32 - ty.bits) = ty.marker).map fun ty =>
    let NwkID := devAddr / 2 ^ ty.nwkAddrBits % 2 ^ ty.nwkIdBits
    (ty.netId + NwkID, NwkID, devAddr % 2 ^ ty.nwkAddrBits)

/-! ### Results and JSON values -/

/-- The `Result` texts of `libserver.c:36-86`. -/
inductive Result
  | Success
  | MalformedRequest
  | FrameSizeError
  | UnknownDevEUI
  | UnknownDevAddr
  | MICFailed
  | ActivationDisallowed
  | JoinReqFailed
  | NoRoamingAgreement
  | RoamingActDisallowed
  | Deferred
  | StaleDeviceProfile
  | XmitFailed
  | InvalidFPort
  | InvalidProtocolVersion
  | UnknownReceiverID
  | Other
deriving DecidableEq, Repr

/-- A JSON value as `json_object_get_string` sees it. -/
inductive JsonValue
  | string (s : List Char)
  | int (n : ℕ)
deriving DecidableEq

/-- A JSON number is read as its decimal text. -/
def JsonValue.get_string : JsonValue → List Char
  | .string s => s
  | .int n => Text.print 10 n

end Lorawan.Backend

import Lorawan.NetworkServer.JoinRequest

/-!
# The end device of a join

What a device sends, and what it makes of a join accept: the LoRaWAN side that
the servers have to meet. Nothing here is translated from the servers' code,
except the two join keys, which the join server derives when a device is added
(join_server/main.c:36-55, join_server/web.c:751-752).
-/

namespace Lorawan.JoinServer
open Lorawan Lorawan.Backend mtype_e

variable (A : BlockCipher)

def GenerateJoinKey (token : UInt8) (root_key : Octets) (dev_eui : ℕ) : Octets :=
  A.encrypt root_key ([token] ++ uint64_to_eui_buf dev_eui ++ List.replicate 7 0)

/-- A device: LoRaWAN 1.1 when it has an AppKey. -/
structure Device where
  DevEUI : ℕ
  JoinEUI : ℕ
  NwkKey : Octets
  AppKey : Option Octets
  DevEUI_lt : DevEUI < 2 ^ 64
  JoinEUI_lt : JoinEUI < 2 ^ 64

namespace Device

variable (dev : Device)

def JSIntKey : Octets := GenerateJoinKey A 0x06 dev.NwkKey dev.DevEUI

def JSEncKey : Octets := GenerateJoinKey A 0x05 dev.NwkKey dev.DevEUI

/-! ### What it sends -/

inductive Uplink
  | join (DevNonce mic : ℕ)
  | rejoin02 (type : UInt8) (NetID RJcount0 mic : ℕ)
  | rejoin1 (RJcount1 mic : ℕ)
deriving DecidableEq

def frame : Uplink → Octets
  | .join DevNonce mic =>
    [mhdr MTYPE_JOIN_REQ] ++ Octets.ofNat 8 dev.JoinEUI ++ Octets.ofNat 8 dev.DevEUI ++
      Octets.ofNat 2 DevNonce ++ Octets.ofNat 4 mic
  | .rejoin02 type NetID RJcount0 mic =>
    [mhdr MTYPE_REJOIN_REQ, type] ++ Octets.ofNat 3 NetID ++ Octets.ofNat 8 dev.DevEUI ++
      Octets.ofNat 2 RJcount0 ++ Octets.ofNat 4 mic
  | .rejoin1 RJcount1 mic =>
    [mhdr MTYPE_REJOIN_REQ, 1] ++ Octets.ofNat 8 dev.JoinEUI ++ Octets.ofNat 8 dev.DevEUI ++
      Octets.ofNat 2 RJcount1 ++ Octets.ofNat 4 mic

/-- JoinReqType of the MIC: `0xff` for a join request. -/
def Uplink.type : Uplink → UInt8
  | .join _ _ => 0xff
  | .rejoin02 type _ _ _ => type
  | .rejoin1 _ _ => 1

/-- The device's nonce: sixteen bits. -/
def Uplink.nonce : Uplink → ℕ
  | .join DevNonce _ => DevNonce % 2 ^ 16
  | .rejoin02 _ _ RJcount0 _ => RJcount0 % 2 ^ 16
  | .rejoin1 RJcount1 _ => RJcount1 % 2 ^ 16

/-! ### What it makes of the accept -/

/-- The fields of a join accept. -/
structure Accept where
  MHDR : UInt8
  JoinNonce : ℕ
  NetID : ℕ
  DevAddr : ℕ
  DLSettings : UInt8
  RxDelay : UInt8
  CFList : Octets
  MIC : Octets
deriving DecidableEq

/-- JSEncKey answers a rejoin request of a 1.1 device, NwkKey everything else. -/
def acceptKey (u : Uplink) : Octets :=
  if dev.AppKey.isSome ∧ u.type ≠ 0xff then dev.JSEncKey A else dev.NwkKey

/-- The accept after MHDR, encrypted block by block: the device has no decryption. -/
def plain (u : Uplink) (phy : Octets) : Octets :=
  BlockCipher.ecb (A.encrypt (dev.acceptKey A u)) ((phy.length - 1) / 16) (phy.drop 1)

def parse (MHDR : UInt8) (plain : Octets) : Accept where
  MHDR := MHDR
  JoinNonce := Octets.toNat (Octets.slice plain 0 3)
  NetID := Octets.toNat (Octets.slice plain 3 3)
  DevAddr := Octets.toNat (Octets.slice plain 6 4)
  DLSettings := (Octets.slice plain 10 1).headD 0
  RxDelay := (Octets.slice plain 11 1).headD 0
  CFList := Octets.slice plain 12 (plain.length - 16)
  MIC := Octets.slice plain (plain.length - 4) 4

def receiveAccept (u : Uplink) (phy : Octets) : Accept :=
  parse (phy.headD 0) (dev.plain A u phy)

/-- The MIC that the device computes over what it received. -/
def expectedMic (u : Uplink) (phy : Octets) : Octets :=
  let plain := dev.plain A u phy
  let accept := phy.headD 0 :: plain.take (plain.length - 4)
  if dev.AppKey.isSome then
    LoRa_GenerateJoinFrameIntegrityCode A (dev.JSIntKey A)
      ([u.type] ++ Octets.ofNat 8 dev.JoinEUI ++ Octets.ofNat 2 u.nonce ++ accept)
  else LoRa_GenerateJoinFrameIntegrityCode A dev.NwkKey accept

/-! ### Session keys -/

def sessionKey1v1 (token : UInt8) (root : Octets) (u : Uplink) (accept : Accept) : Octets :=
  A.encrypt root ([token] ++ Octets.ofNat 3 accept.JoinNonce ++ Octets.ofNat 8 dev.JoinEUI ++
    Octets.ofNat 2 u.nonce ++ [0, 0])

def sessionKey1v0 (token : UInt8) (u : Uplink) (accept : Accept) : Octets :=
  A.encrypt dev.NwkKey ([token] ++ Octets.ofNat 3 accept.JoinNonce ++
    Octets.ofNat 3 accept.NetID ++ Octets.ofNat 2 u.nonce ++ List.replicate 7 0)

end Device

/-- The device's row of `joinmotes` holds its keys, as the web page derives them. -/
def Provisioned (dev : Device) (t : Tables) : Prop :=
  ∃ m, t.row dev.DevEUI = some m ∧ m.NwkKey = some dev.NwkKey ∧ m.AppKey = dev.AppKey ∧
    (dev.AppKey.isSome →
      m.JSIntKey = some (dev.JSIntKey A) ∧ m.JSEncKey = some (dev.JSEncKey A))

end Lorawan.JoinServer

import Lorawan.Backend.Crypto
import Lorawan.Backend.Frame
import Lorawan.NetworkServer.MacQueue
import Lorawan.NetworkServer.Sessions

/-!
# Scheduling a downlink (network_server/sNS.h:30-90, sNS.c:1419-1484, 1500-1668)

`sNS_schedule_downlink` builds the frame in `PHYPayloadBin` from the waiting MAC
commands and the payload of the application. Lengths are `uint8_t`. A write
outside an array has no result: `none`.
-/

namespace Lorawan.NetworkServer
open Lorawan Lorawan.Backend Backend.mtype_e

variable (A : BlockCipher)

/-! ### The state of a device -/

/-- `DLMetaData_t`, as far as a frame depends on it. -/
structure DLMetaData where
  FPort : UInt8
  FCntDown : ℕ
  Confirmed : Bool
deriving DecidableEq

/-- History: the session a frame was built for, and its NFCntDown when it was built under one. -/
structure Origin where
  session : ℕ
  NFCntDown : Option ℕ
deriving DecidableEq

/-- `s_t` (sNS.h:22-86), with the members of `downlink` and of `flags` that the modelled
functions use. -/
structure S where
  mac_cmd_queue : List MacCmd
  ConfFCntDown : ℕ
  AFCntDown : ℕ
  confDLPHYPayloadBin : Octets
  confDLPHYPayloadLen : ℕ
  md : DLMetaData
  PHYPayloadBin : Octets
  PHYPayloadLen : ℕ
  FRMPayloadBin : Octets
  FRMPayloadLen : ℕ
  /-- `resendAt != 0` -/
  resend : Bool
  session_start_at_uplink : Bool
  incrNFCntDown : Bool
  newFCntUp : Bool
  upConfreSent : Bool
  checkOldSessions : Bool
  answer_app_downlink : Bool
  /-- History: the payload of the application that `FRMPayloadBin` was filled with. -/
  accepted : Octets
  /-- History: what `PHYPayloadBin` holds. -/
  frame : Option Origin
  /-- History: what `confDLPHYPayloadBin` holds. -/
  confFrame : Option Origin
deriving DecidableEq

/-- `calloc(1, sizeof(s_t))`. -/
def S.zero : S :=
  ⟨[], 0, 0, List.replicate 256 0, 0, ⟨0, 0, false⟩, List.replicate 256 0, 0, List.replicate 244 0,
    0, false, false, false, false, false, false, false, [], none, none⟩

/-- `mote_t`. History: the counter the device sent the received frame with. -/
structure Mote where
  ID : ℕ
  devAddr : ℕ
  session : Session
  ULPayloadBin : Octets
  ULPHYPayloadLen : ℕ
  s : S
  counter : ℕ
deriving DecidableEq

def Mote.init (ID devAddr : ℕ) : Mote :=
  ⟨ID, devAddr, Session.zero, List.replicate 256 0, 0, S.zero, 0⟩

/-! ### Fields of a received frame (lorawan.h:72-96) -/

def rxMType (m : Mote) : mtype_e := MType (m.ULPayloadBin.headD 0)

def rxFCtrl (m : Mote) : UInt8 := m.ULPayloadBin.getD 5 0

def rxACK (m : Mote) : Bool := decide (rxFCtrl m &&& 0x20 ≠ 0)

def rxADRACKReq (m : Mote) : Bool := decide (rxFCtrl m &&& 0x40 ≠ 0)

def rxDevAddr (m : Mote) : ℕ := Octets.toNat (Octets.slice m.ULPayloadBin 1 4)

def rxFCnt (m : Mote) : ℕ := Octets.toNat (Octets.slice m.ULPayloadBin 6 2)

def has_rx_fhdr (m : Mote) : Bool :=
  decide (rxMType m = MTYPE_CONF_UP) || decide (rxMType m = MTYPE_UNCONF_UP)

/-! ### get_queued_mac_cmds (sNS.c:1419-1484) -/

/-- The length that the frame header under construction states. -/
def FOptsLen (bin : Octets) : ℕ := (bin.getD 5 0).toNat % 16

/-- The octets of FOpts as they are sent. `buf` is cleared memory of sixteen octets; the
encryption reads past it. -/
def sentFOpts (junk NwkSEncKey fopts : Octets) (devAddr FCnt : ℕ) (OptNeg : Bool) : Octets :=
  if OptNeg then
    LoRa_Encrypt A 0 NwkSEncKey (fopts ++ List.replicate (16 - fopts.length) 0 ++ junk)
      fopts.length devAddr false FCnt
  else fopts

/-- FOptsLen and FOpts; nothing when no command was taken. -/
def writeFOpts (fopts sent bin : Octets) : Option Octets :=
  if fopts = [] then some bin
  else (Octets.write bin 5 [UInt8.ofNat fopts.length]).bind fun bin => Octets.write bin 8 sent

def get_queued_mac_cmds (junk NwkSEncKey : Octets) (devAddr FCnt : ℕ) (OptNeg : Bool) (s : S) :
    Option S := do
  let fopts := (takeMacCmds 15 s.mac_cmd_queue).1
  let bin ← Octets.write s.PHYPayloadBin 5 [0]
  let bin ← writeFOpts fopts (sentFOpts A junk NwkSEncKey fopts devAddr FCnt OptNeg) bin
  return { s with
    mac_cmd_queue := (takeMacCmds 15 s.mac_cmd_queue).2
    PHYPayloadBin := bin }

/-! ### sNS_schedule_downlink (sNS.c:1500-1668) -/

/-- `tx_mhdr->bits.MType = t`: the other bits of the octet stay. -/
def setMType (bin : Octets) (t : mtype_e) : Option Octets :=
  Octets.write bin 0 [(bin.headD 0 &&& 0x1f) ||| mhdr t]

/-- Whether the user's payload goes into the frame, as far as the uplink allows it. -/
def wantsPayload (s : S) : Bool := !s.upConfreSent && decide (0 < s.FRMPayloadLen)

/-- In LoRaWAN 1.0 the payload must have been encrypted for the next frame. -/
def rightFCntDown (m : Mote) : Bool :=
  m.session.OptNeg || decide (m.s.md.FCntDown = m.session.NFCntDown)

def carriesPayload (m : Mote) : Bool := wantsPayload m.s && rightFCntDown m

/-- The payload and the type of the frame, and whether it uses AFCntDown. -/
def addPayload (m : Mote) (s : S) : Option (S × Bool) :=
  let txo := 8 + FOptsLen s.PHYPayloadBin
  if wantsPayload m.s then
    if rightFCntDown m then do
      let bin ← Octets.write s.PHYPayloadBin txo [s.md.FPort]
      let bin ← Octets.write bin (txo + 1) (s.FRMPayloadBin.take s.FRMPayloadLen)
      let bin ← setMType bin (if s.md.Confirmed then MTYPE_CONF_DN else MTYPE_UNCONF_DN)
      return ({ s with
        AFCntDown := if m.session.OptNeg then s.md.FCntDown else s.AFCntDown
        PHYPayloadBin := bin
        PHYPayloadLen := (s.FRMPayloadLen + 1) % 256 }, m.session.OptNeg)
    else some (s, false)
  else do
    let bin ← setMType s.PHYPayloadBin MTYPE_UNCONF_DN
    return ({ s with PHYPayloadBin := bin }, false)

/-- The counter a frame of the confirmed uplink is acknowledged with. -/
def ackedFCnt (m : Mote) (s : S) : ℕ :=
  if s.newFCntUp ∧ m.session.OptNeg ∧ rxMType m = MTYPE_CONF_UP then rxFCnt m else 0

/-- The block of the downlink's MIC. -/
def downlinkBlock (confFCnt devAddr FCntDown lenMsg : ℕ) : block_t :=
  { header := 0x49, confFCnt := confFCnt, dr := 0, ch := 0, dir := 1, DevAddr := devAddr,
    FCnt := FCntDown, zero8 := 0, lenMsg := lenMsg }

/-- The counter that the frame is sent under. -/
def txFCntDown (m : Mote) (s : S) (using_AFCntDwn : Bool) : ℕ :=
  if using_AFCntDwn then s.AFCntDown else m.session.NFCntDown

/-- The length before the MIC is added. -/
def lenBeforeMic (s : S) : ℕ := (s.PHYPayloadLen + 8 + FOptsLen s.PHYPayloadBin) % 256

/-- `FCtrl.dlBits.ACK`. -/
def setACK (FCtrl : UInt8) (ACK : Bool) : UInt8 := if ACK then FCtrl ||| 0x20 else FCtrl &&& 0xdf

/-- FCnt, DevAddr and FCtrl of the frame header. -/
def writeHeader (m : Mote) (FCntDown : ℕ) (bin : Octets) : Option Octets := do
  let FCtrl := setACK (bin.getD 5 0) (decide (rxMType m = MTYPE_CONF_UP))
  let bin ← Octets.write bin 6 (Octets.ofNat 2 FCntDown)
  let bin ← Octets.write bin 1 (Octets.ofNat 4 m.devAddr)
  Octets.write bin 5 [FCtrl]

/-- The header, the length and the MIC. -/
def sealFrame (m : Mote) (s : S) (using_AFCntDwn : Bool) : Option S := do
  let FCntDown := txFCntDown m s using_AFCntDwn
  let len := lenBeforeMic s
  let bin ← writeHeader m FCntDown s.PHYPayloadBin
  let block := downlinkBlock (ackedFCnt m s) m.devAddr FCntDown len
  let bin ← Octets.write bin len
    (LoRa_GenerateDataFrameIntegrityCode A block m.session.SNwkSIntKeyBin bin)
  return { s with
    incrNFCntDown := !using_AFCntDwn
    newFCntUp := s.newFCntUp && !(m.session.OptNeg && decide (rxMType m = MTYPE_CONF_UP))
    PHYPayloadBin := bin
    PHYPayloadLen := (len + 4) % 256
    frame := some ⟨m.session.row, if using_AFCntDwn then none else some m.session.NFCntDown⟩ }

/-- A confirmed frame is kept until it is acknowledged. -/
def keepConfirmed (FCntDown : ℕ) (s : S) : Option S :=
  match MType (s.PHYPayloadBin.headD 0) with
  | MTYPE_UNCONF_DN => some { s with ConfFCntDown := 0, confDLPHYPayloadLen := 0 }
  | MTYPE_CONF_DN =>
    (Octets.write s.confDLPHYPayloadBin 0 (s.PHYPayloadBin.take s.PHYPayloadLen)).map fun conf =>
      { s with
        ConfFCntDown := FCntDown % 2 ^ 16
        confDLPHYPayloadBin := conf
        confDLPHYPayloadLen := s.PHYPayloadLen
        confFrame := s.frame }
  | _ => some s

/-- The tests before anything is built. -/
def needsDownlink (m : Mote) : Bool :=
  let previouslyUnsent := decide (0 < m.s.PHYPayloadLen) &&
    !(m.session.OptNeg && decide (rxMType m = MTYPE_CONF_UP))
  let uplink_forces_downlink :=
    if has_rx_fhdr m then
      rxADRACKReq m || (!rxACK m && decide (0 < m.s.confDLPHYPayloadLen))
    else decide (0 < m.s.confDLPHYPayloadLen)
  !previouslyUnsent &&
    (decide (rxMType m = MTYPE_CONF_UP) || uplink_forces_downlink ||
      are_mac_cmds_queued m.s.mac_cmd_queue || decide (m.s.FRMPayloadLen ≠ 0))

/-- From `get_queued_mac_cmds` on. -/
def buildFrame (junk : Octets) (m : Mote) : Option Mote := do
  let s ← get_queued_mac_cmds A junk m.session.NwkSEncKeyBin m.devAddr m.session.NFCntDown
    m.session.OptNeg m.s
  let (s, using_AFCntDwn) ← addPayload m s
  let FCntDown := txFCntDown m s using_AFCntDwn
  let s ← sealFrame A m s using_AFCntDwn
  let s ← keepConfirmed FCntDown s
  return { m with s := s }

def sNS_schedule_downlink (junk : Octets) (m : Mote) : Option Mote :=
  if needsDownlink m then buildFrame A junk m else some m

end Lorawan.NetworkServer

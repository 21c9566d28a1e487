import Lorawan.JoinServer.Accept

/-!
# The join request that the network server sends (hNS.c:83-213, sNS.c:70-105)

`hNS_toJS` passes a received join or rejoin frame on to the join server, with the
DevAddr it has assigned, the receive settings of the device profile and the
region's CFList.
-/

namespace Lorawan.NetworkServer
open Lorawan Lorawan.Backend mtype_e

/-! ### CFList -/

/-- Regions with a channel list of their own; `arib_get_cflist` has three frequencies, in
units of 100 Hz. -/
inductive Regional
  | plain
  | arib (ch3 ch4 ch5 : ℕ)
deriving DecidableEq

/-- `band_arib8ch.c:35-64`: sixteen octets. -/
def arib_get_cflist (ch3 ch4 ch5 : ℕ) : Octets :=
  Octets.ofNat 3 ch3 ++ Octets.ofNat 3 ch4 ++ Octets.ofNat 3 ch5 ++ Octets.ofNat 3 0 ++
    Octets.ofNat 3 0 ++ Octets.ofNat 1 0

def Regional.CFListBin : Regional → Octets
  | .plain => []
  | .arib ch3 ch4 ch5 => arib_get_cflist ch3 ch4 ch5

/-- `CFListStr`; without a channel list it is the empty text. -/
def get_cflist (r : Regional) : List Char := Text.printOctets r.CFListBin

theorem CFListBin_length (r : Regional) : r.CFListBin.length = 0 ∨ r.CFListBin.length = 16 := by
  cases r with
  | plain => exact Or.inl rfl
  | arib ch3 ch4 ch5 => exact Or.inr rfl

/-! ### The request -/

/-- The columns of `DeviceProfiles` that go into the request; `none` when the query fails. -/
structure DeviceProfile where
  RXDataRate2 : Option ℕ
  RXDROffset1 : Option ℕ
  RXDelay1 : Option ℕ
deriving DecidableEq

/-- `deviceProfileReq` hands a column over as the SQL server prints it, and the caller
scans it with `%u`. -/
def deviceProfileNumber (column : Option ℕ) : Option ℕ :=
  column.bind fun n => Text.scan 10 32 (Text.print 10 n)

/-- The fields of `mote_t` and the surroundings that `hNS_toJS` reads. -/
structure JoiningMote where
  ULPayloadBin : Octets
  devEui : ℕ
  devAddr : ℕ
  /-- `motes.JoinEUI`, saved from the last join answer. -/
  savedJoinEUI : Option ℕ
  /-- A free transaction slot was found (`next_tid`). -/
  tidFree : Bool
  profile : DeviceProfile
deriving DecidableEq

structure JoinMessage where
  SenderID : List Char
  ReceiverID : List Char
  members : JoinServer.JoinReqJson
deriving DecidableEq

/-- Where the request goes (hNS.c:98-133). -/
def requestJoinEui (mote : JoiningMote) : Option ℕ :=
  let byte (i : ℕ) := mote.ULPayloadBin.getD i 0
  match MType (byte 0) with
  | MTYPE_REJOIN_REQ =>
    let joinEui := mote.savedJoinEUI.getD NONE_DEVEUI
    if joinEui = NONE_DEVEUI then none
    else if byte 1 = 1 then some (eui_buf_to_uint64 (Octets.slice mote.ULPayloadBin 2 8))
    else if 2 < byte 1 then none
    else some joinEui
  | MTYPE_JOIN_REQ => some (eui_buf_to_uint64 (Octets.slice mote.ULPayloadBin 1 8))
  | _ => none

/-- `dlSettings = RXDataRate2; dlSettings |= RXDROffset1 << 4`, an octet. -/
def dlSettings (RXDataRate2 RXDROffset1 : ℕ) : UInt8 :=
  UInt8.ofNat RXDataRate2 ||| UInt8.ofNat (RXDROffset1 <<< 4)

/-- The receive delay the network server means: zero stands for one second. -/
def rxDelay (RXDelay1 : ℕ) : ℕ := if RXDelay1 = 0 then 1 else RXDelay1

def hNS_toJS (myNetwork_id32 : ℕ) (mote : JoiningMote) (CFListStr : List Char) :
    Option JoinMessage :=
  if mote.tidFree = false then none
  else do
    let joinEui ← requestJoinEui mote
    let RXDataRate2 ← deviceProfileNumber mote.profile.RXDataRate2
    let RXDROffset1 ← deviceProfileNumber mote.profile.RXDROffset1
    let RXDelay1 ← deviceProfileNumber mote.profile.RXDelay1
    pure {
      SenderID := Text.printPad 6 16 myNetwork_id32
      ReceiverID := Text.print 16 joinEui
      members := {
        PHYPayload := some (.string (Text.printOctets mote.ULPayloadBin))
        DevEUI := some (.string (Text.print 16 mote.devEui))
        DevAddr := some (.string (Text.print 16 mote.devAddr))
        DLSettings := some (.string (Text.print2 (dlSettings RXDataRate2 RXDROffset1)))
        RxDelay := some (.int (rxDelay RXDelay1))
        CFList := if CFListStr = [] then none else some (.string CFListStr) } }

/-- `sscanf(sender_id, "%x", &sender_id32)` at the join server (join_server/web.c:160-162). -/
def senderNetId (msg : JoinMessage) : ℕ := (Text.scan 16 32 msg.SenderID).getD 0

theorem hNS_toJS_some {myNetwork_id32 : ℕ} {mote : JoiningMote} {CFListStr : List Char}
    {msg : JoinMessage} (h : hNS_toJS myNetwork_id32 mote CFListStr = some msg) :
    ∃ RXDataRate2 RXDROffset1 RXDelay1,
      deviceProfileNumber mote.profile.RXDataRate2 = some RXDataRate2 ∧
      deviceProfileNumber mote.profile.RXDROffset1 = some RXDROffset1 ∧
      deviceProfileNumber mote.profile.RXDelay1 = some RXDelay1 ∧
      msg.SenderID = Text.printPad 6 16 myNetwork_id32 ∧
      msg.members = {
        PHYPayload := some (.string (Text.printOctets mote.ULPayloadBin))
        DevEUI := some (.string (Text.print 16 mote.devEui))
        DevAddr := some (.string (Text.print 16 mote.devAddr))
        DLSettings := some (.string (Text.print2 (dlSettings RXDataRate2 RXDROffset1)))
        RxDelay := some (.int (rxDelay RXDelay1))
        CFList := if CFListStr = [] then none else some (.string CFListStr) } := by
  unfold hNS_toJS at h
  split at h
  · exact absurd h (by simp)
  simp only [Option.bind_eq_bind, Option.bind_eq_some_iff, Option.pure_def,
    Option.some.injEq] at h
  obtain ⟨joinEui, -, dr2, hdr2, off, hoff, delay, hdelay, rfl⟩ := h
  exact ⟨dr2, off, delay, hdr2, hoff, hdelay, rfl, rfl⟩

theorem senderNetId_hNS_toJS {myNetwork_id32 : ℕ} {mote : JoiningMote} {CFListStr : List Char}
    {msg : JoinMessage} (h : hNS_toJS myNetwork_id32 mote CFListStr = some msg)
    (hid : myNetwork_id32 < 2 ^ 32) : senderNetId msg = myNetwork_id32 := by
  obtain ⟨-, -, -, -, -, -, hsender, -⟩ := hNS_toJS_some h
  rw [senderNetId, hsender,
    Text.scan_printPad 6 32 myNetwork_id32 (by omega) (by omega) (by omega) hid,
    Option.getD_some]

end Lorawan.NetworkServer

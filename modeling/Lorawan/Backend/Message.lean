import Lorawan.Lib.Json
import Lorawan.Backend.Frame

/-!
# The header of a message (libserver.c:247-455)

Every message names its type, its sender and receiver and a TransactionID; an
answer also has a Result. `lib_generate_json` adds these members and
`lib_parse_json` takes them out and says whether the message is acceptable.
-/

namespace Lorawan.Backend
open Lorawan

/-! ### Members and message types -/

/-- The members of the objects that the servers exchange (libserver.c:30-180). -/
inductive Member
  | ProtocolVersion
  | SenderID
  | ReceiverID
  | TransactionID
  | MessageType
  | Result
  | PHYPayload
  | FRMPayload
  | DevEUI
  | DevAddr
  | Lifetime
  | ServiceProfile
  | FNwkSIntKey
  | SNwkSIntKey
  | NwkSEncKey
  | NwkSKey
  | ULMetaData
  | DLMetaData
  | FPort
  | FCntDown
  | FCntUp
  | Confirmed
  | DataRate
  | ULFreq
  | Margin
  | Battery
  | FNSULToken
  | RecvTime
  | RFRegion
  | GWCnt
  | GWInfo
  | ID
  | RSSI
  | SNR
  | Lat
  | Lon
  | ULToken
  | DLAllowed
  | DLFreq1
  | DLFreq2
  | DataRate1
  | DataRate2
  | RXDelay1
  | ClassMode
  | PingPeriod
  | HiPriorityFlag
deriving DecidableEq

inductive MessageType
  | JoinReq
  | JoinAns
  | RejoinReq
  | RejoinAns
  | XmitDataReq
  | XmitDataAns
  | PRStartReq
  | PRStartAns
  | PRStopReq
  | PRStopAns
  | HRStartReq
  | HRStartAns
  | HRStopReq
  | HRStopAns
  | HomeNSReq
  | HomeNSAns
  | ProfileReq
  | ProfileAns
  | AppSKeyReq
  | AppSKeyAns
deriving DecidableEq

namespace MessageType

def text : MessageType → List Char
  | JoinReq => "JoinReq".toList
  | JoinAns => "JoinAns".toList
  | RejoinReq => "RejoinReq".toList
  | RejoinAns => "RejoinAns".toList
  | XmitDataReq => "XmitDataReq".toList
  | XmitDataAns => "XmitDataAns".toList
  | PRStartReq => "PRStartReq".toList
  | PRStartAns => "PRStartAns".toList
  | PRStopReq => "PRStopReq".toList
  | PRStopAns => "PRStopAns".toList
  | HRStartReq => "HRStartReq".toList
  | HRStartAns => "HRStartAns".toList
  | HRStopReq => "HRStopReq".toList
  | HRStopAns => "HRStopAns".toList
  | HomeNSReq => "HomeNSReq".toList
  | HomeNSAns => "HomeNSAns".toList
  | ProfileReq => "ProfileReq".toList
  | ProfileAns => "ProfileAns".toList
  | AppSKeyReq => "AppSKeyReq".toList
  | AppSKeyAns => "AppSKeyAns".toList

/-- In the order of the tests. -/
def all : List MessageType :=
  [JoinReq, XmitDataReq, PRStartReq, JoinAns, RejoinReq, RejoinAns, HRStartReq, HRStartAns,
    XmitDataAns, PRStartAns, HomeNSReq, HomeNSAns, ProfileReq, ProfileAns, AppSKeyReq, AppSKeyAns,
    PRStopReq, PRStopAns, HRStopReq, HRStopAns]

def ofText (s : List Char) : Option MessageType := all.find? fun mt => s = mt.text

/-- The type of the answer to a request. -/
def ansMt : MessageType → Option MessageType
  | JoinReq => some JoinAns
  | XmitDataReq => some XmitDataAns
  | PRStartReq => some PRStartAns
  | RejoinReq => some RejoinAns
  | HRStartReq => some HRStartAns
  | HomeNSReq => some HomeNSAns
  | ProfileReq => some ProfileAns
  | AppSKeyReq => some AppSKeyAns
  | PRStopReq => some PRStopAns
  | HRStopReq => some HRStopAns
  | _ => none

@[simp] theorem ofText_text (mt : MessageType) : ofText mt.text = some mt := by
  cases mt <;> decide

theorem ansMt_ansMt {mt ans : MessageType} (h : mt.ansMt = some ans) : ans.ansMt = none := by
  cases mt <;> cases h <;> rfl

end MessageType

namespace Result

def text : Result → List Char
  | Success => "Success".toList
  | MalformedRequest => "MalformedRequest".toList
  | FrameSizeError => "FrameSizeError".toList
  | UnknownDevEUI => "UnknownDevEUI".toList
  | UnknownDevAddr => "UnknownDevAddr".toList
  | MICFailed => "MICFailed".toList
  | ActivationDisallowed => "ActivationDisallowed".toList
  | JoinReqFailed => "JoinReqFailed".toList
  | NoRoamingAgreement => "NoRoamingAgreement".toList
  | RoamingActDisallowed => "RoamingActDisallowed".toList
  | Deferred => "Deferred".toList
  | StaleDeviceProfile => "StaleDeviceProfile".toList
  | XmitFailed => "XmitFailed".toList
  | InvalidFPort => "InvalidFPort".toList
  | InvalidProtocolVersion => "InvalidProtocolVersion".toList
  | UnknownReceiverID => "UnknownReceiverID".toList
  | Other => "Other".toList

/-- The results that `lib_parse_json` knows, in the order of the tests. -/
def received : List Result :=
  [FrameSizeError, StaleDeviceProfile, MalformedRequest, UnknownDevEUI, UnknownDevAddr, MICFailed,
    Success, ActivationDisallowed, JoinReqFailed, NoRoamingAgreement, RoamingActDisallowed,
    Deferred, InvalidFPort, XmitFailed, Other]

def ofText (s : List Char) : Option Result := received.find? fun r => s = r.text

theorem ofText_text (r : Result) : ofText r.text =
    if r = InvalidProtocolVersion ∨ r = UnknownReceiverID then none else some r := by
  cases r <;> decide

end Result

/-! ### Names of servers -/

/-- `get_int` of `ascii_hex_to_buf`. -/
def isHexDigit (c : Char) : Bool := (Text.digitVal 16 c).isSome

/-- `ascii_hex_to_buf` succeeds; a last character without a pair is not looked at. -/
def ascii_hex : List Char → Bool
  | hi :: lo :: cs => isHexDigit hi && isHexDigit lo && ascii_hex cs
  | _ => true

def lower (s : List Char) : List Char := s.map Char.toLower

/-- Whether a message to `rxID` is for the server `myID`. A number that is not there is
compared as what the stack holds. -/
def isReceiver (junk : ℕ × ℕ) (myID rxID : List Char) : Bool :=
  if ascii_hex myID then
    let bits := if 8 < myID.length then 64 else 32
    decide ((Text.scan 16 bits myID).getD junk.1 = (Text.scan 16 bits rxID).getD junk.2)
  else decide (lower rxID = lower myID)

/-! ### lib_generate_json, lib_parse_json -/

variable {D : Type}

/-- `json_object_new_int(tid)` of an `unsigned long`. -/
def new_tid (tid : UInt64) : Json Member D := Json.new_int tid.toUInt32.toInt32

/-- `*tid = json_object_get_int(obj)`, into an `unsigned long`. -/
def get_tid (C : Json.Conversions Member D) (v : Json Member D) : UInt64 :=
  (v.get_int C).toInt64.toUInt64

def lib_generate_json (destID srcID : List Char) (tid : UInt64) (mt : Option MessageType)
    (result : Option Result) (jobj : Member → Option (Json Member D)) :
    Member → Option (Json Member D) :=
  match mt with
  | none => jobj
  | some mt =>
    let jobj := Json.add .ProtocolVersion (.string "1.0".toList) jobj
    let jobj := Json.add .ReceiverID (.string destID) jobj
    let jobj := Json.add .SenderID (.string srcID) jobj
    let jobj := Json.add .TransactionID (new_tid tid) jobj
    let jobj := Json.add .MessageType (.string mt.text) jobj
    match result with
    | none => jobj
    | some r => Json.add .Result (.string r.text) jobj

/-- What `lib_parse_json` stores for its caller. -/
structure Header where
  result : Result
  ans_mt : Option MessageType
  /-- `none`: unknown, or not stored. -/
  pmt : Option MessageType
  senderID : Option (List Char)
  tid : UInt64
  receivedResult : Option Result
deriving DecidableEq

/-- `none` when the code reads through a null pointer. The last test that fails names the
result. -/
def lib_parse_json (C : Json.Conversions Member D) (junk : ℕ × ℕ) (myID : List Char)
    (tid : UInt64) (jobj : Json Member D) : Option Header := do
  let (pmt, res) ← match jobj.get_ex .MessageType with
    | none => pure (none, Result.MalformedRequest)
    | some v => do
      let str ← v.get_string C
      match MessageType.ofText str with
      | none => pure (none, Result.MalformedRequest)
      | some mt => pure (some mt, Result.Success)
  let res ← match jobj.get_ex .ProtocolVersion with
    | none => pure Result.MalformedRequest
    | some v => do
      let str ← v.get_string C
      pure (if str = "1.0".toList then res else Result.InvalidProtocolVersion)
  let (senderID, res) ← match jobj.get_ex .SenderID with
    | none => pure (none, Result.MalformedRequest)
    | some v => do
      let str ← v.get_string C
      pure (some str, res)
  let res ← match jobj.get_ex .ReceiverID with
    | none => pure Result.MalformedRequest
    | some v => do
      let rxID ← v.get_string C
      pure (if isReceiver junk myID rxID then res else Result.UnknownReceiverID)
  let (tid, res) := match jobj.get_ex .TransactionID with
    | none => (tid, Result.MalformedRequest)
    | some v => (get_tid C v, res)
  let receivedResult ← match jobj.get_ex .Result with
    | none => pure none
    | some v => do
      let str ← v.get_string C
      pure (Result.ofText str)
  pure ⟨res, pmt.bind MessageType.ansMt, pmt, senderID, tid, receivedResult⟩

/-- What the receiver of a generated header makes of it. -/
theorem lib_parse_json_generate (C : Json.Conversions Member D) (junk : ℕ × ℕ)
    (destID srcID myID : List Char) (tid tid0 : UInt64) (mt : MessageType)
    (result : Option Result) {jobj : Member → Option (Json Member D)}
    (hresult : result = none → jobj .Result = none) :
    lib_parse_json C junk myID tid0
        (.object (lib_generate_json destID srcID tid (some mt) result jobj)) =
      some ⟨if isReceiver junk myID destID then .Success else .UnknownReceiverID, mt.ansMt,
        some mt, some srcID, tid.toUInt32.toInt32.toInt64.toUInt64,
        result.bind fun r => Result.ofText r.text⟩ := by
  cases result with
  | none =>
    simp [lib_parse_json, lib_generate_json, new_tid, get_tid, hresult rfl]
  | some r =>
    simp [lib_parse_json, lib_generate_json, new_tid, get_tid]

end Lorawan.Backend

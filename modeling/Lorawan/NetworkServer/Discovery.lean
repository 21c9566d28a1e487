import Lorawan.NetworkServer.RefusedRoaming
import Lorawan.NetworkServer.Transactions

/-!
# Which network a visitor belongs to (fNS.c:823-1267, sNS.c:333-395, common.c:1727-1772)

An uplink of a device of another network makes this server look for that network: in its own
table, in the frame, or by a HomeNSReq to the join server. The table of roaming agreements says
whether roaming is started at once, or the device's profile is fetched before. The answers are
found by their TransactionID alone, and each makes the server send the next request.
-/

namespace Lorawan.NetworkServer
open Lorawan Lorawan.Backend Backend.mtype_e

/-! ### What is asked -/

inductive Ask
  | HomeNSReq (DevEUI JoinEUI : ℕ)
  | ProfileReq (DevEUI : ℕ) (NetID : UInt32)
  | PRStartReq (NetID : UInt32) (PHYPayload : Octets)
  /-- `none` for an empty frame: nothing is printed over the timestamp's text, which is posted. -/
  | HRStartReq (NetID : UInt32) (PHYPayload : Option Octets)
      (DeviceProfileTimestamp DevAddr : Option ℕ)
  /-- A request of the other parts of the server. -/
  | other (mt : MessageType) (destID : List Char)
deriving DecidableEq

def Ask.MessageType : Ask → MessageType
  | .HomeNSReq .. => .HomeNSReq
  | .ProfileReq .. => .ProfileReq
  | .PRStartReq .. => .PRStartReq
  | .HRStartReq .. => .HRStartReq
  | .other mt _ => mt

/-- `destStr` -/
def Ask.destID : Ask → List Char
  | .HomeNSReq _ JoinEUI => Text.print 16 JoinEUI
  | .ProfileReq _ NetID | .PRStartReq NetID _ | .HRStartReq NetID .. => Text.print 16 NetID.toNat
  | .other _ destID => destID

/-- A call of `next_tid`, and whether a message was posted after it. -/
structure Asked where
  mote : ℕ
  req : Ask
  posted : Bool
deriving DecidableEq

/-! ### The server -/

/-- What is read of `mote_t`. Past the length the buffer has what is left of earlier frames. -/
structure Roamer where
  devEui : ℕ
  devAddr : ℕ
  ULPayloadBin : Octets
  ULPHYPayloadLen : ℕ
  writtenDeviceProfileTimestamp : Option ℕ
deriving DecidableEq

def Roamer.PHYPayload (d : Roamer) : Octets := d.ULPayloadBin.take d.ULPHYPayloadLen

/-- The tables, with the column `fwdToNetID` of `motes` by `ID`. -/
structure VisitedTables extends PolicyDb where
  fwdToNetID : ℕ → Option UInt32
  fwdOk : Bool

/-- What surrounds a call: whether `generateULMetaData` and `curl_easy_init` gave something,
whether `saveDeviceProfile` succeeds, and what a variable holds before it is scanned. -/
structure AskEnv where
  ulmdOk : Bool
  curlOk : Bool
  saveOk : Bool
  junk : UInt32
deriving DecidableEq

structure Visited where
  tables : VisitedTables
  tids : TidState
  /-- By the number of the node. -/
  devices : ℕ → Roamer
  /-- History: by the number of the registration. -/
  asked : List Asked

variable (own : UInt32)

/-- `NONE_NETID` -/
def NONE_NETID32 : UInt32 := 0xffffff

def readNetID (junk : UInt32) (str : List Char) : UInt32 :=
  ((Text.scan 16 32 str).map UInt32.ofNat).getD junk

/-! ### Frames -/

/-- What the frame names: the network in a rejoin request of type 0 or 2, and in a DevAddr. -/
def frameNetID (frame : Octets) : Option UInt32 :=
  match MType (frame.headD 0) with
  | MTYPE_REJOIN_REQ =>
    if frame.getD 1 0 = 2 ∨ frame.getD 1 0 = 0 then
      some (UInt32.ofNat (Octets.toNat (Octets.slice frame 2 3)))
    else none
  | MTYPE_UNCONF_UP | MTYPE_CONF_UP =>
    (parseDevAddr (Octets.toNat (Octets.slice frame 1 4))).map fun a => UInt32.ofNat a.1
  | _ => none

/-- What happens to the uplink: it is not looked at further, or discarded, or goes on in the
server of the device. -/
inductive Finish
  | skip
  | discard
  | goesOn
deriving DecidableEq

namespace Visited

def setDevice (k : ℕ) (f : Roamer → Roamer) (v : Visited) : Visited :=
  { v with devices := Function.update v.devices k (f (v.devices k)) }

/-- `next_tid`, for a node that has a mote. -/
def ask (k : ℕ) (req : Ask) (posted : Bool) (v : Visited) : Visited :=
  match v.tids.motes[k]? with
  | some (some _) =>
    { v with
      tids := v.tids.next_tid k req.MessageType req.destID
      asked := v.asked ++ [⟨k, req, posted⟩] }
  | _ => v

/-! ### Sending (fNS.c:823-880, 948-986, 1021-1053, sNS.c:333-395) -/

def sendPRStartReq (env : AskEnv) (k : ℕ) (NetID : UInt32) (v : Visited) : Visited :=
  if (v.devices k).ULPHYPayloadLen < MINIMUM_PHY_SIZE then v
  else v.ask k (.PRStartReq NetID (v.devices k).PHYPayload) (env.ulmdOk && env.curlOk)

def sendProfileReq (env : AskEnv) (k : ℕ) (NetID : UInt32) (v : Visited) : Visited :=
  v.ask k (.ProfileReq (v.devices k).devEui NetID) env.curlOk

def sendHomeNSReq (env : AskEnv) (k rxDevEui rxJoinEui : ℕ) (v : Visited) : Visited :=
  v.ask k (.HomeNSReq rxDevEui rxJoinEui) env.curlOk

/-- The timestamp that was written last, else the one in the table. -/
def profileTimestamp (k : ℕ) (v : Visited) : Option ℕ :=
  let d := v.devices k
  d.writtenDeviceProfileTimestamp.orElse fun _ =>
    getDeviceProfileTimestamp v.tables.toPolicyDb d.devEui d.devAddr

def sNS_sendHRStartReq (env : AskEnv) (k : ℕ) (homeNetID : UInt32) (v : Visited) : Visited :=
  if homeNetID = own then v
  else
    let d := v.devices k
    v.ask k
      (.HRStartReq homeNetID (if d.PHYPayload = [] then none else some d.PHYPayload)
        (v.profileTimestamp k)
        (if d.devAddr = NONE_DEVADDR then none else some d.devAddr))
      ((v.profileTimestamp k).isSome && env.ulmdOk && env.curlOk)

/-! ### What the agreements make of a network -/

def allows (col : RoamingRow → Bool) (NetID : UInt32) (v : Visited) : Bool :=
  decide (isNetID v.tables.toPolicyDb NetID.toNat col = some true)

/-- `deviceProfileReq(.., "DeviceProfileID", NULL, 0) == 0` -/
def hasDeviceProfile (devEui devAddr : ℕ) (v : Visited) : Bool :=
  match moteIDOf v.tables.toPolicyDb devEui devAddr with
  | .error _ => false
  | .ok id => v.tables.deviceProfileOk && v.tables.deviceProfiles.any (·.DeviceProfileID = id)

/-- The branch that `activate`, `HomeNSAnsCallback` and `fNS_uplink_finish` have, with the DevAddr
by which they look for the profile; whether there is an agreement at all. -/
def startRoaming (env : AskEnv) (k : ℕ) (NetID : UInt32) (devAddr : ℕ) (v : Visited) :
    Visited × Bool :=
  if v.allows (·.PRAllowed) NetID then (v.sendPRStartReq env k NetID, true)
  else if v.allows (·.HRAllowed) NetID then
    if v.hasDeviceProfile (v.devices k).devEui devAddr then
      (v.sNS_sendHRStartReq own env k NetID, true)
    else (v.sendProfileReq env k NetID, true)
  else (v, false)

/-- `ULPHYPayloadLen = 0` -/
def clearLength (k : ℕ) (v : Visited) : Visited :=
  v.setDevice k fun d => { d with ULPHYPayloadLen := 0 }

/-! ### An uplink (fNS.c:1056-1222) -/

/-- `sql_motes_query_item(.., "fwdToNetID", ..)`: `NULL` is this network; `none` for any Result but
Success, also where no `WHERE` was written for a DevEUI that is `NONE_DEVEUI`. -/
def fwdto_netId (devEui : ℕ) (v : Visited) : Option UInt32 :=
  match getMotesWhere v.tables.scanOk v.tables.scan devEui NONE_DEVADDR with
  | .error _ => none
  | .ok cond =>
    if v.tables.fwdOk then
      (v.tables.motes.find? (cond.holds ·)).map fun r => (v.tables.fwdToNetID r.ID).getD own
    else none

/-- `activate`; whether the uplink goes no further. -/
def activate (env : AskEnv) (k rxDevEui rxJoinEui : ℕ) (v : Visited) : Visited × Bool :=
  let v := v.setDevice k fun d => { d with devEui := rxDevEui }
  match v.fwdto_netId own rxDevEui with
  | none => (v, true)
  | some fwdto_netId =>
    if fwdto_netId = NONE_NETID32 then (v.sendHomeNSReq env k rxDevEui rxJoinEui, true)
    else if fwdto_netId ≠ own then
      match v.startRoaming own env k fwdto_netId NONE_DEVADDR with
      | (v, true) => (v.clearLength k, true)
      | (v, false) => (v, true)
    else (v, false)

/-- A network that the frame names. -/
def foreign (env : AskEnv) (k : ℕ) (NetID : UInt32) (devAddr : ℕ) (v : Visited) :
    Visited × Finish :=
  match v.startRoaming own env k NetID devAddr with
  | (v, agreed) => (v.clearLength k, if agreed then .skip else .discard)

def finishActivate (r : Visited × Bool) : Visited × Finish :=
  (r.1, if r.2 then .skip else .goesOn)

/-- `fNS_uplink_finish`, up to the check of the MIC. -/
def fNS_uplink_finish (env : AskEnv) (k : ℕ) (roamState : RoamState) (v : Visited) :
    Visited × Finish :=
  let frame := (v.devices k).ULPayloadBin
  if roamState ≠ .NONE ∧ roamState ≠ .sHANDOVER ∧ roamState ≠ .fPASSIVE then (v, .goesOn)
  else
    match MType (frame.headD 0) with
    | MTYPE_REJOIN_REQ =>
      if frame.getD 1 0 = 1 then
        if roamState = .NONE ∨ roamState ≠ .sHANDOVER then
          finishActivate (v.activate own env k (eui_buf_to_uint64 (Octets.slice frame 10 8))
            (eui_buf_to_uint64 (Octets.slice frame 2 8)))
        else (v, .goesOn)
      else
        match frameNetID frame with
        | none => (v, .goesOn)
        | some netid =>
          if netid ≠ own then v.foreign own env k netid NONE_DEVADDR else (v, .goesOn)
    | MTYPE_JOIN_REQ =>
      finishActivate (v.activate own env k (eui_buf_to_uint64 (Octets.slice frame 9 8))
        (eui_buf_to_uint64 (Octets.slice frame 1 8)))
    | MTYPE_UNCONF_UP | MTYPE_CONF_UP =>
      if roamState = .NONE then
        match frameNetID frame with
        | none => (v, .skip)
        | some rxNetID =>
          if rxNetID ≠ own then v.foreign own env k rxNetID (v.devices k).devAddr else (v, .goesOn)
      else (v, .goesOn)
    | _ => (v, .goesOn)

/-! ### The answers (fNS.c:882-946, 988-1019) -/

end Visited

/-- The members of an answer that the two functions read. -/
structure DiscoveryAns where
  HNetID : Option (List Char)
  RoamingActivationType : Option (List Char)
  /-- `DeviceProfile` and `DeviceProfileTimestamp` are there. -/
  profile : Bool
deriving DecidableEq

namespace Visited

def HomeNSAnsCallback (env : AskEnv) (k : ℕ) (ans : DiscoveryAns) (rxResult : Result)
    (v : Visited) : Visited :=
  if rxResult = .Success then
    match ans.HNetID with
    | none => v
    | some str => (v.startRoaming own env k (readNetID env.junk str) NONE_DEVADDR).1
  else v

/-- `ProfileAnsCallback`; that it defers roaming after a failure is left to the roaming state. -/
def ProfileAnsCallback (env : AskEnv) (k : ℕ) (ans : DiscoveryAns) (rxResult : Result)
    (senderID : List Char) (v : Visited) : Visited :=
  let rxNetID := readNetID env.junk senderID
  if rxResult = .Success then
    match ans.RoamingActivationType with
    | none => v
    | some str =>
      if ans.profile && !env.saveOk then v
      else if str = "Passive".toList then v.sendPRStartReq env k rxNetID
      else if str = "Handover".toList then v.sNS_sendHRStartReq own env k rxNetID
      else v
  else v

/-- What waits under the registration. -/
def callback (env : AskEnv) (k cb : ℕ) (h : Header) (ans : DiscoveryAns) (v : Visited) : Visited :=
  match v.asked[cb]?, h.receivedResult, h.senderID with
  | some ⟨_, .HomeNSReq .., _⟩, some rxResult, _ => v.HomeNSAnsCallback own env k ans rxResult
  | some ⟨_, .ProfileReq .., _⟩, some rxResult, some senderID =>
    v.ProfileAnsCallback own env k ans rxResult senderID
  | _, _, _ => v

/-- `ParseJson` for an answer. -/
def answer (env : AskEnv) (h : Header) (ans : DiscoveryAns) (v : Visited) : Visited :=
  match findSlot h.tid v.tids.motes with
  | none => v
  | some (k, n, m) =>
    match (m.slot n).AnsCallback with
    | none => v
    | some cb => { v with tids := v.tids.dispatch h }.callback own env k cb h ans

end Visited

/-! ### What one call asks -/

/-- At most one request was made, with the property `P`, and devices changed. -/
inductive MayAsk (P : Asked → Prop) (v : Visited) : Visited → Prop
  | none (devices : ℕ → Roamer) : MayAsk P v { v with devices := devices }
  | one {k : ℕ} {req : Ask} {posted : Bool} (h : P ⟨k, req, posted⟩) (devices : ℕ → Roamer) :
      MayAsk P v { v.ask k req posted with devices := devices }

section

variable {P Q : Asked → Prop} {v v' : Visited} {env : AskEnv} {k : ℕ} {NetID : UInt32}

theorem asks_refl : MayAsk P v v := .none v.devices

theorem asks_ask {req : Ask} {posted : Bool} (h : P ⟨k, req, posted⟩) :
    MayAsk P v (v.ask k req posted) := by
  have hdev : (v.ask k req posted).devices = v.devices := by
    unfold Visited.ask
    split <;> rfl
  have hone := MayAsk.one (v := v) h v.devices
  rwa [← hdev] at hone

theorem MayAsk.setDevice (h : MayAsk P v v') (k : ℕ) (f : Roamer → Roamer) :
    MayAsk P v (v'.setDevice k f) := by
  cases h with
  | none devices => exact .none _
  | one h devices => exact .one h _

theorem MayAsk.clearLength (h : MayAsk P v v') (k : ℕ) : MayAsk P v (v'.clearLength k) :=
  h.setDevice k fun d => { d with ULPHYPayloadLen := 0 }

theorem MayAsk.imp (h : MayAsk P v v') (himp : ∀ a, P a → Q a) : MayAsk Q v v' := by
  cases h with
  | none devices => exact .none _
  | one h devices => exact .one (himp _ h) _

theorem MayAsk.after_setDevice {f : Roamer → Roamer} (h : MayAsk P (v.setDevice k f) v') :
    MayAsk P v v' := by
  have hask : ∀ k' req posted devices,
      { (v.setDevice k f).ask k' req posted with devices := devices } =
        { v.ask k' req posted with devices := devices } := by
    intro k' req posted devices
    unfold Visited.ask Visited.setDevice
    dsimp only
    split <;> rfl
  cases h with
  | none devices => exact .none devices
  | one h devices =>
    rw [hask]
    exact .one h devices

end

/-- The request that the agreements have for `NetID`: passive roaming where it is allowed, else
handover, before which the device's profile may be fetched. -/
def Agreed (v : Visited) (NetID : UInt32) : Ask → Prop
  | .PRStartReq N _ => N = NetID ∧ v.allows (·.PRAllowed) NetID = true
  | .HRStartReq N .. => N = NetID ∧ NetID ≠ own ∧ v.allows (·.PRAllowed) NetID = false ∧
      v.allows (·.HRAllowed) NetID = true
  | .ProfileReq _ N => N = NetID ∧ v.allows (·.PRAllowed) NetID = false ∧
      v.allows (·.HRAllowed) NetID = true
  | _ => False

/-- The DevEUI that a join request or a rejoin request of type 1 names. -/
def frameDevEUI (frame : Octets) : Option ℕ :=
  match MType (frame.headD 0) with
  | MTYPE_REJOIN_REQ =>
    if frame.getD 1 0 = 1 then some (eui_buf_to_uint64 (Octets.slice frame 10 8)) else none
  | MTYPE_JOIN_REQ => some (eui_buf_to_uint64 (Octets.slice frame 9 8))
  | _ => none

section

variable (v : Visited) (env : AskEnv) (k : ℕ)

theorem sendPRStartReq_asks {P : Asked → Prop} (NetID : UInt32)
    (h : ∀ phy posted, P ⟨k, .PRStartReq NetID phy, posted⟩) :
    MayAsk P v (v.sendPRStartReq env k NetID) := by
  unfold Visited.sendPRStartReq
  split
  · exact asks_refl
  · exact asks_ask (h _ _)

theorem sNS_sendHRStartReq_asks {P : Asked → Prop} (NetID : UInt32)
    (h : NetID ≠ own → ∀ phy timestamp devAddr posted,
      P ⟨k, .HRStartReq NetID phy timestamp devAddr, posted⟩) :
    MayAsk P v (v.sNS_sendHRStartReq own env k NetID) := by
  unfold Visited.sNS_sendHRStartReq
  split
  · exact asks_refl
  · rename_i hown
    exact asks_ask (h hown _ _ _ _)

theorem startRoaming_asks (NetID : UInt32) (devAddr : ℕ) :
    MayAsk (fun a => a.mote = k ∧ Agreed own v NetID a.req) v
      (v.startRoaming own env k NetID devAddr).1 := by
  unfold Visited.startRoaming
  cases hpr : v.allows (·.PRAllowed) NetID with
  | true =>
    rw [if_pos rfl]
    exact sendPRStartReq_asks v env k NetID fun _ _ => ⟨rfl, rfl, hpr⟩
  | false =>
    rw [if_neg Bool.false_ne_true]
    cases hhr : v.allows (·.HRAllowed) NetID with
    | false => exact asks_refl
    | true =>
      rw [if_pos rfl]
      split
      · exact sNS_sendHRStartReq_asks own v env k NetID
          fun hown _ _ _ _ => ⟨rfl, rfl, hown, hpr, hhr⟩
      · exact asks_ask ⟨rfl, rfl, hpr, hhr⟩

theorem activate_asks (rxDevEui rxJoinEui : ℕ) :
    MayAsk (fun a => a.mote = k ∧ (a.req = .HomeNSReq rxDevEui rxJoinEui ∨
        ∃ NetID, v.fwdto_netId own rxDevEui = some NetID ∧ NetID ≠ own ∧
          Agreed own v NetID a.req)) v
      (v.activate own env k rxDevEui rxJoinEui).1 := by
  unfold Visited.activate
  dsimp only
  -- neither the tables nor what they allow depend on the device
  have hfwd : (v.setDevice k fun d => { d with devEui := rxDevEui }).fwdto_netId own rxDevEui =
      v.fwdto_netId own rxDevEui := rfl
  rw [hfwd]
  refine MayAsk.after_setDevice (k := k) (f := fun d => { d with devEui := rxDevEui }) ?_
  cases hrow : v.fwdto_netId own rxDevEui with
  | none => exact asks_refl
  | some NetID =>
    dsimp only
    split
    · exact asks_ask ⟨rfl, Or.inl rfl⟩
    · split
      · rename_i hown
        have hstart := (startRoaming_asks own (v.setDevice k fun d => { d with devEui := rxDevEui })
          env k NetID NONE_DEVADDR).imp (Q := fun a => a.mote = k ∧
            (a.req = .HomeNSReq rxDevEui rxJoinEui ∨ ∃ N, some NetID = some N ∧ N ≠ own ∧
              Agreed own v N a.req)) fun a ha => ⟨ha.1, Or.inr ⟨NetID, rfl, hown, ha.2⟩⟩
        split
        · rename_i v' heq
          rw [heq] at hstart
          exact hstart.clearLength k
        · rename_i v' heq
          rw [heq] at hstart
          exact hstart
      · exact asks_refl

theorem foreign_asks (NetID : UInt32) (devAddr : ℕ) :
    MayAsk (fun a => a.mote = k ∧ Agreed own v NetID a.req) v
      (v.foreign own env k NetID devAddr).1 :=
  (startRoaming_asks own v env k NetID devAddr).clearLength k

/-- What an uplink makes the server ask. -/
def UplinkAsks (a : Asked) : Prop :=
  a.mote = k ∧ ((∃ DevEUI JoinEUI, a.req = .HomeNSReq DevEUI JoinEUI ∧ DevEUI < 2 ^ 64) ∨
    ∃ NetID, (frameNetID (v.devices k).ULPayloadBin = some NetID ∨
      ∃ devEui, frameDevEUI (v.devices k).ULPayloadBin = some devEui ∧
        v.fwdto_netId own devEui = some NetID) ∧ NetID ≠ own ∧ Agreed own v NetID a.req)

theorem eui_buf_lt (buf : Octets) : eui_buf_to_uint64 buf < 2 ^ 64 := by
  have hlt := Octets.toNat_lt (buf.take 8)
  have hle : (buf.take 8).length ≤ 8 := List.length_take_le 8 buf
  calc eui_buf_to_uint64 buf < 256 ^ (buf.take 8).length := hlt
    _ ≤ 256 ^ 8 := Nat.pow_le_pow_right (by omega) hle
    _ = 2 ^ 64 := by norm_num

theorem fNS_uplink_finish_asks (roamState : RoamState) :
    MayAsk (UplinkAsks own v k) v (v.fNS_uplink_finish own env k roamState).1 := by
  have hjoin : ∀ DevEUI JoinEUI : Octets,
      frameDevEUI (v.devices k).ULPayloadBin = some (eui_buf_to_uint64 DevEUI) →
      MayAsk (UplinkAsks own v k) v
        (v.activate own env k (eui_buf_to_uint64 DevEUI) (eui_buf_to_uint64 JoinEUI)).1 := by
    intro DevEUI JoinEUI hframe
    refine (activate_asks own v env k _ _).imp fun a ha => ⟨ha.1, ?_⟩
    rcases ha.2 with hreq | ⟨NetID, hrow, hown, hagreed⟩
    · exact Or.inl ⟨_, _, hreq, eui_buf_lt DevEUI⟩
    · exact Or.inr ⟨NetID, Or.inr ⟨_, hframe, hrow⟩, hown, hagreed⟩
  have hforeign : ∀ NetID devAddr, frameNetID (v.devices k).ULPayloadBin = some NetID →
      NetID ≠ own → MayAsk (UplinkAsks own v k) v (v.foreign own env k NetID devAddr).1 :=
    fun NetID devAddr hframe hown => (foreign_asks own v env k NetID devAddr).imp
      fun a ha => ⟨ha.1, Or.inr ⟨NetID, Or.inl hframe, hown, ha.2⟩⟩
  unfold Visited.fNS_uplink_finish
  dsimp only
  split
  · exact asks_refl
  · cases hmt : MType ((v.devices k).ULPayloadBin.headD 0) with
    | MTYPE_REJOIN_REQ =>
      dsimp only
      split
      · rename_i htype
        split
        · exact hjoin _ _ (by rw [frameDevEUI, hmt]; exact if_pos htype)
        · exact asks_refl
      · cases hnetid : frameNetID (v.devices k).ULPayloadBin with
        | none => exact asks_refl
        | some netid =>
          dsimp only
          split
          · rename_i hown
            exact hforeign netid _ hnetid hown
          · exact asks_refl
    | MTYPE_JOIN_REQ => exact hjoin _ _ (by rw [frameDevEUI, hmt])
    | MTYPE_UNCONF_UP | MTYPE_CONF_UP =>
      dsimp only
      split
      · cases hnetid : frameNetID (v.devices k).ULPayloadBin with
        | none => exact asks_refl
        | some rxNetID =>
          dsimp only
          split
          · rename_i hown
            exact hforeign rxNetID _ hnetid hown
          · exact asks_refl
      · exact asks_refl
    | _ => exact asks_refl

/-! ### What an answer makes the server ask -/

theorem HomeNSAnsCallback_asks (ans : DiscoveryAns) (rxResult : Result) :
    MayAsk (fun a => a.mote = k ∧ rxResult = .Success ∧ ∃ str, ans.HNetID = some str ∧
        Agreed own v (readNetID env.junk str) a.req) v
      (v.HomeNSAnsCallback own env k ans rxResult) := by
  unfold Visited.HomeNSAnsCallback
  split
  · rename_i hok
    cases hstr : ans.HNetID with
    | none => exact asks_refl
    | some str =>
      exact (startRoaming_asks own v env k _ _).imp fun a ha => ⟨ha.1, hok, str, rfl, ha.2⟩
  · exact asks_refl

/-- The request for the kind of roaming in the answer. -/
def OfType (NetID : UInt32) (type : List Char) : Ask → Prop
  | .PRStartReq N _ => N = NetID ∧ type = "Passive".toList
  | .HRStartReq N .. => N = NetID ∧ NetID ≠ own ∧ type = "Handover".toList
  | _ => False

theorem ProfileAnsCallback_asks (ans : DiscoveryAns) (rxResult : Result) (senderID : List Char) :
    MayAsk (fun a => a.mote = k ∧ rxResult = .Success ∧ ∃ str,
        ans.RoamingActivationType = some str ∧
        OfType own (readNetID env.junk senderID) str a.req) v
      (v.ProfileAnsCallback own env k ans rxResult senderID) := by
  unfold Visited.ProfileAnsCallback
  dsimp only
  split
  · rename_i hok
    cases hstr : ans.RoamingActivationType with
    | none => exact asks_refl
    | some str =>
      dsimp only
      split
      · exact asks_refl
      · split
        · rename_i htype
          exact sendPRStartReq_asks v env k _ fun _ _ => ⟨rfl, hok, str, rfl, rfl, htype⟩
        · split
          · rename_i htype
            exact sNS_sendHRStartReq_asks own v env k _
              fun hown _ _ _ _ => ⟨rfl, hok, str, rfl, rfl, hown, htype⟩
          · exact asks_refl
  · exact asks_refl

end

/-! ### Who waits for which answer -/

/-- The TransactionID of an answer, as it is read. -/
def echo (sentTID : UInt32) : UInt64 := sentTID.toInt32.toInt64.toUInt64

theorem sent_of_echo {sentTID tid : UInt32} (h : sentTID.toUInt64 = echo tid) : sentTID = tid := by
  have hback : (echo tid).toUInt32 = tid := by
    have h32 := congrArg Int32.toUInt32 (echoed_tid tid.toInt32)
    exact h32
  rw [← hback, ← h, UInt32.toUInt32_toUInt64]

theorem TidInv.tid_inj {start : UInt32} {s : TidState} (h : TidInv start s)
    (hlen : s.issued.length < 2 ^ 32) {n n' : ℕ} {r r' : IssuedReq} (hn : s.issued[n]? = some r)
    (hn' : s.issued[n']? = some r') (heq : r.tid = r'.tid) : n = n' := by
  obtain ⟨hlt, -⟩ := List.getElem?_eq_some_iff.mp hn
  obtain ⟨hlt', -⟩ := List.getElem?_eq_some_iff.mp hn'
  have hval := congrArg UInt32.toNat heq
  rw [h.tids n r hn, h.tids n' r' hn', tid_toNat, tid_toNat] at hval
  omega

/-- The registrations are numbered as the requests are, and who waits at a mote asked for it. -/
structure Visited.Sound (start : UInt32) (v : Visited) : Prop where
  tid : TidInv start v.tids
  length : v.asked.length = v.tids.issued.length
  held : ∀ (k : ℕ) (m : TidMote), v.tids.motes[k]? = some (some m) → ∀ cb ∈ m.live,
    ∃ a : Asked, v.asked[cb]? = some a ∧ a.mote = k

/-- The server went on, and made at most one request, with the property `P`. -/
structure Visited.Grows (start : UInt32) (P : Asked → Prop) (v v' : Visited) : Prop where
  sound : v'.Sound start
  asked : ∃ more : Option Asked, v'.asked = v.asked ++ more.toList ∧ ∀ a ∈ more, P a
  issued : ∃ more, v'.tids.issued = v.tids.issued ++ more

section

variable {start : UInt32} {v v' : Visited}

theorem grows_of_sound {P : Asked → Prop} (h : v'.Sound start) (hasked : v'.asked = v.asked)
    (hissued : v'.tids.issued = v.tids.issued) : v.Grows start P v' where
  sound := h
  asked := ⟨none, by rw [hasked, Option.toList_none, List.append_nil], fun a ha => by cases ha⟩
  issued := ⟨[], by rw [hissued, List.append_nil]⟩

theorem sound_devices (h : v.Sound start) (devices : ℕ → Roamer) :
    Visited.Sound start { v with devices := devices } := ⟨h.tid, h.length, h.held⟩

theorem sound_tables (h : v.Sound start) (tables : VisitedTables) :
    Visited.Sound start { v with tables := tables } := ⟨h.tid, h.length, h.held⟩

theorem sound_ask (h : v.Sound start) (k : ℕ) (req : Ask) (posted : Bool) :
    (v.ask k req posted).Sound start := by
  cases hk : v.tids.motes[k]? with
  | none => simpa only [Visited.ask, hk] using h
  | some node =>
    cases node with
    | none => simpa only [Visited.ask, hk] using h
    | some m =>
      have htid := tidInv_next_tid h.tid k req.MessageType req.destID
      simp only [TidState.next_tid, hk] at htid
      simp only [Visited.ask, TidState.next_tid, hk]
      refine ⟨htid, ?_, fun k' m' hm' cb hcb => ?_⟩
      · rw [List.length_append, List.length_append, h.length]
        rfl
      · by_cases hne : k = k'
        · subst hne
          rw [List.getElem?_set_self (List.getElem?_eq_some_iff.mp hk).1] at hm'
          obtain rfl := Option.some.inj (Option.some.inj hm')
          obtain ⟨kept, hkept, hperm⟩ :=
            register_live (v.tids._next_req_tid + 1) v.tids.issued.length m
          rcases List.mem_cons.mp (hperm.mem_iff.mp hcb) with rfl | hcb
          · refine ⟨⟨k, req, posted⟩, ?_, rfl⟩
            rw [← h.length, List.getElem?_concat_length]
          · obtain ⟨a, ha, hmote⟩ := h.held k m hk cb (hkept.subset hcb)
            exact ⟨a, getElem?_append_of_some ha, hmote⟩
        · rw [List.getElem?_set_ne hne] at hm'
          obtain ⟨a, ha, hmote⟩ := h.held k' m' hm' cb hcb
          exact ⟨a, getElem?_append_of_some ha, hmote⟩

theorem sound_motes (h : v.Sound start) {tids : TidState} (htid : TidInv start tids)
    (hissued : tids.issued = v.tids.issued)
    (hmotes : ∀ (k : ℕ) (m : TidMote), tids.motes[k]? = some (some m) → ∀ cb ∈ m.live,
      ∃ m' : TidMote, v.tids.motes[k]? = some (some m') ∧ cb ∈ m'.live) :
    Visited.Sound start { v with tids := tids } := by
  refine ⟨htid, by rw [hissued]; exact h.length, fun k m hm cb hcb => ?_⟩
  obtain ⟨m', hm', hcb'⟩ := hmotes k m hm cb hcb
  exact h.held k m' hm' cb hcb'

theorem sound_getMote (h : v.Sound start) :
    Visited.Sound start { v with tids := { v.tids with motes := addMote v.tids.motes } } := by
  refine sound_motes h (tidInv_getMote h.tid) rfl ?_
  intro k m hm cb hcb
  have hold : ∀ (ms : List (Option TidMote)) (k : ℕ), (addMote ms)[k]? = some (some m) →
      m = TidMote.new ∨ ms[k]? = some (some m) := by
    intro ms
    induction ms with
    | nil =>
      intro k hk
      cases k with
      | zero => exact Or.inl (Option.some.inj (Option.some.inj hk)).symm
      | succ k => simp [addMote] at hk
    | cons x ms ih =>
      intro k hk
      cases x with
      | none =>
        cases k with
        | zero => exact Or.inl (Option.some.inj (Option.some.inj hk)).symm
        | succ k => exact Or.inr hk
      | some x =>
        cases k with
        | zero => exact Or.inr hk
        | succ k => exact ih k hk
  rcases hold _ k hm with rfl | hm
  · cases hcb
  · exact ⟨m, hm, hcb⟩

theorem sound_free_mote (h : v.Sound start) (k : ℕ) :
    Visited.Sound start { v with tids := { v.tids with motes := v.tids.motes.set k none } } := by
  refine sound_motes h (tidInv_free_mote h.tid k) rfl ?_
  intro k' m hm cb hcb
  by_cases hne : k = k'
  · subst hne
    rw [List.getElem?_set_self'] at hm
    cases hk : v.tids.motes[k]? <;> simp [hk] at hm
  · rw [List.getElem?_set_ne hne] at hm
    exact ⟨m, hm, hcb⟩

theorem sound_dispatch (h : v.Sound start) (hd : Header) :
    Visited.Sound start { v with tids := v.tids.dispatch hd } := by
  have htid := tidInv_dispatch h.tid hd
  cases hfind : findSlot hd.tid v.tids.motes with
  | none =>
    simp only [TidState.dispatch, hfind]
    exact h
  | some found =>
    obtain ⟨k, n, m⟩ := found
    cases hcb : (m.slot n).AnsCallback with
    | none =>
      simp only [TidState.dispatch, hfind, hcb]
      exact h
    | some cb =>
      obtain ⟨hm, -⟩ := findSlot_some hfind
      simp only [TidState.dispatch, hfind, hcb] at htid ⊢
      refine sound_motes h htid rfl ?_
      intro k' m' hm' cb' hcb'
      by_cases hne : k = k'
      · subst hne
        rw [List.getElem?_set_self (List.getElem?_eq_some_iff.mp hm).1] at hm'
        obtain rfl := Option.some.inj (Option.some.inj hm')
        exact ⟨m, hm, (clear_live hcb).mem_iff.mpr (List.mem_cons_of_mem cb hcb')⟩
      · rw [List.getElem?_set_ne hne] at hm'
        exact ⟨m', hm', hcb'⟩

theorem MayAsk.grows {P : Asked → Prop} (h : MayAsk P v v') (hsound : v.Sound start) :
    v.Grows start P v' := by
  cases h with
  | none devices => exact grows_of_sound (sound_devices hsound devices) rfl rfl
  | @one k req posted hP devices =>
    have hsound' := sound_devices (sound_ask hsound k req posted) devices
    cases hk : v.tids.motes[k]? with
    | none =>
      exact grows_of_sound hsound' (by simp only [Visited.ask, hk])
        (by simp only [Visited.ask, hk])
    | some node =>
      cases node with
      | none =>
        exact grows_of_sound hsound' (by simp only [Visited.ask, hk])
          (by simp only [Visited.ask, hk])
      | some m =>
        refine ⟨hsound',
          ⟨some ⟨k, req, posted⟩, by simp only [Visited.ask, hk, Option.toList_some], ?_⟩,
          ⟨[⟨v.tids._next_req_tid + 1, req.MessageType, req.destID⟩], ?_⟩⟩
        · rintro a ha
          obtain rfl := Option.some.inj ha
          exact hP
        · simp only [Visited.ask, hk, TidState.next_tid]

theorem dispatch_issued (s : TidState) (hd : Header) : (s.dispatch hd).issued = s.issued := by
  unfold TidState.dispatch
  split
  · rfl
  · split <;> rfl

/-- An answer is handed to the one that waits for its number, if any. -/
theorem answer_cases (own : UInt32) (h : v.Sound start) (env : AskEnv) (hd : Header)
    (ans : DiscoveryAns) :
    v.answer own env hd ans = v ∨ ∃ k cb a r, v.asked[cb]? = some a ∧ a.mote = k ∧
      v.tids.issued[cb]? = some r ∧ r.tid.toUInt64 = hd.tid ∧
      v.answer own env hd ans =
        ({ v with tids := v.tids.dispatch hd }).callback own env k cb hd ans := by
  cases hfind : findSlot hd.tid v.tids.motes with
  | none => exact Or.inl (by simp only [Visited.answer, hfind])
  | some found =>
    obtain ⟨k, n, m⟩ := found
    cases hcb : (m.slot n).AnsCallback with
    | none => exact Or.inl (by simp only [Visited.answer, hfind, hcb])
    | some cb =>
      obtain ⟨hm, htid⟩ := findSlot_some hfind
      have hlive : cb ∈ m.live := (clear_live hcb).mem_iff.mpr List.mem_cons_self
      obtain ⟨a, ha, hmote⟩ := h.held k m hm cb hlive
      have hmHolds := h.tid.holds m (List.mem_of_getElem? hm)
      obtain ⟨r, hr, hsent⟩ := slot_holds hmHolds n cb hcb
      refine Or.inr ⟨k, cb, a, r, ha, hmote, hr, by rw [hsent, htid], ?_⟩
      simp only [Visited.answer, hfind, hcb]

/-- What an answer makes the server ask: it was waited for under its number, and reports Success. -/
def AnswerAsks (own : UInt32) (v : Visited) (env : AskEnv) (hd : Header) (ans : DiscoveryAns)
    (a : Asked) : Prop :=
  hd.receivedResult = some .Success ∧ ∃ (n : ℕ) (req : Ask) (posted : Bool) (r : IssuedReq),
    v.asked[n]? = some ⟨a.mote, req, posted⟩ ∧ v.tids.issued[n]? = some r ∧
    r.tid.toUInt64 = hd.tid ∧
    match req with
    | .HomeNSReq .. => ∃ str, ans.HNetID = some str ∧ Agreed own v (readNetID env.junk str) a.req
    | .ProfileReq .. => ∃ senderID str, hd.senderID = some senderID ∧
        ans.RoamingActivationType = some str ∧ OfType own (readNetID env.junk senderID) str a.req
    | _ => False

theorem answer_grows (own : UInt32) (h : v.Sound start) (env : AskEnv) (hd : Header)
    (ans : DiscoveryAns) :
    v.Grows start (AnswerAsks own v env hd ans) (v.answer own env hd ans) := by
  rcases answer_cases own h env hd ans with heq | ⟨k, cb, a, r, ha, hmote, hr, htid, heq⟩
  · rw [heq]
    exact grows_of_sound h rfl rfl
  · rw [heq]
    obtain ⟨mote, req, posted⟩ := a
    obtain rfl : mote = k := hmote
    have hasks : MayAsk (AnswerAsks own v env hd ans) { v with tids := v.tids.dispatch hd }
        (({ v with tids := v.tids.dispatch hd } : Visited).callback own env mote cb hd ans) := by
      unfold Visited.callback
      rw [ha]
      cases req with
      | HomeNSReq DevEUI JoinEUI =>
        cases hres : hd.receivedResult with
        | none => exact asks_refl
        | some rxResult =>
          refine (HomeNSAnsCallback_asks own _ env mote ans rxResult).imp fun b hb => ?_
          obtain ⟨rfl, rfl, str, hstr, hagreed⟩ := hb
          exact ⟨hres, cb, _, posted, r, ha, hr, htid, str, hstr, hagreed⟩
      | ProfileReq DevEUI NetID =>
        cases hres : hd.receivedResult with
        | none => exact asks_refl
        | some rxResult =>
          cases hsender : hd.senderID with
          | none => exact asks_refl
          | some senderID =>
            refine (ProfileAnsCallback_asks own _ env mote ans rxResult senderID).imp fun b hb => ?_
            obtain ⟨rfl, rfl, str, hstr, htype⟩ := hb
            exact ⟨hres, cb, _, posted, r, ha, hr, htid, senderID, str, hsender, hstr, htype⟩
      | _ => exact asks_refl
    have hgrows := hasks.grows (sound_dispatch h hd)
    obtain ⟨more, hissued⟩ := hgrows.issued
    exact ⟨hgrows.sound, hgrows.asked, more, by rw [hissued, dispatch_issued]⟩

end

end Lorawan.NetworkServer

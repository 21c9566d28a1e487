import Lorawan.AppServer.Tables
import Lorawan.Backend.Crypto

/-!
# Downlinks of the application server (app_server/main.c:393-598, web.c:301-559)

`send_downlink` encrypts a payload under the AppSKey and the AFCntDown that the
table holds when it is called; the answer of the network server, which arrives
later, advances the counter. Beside the server's own state the model keeps the
history of encryptions and which of them were answered; nothing reads it.
-/

namespace Lorawan.AppServer
open Lorawan Lorawan.Backend

variable (A : BlockCipher) (W : KeyWrap)

/-- `msg_t` (as.h:15-24). -/
structure Msg where
  devEui : ℕ
  devAddr : ℕ
  fport : ℕ
  conf : Bool
  payload : Octets
deriving DecidableEq

/-- One call of `LoRa_Encrypt` by `send_downlink`, in the order of `serial`. -/
structure Encryption where
  serial : ℕ
  devEui : ℕ
  AppSKey : Octets
  DevAddr : ℕ
  AFCntDown : ℕ
  payload : Octets
deriving DecidableEq

/-- An entry of `tlist`. History: the serial of the encryption whose answer it waits for. -/
structure Transaction where
  msg : Msg
  tid : ℕ
  serial : Option ℕ
deriving DecidableEq

/-- A free entry is one that names no device. -/
def Transaction.isFree (e : Transaction) : Bool :=
  decide (e.msg.devEui = NONE_DEVEUI) && decide (e.msg.devAddr = NONE_DEVADDR)

def Transaction.clear (e : Transaction) : Transaction :=
  { e with msg := { e.msg with devEui := NONE_DEVEUI, devAddr := NONE_DEVADDR } }

structure Server where
  activemotes : List ActiveMote
  mq : List SKeyUpdate
  tlist : List Transaction
  next_req_tid : ℕ
  /-- History: every encryption, oldest first. -/
  log : List Encryption
  /-- History: serials of the encryptions that were answered with success, or with the
  counter under which the payload was then encrypted again. -/
  answered : List ℕ
deriving DecidableEq

def Server.init (activemotes : List ActiveMote) (next_req_tid : ℕ) : Server :=
  ⟨activemotes, [], [], next_req_tid, [], []⟩

/-- `tlistAdd` (main.c:393-431): the first free entry, else a new one at the end. -/
def tlistAdd (e : Transaction) : List Transaction → List Transaction
  | [] => [e]
  | t :: ts => if t.isFree then e :: ts else t :: tlistAdd e ts

/-! ### send_downlink (main.c:458-598) -/

/-- The row that the queries read, and the message with the DevAddr found there. -/
def selectMote (rows : List ActiveMote) (msg : Msg) : Option (Msg × ActiveMote) :=
  if msg.devEui ≠ NONE_DEVEUI then
    match rows.find? (·.selected msg.devEui msg.devAddr) with
    | none => none
    | some row => row.DevAddr.map fun devAddr => ({ msg with devAddr := devAddr }, row)
  else if msg.devAddr = NONE_DEVADDR then none
  else (rows.find? (·.selected msg.devEui msg.devAddr)).map fun row => (msg, row)

/-- What `send_downlink` encrypts for a message, when it gets that far. -/
def encryption (s : Server) (msg : Msg) : Option Encryption :=
  match selectMote s.activemotes msg with
  | none => none
  | some (msg, row) => row.AppSKey.map fun AppSKey =>
    { serial := s.log.length
      devEui := msg.devEui
      AppSKey := AppSKey
      DevAddr := msg.devAddr
      AFCntDown := row.counter
      payload := msg.payload }

/-- The JSON members of the request to the network server. -/
structure XmitDataReq where
  ReceiverID : List Char
  TransactionID : ℕ
  FRMPayload : List Char
  DevEUI : Option (List Char)
  DevAddr : Option (List Char)
  FPort : ℕ
  FCntDown : ℕ
  Confirmed : Bool
deriving DecidableEq

/-- The request that carries an encryption; `none` when the DevAddr has no NetID. -/
def xmitDataReq (tid : ℕ) (msg : Msg) (e : Encryption) : Option XmitDataReq :=
  (parseDevAddr e.DevAddr).map fun (NetID24, _, _) =>
    { ReceiverID := Text.printPad 6 16 NetID24
      TransactionID := tid
      FRMPayload := Text.printOctets
        (LoRa_Encrypt A 1 e.AppSKey e.payload e.payload.length e.DevAddr false e.AFCntDown)
      DevEUI := if e.devEui ≠ NONE_DEVEUI then some (Text.print 16 e.devEui) else none
      DevAddr := if e.devEui ≠ NONE_DEVEUI then none else some (Text.print 16 e.DevAddr)
      FPort := msg.fport
      FCntDown := e.AFCntDown
      Confirmed := msg.conf }

/-- `send_downlink`: the server after it, and the request it made. `sqlOk`: the queries were
answered. `posted`: the request was handed to the network server. -/
def send_downlink (sqlOk posted : Bool) (msg : Msg) (s : Server) : Server × Option XmitDataReq :=
  if sqlOk = false then (s, none)
  else
    match encryption s msg with
    | none => (s, none)
    | some e =>
      let s := { s with log := s.log ++ [e] }
      match xmitDataReq A s.next_req_tid msg e with
      | none => (s, none)
      | some req =>
        let entry : Transaction := ⟨{ msg with devAddr := e.DevAddr }, s.next_req_tid, some e.serial⟩
        ({ s with
            next_req_tid := (s.next_req_tid + 1) % 2 ^ 32
            tlist := if posted then tlistAdd entry s.tlist else s.tlist },
          some req)

/-! ### XmitDataAns (web.c:485-530) -/

/-- What surrounds the handling of an answer. -/
structure Surroundings where
  /-- The `UPDATE` of the counter is executed. -/
  updateOk : Bool
  /-- The `SELECT`s are answered. -/
  sqlOk : Bool
  /-- A request is handed to the network server. -/
  posted : Bool
  /-- `writeDownlinkStatus` succeeds. -/
  statusOk : Bool
  /-- `mq_send` succeeds. -/
  mqOk : Bool
deriving DecidableEq

/-- Replace the entry at `i` of the list. -/
def setEntry (i : ℕ) (e : Transaction) (s : Server) : Server :=
  { s with tlist := s.tlist.set i e }

/-- A successful answer to the entry `e`: the counter goes on. -/
def countDownlink (env : Surroundings) (e : Transaction) (s : Server) : Server :=
  match if env.updateOk then incr_sql_AFCntDown s.activemotes e.msg.devEui e.msg.devAddr
    else none with
  | none => s
  | some rows =>
    { s with
      activemotes := rows
      answered := if e.isFree then s.answered else e.serial.toList ++ s.answered }

/-- A failure that names the counter the network server expects: set it and try again.
The entry counts as answered when its payload was encrypted again. -/
def retryDownlink (env : Surroundings) (e : Transaction) (fcnt : ℕ) (s : Server) : Server :=
  if env.updateOk = false then s
  else
    let s := { s with
      activemotes := set_sql_AFCntDown s.activemotes e.msg.devEui e.msg.devAddr fcnt }
    let s' := (send_downlink A env.sqlOk env.posted e.msg s).1
    { s' with answered := if s'.log = s.log then s.answered else e.serial.toList ++ s.answered }

def xmitDataAns (env : Surroundings) (trans_id : ℕ) (rxResult : Result) (FCntDown : Option ℕ)
    (s : Server) : Server :=
  match s.tlist.findIdx? (·.tid = trans_id) with
  | none => s
  | some i =>
    match s.tlist[i]? with
    | none => s
    | some e =>
      if rxResult = .Success then
        let s := countDownlink env e s
        if env.statusOk then setEntry i e.clear s else s
      else
        match FCntDown with
        | some fcnt => setEntry i e.clear (retryDownlink A env e (fcnt % 2 ^ 32) s)
        | none => if env.statusOk then setEntry i e.clear s else s

/-! ### AppSKeys (web.c:301-346) -/

/-- `updateSKey`: the `UPDATE` goes into the queue. -/
def updateSKey (env : Surroundings) (u : SKeyUpdate) (s : Server) : Server :=
  if env.mqOk then { s with mq := s.mq ++ [u] } else s

/-- Whether the key is the one the device's row holds, as far as the `SELECT` tells. -/
def keepsAppSKey (sqlOk : Bool) (rows : List ActiveMote) (DevEui64 : ℕ) (key : Octets) : Bool :=
  sqlOk && ((rows.find? fun r => r.eui = some DevEui64).bind (·.AppSKey)) = some key

/-- `saveAppSKey` once the envelope was opened. -/
def saveAppSKey (env : Surroundings) (clrAFCntDown : Bool) (key : Octets) (DevAddr : Option ℕ)
    (DevEui64 : ℕ) (s : Server) : Server :=
  if keepsAppSKey env.sqlOk s.activemotes DevEui64 key then
    if clrAFCntDown ∧ env.updateOk then
      { s with activemotes := set_sql_AFCntDown s.activemotes DevEui64 NONE_DEVADDR 0 }
    else s
  else updateSKey env ⟨clrAFCntDown, key, DevEui64, DevAddr⟩ s

/-- An uplink's `XmitDataReq` (web.c:421-483): the DevAddr and the AppSKey it brings. `DevEUI`
absent, the variable `DevEui64` holds `junkEui`. -/
structure UplinkReq where
  DevEUI : Option ℕ
  DevAddr : Option ℕ
  junkEui : ℕ
  /-- `DevAddr` beside the ULMetaData, which `saveAppSKey` reads. -/
  topDevAddr : Option ℕ
  AppSKey : Option KeyEnvelopeJson
deriving DecidableEq

/-- The server's configuration: its end of the key envelope. -/
structure Config where
  key_envelope_app : key_envelope_t
  junkByte : UInt8
deriving DecidableEq

/-- `getKey`: the key of an envelope that is there and can be opened. -/
def openAppSKey (cfg : Config) (obj : Option KeyEnvelopeJson) : Option Octets :=
  obj.bind fun o => parse_key_envelope W cfg.junkByte o cfg.key_envelope_app

/-- The table after `updateDevAddr`; `none` when the uplink is answered UnknownDevEUI. -/
def uplinkDevAddr (env : Surroundings) (req : UplinkReq) (rows : List ActiveMote) :
    Option (List ActiveMote) :=
  match req.DevEUI, req.DevAddr with
  | some DevEui64, some DevAddr32 =>
    if DevAddr32 = NONE_DEVADDR then some rows
    else updateDevAddr env.sqlOk env.updateOk rows DevEui64 DevAddr32
  | _, _ => some rows

def xmitDataReqUplink (cfg : Config) (env : Surroundings) (req : UplinkReq) (s : Server) :
    Server :=
  match uplinkDevAddr env req s.activemotes with
  | none => s
  | some rows =>
    let s := { s with activemotes := rows }
    match openAppSKey W cfg req.AppSKey with
    | none => s
    | some key => saveAppSKey env true key req.topDevAddr (req.DevEUI.getD req.junkEui) s

/-- `requestAppSKey` (web.c:603-666): an entry without a payload. -/
def requestAppSKey (env : Surroundings) (devEui devAddr : ℕ) (s : Server) : Server :=
  match parseDevAddr devAddr with
  | none => s
  | some _ =>
    let entry : Transaction := ⟨⟨devEui, devAddr, 0, false, []⟩, s.next_req_tid, none⟩
    { s with
      next_req_tid := (s.next_req_tid + 1) % 2 ^ 32
      tlist := if env.posted then tlistAdd entry s.tlist else s.tlist }

/-- `AppSKeyAns` (web.c:531-557): every entry of the transaction saves the key, without
clearing the counter, and is cleared. -/
def appSKeyAns (cfg : Config) (env : Surroundings) (trans_id : ℕ) (rxResult : Result)
    (AppSKey : Option KeyEnvelopeJson) (DevAddr : Option ℕ) (s : Server) : Server :=
  let key := if rxResult = .Success then openAppSKey W cfg AppSKey else none
  let hit := s.tlist.filter (·.tid = trans_id)
  let s := match key with
    | none => s
    | some key =>
      hit.foldl (fun s (e : Transaction) => saveAppSKey env false key DevAddr e.msg.devEui s) s
  { s with tlist := s.tlist.map fun (e : Transaction) => if e.tid = trans_id then e.clear else e }

/-- The second process takes the first `UPDATE` out of the queue and executes it. -/
def applyUpdate (s : Server) : Server :=
  match s.mq with
  | [] => s
  | u :: mq => { s with activemotes := s.activemotes.map u.apply, mq := mq }

end Lorawan.AppServer

import Lorawan.NetworkServer.Schedule

/-!
# Serving a device (network_server/sNS.c:107-208, 800-980, 1800-2071, 2365-2537)

The network server's handling of one device: uplinks, MAC commands, downlinks of
the application, join accepts and what is sent over the air. The functions below
change the state as their namesakes do; `step` is the handling of one event. A
write outside an array ends the run. Beside the server's own state the model
keeps the history of what was accepted, built and sent.
-/

namespace Lorawan.NetworkServer
open Lorawan Lorawan.Backend Backend.mtype_e

variable (A : BlockCipher)

/-- History: a call of `sNS_schedule_downlink` that went on to build a frame. -/
structure Call where
  before : Mote
  after : Option Mote
deriving DecidableEq

/-- History: octets handed to a gateway or another network server. -/
structure Sent where
  origin : Option Origin
  octets : Octets
deriving DecidableEq

/-- History: an uplink that `sNS_uplink` answered with Success. -/
structure Accepted where
  session : ℕ
  FCntUp : ℕ
  counter : ℕ
deriving DecidableEq

structure NS where
  store : WriteBehind.Store (List SessionRow) Statement
  mote : Mote
  nextSerial : ℕ
  overrun : Bool
  calls : List Call
  sent : List Sent
  accepted : List Accepted
deriving DecidableEq

/-- A server that has not received anything from the device yet. -/
def NS.init (rows : List SessionRow) (nextSerial : ℕ) (m : Mote) : NS :=
  ⟨⟨rows, []⟩, m, nextSerial, false, [], [], []⟩

/-! ### Steps that several functions share -/

/-- `mq_send`: on failure the statement is lost. -/
def enqueue (mqOk : Bool) (u : Statement) (ns : NS) : NS :=
  if mqOk then { ns with store := ns.store.enqueue u } else ns

def mapS (f : S → S) (ns : NS) : NS := { ns with mote := { ns.mote with s := f ns.mote.s } }

def mapSession (f : Session → Session) (ns : NS) : NS :=
  { ns with mote := { ns.mote with session := f ns.mote.session } }

def queueMacCmds (ops : List MacOp) (ns : NS) : NS :=
  mapS (fun s => { s with mac_cmd_queue := ops.foldl MacOp.apply s.mac_cmd_queue }) ns

/-- `answer_app_downlink`: an answer that was sent clears the payload. -/
def answer_app_downlink (answerOk : Bool) (ns : NS) : NS :=
  if answerOk then mapS (fun s => { s with FRMPayloadLen := 0 }) ns else ns

/-- `incr_sql_NFCntDown` and the copy in memory; the flag is cleared. -/
def countNFCntDown (mqOk : Bool) (ns : NS) : NS :=
  mapS (fun s => { s with incrNFCntDown := false })
    (mapSession (fun n => { n with NFCntDown := (n.NFCntDown + 1) % 2 ^ 32 })
      (enqueue mqOk (.incrNFCntDown ns.mote.devAddr) ns))

def schedule (junk : Octets) (ns : NS) : NS :=
  let after := sNS_schedule_downlink A junk ns.mote
  { ns with
    mote := after.getD ns.mote
    overrun := after.isNone
    calls := if needsDownlink ns.mote then ns.calls ++ [⟨ns.mote, after⟩] else ns.calls }

/-! ### sNS_uplink (sNS.c:1800-2071) -/

/-- The statements of an uplink that `mq_send` takes. -/
structure UplinkQueued where
  /-- The sessions of a device whose session has expired. -/
  expired : Bool
  zeroNFCntDown : Bool
  deleteOld : Bool
  incrNFCntDown : Bool
  setFCntUp : Bool
deriving DecidableEq

def UplinkQueued.all (ok : Bool) : UplinkQueued := ⟨ok, ok, ok, ok, ok⟩

/-- What surrounds an uplink. -/
structure UplinkEnv where
  /-- `sql->OptNeg` -/
  OptNeg : Bool
  /-- `get_ch` -/
  ch : Option UInt8
  DataRate : UInt8
  mqOk : UplinkQueued
  answerOk : Bool
  /-- `sNS_force_rejoin`, when the session has expired. -/
  rejoinOps : List MacOp
  /-- `init_session` -/
  sessionOps : List MacOp
  /-- `parse_mac_command` and `network_controller_adr` -/
  cmdOps : List MacOp
  /-- RekeyInd of minor version 1 is among the commands. -/
  RekeyInd : Bool
  /-- ResetInd is among the commands. -/
  ResetInd : Bool
  /-- The `createdAt` that `deleteOldSessions` reads. -/
  newest : Option ℕ
  junk : Octets
deriving DecidableEq

def MAX_FCNT_GAP : ℤ := 0x4000

/-- `(mote->session.FCntUp & 0xffff0000) | rx_fhdr->FCnt`. -/
def FCntUp32 (stored rx : ℕ) : ℕ := stored / 0x10000 * 0x10000 + rx

/-- The two tests of the gap (sNS.c:1866-1878). -/
def isReplay (stored rx : ℕ) : Bool :=
  let a : ℤ := (FCntUp32 stored rx : ℤ) - stored
  let b : ℤ := a + 0x10000
  (decide (a < 0) && decide (MAX_FCNT_GAP < b)) ||
    (decide (MAX_FCNT_GAP < a) && decide (MAX_FCNT_GAP < b))

/-- `lenMsg` of a received frame. -/
def rxLenMsg (m : Mote) : ℕ := (m.ULPHYPayloadLen + 252) % 256

/-- The block of an uplink's MIC; `confFCnt`, data rate and channel are zero in LoRaWAN 1.0. -/
def uplinkBlock (m : Mote) (confFCnt : ℕ) (dr ch : UInt8) (FCntUp : ℕ) : block_t :=
  { header := 0x49, confFCnt := confFCnt, dr := dr, ch := ch, dir := 0, DevAddr := rxDevAddr m,
    FCnt := FCntUp, zero8 := 0, lenMsg := rxLenMsg m }

/-- `check_cmacS`: two octets of the MIC. -/
def check_cmacS (m : Mote) (block : block_t) : Bool :=
  decide ((LoRa_GenerateDataFrameIntegrityCode A block m.session.SNwkSIntKeyBin
    m.ULPayloadBin).take 2 = Octets.slice m.ULPayloadBin block.lenMsg 2)

/-- The MIC of LoRaWAN 1.0. -/
def checkMic1v0 (m : Mote) (FCntUp : ℕ) : Bool :=
  decide (LoRa_GenerateDataFrameIntegrityCode A (uplinkBlock m 0 0 0 FCntUp)
    m.session.SNwkSIntKeyBin m.ULPayloadBin =
      Octets.slice m.ULPayloadBin (m.ULPHYPayloadLen - 4) 4)

/-- The saved confirmed frame is put back. -/
def restoreConfirmed (s : S) : S :=
  { s with
    PHYPayloadBin := s.confDLPHYPayloadBin.take s.confDLPHYPayloadLen ++
      s.PHYPayloadBin.drop s.confDLPHYPayloadLen
    PHYPayloadLen := s.confDLPHYPayloadLen
    frame := s.confFrame }

/-- The MIC of LoRaWAN 1.1: with the counter of the confirmed downlink, and when that fails with
the one before it, and with none. -/
def checkMic1v1 (env : UplinkEnv) (ch : UInt8) (m : Mote) (FCntUp : ℕ) : Bool × S :=
  let check := fun confFCnt => check_cmacS A m (uplinkBlock m confFCnt env.DataRate ch FCntUp)
  if check m.s.ConfFCntDown then (true, { m.s with ConfFCntDown := 0 })
  else if 0 < m.s.confDLPHYPayloadLen then
    (check ((m.s.ConfFCntDown + 65535) % 65536) || check 0, restoreConfirmed m.s)
  else (false, m.s)

/-- Whether the MIC verifies, and the state after the check. -/
def checkMic (env : UplinkEnv) (m : Mote) (FCntUp : ℕ) : Bool × S :=
  if env.OptNeg then
    match env.ch with
    | none => (false, m.s)
    | some ch => checkMic1v1 A env ch m FCntUp
  else (checkMic1v0 A m FCntUp, m.s)

/-- An expired session: LoRaWAN 1.1 asks for a rejoin, 1.0 deletes the sessions. -/
def expire (env : UplinkEnv) (ns : NS) : NS :=
  if ns.mote.session.until_ ≠ .never ∧ ns.mote.session.expired then
    if env.OptNeg then queueMacCmds env.rejoinOps ns
    else
      let ns := enqueue env.mqOk.expired (.deleteOld ns.mote.ID none) ns
      if 0 < ns.mote.s.FRMPayloadLen then answer_app_downlink env.answerOk ns else ns
  else ns

/-- `deleteOldSessions(.., false)`; `newest` is the `createdAt` that it reads. -/
def deleteOldSessions (mqOk : Bool) (newest : Option ℕ) (ns : NS) : NS :=
  match newest with
  | none => ns
  | some t => enqueue mqOk (.deleteOld ns.mote.ID (some t)) ns

/-- The first counter of a session, which the table holds as `NULL`. -/
def initNFCntDown (env : UplinkEnv) (ns : NS) : NS :=
  if ns.mote.session.nullNFCntDown then
    mapSession (fun n => { n with nullNFCntDown := false })
      (enqueue env.mqOk.zeroNFCntDown (.zeroNFCntDown ns.mote.devAddr) ns)
  else ns

def checkOldSessions (env : UplinkEnv) (wanted : Bool) (ns : NS) : NS :=
  if wanted && ns.mote.s.checkOldSessions then
    mapS (fun s => { s with checkOldSessions := false })
      (deleteOldSessions env.mqOk.deleteOld env.newest ns)
  else ns

/-- The ACK bit (sNS.c:1974-1998). -/
def handleACK (env : UplinkEnv) (ns : NS) : NS :=
  if rxACK ns.mote then
    let ns :=
      if ns.mote.s.incrNFCntDown then countNFCntDown env.mqOk.incrNFCntDown ns else ns
    mapS (fun s =>
      if s.md.Confirmed ∧ 0 < s.FRMPayloadLen then
        { s with
          answer_app_downlink := true
          FRMPayloadLen := if s.resend then 0 else s.FRMPayloadLen
          resend := false }
      else s) ns
  else ns

/-- The start of a session, and the commands of the uplink. -/
def handleCommands (env : UplinkEnv) (ns : NS) : NS :=
  let ns := if ns.mote.s.session_start_at_uplink then
      queueMacCmds env.sessionOps (mapS (fun s => { s with session_start_at_uplink := false }) ns)
    else ns
  let ns := checkOldSessions env env.RekeyInd (queueMacCmds env.cmdOps ns)
  mapS (fun s => { s with session_start_at_uplink := s.session_start_at_uplink || env.ResetInd }) ns

/-- The counter is stored (sNS.c:2053-2064). History: the uplink was accepted. -/
def storeFCntUp (env : UplinkEnv) (FCntUp : ℕ) (ns : NS) : NS :=
  let ns := { ns with
    accepted := ns.accepted ++ [⟨ns.mote.session.row, FCntUp, ns.mote.counter⟩] }
  if FCntUp = ns.mote.session.FCntUp then
    mapS (fun s => { s with upConfreSent := decide (rxMType ns.mote = MTYPE_CONF_UP) }) ns
  else
    mapS (fun s => { s with upConfreSent := false })
      (enqueue env.mqOk.setFCntUp (.setFCntUp FCntUp ns.mote.devAddr) ns)

/-- What `sNS_uplink` does between the MIC and the scheduling of a downlink. -/
def takeUplink (env : UplinkEnv) (FCntUp : ℕ) (ns : NS) : NS :=
  storeFCntUp env FCntUp
    (handleCommands env
      (handleACK env (checkOldSessions env (!env.OptNeg) (initNFCntDown env ns))))

/-- An uplink whose MIC failed is not handled further; one without a channel is left as it is. -/
def refuseUplink (env : UplinkEnv) (ns : NS) : NS :=
  { ns with mote := { ns.mote with
      ULPHYPayloadLen := if env.OptNeg ∧ env.ch = none then ns.mote.ULPHYPayloadLen else 0 } }

/-- `sNS_uplink` up to the scheduling of a downlink. -/
def receiveUplink (env : UplinkEnv) (ns : NS) : Result × NS :=
  if ns.mote.session.until_ = .none then (.Other, ns)
  else
    let ns := expire env ns
    if isReplay ns.mote.session.FCntUp (rxFCnt ns.mote) then (.Other, ns)
    else
      let FCntUp := FCntUp32 ns.mote.session.FCntUp (rxFCnt ns.mote)
      let ns := mapS (fun s => { s with newFCntUp := true }) ns
      let (ok, s) := checkMic A env ns.mote FCntUp
      let ns := mapS (fun _ => s) ns
      if ok then (.Success, takeUplink env FCntUp ns)
      else (.MICFailed, refuseUplink env ns)

def sNS_uplink (env : UplinkEnv) (ns : NS) : Result × NS :=
  match receiveUplink A env ns with
  | (.Success, ns) => (.Success, schedule A env.junk ns)
  | (result, ns) => (result, ns)

/-! ### Sending (sNS.c:800-864, 2506-2633) -/

structure SendEnv where
  /-- `mote->bestR == NULL` -/
  isLocal : Bool
  /-- The frame cannot be sent the way it should; nothing was done. -/
  aborted : Bool
  /-- The result of sending: `none` when it comes later. -/
  result : Option Bool
  /-- A gateway, or the other network server, took the frame. -/
  air : Bool
  mqOk : Bool
  answerOk : Bool
deriving DecidableEq

/-- A frame that was sent: an unconfirmed one is counted at once. -/
def frameSent (env : SendEnv) (ns : NS) : NS :=
  mapS (fun s => { s with PHYPayloadLen := 0 })
    (if MType (ns.mote.s.PHYPayloadBin.headD 0) = MTYPE_UNCONF_DN ∧ ns.mote.s.incrNFCntDown then
      countNFCntDown env.mqOk ns
    else ns)

/-- An unconfirmed payload is answered, whatever the result. -/
def answerUnconfirmed (env : SendEnv) (ns : NS) : NS :=
  if ¬ns.mote.s.md.Confirmed ∧ 0 < ns.mote.s.FRMPayloadLen then
    mapS (fun s => { s with answer_app_downlink := false }) (answer_app_downlink env.answerOk ns)
  else ns

def sNSDownlinkSent (env : SendEnv) (success : Bool) (ns : NS) : NS :=
  answerUnconfirmed env (if success then frameSent env ns else ns)

/-- The answer that an ACK made due. -/
def answerPending (env : SendEnv) (ns : NS) : NS :=
  if ns.mote.s.answer_app_downlink then
    answer_app_downlink env.answerOk (mapS (fun s => { s with answer_app_downlink := false }) ns)
  else ns

/-- The frame leaves the server; a local one that was not refused is not kept. -/
def transmit (env : SendEnv) (ns : NS) : NS :=
  let s := ns.mote.s
  let ns := if env.air then
      { ns with sent := ns.sent ++ [⟨s.frame, s.PHYPayloadBin.take s.PHYPayloadLen⟩] }
    else ns
  if env.isLocal ∧ env.result ≠ some false then mapS (fun s => { s with PHYPayloadLen := 0 }) ns
  else ns

/-- `sNS_finish_phy_downlink`, as far as it concerns the downlink. -/
def sNS_finish_phy_downlink (env : SendEnv) (ns : NS) : NS :=
  if ns.mote.s.PHYPayloadLen = 0 then answerPending env ns
  else if env.aborted then ns
  else
    let ns := transmit env ns
    let ns := match env.result with
      | none => ns
      | some success => sNSDownlinkSent env success ns
    answerPending env ns

/-! ### Downlinks of the application (sNS.c:2361-2498, 2725-2805) -/

structure DownlinkEnv where
  /-- `sql.OptNeg` -/
  OptNeg : Bool
  /-- `SupportsClassC` -/
  classC : Bool
  /-- Class B or C: the frame is sent at once. -/
  now : Bool
  /-- The timeout of the class is not zero. -/
  timeout : Bool
  junk : Octets
  send : SendEnv
deriving DecidableEq

def downlinkBC (env : DownlinkEnv) (ns : NS) : NS :=
  let ns := mapS (fun s => { s with resend := false }) ns
  if env.now then
    let ns := schedule A env.junk ns
    if ns.overrun then ns
    else
      let sent := decide (ns.mote.s.PHYPayloadLen ≠ 0 ∧ env.send.aborted = false ∧
        env.send.result = some true)
      let ns := sNS_finish_phy_downlink env.send ns
      if sent && ns.mote.s.md.Confirmed && env.timeout then
        mapS (fun s => { s with resend := true }) ns
      else ns
  else ns

/-- The counter that a payload must have been encrypted for in LoRaWAN 1.0. -/
def neededFCntDown (env : DownlinkEnv) (m : Mote) : ℕ :=
  if env.classC = false ∧ m.s.incrNFCntDown then (m.session.NFCntDown + 1) % 2 ^ 32
  else m.session.NFCntDown

/-- `memcpy` of a payload into `FRMPayloadBin`, and what comes with it. -/
def savePayload (md : DLMetaData) (payload : Octets) (s : S) : Option S :=
  (Octets.write s.FRMPayloadBin 0 payload).map fun bin =>
    { s with
      FRMPayloadBin := bin
      FRMPayloadLen := payload.length
      md := md
      accepted := payload }

def hNS_to_sNS_downlink (env : DownlinkEnv) (md : DLMetaData) (payload : Octets) (ns : NS) : NS :=
  if env.OptNeg = false ∧ md.FCntDown ≠ neededFCntDown env ns.mote then ns
  else
    match savePayload md payload ns.mote.s with
    | none => { ns with overrun := true }
    | some s => downlinkBC A env (mapS (fun _ => s) ns)

/-- `sNS_service`: an unacknowledged downlink of class B or C is sent again. -/
def resend (env : DownlinkEnv) (failed : Bool) (ns : NS) : NS :=
  if ns.mote.s.resend then
    let ns := downlinkBC A env ns
    if failed then answer_app_downlink env.send.answerOk ns else ns
  else ns

/-! ### Join accepts (sNS.c:107-208, 888-980) -/

/-- The statements of a join answer that `mq_send` takes. -/
structure JoinQueued where
  deleteNeverUsed : Bool
  insert : Bool
  deleteOld : Bool
deriving DecidableEq

def JoinQueued.all (ok : Bool) : JoinQueued := ⟨ok, ok, ok⟩

structure JoinAnsEnv where
  /-- `Lifetime` of the answer. -/
  lifetime : Option ℕ
  /-- `DevAddr` of the answer. -/
  DevAddr : Option ℕ
  FNwkSIntKeyBin : Octets
  SNwkSIntKeyBin : Octets
  NwkSEncKeyBin : Octets
  OptNeg : Bool
  /-- The keys were there, and the JoinEUI was stored. -/
  keysOk : Bool
  mqOk : JoinQueued
  until_ : ℕ
  /-- The time at which the row is inserted. -/
  createdAt : ℕ
  isLocal : Bool
  rfBuf : Octets
  /-- The result of the local downlink. -/
  result : Option Bool
  /-- `sNS_JoinAnsJson` succeeds. -/
  remoteOk : Bool
  /-- The `createdAt` that `deleteOldSessions` reads at its end. -/
  newest : Option ℕ
deriving DecidableEq

def sessionRow (env : JoinAnsEnv) (ns : NS) : SessionRow :=
  { ID := ns.mote.ID
    Until := some env.until_
    DevAddr := ns.mote.devAddr
    NFCntDown := none
    FCntUp := none
    FNwkSIntKey := some env.FNwkSIntKeyBin
    SNwkSIntKey := some env.SNwkSIntKeyBin
    NwkSEncKey := some env.NwkSEncKeyBin
    createdAt := env.createdAt
    serial := ns.nextSerial }

/-- `add_database_session` after `deleteNeverUsedSessions`. -/
def add_database_session (env : JoinAnsEnv) (ns : NS) : NS :=
  let ns := enqueue env.mqOk.insert (.insert (sessionRow env ns))
    (enqueue env.mqOk.deleteNeverUsed (.deleteNeverUsed ns.mote.ID) ns)
  { ns with nextSerial := ns.nextSerial + 1 }

/-- The DevAddr and the keys of the answer, in memory. -/
def takeKeys (env : JoinAnsEnv) (ns : NS) : NS :=
  mapSession (fun n => { n with
      FNwkSIntKeyBin := env.FNwkSIntKeyBin
      SNwkSIntKeyBin := env.SNwkSIntKeyBin
      NwkSEncKeyBin := env.NwkSEncKeyBin
      OptNeg := env.OptNeg })
    { ns with mote := { ns.mote with devAddr := env.DevAddr.getD ns.mote.devAddr } }

def take_JoinAns (env : JoinAnsEnv) (ns : NS) : NS :=
  if env.lifetime = some 0 then ns
  else if env.keysOk then
    add_database_session env (mapS (fun s => { s with
      checkOldSessions := true
      ConfFCntDown := if env.OptNeg then 0 else s.ConfFCntDown }) (takeKeys env ns))
  else mapS (fun s => { s with FRMPayloadLen := 0 }) (takeKeys env ns)

/-- The join accept in `PHYPayloadBin`. -/
def saveJoinAccept (env : JoinAnsEnv) (s : S) : Option S :=
  (Octets.write s.PHYPayloadBin 0 env.rfBuf).map fun bin =>
    { s with
      PHYPayloadBin := bin
      PHYPayloadLen := if env.rfBuf ≠ [] ∧ env.result ≠ some false then 0
        else env.rfBuf.length % 256
      frame := none }

/-- After a join accept went out nothing of the previous session is sent. -/
def forgetSession (s : S) : S :=
  { s with mac_cmd_queue := wipe_queued_mac_cmds s.mac_cmd_queue, confDLPHYPayloadLen := 0 }

/-- The accept goes to the device by the local gateway, or with `sNS_JoinAnsJson` to the servers
that forwarded the request. -/
def sendJoinAccept (env : JoinAnsEnv) (ns : NS) : NS :=
  if env.isLocal then
    if env.lifetime.isSome then
      match saveJoinAccept env ns.mote.s with
      | none => { ns with overrun := true }
      | some s =>
        if env.rfBuf ≠ [] ∧ env.result = some true then mapS (fun _ => forgetSession s) ns
        else mapS (fun _ => s) ns
    else ns
  else
    let ns := deleteOldSessions env.mqOk.deleteOld env.newest ns
    if env.remoteOk then mapS forgetSession ns else ns

/-- `hNs_to_sNS_JoinAns`, for an answer of Success. -/
def hNs_to_sNS_JoinAns (env : JoinAnsEnv) (ns : NS) : NS :=
  sendJoinAccept env (mapS (fun s => { s with session_start_at_uplink := true })
    (if env.lifetime.isSome then take_JoinAns env ns else ns))

/-! ### Events -/

inductive Event
  /-- `save_uplink_start` -/
  | window
  /-- A received frame is taken as the best one. `counter` is the device's. -/
  | receive (frame : Octets) (counter : ℕ)
  /-- The session is read when the copy in memory is not valid. -/
  | load (byID sqlOk : Bool) (now : ℕ)
  | uplink (env : UplinkEnv)
  /-- A rejoin request of a live session. -/
  | rejoin (junk : Octets)
  | send (env : SendEnv)
  | downlink (env : DownlinkEnv) (md : DLMetaData) (payload : Octets)
  | resend (env : DownlinkEnv) (failed : Bool)
  | macCmds (ops : List MacOp)
  /-- `assignDevAddrToJS` -/
  | joinReq (devAddr : ℕ)
  /-- `getMote` finds the device under another address. -/
  | address (devAddr : ℕ)
  | joinAns (env : JoinAnsEnv)
  /-- A statement for another device. -/
  | other (u : Statement)
  /-- The writer executes the next statement. -/
  | writer
deriving DecidableEq

def receive (frame : Octets) (counter : ℕ) (m : Mote) : Mote :=
  { m with
    ULPayloadBin := frame ++ m.ULPayloadBin.drop frame.length
    ULPHYPayloadLen := frame.length
    counter := counter }

/-- `finish` reads the session of a rejoin request by the device's ID, of a data frame by
DevAddr (common.c:1842-1861). -/
def loadSession (byID sqlOk : Bool) (now : ℕ) (ns : NS) : NS :=
  if ns.mote.session.until_ = .none ∧ sqlOk then
    let found := if byID then newestByID ns.mote.ID ns.store.table
      else newestByDevAddr ns.mote.devAddr ns.store.table
    mapSession (getSession found now) ns
  else ns

def invalidateSession (ns : NS) : NS := mapSession (fun n => { n with until_ := .none }) ns

def handle (ns : NS) : Event → NS
  | .window =>
    invalidateSession { ns with mote := { ns.mote with ULPHYPayloadLen := 0 } }
  | .receive frame counter => { ns with mote := receive frame counter ns.mote }
  | .load byID sqlOk now => loadSession byID sqlOk now ns
  | .uplink env => if ns.mote.ULPHYPayloadLen = 0 then ns else (sNS_uplink A env ns).2
  | .rejoin junk => schedule A junk ns
  | .send env => sNS_finish_phy_downlink env ns
  | .downlink env md payload => hNS_to_sNS_downlink A env md payload ns
  | .resend env failed => resend A env failed ns
  | .macCmds ops => queueMacCmds ops ns
  | .joinReq devAddr => invalidateSession { ns with mote := { ns.mote with devAddr := devAddr } }
  | .address devAddr => { ns with mote := { ns.mote with devAddr := devAddr } }
  | .joinAns env => hNs_to_sNS_JoinAns env ns
  | .other u =>
    { ns with store := ns.store.enqueue (u.number ns.nextSerial), nextSerial := ns.nextSerial + 1 }
  | .writer => { ns with store := ns.store.writeNext execute }

/-- After a write outside an array nothing is known. -/
def step (ns : NS) (e : Event) : NS := if ns.overrun then ns else handle A ns e

/-! ### An ABP device -/

def sampleKey : Octets := List.replicate 16 0x2b

def sampleDevAddr : ℕ := 0x01020304

/-- LoRaWAN 1.0: the three keys are one. -/
def sampleRow : SessionRow :=
  ⟨1, none, sampleDevAddr, some 0, some 0, some sampleKey, some sampleKey, some sampleKey, 0, 0⟩

/-- A data frame of the device, without FOpts and payload. -/
def sampleUplink (t : mtype_e) (FCtrl : UInt8) (FCntUp : ℕ) : Octets :=
  let msg := [mhdr t] ++ Octets.ofNat 4 sampleDevAddr ++ [FCtrl] ++ Octets.ofNat 2 FCntUp
  let block := block_t.mk 0x49 0 0 0 0 sampleDevAddr FCntUp 0 8
  msg ++ LoRa_GenerateDataFrameIntegrityCode BlockCipher.xorKey block sampleKey msg

def plainUplink : UplinkEnv :=
  ⟨false, none, 0, .all true, true, [], [], [], false, false, none, []⟩

/-- The handling of a frame from its reception to the end of `sNS_uplink`. -/
def hears (t : mtype_e) (FCtrl : UInt8) (FCntUp : ℕ) : List Event :=
  [.window, .receive (sampleUplink t FCtrl FCntUp) FCntUp, .load false true 0, .uplink plainUplink]

/-- A local gateway takes the frame. -/
def plainSend : SendEnv := ⟨true, false, some true, true, true, true⟩

def plainDownlink : DownlinkEnv := ⟨false, false, false, false, [], plainSend⟩

/-- The server before it hears the device. -/
def sampleServer : NS := .init [sampleRow] 1 (.init 1 sampleDevAddr)

end Lorawan.NetworkServer

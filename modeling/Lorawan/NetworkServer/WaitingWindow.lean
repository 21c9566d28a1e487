import Lorawan.NetworkServer.Requesters
import Lorawan.NetworkServer.RowUpdates

/-!
# The waiting window (network_server/common.c:137-231, 384-485, 1830-2072, 2258-2600; fNS.c:455-591)

A window is opened by the first frame of a device and stays open while others
may still bring the same uplink. Every reception writes the DevAddr of its frame
into the mote, but only the frame with the best signal is kept; `finish` reads
the session by the DevAddr in the mote, and counters are stored under it.
-/

namespace Lorawan.NetworkServer
open Lorawan Lorawan.Backend Backend.mtype_e

variable (A : BlockCipher)

/-! ### The device in its window -/

/-- History: a data uplink that `fNS_uplink_finish` or `sNS_uplink` had a session for: the DevAddr
of the frame, the row that was read, and the sessions that the counters were stored for once
`sNS_uplink` accepted it. -/
structure Check where
  rxDevAddr : ℕ
  session : Option SessionRow
  updated : List (Option ℕ)
deriving DecidableEq

/-- `best_sq` is `none` for `INT_MIN`. History: the row that the session was last read from. -/
structure Window where
  ns : NS
  progress : Progress
  best_sq : Option ℤ
  loaded : Option SessionRow
  checks : List Check
deriving DecidableEq

def Window.init (rows : List SessionRow) (nextSerial ID devAddr : ℕ) : Window :=
  ⟨.init rows nextSerial (.init ID devAddr), .OFF, none, none, []⟩

def Window.setDevAddr (devAddr : ℕ) (w : Window) : Window :=
  { w with ns := { w.ns with mote := { w.ns.mote with devAddr := devAddr } } }

/-- `save_uplink_start`, when no window is open. -/
def Window.start (toState : Progress) (w : Window) : Window :=
  if w.progress = .OFF then
    { w with ns := handle A w.ns .window, progress := toState, best_sq := none }
  else w

/-! ### Receptions -/

/-- The buffer of a reception; the frame is its first `size` octets. History: the counter that the
device sent it with. -/
structure HeardFrame where
  buf : Octets
  size : ℕ
  counter : ℕ
deriving DecidableEq

def HeardFrame.frame (f : HeardFrame) : Octets := f.buf.take f.size

def HeardFrame.mtype (f : HeardFrame) : mtype_e := MType (f.buf.headD 0)

def HeardFrame.DevAddr (f : HeardFrame) : ℕ := Octets.toNat (Octets.slice f.buf 1 4)

/-- `getMote` finds the device of a data frame by the newest session with the DevAddr, or by the
DevAddr itself; a join or rejoin request names it. -/
def HeardFrame.isFor (ns : NS) (f : HeardFrame) : Bool :=
  if isDataUp f.mtype then
    match newestByDevAddr f.DevAddr ns.store.table with
    | some r => decide (r.ID = ns.mote.ID)
    | none => decide (f.DevAddr = ns.mote.devAddr)
  else isJoinReq f.mtype

/-- `GetMoteMtype`, and a window when there is none. -/
def Window.find (toState : Progress) (f : HeardFrame) (w : Window) : Window :=
  (if isDataUp f.mtype then w.setDevAddr f.DevAddr else w).start A toState

/-- The frame is kept when no better one was heard. -/
def Window.keep (sq : ℤ) (f : HeardFrame) (w : Window) : Window :=
  if w.best_sq.all (· < sq) then
    { w with
      ns := { w.ns with mote := receive f.frame f.counter w.ns.mote }
      best_sq := some sq }
  else w

def Window.fNS_uplink_direct (sq : ℤ) (f : HeardFrame) (w : Window) : Window :=
  if f.isFor w.ns then (w.find A .LOCAL f).keep sq f else w

/-- `uplinkJson` with a PHYPayload. It has no signal quality when it is refused, which happens
after the window was opened. -/
def Window.uplinkJson (sq : Option ℤ) (f : HeardFrame) (w : Window) : Window :=
  if f.isFor w.ns then
    match sq with
    | none => w.find A .JSON f
    | some sq => (w.find A .JSON f).keep sq f
  else w

/-- `uplinkJson` with a FRMPayload, for a device that is named by its DevEUI or by `devAddr`. -/
def Window.uplinkFRM (devAddr : Option ℕ) (payload : Octets) (w : Window) : Window :=
  let w := (match devAddr with
    | none => w
    | some devAddr => w.setDevAddr devAddr).start A .JSON
  { w with ns := { w.ns with mote := { w.ns.mote with
      ULPayloadBin := payload ++ w.ns.mote.ULPayloadBin.drop payload.length } } }

/-! ### finish -/

/-- What `sNS_uplink_finish` does with a join or rejoin request. -/
inductive JoinAction
  /-- `assignDevAddrToJS`, and whether it succeeds. -/
  | toJS (devAddr : ℕ) (ok : Bool)
  /-- A live session: only a downlink is scheduled. -/
  | schedule
  /-- A join request for another network ends with Success. -/
  | foreign
  | drop
deriving DecidableEq

/-- What surrounds a call of `finish`. -/
structure TickEnv where
  /-- The query of `getSession` succeeds. -/
  sqlOk : Bool
  now : ℕ
  /-- `sql_motes_query` succeeds. -/
  known : Bool
  /-- `bestR != NULL` -/
  remote : Bool
  /-- `sql.roamState`, once an expired roaming has ended. -/
  roamState : RoamState
  /-- `fNS_uplink_finish` ends the window itself, and whether it takes the frame; `none` when the
  frame is left to the sNS. -/
  fNS : Option Bool
  uplink : UplinkEnv
  join : JoinAction
  /-- The answer to a roaming start was posted, with the frame that waits. -/
  rStart : Option SendEnv
  send : SendEnv
  discard : Bool
deriving DecidableEq

/-- The session is read when the copy in memory is not valid; `none` when the query fails. -/
def Window.load (env : TickEnv) (w : Window) : Option Window :=
  let byID := decide (rxMType w.ns.mote = MTYPE_REJOIN_REQ)
  if w.ns.mote.session.until_ = .none ∧ (byID || isDataUp (rxMType w.ns.mote)) then
    if env.sqlOk then
      some { w with
        ns := loadSession byID true env.now w.ns
        loaded := if byID then newestByID w.ns.mote.ID w.ns.store.table
          else newestByDevAddr w.ns.mote.devAddr w.ns.store.table }
    else none
  else some w

/-- The window is closed; a mote that is discarded is created again by its next frame. -/
def Window.close (discard : Bool) (w : Window) : Window :=
  { w with
    ns := if discard then { w.ns with mote := .init w.ns.mote.ID w.ns.mote.devAddr } else w.ns
    progress := .OFF }

/-- History: the frame was handed on with the session, and the call ended in `ns'`. -/
def Window.record (ok : Bool) (ns' : NS) (w : Window) : Window :=
  { w with
    ns := ns'
    checks :=
      if w.ns.mote.session.until_ = .none then w.checks
      else w.checks ++ [⟨rxDevAddr w.ns.mote, w.loaded, if ok then
        updatesOf w.ns.settled (ns'.store.queue.drop w.ns.store.queue.length) else []⟩] }

/-- History: `fNS_uplink_finish` checks the frame or forwards it. -/
def Window.seen (w : Window) : Window :=
  if isDataUp (rxMType w.ns.mote) then w.record false w.ns else w

/-- `jsonHandler`, as far as the frame that waits is concerned (common.c:1995-2042). -/
def answerRStart (send : Option SendEnv) (ns : NS) : NS :=
  match send with
  | none => ns
  | some send =>
    if ns.mote.s.PHYPayloadLen = 0 then ns
    else sNSDownlinkSent send true (transmit { send with isLocal := false } ns)

/-- `finish` from `jsonHandler` on. -/
def finishUplink (env : TickEnv) (ok : Bool) (ns : NS) : NS :=
  if ns.overrun then ns
  else
    let ns := answerRStart env.rStart ns
    let ns := if ok then sNS_finish_phy_downlink env.send ns else ns
    { ns with mote := { ns.mote with ULPHYPayloadLen := 0 } }

/-- Whether the frame goes to `sNS_uplink`. -/
def Window.isTaken (env : TickEnv) (w : Window) : Bool :=
  isDataUp (rxMType w.ns.mote) &&
    match w.progress with
    | .OFF => false
    | .LOCAL => decide (env.roamState = .sHANDOVER)
    | .JSON => decide (w.ns.mote.ULPHYPayloadLen ≠ 0) &&
      (decide (env.roamState = .sPASSIVE) || decide (env.roamState = .NONE))

/-- A join or rejoin request in `sNS_uplink_finish`. -/
def joinFinish (env : TickEnv) (ns : NS) : Bool × NS :=
  if ns.mote.ULPHYPayloadLen ≠ 0 ∧ isJoinReq (rxMType ns.mote) then
    match env.join with
    | .toJS devAddr ok => (ok, handle A ns (.joinReq devAddr))
    | .schedule => (false, NetworkServer.schedule A env.uplink.junk ns)
    | .foreign => (true, ns)
    | .drop => (false, ns)
  else (false, ns)

/-- `fNS_uplink_finish` -/
def Window.fNS_uplink_finish (env : TickEnv) (w : Window) : Window :=
  let w := w.seen
  match env.fNS with
  | some taken =>
    Window.close env.discard { w with ns := { w.ns with mote := { w.ns.mote with
      ULPHYPayloadLen := if taken then 0 else w.ns.mote.ULPHYPayloadLen } } }
  | none =>
    if w.isTaken env then
      let (result, ns) := sNS_uplink A env.uplink w.ns
      { w.record (result = .Success) ns with progress := .JSON }
    else { w with progress := .JSON }

/-- `finish(mote, false)` -/
def Window.finishLocal (env : TickEnv) (w : Window) : Window :=
  match w.load env with
  | none => w.close true
  | some w =>
    if !env.known then w.close true
    else if env.roamState = .DEFERRED then w.close false
    else if env.roamState = .sPASSIVE ∨ env.roamState = .hHANDOVER then
      { w with ns := answerRStart env.rStart w.ns, progress := .JSON }
    else w.fNS_uplink_finish A env

/-- `finish(mote, true)` -/
def Window.finishJson (env : TickEnv) (w : Window) : Window :=
  match w.load env with
  | none => w.close true
  | some w =>
    if !env.known && env.remote then
      Window.close false { w with ns := finishUplink { env with rStart := none } false w.ns }
    else if env.roamState = .DEFERRED then w.close false
    else if env.roamState = .sHANDOVER then
      Window.close env.discard { w with ns := finishUplink { env with rStart := none } false w.ns }
    else if w.isTaken env then
      let (result, ns) := sNS_uplink A env.uplink w.ns
      (w.record (result = .Success) (finishUplink env (result = .Success) ns)).close env.discard
    else
      let (ok, ns) := joinFinish A env w.ns
      Window.close env.discard { w with ns := finishUplink env ok ns }

/-- `common_service` -/
def Window.tick (env : TickEnv) (w : Window) : Window :=
  match w.progress with
  | .OFF => w
  | .LOCAL => w.finishLocal A env
  | .JSON => w.finishJson A env

/-! ### Runs -/

inductive WindowEvent
  /-- From a gateway. -/
  | gateway (sq : ℤ) (f : HeardFrame)
  /-- From another network server. -/
  | request (sq : Option ℤ) (f : HeardFrame)
  | FRMPayload (devAddr : Option ℕ) (payload : Octets)
  /-- `getMote` finds the device under another address, for a downlink or for a page. -/
  | found (devAddr : ℕ)
  | tick (env : TickEnv)
  /-- What else happens to the device. -/
  | serve (e : Event)
deriving DecidableEq

/-- The events that are not part of a window. -/
def Event.isElsewhere : Event → Bool
  | .downlink .. | .resend .. | .macCmds _ | .joinAns _ | .other _ | .writer => true
  | _ => false

def Window.handle (w : Window) : WindowEvent → Window
  | .gateway sq f => w.fNS_uplink_direct A sq f
  | .request sq f => w.uplinkJson A sq f
  | .FRMPayload devAddr payload => w.uplinkFRM A devAddr payload
  | .found devAddr => w.setDevAddr devAddr
  | .tick env => w.tick A env
  | .serve e => if e.isElsewhere then { w with ns := NetworkServer.handle A w.ns e } else w

/-- After a write outside an array nothing is known. -/
def Window.step (w : Window) (e : WindowEvent) : Window :=
  if w.ns.overrun then w else w.handle A e

/-! ### The property -/

/-- The session that was read has the DevAddr of the frame, and the counters were stored for it. -/
def Check.Matches (c : Check) : Prop :=
  ∃ r ∈ c.session, r.DevAddr = c.rxDevAddr ∧ ∀ t ∈ c.updated, t = some r.serial

def SessionsMatch (w : Window) : Prop := ∀ c ∈ w.checks, c.Matches

instance (c : Check) : Decidable c.Matches := by
  unfold Check.Matches
  infer_instance

instance (w : Window) : Decidable (SessionsMatch w) := by
  unfold SessionsMatch
  infer_instance

/-! ### The condition -/

/-- A data frame waits for `finish`. -/
def Window.Waits (w : Window) : Prop :=
  w.progress ≠ .OFF ∧ w.ns.mote.ULPHYPayloadLen ≠ 0 ∧ isDataUp (rxMType w.ns.mote) = true

/-- A frame has its header, and a data frame that is heard in an open window has the DevAddr of the
one that waits; when none waits, no session was read for another kind of frame. -/
def HeardAlike (w : Window) (f : HeardFrame) : Prop :=
  f.isFor w.ns = true → 5 ≤ f.frame.length ∧
    (isDataUp f.mtype = true → w.progress ≠ .OFF →
      (w.Waits → f.DevAddr = w.ns.mote.devAddr) ∧
        (¬w.Waits → w.ns.mote.session.until_ = .none))

/-- No statement in the queue changes which session is the newest with the DevAddr. -/
def ReadsNewest (w : Window) : Prop :=
  w.ns.mote.session.until_ = .none →
    ∀ r ∈ newestByDevAddr w.ns.mote.devAddr w.ns.store.table, Newest r w.ns.settled

/-- The uplink does not delete the session that was read: it is no accepted one of an expired
LoRaWAN 1.0 session, and no newer session makes `deleteOldSessions` take it for an old one. -/
def LeavesRow (env : TickEnv) (w : Window) : Prop :=
  (w.ns.mote.sessionExpired = true → env.uplink.OptNeg = false → env.uplink.mqOk.expired = true →
    w.progress = .JSON ∧ verifies A env.uplink w.ns.mote = false) ∧
  (verifies A env.uplink w.ns.mote = true → prunes env.uplink w.ns.mote = true →
    ∀ t ∈ env.uplink.newest, ∀ r ∈ w.loaded, r.ID = w.ns.mote.ID → t ≤ r.createdAt)

/-- The statement for another device does not change which session is the newest. -/
def LeavesNewest (ns : NS) (u : Statement) : Prop :=
  match u with
  | .insert row => row.DevAddr ≠ ns.mote.devAddr
  | u => ∀ r ∈ newestByDevAddr ns.mote.devAddr ns.settled, u.deletes r = false

/-- The join answer brings no keys, and `sNS_JoinAnsJson` does not delete the session that was
read. -/
def LeavesSession (env : JoinAnsEnv) (w : Window) : Prop :=
  (env.lifetime = none ∨ env.lifetime = some 0) ∧
    (env.isLocal = false → env.mqOk.deleteOld = true → w.ns.mote.session.until_ ≠ .none →
      ∀ t ∈ env.newest, ∀ r ∈ w.loaded, r.ID = w.ns.mote.ID → t ≤ r.createdAt)

/-- The condition on an event. -/
def Undisturbing (w : Window) : WindowEvent → Prop
  | .gateway _ f | .request _ f => HeardAlike w f
  | .FRMPayload .. => w.progress ≠ .OFF → w.ns.mote.ULPHYPayloadLen = 0
  | .found devAddr => w.Waits → devAddr = w.ns.mote.devAddr
  | .tick env => w.Waits → ReadsNewest w ∧
    ∀ w' ∈ w.load env, w'.isTaken env = true → w'.ns.mote.session.until_ ≠ .none →
      LeavesRow A env w'
  | .serve (.joinAns env) => w.Waits → LeavesSession env w
  | .serve (.other u) => w.Waits → w.ns.mote.session.until_ ≠ .none → LeavesNewest w.ns u
  | .serve _ => True

instance Window.decidableWaits (w : Window) : Decidable w.Waits := inferInstanceAs (Decidable (_ ∧ _))

instance (w : Window) (f : HeardFrame) : Decidable (HeardAlike w f) :=
  inferInstanceAs (Decidable (_ → _))

instance (w : Window) : Decidable (ReadsNewest w) := by
  unfold ReadsNewest
  infer_instance

instance (env : TickEnv) (w : Window) : Decidable (LeavesRow A env w) := by
  unfold LeavesRow
  infer_instance

instance (ns : NS) : ∀ u, Decidable (LeavesNewest ns u)
  | .insert _ | .setFCntUp .. | .zeroNFCntDown _ | .incrNFCntDown _ | .deleteNeverUsed _
  | .deleteOld .. => by
    dsimp only [LeavesNewest]
    infer_instance

instance (env : JoinAnsEnv) (w : Window) : Decidable (LeavesSession env w) := by
  unfold LeavesSession
  infer_instance

instance (w : Window) : ∀ e, Decidable (Undisturbing A w e)
  | .gateway .. | .request .. | .FRMPayload .. | .found _ | .tick _ | .serve (.joinAns _)
  | .serve (.other _) => by
    dsimp only [Undisturbing]
    infer_instance
  | .serve .window | .serve (.receive ..) | .serve (.load ..) | .serve (.uplink _)
  | .serve (.rejoin _) | .serve (.send _) | .serve (.downlink ..) | .serve (.resend ..)
  | .serve (.macCmds _) | .serve (.joinReq _) | .serve (.address _) | .serve .writer =>
    .isTrue trivial

/-! ### Two sessions of one device -/

/-- An OTA device that has joined again has a session under a second address, with its own key. -/
def newDevAddr : ℕ := 0x05060708

def rejoinedKey : Octets := List.replicate 16 0x2c

def oldSession : SessionRow := { sampleRow with Until := some 100 }

def rejoinedSession : SessionRow :=
  ⟨1, some 100, newDevAddr, some 0, some 0, some rejoinedKey, some rejoinedKey, some rejoinedKey, 9, 1⟩

/-- A data frame with a MIC under the key. -/
def dataFrame (key : Octets) (devAddr FCntUp : ℕ) : HeardFrame :=
  let msg := [mhdr MTYPE_UNCONF_UP] ++ Octets.ofNat 4 devAddr ++ [0] ++ Octets.ofNat 2 FCntUp
  let block := block_t.mk 0x49 0 0 0 0 devAddr FCntUp 0 8
  ⟨msg ++ LoRa_GenerateDataFrameIntegrityCode BlockCipher.xorKey block key msg, 12, FCntUp⟩

/-- `finish` for a device that does not roam. -/
def plainTick : TickEnv :=
  ⟨true, 10, true, false, .NONE, none, plainUplink, .drop, none, plainSend, false⟩

def twoSessions : Window := .init [rejoinedSession, oldSession] 2 1 newDevAddr

/-- A frame of the new session is heard, and weakly one of the old session: before `finish` reads
the session, or after that. -/
def heardBoth (late : Bool) : List WindowEvent :=
  let new := WindowEvent.gateway 10 (dataFrame rejoinedKey newDevAddr 1)
  let old := WindowEvent.gateway 0 (dataFrame sampleKey sampleDevAddr 1)
  if late then [new, .tick plainTick, old, .tick plainTick]
  else [new, old, .tick plainTick, .tick plainTick]

theorem weak_frame_moves_window :
    (let w := Machine.run (Window.step BlockCipher.xorKey) twoSessions (heardBoth false)
     ¬SessionsMatch w ∧
       w.checks = [⟨newDevAddr, some oldSession, []⟩, ⟨newDevAddr, some oldSession, []⟩]) ∧
    (let w := Machine.run (Window.step BlockCipher.xorKey) twoSessions (heardBoth true)
     ¬SessionsMatch w ∧
       w.checks = [⟨newDevAddr, some rejoinedSession, []⟩,
         ⟨newDevAddr, some rejoinedSession, [some 0]⟩] ∧
       w.ns.store.queue = [.setFCntUp 1 sampleDevAddr]) := by
  decide +kernel

/-! ### The invariant -/

variable {A} {w : Window}

/-- The session that was read has the DevAddr of the mote, and its row will be the newest one with
it. -/
def Window.Holds (w : Window) : Prop :=
  ∃ r ∈ w.loaded, r.DevAddr = w.ns.mote.devAddr ∧ Newest r w.ns.settled

structure WindowInv (w : Window) : Prop where
  checks : SessionsMatch w
  kept : w.progress = .LOCAL → w.ns.mote.ULPHYPayloadLen ≠ 0
  address : w.Waits → rxDevAddr w.ns.mote = w.ns.mote.devAddr
  session : w.Waits → w.ns.mote.session.until_ ≠ .none → w.Holds

theorem waiting_closed {w' : Window} (h : SessionsMatch w) (hchecks : w'.checks = w.checks)
    (hoff : w'.progress = .OFF) : WindowInv w' := by
  refine ⟨?_, ?_, ?_, ?_⟩
  · rw [SessionsMatch, hchecks]
    exact h
  · intro hlocal
    rw [hoff] at hlocal
    cases hlocal
  · exact fun hwaits => absurd hoff hwaits.1
  · exact fun hwaits => absurd hoff hwaits.1

/-! ### Receptions -/

theorem mtype_receive {f : HeardFrame} (hlen : 5 ≤ f.frame.length) (m : Mote) :
    rxMType (receive f.frame f.counter m) = f.mtype := by
  obtain ⟨buf, size, counter⟩ := f
  cases buf with
  | nil => simp [HeardFrame.frame] at hlen
  | cons b bs =>
    cases size with
    | zero => simp [HeardFrame.frame] at hlen
    | succ n => rfl

theorem rxDevAddr_receive {f : HeardFrame} (hlen : 5 ≤ f.frame.length) (m : Mote) :
    rxDevAddr (receive f.frame f.counter m) = f.DevAddr := by
  have hsize : 5 ≤ f.size := by
    simp only [HeardFrame.frame, List.length_take] at hlen
    omega
  have hslice : Octets.slice (f.frame ++ m.ULPayloadBin.drop f.frame.length) 1 4 =
      Octets.slice f.frame 1 4 := by
    unfold Octets.slice
    rw [List.drop_append_of_le_length (by omega),
      List.take_append_of_le_length (by rw [List.length_drop]; omega)]
  show Octets.toNat (Octets.slice (f.frame ++ m.ULPayloadBin.drop f.frame.length) 1 4) = _
  rw [hslice, HeardFrame.frame, Octets.slice_take (by omega)]
  rfl

/-- What a reception finds, before the frame is kept or not. -/
structure Found (w w' : Window) (f : HeardFrame) : Prop where
  checks : w'.checks = w.checks
  progress : w'.progress ≠ .OFF
  devAddr : isDataUp f.mtype = true → w'.ns.mote.devAddr = f.DevAddr
  opened : w.progress = .OFF → w'.ns.mote.ULPHYPayloadLen = 0 ∧
    w'.ns.mote.session.until_ = .none ∧ w'.best_sq = none
  open_ : w.progress ≠ .OFF → w'.progress = w.progress ∧ w'.loaded = w.loaded ∧
    w'.ns.settled = w.ns.settled ∧ w'.ns.mote.ULPayloadBin = w.ns.mote.ULPayloadBin ∧
    w'.ns.mote.ULPHYPayloadLen = w.ns.mote.ULPHYPayloadLen ∧
    w'.ns.mote.session = w.ns.mote.session ∧
    (isDataUp f.mtype = false → w'.ns.mote.devAddr = w.ns.mote.devAddr)

theorem found_find {toState : Progress} (hto : toState ≠ .OFF) (f : HeardFrame) :
    Found w (w.find A toState f) f := by
  unfold Window.find Window.start
  by_cases hdata : isDataUp f.mtype = true
  · rw [if_pos hdata]
    by_cases hoff : w.progress = .OFF
    · have hoff' : (w.setDevAddr f.DevAddr).progress = .OFF := hoff
      rw [if_pos hoff']
      exact ⟨rfl, hto, fun _ => rfl, fun _ => ⟨rfl, rfl, rfl⟩, fun hne => absurd hoff hne⟩
    · have hoff' : (w.setDevAddr f.DevAddr).progress ≠ .OFF := hoff
      rw [if_neg hoff']
      exact ⟨rfl, hoff, fun _ => rfl, fun heq => absurd heq hoff, fun _ => ⟨rfl, rfl, rfl, rfl,
        rfl, rfl, fun hno => absurd hdata (by simp [hno])⟩⟩
  · rw [if_neg hdata]
    by_cases hoff : w.progress = .OFF
    · rw [if_pos hoff]
      exact ⟨rfl, hto, fun hyes => absurd hyes hdata, fun _ => ⟨rfl, rfl, rfl⟩,
        fun hne => absurd hoff hne⟩
    · rw [if_neg hoff]
      exact ⟨rfl, hoff, fun hyes => absurd hyes hdata, fun heq => absurd heq hoff,
        fun _ => ⟨rfl, rfl, rfl, rfl, rfl, rfl, fun _ => rfl⟩⟩

variable {w' : Window} {f : HeardFrame}

theorem Found.waits (hf : Found w w' f) (hlike : isDataUp f.mtype = true → w.progress ≠ .OFF →
      (w.Waits → f.DevAddr = w.ns.mote.devAddr) ∧
        (¬w.Waits → w.ns.mote.session.until_ = .none)) (hwaits : w'.Waits) :
    w.Waits ∧ w'.ns.mote.devAddr = w.ns.mote.devAddr := by
  obtain ⟨-, hlen, hdata⟩ := hwaits
  have hopen : w.progress ≠ .OFF := by
    intro hoff
    exact hlen (hf.opened hoff).1
  obtain ⟨-, -, -, hbin, hlen', -, hsame⟩ := hf.open_ hopen
  have hbefore : w.Waits := by
    refine ⟨hopen, hlen' ▸ hlen, ?_⟩
    rw [rxMType, hbin] at hdata
    exact hdata
  refine ⟨hbefore, ?_⟩
  cases hup : isDataUp f.mtype with
  | true => rw [hf.devAddr hup, (hlike hup hopen).1 hbefore]
  | false => exact hsame hup

theorem waiting_found (h : WindowInv w) (hf : Found w w' f)
    (hlike : isDataUp f.mtype = true → w.progress ≠ .OFF →
      (w.Waits → f.DevAddr = w.ns.mote.devAddr) ∧
        (¬w.Waits → w.ns.mote.session.until_ = .none))
    (hkept : w.progress = .OFF → w'.progress ≠ .LOCAL) : WindowInv w' := by
  refine ⟨?_, ?_, ?_, ?_⟩
  · rw [SessionsMatch, hf.checks]
    exact h.checks
  · intro hlocal
    have hopen : w.progress ≠ .OFF := fun hoff => hkept hoff hlocal
    obtain ⟨hprogress, -, -, -, hlen, -⟩ := hf.open_ hopen
    rw [hlen]
    exact h.kept (hprogress.symm.trans hlocal)
  · intro hwaits
    obtain ⟨hbefore, haddr⟩ := hf.waits hlike hwaits
    obtain ⟨-, -, -, hbin, -⟩ := hf.open_ hbefore.1
    have hold := h.address hbefore
    rw [rxDevAddr] at hold ⊢
    rw [hbin, haddr, hold]
  · intro hwaits hlive
    obtain ⟨hbefore, haddr⟩ := hf.waits hlike hwaits
    obtain ⟨-, hloaded, hsettled, -, -, hsession, -⟩ := hf.open_ hbefore.1
    rw [hsession] at hlive
    rw [Window.Holds, hloaded, hsettled, haddr]
    exact h.session hbefore hlive

theorem waiting_keep (h : WindowInv w) (hf : Found w w' f) (hlen : 5 ≤ f.frame.length)
    (hlike : isDataUp f.mtype = true → w.progress ≠ .OFF →
      (w.Waits → f.DevAddr = w.ns.mote.devAddr) ∧
        (¬w.Waits → w.ns.mote.session.until_ = .none)) (sq : ℤ) :
    WindowInv (w'.keep sq f) := by
  unfold Window.keep
  split
  · refine ⟨?_, ?_, ?_, ?_⟩
    · show ∀ c ∈ w'.checks, c.Matches
      rw [hf.checks]
      exact h.checks
    · intro _
      show f.frame.length ≠ 0
      omega
    · rintro ⟨-, -, hdata⟩
      have hup : isDataUp f.mtype = true := by
        rw [← mtype_receive hlen w'.ns.mote]
        exact hdata
      rw [rxDevAddr_receive hlen]
      exact (hf.devAddr hup).symm
    · rintro ⟨-, -, hdata⟩ hlive
      have hup : isDataUp f.mtype = true := by
        rw [← mtype_receive hlen w'.ns.mote]
        exact hdata
      have hlive' : w'.ns.mote.session.until_ ≠ .none := hlive
      have hopen : w.progress ≠ .OFF := by
        intro hoff
        exact hlive' (hf.opened hoff).2.1
      obtain ⟨-, hloaded, hsettled, -, -, hsession, -⟩ := hf.open_ hopen
      rw [hsession] at hlive'
      have hbefore : w.Waits := by
        by_contra hno
        exact hlive' ((hlike hup hopen).2 hno)
      show ∃ r ∈ w'.loaded, r.DevAddr = w'.ns.mote.devAddr ∧ Newest r w'.ns.settled
      rw [hloaded, hsettled, hf.devAddr hup, (hlike hup hopen).1 hbefore]
      exact h.session hbefore hlive'
  · rename_i hworse
    refine waiting_found h hf hlike ?_
    intro hoff
    rw [(hf.opened hoff).2.2] at hworse
    exact absurd rfl hworse

theorem waiting_gateway (h : WindowInv w) (sq : ℤ) (hc : HeardAlike w f) :
    WindowInv (w.fNS_uplink_direct A sq f) := by
  unfold Window.fNS_uplink_direct
  split
  · rename_i hfor
    obtain ⟨hlen, hlike⟩ := hc hfor
    exact waiting_keep h (found_find (by decide) f) hlen hlike sq
  · exact h

theorem waiting_request (h : WindowInv w) (sq : Option ℤ) (hc : HeardAlike w f) :
    WindowInv (w.uplinkJson A sq f) := by
  unfold Window.uplinkJson
  split
  · rename_i hfor
    obtain ⟨hlen, hlike⟩ := hc hfor
    have hf : Found w (w.find A .JSON f) f := found_find (by decide) f
    cases sq with
    | some sq => exact waiting_keep h hf hlen hlike sq
    | none =>
      refine waiting_found h hf hlike ?_
      intro hoff
      have hjson : (w.find A .JSON f).progress = .JSON := by
        by_cases hdata : isDataUp f.mtype = true <;>
          simp [Window.find, Window.start, Window.setDevAddr, hdata, hoff]
      rw [hjson]
      decide
  · exact h

theorem waiting_FRMPayload (h : WindowInv w) (devAddr : Option ℕ) (payload : Octets)
    (hc : w.progress ≠ .OFF → w.ns.mote.ULPHYPayloadLen = 0) :
    WindowInv (w.uplinkFRM A devAddr payload) := by
  have hstart : (w.uplinkFRM A devAddr payload).checks = w.checks ∧
      (w.uplinkFRM A devAddr payload).ns.mote.ULPHYPayloadLen = 0 ∧
      (w.uplinkFRM A devAddr payload).progress ≠ .LOCAL := by
    by_cases hoff : w.progress = .OFF
    · cases devAddr <;>
        simp [Window.uplinkFRM, Window.start, Window.setDevAddr, hoff, handle, invalidateSession,
          mapSession]
    · have hlen := hc hoff
      have hlocal : w.progress ≠ .LOCAL := fun hlocal => h.kept hlocal hlen
      cases devAddr <;>
        simp [Window.uplinkFRM, Window.start, Window.setDevAddr, hoff, hlen, hlocal]
  obtain ⟨hchecks, hlen, hlocal⟩ := hstart
  refine ⟨?_, fun heq => absurd heq hlocal, fun hwaits => absurd hlen hwaits.2.1,
    fun hwaits => absurd hlen hwaits.2.1⟩
  rw [SessionsMatch, hchecks]
  exact h.checks

theorem waiting_setDevAddr (h : WindowInv w) {devAddr : ℕ}
    (hc : w.Waits → devAddr = w.ns.mote.devAddr) : WindowInv (w.setDevAddr devAddr) := by
  refine ⟨h.checks, h.kept, ?_, ?_⟩
  · intro hwaits
    have hbefore : w.Waits := hwaits
    show rxDevAddr w.ns.mote = devAddr
    rw [hc hbefore]
    exact h.address hbefore
  · intro hwaits hlive
    have hbefore : w.Waits := hwaits
    show ∃ r ∈ w.loaded, r.DevAddr = devAddr ∧ Newest r w.ns.settled
    rw [hc hbefore]
    exact h.session hbefore hlive

/-! ### finish -/

/-- A device that goes on waiting: nothing but counters for its session were queued. -/
theorem waiting_queues (h : WindowInv w) (hchecks : SessionsMatch w') (hloaded : w'.loaded = w.loaded)
    (hopen : w'.progress ≠ .OFF → w.progress ≠ .OFF)
    (hlen : w'.ns.mote.ULPHYPayloadLen ≠ 0 → w.ns.mote.ULPHYPayloadLen ≠ 0)
    (hkept : w'.progress = .LOCAL → w'.ns.mote.ULPHYPayloadLen ≠ 0)
    (hsame : Queues (fun _ => True) true w.ns w'.ns)
    (hq : ∀ r ∈ w.loaded, r.DevAddr = w.ns.mote.devAddr → w.ns.mote.session.until_ ≠ .none →
      Queues (Addressed r) true w.ns w'.ns) : WindowInv w' := by
  have hbefore : w'.Waits → w.Waits := by
    rintro ⟨hopen', hlen', hdata⟩
    refine ⟨hopen hopen', hlen hlen', ?_⟩
    rw [rxMType, hsame.ULPayloadBin] at hdata
    exact hdata
  refine ⟨hchecks, hkept, ?_, ?_⟩
  · intro hwaits
    rw [rxDevAddr, hsame.ULPayloadBin, hsame.devAddr]
    exact h.address (hbefore hwaits)
  · intro hwaits hlive
    rw [hsame.until_] at hlive
    obtain ⟨r, hr, haddr, hnewest⟩ := h.session (hbefore hwaits) hlive
    rw [Window.Holds, hloaded, hsame.devAddr]
    exact ⟨r, hr, haddr, ((hq r hr haddr hlive).newest hnewest).1⟩

theorem waiting_load {env : TickEnv} (h : WindowInv w) (hopen : w.progress ≠ .OFF)
    (hreads : w.Waits → ReadsNewest w) (hload : w.load env = some w') :
    WindowInv w' ∧ w'.progress = w.progress ∧ (w'.Waits → w.Waits) := by
  unfold Window.load at hload
  dsimp only at hload
  split at hload
  · rename_i hnone
    split at hload
    · obtain rfl := Option.some.inj hload
      have hmote : ∀ byID, (loadSession byID true env.now w.ns).mote = { w.ns.mote with
          session := (loadSession byID true env.now w.ns).mote.session } := by
        intro byID
        rw [loadSession, if_pos ⟨hnone.1, rfl⟩]
        rfl
      have hstore : ∀ byID, (loadSession byID true env.now w.ns).settled = w.ns.settled := by
        intro byID
        rw [loadSession, if_pos ⟨hnone.1, rfl⟩]
        rfl
      have hwaits : ∀ w' : Window, w'.ns.mote = { w.ns.mote with session := w'.ns.mote.session } →
          w'.Waits → w.Waits := by
        rintro w' heq ⟨-, hlen, hdata⟩
        rw [heq] at hlen hdata
        exact ⟨hopen, hlen, hdata⟩
      refine ⟨⟨h.checks, ?_, ?_, ?_⟩, rfl, hwaits _ (hmote _)⟩
      · intro hlocal
        show (loadSession _ true env.now w.ns).mote.ULPHYPayloadLen ≠ 0
        rw [hmote]
        exact h.kept hlocal
      · intro hafter
        dsimp only
        rw [hmote]
        exact h.address (hwaits _ (hmote _) hafter)
      · intro hafter hlive
        dsimp only at hlive
        have hwaits := hwaits _ (hmote _) hafter
        have hbyDevAddr : decide (rxMType w.ns.mote = MTYPE_REJOIN_REQ) = false := by
          have hup := hwaits.2.2
          cases htype : rxMType w.ns.mote <;> rw [htype] at hup <;> first | rfl | cases hup
        rw [hbyDevAddr, loadSession, if_pos ⟨hnone.1, rfl⟩] at hlive
        show ∃ r ∈ _, r.DevAddr = (loadSession _ true env.now w.ns).mote.devAddr ∧
          Newest r (loadSession _ true env.now w.ns).settled
        rw [hstore, hmote, hbyDevAddr]
        cases hfound : newestByDevAddr w.ns.mote.devAddr w.ns.store.table with
        | none =>
          simp [mapSession, getSession, hfound] at hlive
        | some r =>
          refine ⟨r, ?_, (newestByDevAddr_mem hfound).2, hreads hwaits hnone.1 r hfound⟩
          simp
    · cases hload
  · obtain rfl := Option.some.inj hload
    exact ⟨h, rfl, id⟩

variable {P : Statement → Prop} {c : Bool} {ns : NS}

theorem queues_answerRStart (send : Option SendEnv) (hP : P (.incrNFCntDown ns.mote.devAddr)) :
    Queues P c ns (answerRStart send ns) := by
  unfold answerRStart
  split
  · exact .refl ns
  · split
    · exact .refl ns
    · rename_i send _
      have hsent : Queues P c ns (transmit { send with isLocal := false } ns) := queues_transmit ns
      exact hsent.trans (queues_sNSDownlinkSent true (hsent.devAddr ▸ hP))

theorem queues_finishUplink (env : TickEnv) (ok : Bool)
    (hP : P (.incrNFCntDown ns.mote.devAddr)) : Queues P true ns (finishUplink env ok ns) := by
  unfold finishUplink
  split
  · exact .refl ns
  · have hanswer := queues_answerRStart (P := P) (c := true) env.rStart hP
    have hsent : Queues P true ns (if ok then
        sNS_finish_phy_downlink env.send (answerRStart env.rStart ns)
        else answerRStart env.rStart ns) := by
      split
      · exact hanswer.trans (queues_finish env.send (hanswer.devAddr ▸ hP))
      · exact hanswer
    exact hsent.trans (.of_eq rfl (Or.inl rfl) ⟨rfl, rfl⟩ rfl)

theorem stores_addressed (r : SessionRow) : StoresCounters (Addressed r) r.DevAddr :=
  ⟨addressed_setFCntUp, addressed_zeroNFCntDown, addressed_incrNFCntDown⟩

/-- An uplink that leaves the row of its session queues nothing but counters for it. -/
theorem queues_of_leavesRow {env : TickEnv} {r : SessionRow} (hr : r ∈ w.loaded)
    (haddr : r.DevAddr = w.ns.mote.devAddr) (hlive : w.ns.mote.session.until_ ≠ .none)
    (hleaves : LeavesRow A env w)
    (hor : w.progress = .LOCAL ∨ (receiveUplink A env.uplink w.ns).1 = .Success) :
    Queues (Addressed r) true w.ns (sNS_uplink A env.uplink w.ns).2 := by
  refine queues_sNS_uplink ?_ ?_
  · intro hexp hneg hmq
    obtain ⟨hjson, hfails⟩ := hleaves.1 hexp hneg hmq
    rcases hor with hlocal | hok
    · rw [hjson] at hlocal
      cases hlocal
    · rw [receiveUplink_verifies hlive, hfails] at hok
      cases hok
  · intro hok
    refine ⟨haddr ▸ stores_addressed r, ?_⟩
    intro hprunes t ht
    refine addressed_deleteOld fun hID => ?_
    exact hleaves.2 ((receiveUplink_verifies hlive).mp hok) hprunes t ht r hr hID

/-- The uplink that was handed to `sNS_uplink` is recorded with the session that was read for it. -/
theorem record_matches (h : WindowInv w) (hwaits : w.Waits) {ok : Bool} {ns' : NS}
    (hq : ok = true → ∀ r ∈ w.loaded, r.DevAddr = w.ns.mote.devAddr →
      w.ns.mote.session.until_ ≠ .none → Queues (Addressed r) true w.ns ns') :
    SessionsMatch (w.record ok ns') := by
  unfold SessionsMatch Window.record
  split
  · exact h.checks
  · rename_i hlive
    obtain ⟨r, hr, haddr, hnewest⟩ := h.session hwaits hlive
    intro c hc
    rcases List.mem_append.mp hc with hold | hnew
    · exact h.checks c hold
    · rw [List.mem_singleton.mp hnew]
      refine ⟨r, hr, ?_, ?_⟩
      · rw [haddr]
        exact (h.address hwaits).symm
      · intro t ht
        split at ht
        · rename_i hok
          exact ((hq hok r hr haddr hlive).newest hnewest).2 t ht
        · cases ht

@[simp] theorem seen_ns (w : Window) : w.seen.ns = w.ns := by
  unfold Window.seen
  split <;> rfl

@[simp] theorem seen_progress (w : Window) : w.seen.progress = w.progress := by
  unfold Window.seen
  split <;> rfl

@[simp] theorem seen_loaded (w : Window) : w.seen.loaded = w.loaded := by
  unfold Window.seen
  split <;> rfl

theorem waiting_seen (h : WindowInv w) (hlocal : w.progress = .LOCAL) : WindowInv w.seen := by
  have hchecks : SessionsMatch w.seen := by
    unfold Window.seen
    split
    · rename_i hdata
      have hopen : w.progress ≠ .OFF := by
        rw [hlocal]
        decide
      exact record_matches h ⟨hopen, h.kept hlocal, hdata⟩ (by rintro ⟨⟩)
    · exact h.checks
  refine ⟨hchecks, ?_, ?_, ?_⟩
  · rw [seen_ns, seen_progress]
    exact h.kept
  · unfold Window.Waits
    rw [seen_ns, seen_progress]
    exact h.address
  · unfold Window.Waits Window.Holds
    rw [seen_ns, seen_progress, seen_loaded]
    exact h.session

theorem waiting_finishJson {env : TickEnv} (h : WindowInv w) (hjson : w.progress = .JSON)
    (hc : w.Waits → ReadsNewest w ∧ ∀ w' ∈ w.load env, w'.isTaken env = true →
      w'.ns.mote.session.until_ ≠ .none → LeavesRow A env w') :
    WindowInv (w.finishJson A env) := by
  have hopen : w.progress ≠ .OFF := by
    rw [hjson]
    decide
  unfold Window.finishJson
  split
  · exact waiting_closed h.checks rfl rfl
  rename_i w' hload
  obtain ⟨h', hprogress, hbefore⟩ := waiting_load h hopen (fun hwaits => (hc hwaits).1) hload
  rw [hjson] at hprogress
  split
  · exact waiting_closed h'.checks rfl rfl
  split
  · exact waiting_closed h'.checks rfl rfl
  split
  · exact waiting_closed h'.checks rfl rfl
  split
  · rename_i htaken
    have hwaits : w'.Waits := by
      simp only [Window.isTaken, hprogress, Bool.and_eq_true, decide_eq_true_eq] at htaken
      exact ⟨by rw [hprogress]; decide, htaken.2.1, htaken.1⟩
    refine waiting_closed (record_matches h' hwaits ?_) rfl rfl
    intro hok r hr haddr hlive
    have hleaves := (hc (hbefore hwaits)).2 w' hload htaken hlive
    have hreceived : (receiveUplink A env.uplink w'.ns).1 = .Success :=
      (sNS_uplink_result env.uplink w'.ns).symm.trans (of_decide_eq_true hok)
    have huplink := queues_of_leavesRow hr haddr hlive hleaves (Or.inr hreceived)
    refine huplink.trans (queues_finishUplink env _ ?_)
    rw [huplink.devAddr, ← haddr]
    exact addressed_incrNFCntDown
  · exact waiting_closed h'.checks rfl rfl

theorem waiting_fNS_uplink_finish {env : TickEnv} (h : WindowInv w) (hlocal : w.progress = .LOCAL)
    (hleaves : w.Waits → w.isTaken env = true → w.ns.mote.session.until_ ≠ .none →
      LeavesRow A env w) : WindowInv (w.fNS_uplink_finish A env) := by
  have hseen := waiting_seen h hlocal
  have hleaves' : w.seen.Waits → w.seen.isTaken env = true →
      w.seen.ns.mote.session.until_ ≠ .none → LeavesRow A env w.seen := by
    unfold Window.Waits Window.isTaken LeavesRow at hleaves ⊢
    rw [seen_ns, seen_progress, seen_loaded]
    exact hleaves
  rw [← seen_progress] at hlocal
  unfold Window.fNS_uplink_finish
  dsimp only
  generalize w.seen = w at hseen hleaves' hlocal ⊢
  have hopen : w.progress ≠ .OFF := by
    rw [hlocal]
    decide
  have hlen := hseen.kept hlocal
  split
  · exact waiting_closed hseen.checks rfl rfl
  split
  · rename_i htaken
    have hwaits : w.Waits := by
      simp only [Window.isTaken, Bool.and_eq_true] at htaken
      exact ⟨hopen, hlen, htaken.1⟩
    have hany : Queues (fun _ => True) true w.ns (sNS_uplink A env.uplink w.ns).2 :=
      queues_sNS_uplink (fun _ _ _ => trivial) fun _ =>
        ⟨⟨fun _ => trivial, trivial, trivial⟩, fun _ _ _ => trivial⟩
    have hq : ∀ r ∈ w.loaded, r.DevAddr = w.ns.mote.devAddr →
        w.ns.mote.session.until_ ≠ .none →
        Queues (Addressed r) true w.ns (sNS_uplink A env.uplink w.ns).2 := by
      intro r hr haddr hlive
      exact queues_of_leavesRow hr haddr hlive (hleaves' hwaits htaken hlive) (Or.inl hlocal)
    exact waiting_queues hseen (record_matches hseen hwaits fun _ => hq) rfl (fun _ => hopen)
      (fun _ => hlen) (by rintro ⟨⟩) hany hq
  · exact waiting_queues hseen hseen.checks rfl (fun _ => hopen) (fun _ => hlen) (by rintro ⟨⟩)
      (.refl _) fun _ _ _ _ => .refl _

theorem waiting_finishLocal {env : TickEnv} (h : WindowInv w) (hlocal : w.progress = .LOCAL)
    (hc : w.Waits → ReadsNewest w ∧ ∀ w' ∈ w.load env, w'.isTaken env = true →
      w'.ns.mote.session.until_ ≠ .none → LeavesRow A env w') :
    WindowInv (w.finishLocal A env) := by
  have hopen : w.progress ≠ .OFF := by
    rw [hlocal]
    decide
  unfold Window.finishLocal
  split
  · exact waiting_closed h.checks rfl rfl
  rename_i w' hload
  obtain ⟨h', hprogress, hbefore⟩ := waiting_load h hopen (fun hwaits => (hc hwaits).1) hload
  rw [hlocal] at hprogress
  have hopen' : w'.progress ≠ .OFF := by
    rw [hprogress]
    decide
  have hlen := h'.kept hprogress
  split
  · exact waiting_closed h'.checks rfl rfl
  split
  · exact waiting_closed h'.checks rfl rfl
  split
  · refine waiting_queues h' h'.checks rfl (fun _ => hopen') (fun _ => hlen) (by rintro ⟨⟩)
      (queues_answerRStart env.rStart trivial) ?_
    intro r _ haddr _
    refine queues_answerRStart env.rStart ?_
    rw [← haddr]
    exact addressed_incrNFCntDown
  exact waiting_fNS_uplink_finish h' hprogress fun hwaits => (hc (hbefore hwaits)).2 w' hload

theorem waiting_tick {env : TickEnv} (h : WindowInv w) (hc : Undisturbing A w (.tick env)) :
    WindowInv (w.tick A env) := by
  unfold Window.tick
  split
  · exact h
  · rename_i hlocal
    exact waiting_finishLocal h hlocal hc
  · rename_i hjson
    exact waiting_finishJson h hjson hc

/-! ### Other events -/

theorem waiting_addressed (h : WindowInv w) (hsame : Queues (fun _ => True) false w.ns ns)
    (hq : ∀ r ∈ w.loaded, r.DevAddr = w.ns.mote.devAddr → w.ns.mote.session.until_ ≠ .none →
      Queues (Addressed r) false w.ns ns) : WindowInv { w with ns := ns } := by
  have hlen : ns.mote.ULPHYPayloadLen = w.ns.mote.ULPHYPayloadLen := by
    rcases hsame.ULPHYPayloadLen with hfalse | heq
    · cases hfalse
    · exact heq
  have hweaken : ∀ P : Statement → Prop, Queues P false w.ns ns → Queues P true w.ns ns :=
    fun P hP => { hP with ULPHYPayloadLen := Or.inl rfl }
  refine waiting_queues h h.checks rfl id ?_ ?_ (hweaken _ hsame) ?_
  · exact fun hne => hlen ▸ hne
  · exact fun hlocal => hlen ▸ h.kept hlocal
  · intro r hr haddr hlive
    exact hweaken _ (hq r hr haddr hlive)

theorem waiting_stores (h : WindowInv w)
    (hq : ∀ P : Statement → Prop, P (.incrNFCntDown w.ns.mote.devAddr) → Queues P false w.ns ns) :
    WindowInv { w with ns := ns } := by
  refine waiting_addressed h (hq _ trivial) fun r _ haddr _ => hq _ ?_
  rw [← haddr]
  exact addressed_incrNFCntDown

theorem waiting_joinAns (h : WindowInv w) {ans : JoinAnsEnv}
    (hc : w.Waits → LeavesSession ans w) :
    WindowInv { w with ns := hNs_to_sNS_JoinAns ans w.ns } := by
  by_cases hwaits : w.Waits
  · obtain ⟨hkeys, hleaves⟩ := hc hwaits
    refine waiting_addressed h (queues_joinAns hkeys fun _ _ _ _ => trivial) ?_
    intro r hr _ hlive
    refine queues_joinAns hkeys fun hremote hmq t ht => addressed_deleteOld fun hID => ?_
    exact hleaves hremote hmq hlive t ht r hr hID
  · obtain ⟨hbin, hlen⟩ := joinAns_frame ans w.ns
    have hno : ¬Window.Waits { w with ns := hNs_to_sNS_JoinAns ans w.ns } := by
      rintro ⟨hopen, hlen', hdata⟩
      dsimp only at hopen hlen' hdata
      rw [hlen] at hlen'
      rw [rxMType, hbin] at hdata
      exact hwaits ⟨hopen, hlen', hdata⟩
    refine ⟨h.checks, ?_, fun hwaits => absurd hwaits hno, fun hwaits => absurd hwaits hno⟩
    intro hlocal
    dsimp only
    rw [hlen]
    exact h.kept hlocal

theorem waiting_other (h : WindowInv w) {u : Statement}
    (hc : w.Waits → w.ns.mote.session.until_ ≠ .none → LeavesNewest w.ns u) :
    WindowInv { w with ns := handle A w.ns (.other u) } := by
  refine ⟨h.checks, h.kept, h.address, ?_⟩
  intro hwaits hlive
  obtain ⟨r, hr, haddr, hnewest⟩ := h.session hwaits hlive
  have hleaves := hc hwaits hlive
  refine ⟨r, hr, haddr, ?_⟩
  have hsettled : NS.settled (handle A w.ns (.other u)) =
      execute w.ns.settled (u.number w.ns.nextSerial) :=
    WriteBehind.Store.drained_enqueue execute w.ns.store _
  rw [hsettled]
  cases u with
  | insert row =>
    refine newest_execute hnewest ?_ fun _ _ => rfl
    intro row' hrow
    obtain rfl := Statement.insert.inj hrow
    rw [haddr]
    exact hleaves
  | setFCntUp n devAddr => exact newest_execute hnewest (by rintro _ ⟨⟩) fun _ _ => rfl
  | zeroNFCntDown devAddr => exact newest_execute hnewest (by rintro _ ⟨⟩) fun _ _ => rfl
  | incrNFCntDown devAddr => exact newest_execute hnewest (by rintro _ ⟨⟩) fun _ _ => rfl
  | deleteNeverUsed id =>
    refine newest_execute hnewest (by rintro _ ⟨⟩) ?_
    rw [haddr]
    exact hleaves
  | deleteOld id before =>
    refine newest_execute hnewest (by rintro _ ⟨⟩) ?_
    rw [haddr]
    exact hleaves

theorem waiting_writer (h : WindowInv w) : WindowInv { w with ns := handle A w.ns .writer } := by
  refine ⟨h.checks, h.kept, h.address, ?_⟩
  intro hwaits hlive
  obtain ⟨r, hr, haddr, hnewest⟩ := h.session hwaits hlive
  refine ⟨r, hr, haddr, ?_⟩
  show Newest r ((w.ns.store.writeNext execute).drained execute)
  rw [WriteBehind.Store.drained_writeNext]
  exact hnewest

theorem waiting_serve (h : WindowInv w) {e : Event} (hc : Undisturbing A w (.serve e)) :
    WindowInv (w.handle A (.serve e)) := by
  unfold Window.handle
  dsimp only
  split
  · rename_i helse
    cases e with
    | downlink env md payload => exact waiting_stores h fun P hP => queues_downlink env md payload hP
    | resend env failed => exact waiting_stores h fun P hP => queues_resend env failed hP
    | macCmds ops =>
      refine waiting_stores h fun P _ => ?_
      show Queues P false w.ns (queueMacCmds ops w.ns)
      exact queues_mapS _ _
    | joinAns ans => exact waiting_joinAns h hc
    | other u => exact waiting_other h hc
    | writer => exact waiting_writer h
    | window => cases helse
    | receive frame counter => cases helse
    | load byID sqlOk now => cases helse
    | uplink env => cases helse
    | rejoin junk => cases helse
    | send env => cases helse
    | joinReq devAddr => cases helse
    | address devAddr => cases helse
  · exact h

theorem waiting_step {e : WindowEvent} (h : WindowInv w) (hc : Undisturbing A w e) :
    WindowInv (w.step A e) := by
  unfold Window.step
  split
  · exact h
  · cases e with
    | gateway sq f => exact waiting_gateway h sq hc
    | request sq f => exact waiting_request h sq hc
    | FRMPayload devAddr payload => exact waiting_FRMPayload h devAddr payload hc
    | found devAddr => exact waiting_setDevAddr h hc
    | tick env => exact waiting_tick h hc
    | serve e => exact waiting_serve h hc

/-- In every run whose steps all meet the condition, the session that was read for an uplink has
the DevAddr of its frame, and the counters were stored for that session. -/
theorem sessions_match {rows : List SessionRow} {nextSerial ID devAddr : ℕ}
    {es : List WindowEvent}
    (hc : Machine.Along (Window.step A) (Undisturbing A) (.init rows nextSerial ID devAddr) es) :
    SessionsMatch (Machine.run (Window.step A) (.init rows nextSerial ID devAddr) es) := by
  have hinit : WindowInv (.init rows nextSerial ID devAddr) :=
    waiting_closed (w := .init rows nextSerial ID devAddr) (by intro c hc; cases hc) rfl rfl
  exact (Machine.run_invariant (Window.step A) (fun _ _ h hc => waiting_step h hc) hinit hc).checks

/-- The same uplink, heard by two gateways and by another network server. -/
def heardThrice : List WindowEvent :=
  let new := dataFrame rejoinedKey newDevAddr 1
  [.gateway 10 new, .gateway 5 new, .tick plainTick, .request (some 12) new, .tick plainTick]

theorem one_uplink_matches :
    let w := Machine.run (Window.step BlockCipher.xorKey) twoSessions heardThrice
    Machine.Along (Window.step BlockCipher.xorKey) (Undisturbing BlockCipher.xorKey) twoSessions
      heardThrice ∧ SessionsMatch w ∧
      w.checks = [⟨newDevAddr, some rejoinedSession, []⟩,
        ⟨newDevAddr, some rejoinedSession, [some 1]⟩] := by
  have hc : Machine.Along (Window.step BlockCipher.xorKey) (Undisturbing BlockCipher.xorKey)
      twoSessions heardThrice := by decide +kernel
  exact ⟨hc, sessions_match hc, by decide +kernel⟩

end Lorawan.NetworkServer

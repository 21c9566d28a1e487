import Lorawan.NetworkServer.MotesTable

/-!
# Refused requests to start roaming (network_server/common.c:136-231, 338-487, 1760-1826, 2257-2513)

`uplinkJson` looks the device up, and opens a window for its uplink when none is
open, before it asks whether the requesting network may start roaming with it. A
request that is refused then leaves the list as it was only when there was
nothing to do for either.
-/

namespace Lorawan.NetworkServer
open Lorawan Lorawan.Backend Backend.mtype_e

/-! ### The tables of the policy -/

/-- A row of `roaming`. -/
structure RoamingRow where
  NetID : Option ℕ
  PRAllowed : Bool
  HRAllowed : Bool
deriving DecidableEq

/-- A row of `ServiceProfiles`. -/
structure ServiceProfileRow where
  ServiceProfileID : ℕ
  PRAllowed : Bool
  HRAllowed : Bool
deriving DecidableEq

/-- A row of `DeviceProfiles`. -/
structure DeviceProfileRow where
  DeviceProfileID : ℕ
  timestamp : ℕ
deriving DecidableEq

/-- The tables, and which queries on them succeed. `sessions` has the newest session first, `scan`
is the order in which a query without `ORDER BY` returns the sessions. -/
structure PolicyDb where
  motes : List MotesRow
  sessions : List SessionRow
  scan : List SessionRow
  roaming : List RoamingRow
  serviceProfiles : List ServiceProfileRow
  deviceProfiles : List DeviceProfileRow
  roamingOk : Bool
  profilesOk : Bool
  scanOk : Bool
  timestampOk : Bool
  /-- `jsonGetDeviceProfile` succeeds. -/
  deviceProfileOk : Bool
  /-- What `isMotesAllowed` leaves in its output when there is no service profile. -/
  junk : Bool
deriving DecidableEq

/-- `motes`, as `getMote` reads it. -/
def PolicyDb.names (db : PolicyDb) : List MoteRow := db.motes.map fun r => ⟨r.ID, r.DevEUI⟩

/-- `isNetID`: `none` for -1. -/
def isNetID (db : PolicyDb) (NetID : ℕ) (col : RoamingRow → Bool) : Option Bool :=
  if db.roamingOk then (db.roaming.find? (·.NetID = some NetID)).map col else none

/-- `getMoteID`, with its result. -/
def moteIDOf (db : PolicyDb) (devEui devAddr : ℕ) : Except Result ℕ :=
  if devEui ≠ NONE_DEVEUI then
    if getMoteIDfromDevEUI db.names devEui = 0 then .error .UnknownDevEUI
    else .ok (getMoteIDfromDevEUI db.names devEui)
  else if getMoteID db.sessions devAddr = 0 then .error .UnknownDevAddr
  else .ok (getMoteID db.sessions devAddr)

def isMotesAllowed (db : PolicyDb) (devEui devAddr : ℕ) (col : ServiceProfileRow → Bool) :
    Except Result Bool :=
  match moteIDOf db devEui devAddr with
  | .error result => .error result
  | .ok id =>
    if db.profilesOk then
      .ok (((db.serviceProfiles.find? (·.ServiceProfileID = id)).map col).getD db.junk)
    else .error .Other

/-- `getDeviceProfileTimestamp`: `none` for -1. -/
def getDeviceProfileTimestamp (db : PolicyDb) (devEui devAddr : ℕ) : Option ℕ :=
  match getMotesWhere db.scanOk db.scan devEui devAddr with
  | .error _ => none
  | .ok cond =>
    if db.timestampOk then
      (db.deviceProfiles.find? fun p =>
        db.motes.any fun r => cond.holds r && decide (r.ID = p.DeviceProfileID)).map (·.timestamp)
    else none

/-! ### A request -/

/-- `frm` of `uplinkJson`. -/
inductive PayloadForm
  | PHYPayload
  | FRMPayload
  | neither
deriving DecidableEq

structure JsonReq where
  MessageType : ReqType
  clientID : ℕ
  form : PayloadForm
  payBuf : Octets
  payLen : ℕ
  /-- `DevEUI` and `DevAddr` of ULMetaData. -/
  DevEUI : Option ℕ
  DevAddr : Option ℕ
  DeviceProfileTimestamp : Option ℕ
  /-- ULMetaData as it is parsed: the signal of the best gateway, when there is a list of them. -/
  ulmd : Option (Option ℤ)
  /-- The uplink has a payload under an FPort above 0. -/
  forwards : Bool
deriving DecidableEq

def JsonReq.mtype (req : JsonReq) : mtype_e := MType (req.payBuf.headD 0)

def JsonReq.eui (req : JsonReq) (offset : ℕ) : ℕ := Octets.toNat (Octets.slice req.payBuf offset 8)

/-- What `GetMoteMtype` calls `getMote` with. -/
def JsonReq.GetMoteMtype (req : JsonReq) : Option (ℕ × ℕ) :=
  match req.mtype with
  | MTYPE_REJOIN_REQ =>
    if req.payBuf.getD 1 0 = 1 then some (req.eui 10, NONE_DEVADDR)
    else if req.payBuf.getD 1 0 = 2 ∨ req.payBuf.getD 1 0 = 0 then some (req.eui 5, NONE_DEVADDR)
    else none
  | MTYPE_JOIN_REQ => some (req.eui 9, NONE_DEVADDR)
  | MTYPE_UNCONF_UP | MTYPE_CONF_UP =>
    some (NONE_DEVEUI, Octets.toNat (Octets.slice req.payBuf 1 4))
  | _ => none

/-- The DevEUI and the DevAddr that `uplinkJson` looks up. -/
def JsonReq.named (req : JsonReq) : Option (ℕ × ℕ) :=
  match req.form with
  | .PHYPayload => req.GetMoteMtype
  | .FRMPayload =>
    if req.DevEUI.getD NONE_DEVEUI ≠ NONE_DEVEUI then
      some (req.DevEUI.getD NONE_DEVEUI, NONE_DEVADDR)
    else some (NONE_DEVEUI, req.DevAddr.getD NONE_DEVADDR)
  | .neither => none

def JsonReq.joinReq (req : JsonReq) : Bool :=
  decide (req.form = .PHYPayload) && decide (req.mtype = MTYPE_JOIN_REQ)

/-- What the request brings, when it is admitted. -/
def JsonReq.uplink (req : JsonReq) : JsonUplink :=
  match req.form with
  | .FRMPayload => .frm req.ulmd.isSome req.mtype req.forwards
  | _ => .phy req.ulmd.join req.mtype req.forwards

/-- The answer to a device that is not known. -/
def unknownDev (devEui : ℕ) : Result :=
  if devEui = NONE_DEVEUI then .UnknownDevAddr else .UnknownDevEUI

/-- The checks of HRStartReq and PRStartReq (common.c:2318-2410): `none` when it goes on. -/
def JsonReq.refusal (db : PolicyDb) (devEui devAddr : ℕ) (req : JsonReq) : Option Result :=
  match req.MessageType with
  | .HRStartReq =>
    if isNetID db req.clientID RoamingRow.HRAllowed ≠ some true then some .NoRoamingAgreement
    else
      match isMotesAllowed db devEui devAddr ServiceProfileRow.HRAllowed with
      | .error _ => some (unknownDev devEui)
      | .ok false => some .RoamingActDisallowed
      | .ok true =>
        match req.DeviceProfileTimestamp with
        | none => some .MalformedRequest
        | some t =>
          match getDeviceProfileTimestamp db devEui devAddr with
          | none => some .Other
          | some tdb =>
            if t < tdb then some (if db.deviceProfileOk then .StaleDeviceProfile else .Other)
            else none
  | .PRStartReq =>
    if isNetID db req.clientID RoamingRow.PRAllowed ≠ some true then some .NoRoamingAgreement
    else
      match isMotesAllowed db devEui devAddr ServiceProfileRow.PRAllowed with
      | .error _ => some (unknownDev devEui)
      | .ok false => some .RoamingActDisallowed
      | .ok true => none
  | .XmitDataReq | .other => none

/-! ### The list -/

/-- `mote_t`, as far as `uplinkJson` reads and writes it; times are in nanoseconds. -/
structure ListedMote where
  entry : MoteEntry
  session : Session
  first_uplink_host_time : ℤ
  release_uplink_host_time : ℤ
  /-- The tokens of `ulmd_local.gwList`. -/
  ulmd_local : List (List Char)
  roam : RoamMote
deriving DecidableEq

/-- `create_mote` -/
def ListedMote.new (devEui devAddr : ℕ) : ListedMote :=
  ⟨⟨devEui, devAddr, []⟩, .zero, 0, 0, [], .new⟩

/-- `mote_list` -/
abbrev MoteList := List (Option ListedMote)

def MoteList.entries (l : MoteList) : Motes := l.map (Option.map ListedMote.entry)

def MoteList.at (l : MoteList) (c : ℕ) : Option ListedMote := l[c]?.join

def MoteList.update (c : ℕ) (f : ListedMote → ListedMote) (l : MoteList) : MoteList :=
  l.modify c (Option.map f)

def ListedMote.setDevAddr (devAddr : ℕ) (m : ListedMote) : ListedMote :=
  { m with entry := { m.entry with devAddr := devAddr } }

/-- `create_mote` in the first empty element, else in a new one. -/
def MoteList.place (m : ListedMote) (l : MoteList) : MoteList × ℕ :=
  match l.findIdx? (·.isNone) with
  | some c => (l.set c (some m), c)
  | none => (l ++ [some m], l.length)

/-- The DevEUI of the session with the DevAddr, when none is given. -/
def PolicyDb.sought (db : PolicyDb) (devEui devAddr : ℕ) : ℕ :=
  resolvedDevEui (sessionDevEui true db.names db.sessions devAddr) devEui

def MoteList.getMote (db : PolicyDb) (devEui devAddr : ℕ) (l : MoteList) : MoteList × ℕ :=
  let devEui := db.sought devEui devAddr
  match findMote devEui devAddr l.entries with
  | some c =>
    if devEui ≠ NONE_DEVEUI ∧ devAddr ≠ NONE_DEVADDR then
      (l.update c (ListedMote.setDevAddr devAddr), c)
    else (l, c)
  | none => l.place (.new devEui devAddr)

/-- `REQUEST_WAITING_SECONDS_LOCAL` -/
def REQUEST_WAITING_NS_LOCAL : ℤ := 200000000

def save_uplink_start (now rx2_seconds : ℤ) (toState : Progress) (m : ListedMote) : ListedMote :=
  let start := if toState = .JSON then now - REQUEST_WAITING_NS_LOCAL else now
  { m with
    session := { m.session with until_ := .none }
    first_uplink_host_time := start
    release_uplink_host_time := start + rx2_seconds * 1000000000
    ulmd_local := []
    roam := { m.roam with
      requesterList := []
      bestR := none
      best_sq := INT_MIN
      progress := toState
      hasUplink := false } }

/-- The seconds for which the mote is blocked out. -/
def JsonReq.rx2s (dl_rxwin : ℕ) (req : JsonReq) : ℤ :=
  if dl_rxwin = 1 then if req.joinReq then 5 else 1 else if req.joinReq then 6 else 2

/-- What surrounds `uplinkJson`. -/
structure StartEnv where
  db : PolicyDb
  now : ℤ
  dl_rxwin : ℕ
deriving DecidableEq

/-- A window is opened when there is none. -/
def ListedMote.startWindow (env : StartEnv) (req : JsonReq) (m : ListedMote) : ListedMote :=
  if m.roam.progress = .OFF then save_uplink_start env.now (req.rx2s env.dl_rxwin) .JSON m else m

/-- ULMetaData is what the form of the payload asks for. -/
def JsonReq.parsed (req : JsonReq) : Bool :=
  match req.form with
  | .FRMPayload => req.ulmd.isSome
  | _ => req.ulmd.join.isSome

/-- `uplinkJson` for the mote that was found. -/
def ListedMote.uplinkJson (env : StartEnv) (req : JsonReq) (m : ListedMote) :
    Option Result × ListedMote :=
  let m := m.startWindow env req
  match req.refusal env.db m.entry.devEui m.entry.devAddr with
  | some result => (some result, m)
  | none =>
    (if req.parsed then none else some .MalformedRequest,
      { m with
        roam := NetworkServer.uplinkJson true req.MessageType req.clientID req.uplink m.roam })

/-- `uplinkJson`; no result when the answer comes later. -/
def MoteList.uplinkJson (env : StartEnv) (req : JsonReq) (l : MoteList) : Option Result × MoteList :=
  if req.payLen = 0 then (some .MalformedRequest, l)
  else
    match req.named with
    | none => (some .Other, l)
    | some (devEui, devAddr) =>
      let (l, c) := l.getMote env.db devEui devAddr
      match l.at c with
      | none => (some .Other, l)
      | some m =>
        ((m.uplinkJson env req).1, l.update c fun m => (m.uplinkJson env req).2)

/-! ### Two refused requests -/

/-- A network without an agreement asks for passive roaming, with an uplink of the sample address. -/
def foreignPRStart : JsonReq :=
  { MessageType := .PRStartReq
    clientID := 0x20
    form := .PHYPayload
    payBuf := [mhdr MTYPE_UNCONF_UP, 4, 3, 2, 1, 0, 1, 0, 1, 0xaa, 0, 0, 0, 0]
    payLen := 14
    DevEUI := none
    DevAddr := none
    DeviceProfileTimestamp := none
    ulmd := some (some 0)
    forwards := true }

def emptyDb : PolicyDb :=
  ⟨[], [], [], [], [], [], true, true, true, true, true, false⟩

/-- A device between two uplinks, with what the last one left. -/
def idleMote : ListedMote :=
  { ListedMote.new NONE_DEVEUI 0x01020304 with
    session := { Session.zero with until_ := .never }
    ulmd_local := ["0a0b".toList]
    roam := { RoamMote.new with
      requesterList := [some ⟨true, .XmitDataReq, 0x30, true⟩]
      best_sq := -20 } }

/-- Both requests are refused for want of an agreement. The first one leaves an entry for the
address, and the other one frees what the listed device had. -/
theorem refused_start_opens_window :
    MoteList.uplinkJson ⟨emptyDb, 0, 1⟩ foreignPRStart [] =
        (some .NoRoamingAgreement,
          [some (save_uplink_start 0 1 .JSON (.new NONE_DEVEUI 0x01020304))]) ∧
      MoteList.uplinkJson ⟨emptyDb, 0, 1⟩ foreignPRStart [some idleMote] =
        (some .NoRoamingAgreement, [some (save_uplink_start 0 1 .JSON idleMote)]) ∧
      save_uplink_start 0 1 .JSON idleMote ≠ idleMote := by
  decide +kernel

/-! ### Looking a device up -/

theorem at_update (c : ℕ) (f : ListedMote → ListedMote) (l : MoteList) :
    (l.update c f).at c = (l.at c).map f := by
  unfold MoteList.update MoteList.at
  rw [List.getElem?_modify_eq]
  cases l[c]? with
  | none => rfl
  | some slot => cases slot <;> rfl

theorem update_update (c : ℕ) (f g : ListedMote → ListedMote) (l : MoteList) :
    (l.update c f).update c g = l.update c (g ∘ f) := by
  unfold MoteList.update
  rw [List.modify_modify_eq]
  congr 1
  funext slot
  cases slot <;> rfl

theorem update_eq_self_iff (c : ℕ) (f : ListedMote → ListedMote) (l : MoteList) :
    l.update c f = l ↔ ∀ m, l.at c = some m → f m = m := by
  constructor
  · intro h m hm
    have hat := at_update c f l
    rw [h, hm] at hat
    exact (Option.some.inj hat).symm
  · intro h
    apply List.ext_getElem?
    intro i
    by_cases hi : c = i
    · subst hi
      unfold MoteList.update
      rw [List.getElem?_modify_eq]
      cases hslot : l[c]? with
      | none => rfl
      | some slot =>
        cases slot with
        | none => rfl
        | some m =>
          have hm : l.at c = some m := by rw [MoteList.at, hslot]; rfl
          simp [h m hm]
    · unfold MoteList.update
      rw [List.getElem?_modify_ne _ _ hi]

theorem at_of_findMote {devEui devAddr c : ℕ} {l : MoteList}
    (h : findMote devEui devAddr l.entries = some c) : ∃ m, l.at c = some m := by
  obtain ⟨hc, hnamed, -⟩ := List.findIdx?_eq_some_iff_getElem.mp h
  have hc' : c < l.length := by simpa [MoteList.entries] using hc
  cases hslot : l[c] with
  | none => simp [MoteList.entries, hslot] at hnamed
  | some m => exact ⟨m, by rw [MoteList.at, List.getElem?_eq_getElem hc', hslot]; rfl⟩

theorem at_place (m : ListedMote) (l : MoteList) :
    l.at (l.place m).2 = none ∧ (l.place m).1.at (l.place m).2 = some m := by
  unfold MoteList.place
  split
  · rename_i c hc
    obtain ⟨hlt, hnone, -⟩ := List.findIdx?_eq_some_iff_getElem.mp hc
    have hslot : l[c] = none := by simpa using hnone
    constructor
    · rw [MoteList.at, List.getElem?_eq_getElem hlt, hslot]
      rfl
    · rw [MoteList.at, List.getElem?_set_self hlt]
      rfl
  · constructor
    · simp [MoteList.at]
    · simp [MoteList.at]

theorem entries_update (c : ℕ) (f : ListedMote → ListedMote) (g : MoteEntry → MoteEntry)
    (hf : ∀ m, (f m).entry = g m.entry) (l : MoteList) :
    (l.update c f).entries = updateMote c g l.entries := by
  apply List.ext_getElem?
  intro i
  unfold MoteList.update MoteList.entries updateMote
  rw [List.getElem?_map, List.getElem?_modify, List.getElem?_modify, List.getElem?_map]
  cases l[i]? with
  | none => rfl
  | some slot =>
    by_cases hi : c = i
    · cases slot <;> simp [hi, hf]
    · simp [hi]

theorem entries_place (m : ListedMote) (l : MoteList) :
    ((l.place m).1.entries, (l.place m).2) = placeMote m.entry l.entries := by
  have hfind : l.entries.findIdx? (·.isNone) = l.findIdx? (·.isNone) := by
    rw [MoteList.entries, List.findIdx?_map]
    congr 1
    funext slot
    cases slot <;> rfl
  unfold MoteList.place placeMote
  rw [hfind]
  cases l.findIdx? (·.isNone) with
  | none => simp [MoteList.entries]
  | some c => simp [MoteList.entries, List.map_set]

theorem entries_getMote (db : PolicyDb) (devEui devAddr : ℕ) (l : MoteList) :
    ((l.getMote db devEui devAddr).1.entries, (l.getMote db devEui devAddr).2) =
      getMoteBetween (sessionDevEui true db.names db.sessions devAddr)
        (sessionDevEui true db.names db.sessions devAddr) devEui devAddr l.entries := by
  have hcreate : create_mote (sessionDevEui true db.names db.sessions devAddr)
      (db.sought devEui devAddr) devAddr = ⟨db.sought devEui devAddr, devAddr, []⟩ := by
    rw [create_mote, PolicyDb.sought]
    by_cases hnone : devEui = NONE_DEVEUI
    · rw [resolvedDevEui, if_pos hnone, ite_self]
    · rw [resolvedDevEui, if_neg hnone, if_neg hnone]
  simp only [MoteList.getMote, getMoteBetween]
  rw [← PolicyDb.sought, hcreate]
  cases findMote (db.sought devEui devAddr) devAddr l.entries with
  | none => exact entries_place _ l
  | some c =>
    dsimp only
    split
    · rw [entries_update c (ListedMote.setDevAddr devAddr)
        (fun e => { e with devAddr := devAddr }) fun _ => rfl]
    · rfl

/-! ### When nothing changes -/

/-- The condition: the request has no payload or names no device, or it is refused, for a device
that is listed under the address it is named by and whose window is open. -/
def RefusedInWindow (db : PolicyDb) (req : JsonReq) (l : MoteList) : Prop :=
  req.payLen = 0 ∨ req.named = none ∨
    ∃ devEui devAddr c m, req.named = some (devEui, devAddr) ∧
      findMote (db.sought devEui devAddr) devAddr l.entries = some c ∧
      l.at c = some m ∧
      (db.sought devEui devAddr ≠ NONE_DEVEUI ∧ devAddr ≠ NONE_DEVADDR →
        m.entry.devAddr = devAddr) ∧
      m.roam.progress ≠ .OFF ∧ (req.refusal db m.entry.devEui m.entry.devAddr).isSome

theorem entry_startWindow (env : StartEnv) (req : JsonReq) (m : ListedMote) :
    (m.startWindow env req).entry = m.entry := by
  unfold ListedMote.startWindow
  split <;> rfl

theorem entry_uplinkJson (env : StartEnv) (req : JsonReq) (m : ListedMote) :
    (m.uplinkJson env req).2.entry = m.entry := by
  unfold ListedMote.uplinkJson
  dsimp only
  split <;> exact entry_startWindow env req m

/-- An admitted request is entered in the list of requesters. -/
theorem requesterList_uplinkJson (MessageType : ReqType) (ClientID : ℕ) (u : JsonUplink)
    (s : RoamMote) :
    (NetworkServer.uplinkJson true MessageType ClientID u s).requesterList.length =
        (uplinkStart .JSON s).requesterList.length + 1 ∧
      (NetworkServer.uplinkJson true MessageType ClientID u s).progress =
        (uplinkStart .JSON s).progress := by
  unfold NetworkServer.uplinkJson
  dsimp only
  rw [if_neg (by simp)]
  split
  · exact ⟨List.length_append, rfl⟩
  · split <;> exact ⟨List.length_append, rfl⟩
  · split <;> exact ⟨List.length_append, rfl⟩

theorem uplinkJson_eq_self_iff (env : StartEnv) (req : JsonReq) (m : ListedMote) :
    (m.uplinkJson env req).2 = m ↔
      m.roam.progress ≠ .OFF ∧ (req.refusal env.db m.entry.devEui m.entry.devAddr).isSome := by
  unfold ListedMote.uplinkJson
  by_cases hoff : m.roam.progress = .OFF
  · have hopened : (m.startWindow env req).roam.progress = .JSON := by
      rw [ListedMote.startWindow, if_pos hoff]
      rfl
    simp only [hoff, ne_eq, not_true_eq_false, false_and, iff_false]
    intro h
    have hprogress := congrArg (fun m : ListedMote => m.roam.progress) h
    split at hprogress
    · rw [hopened, hoff] at hprogress
      cases hprogress
    · rw [(requesterList_uplinkJson ..).2, uplinkStart, if_neg (by simp [hopened]), hopened,
        hoff] at hprogress
      cases hprogress
  · have hopen : m.startWindow env req = m := by rw [ListedMote.startWindow, if_neg hoff]
    simp only [hopen, hoff, ne_eq, not_false_eq_true, true_and]
    cases hrefused : req.refusal env.db m.entry.devEui m.entry.devAddr with
    | some result => simp
    | none =>
      simp only [Option.isSome_none, Bool.false_eq_true, iff_false]
      intro h
      have hlen := congrArg (fun m : ListedMote => m.roam.requesterList.length) h
      dsimp only at hlen
      rw [(requesterList_uplinkJson ..).1, uplinkStart, if_neg hoff] at hlen
      omega

/-- The mote that was found, under the address it is named by. -/
def ListedMote.underName (devEui devAddr : ℕ) (m : ListedMote) : ListedMote :=
  if devEui ≠ NONE_DEVEUI ∧ devAddr ≠ NONE_DEVADDR then m.setDevAddr devAddr else m

theorem underName_eq_self_iff (devEui devAddr : ℕ) (m : ListedMote) :
    m.underName devEui devAddr = m ↔
      (devEui ≠ NONE_DEVEUI ∧ devAddr ≠ NONE_DEVADDR → m.entry.devAddr = devAddr) := by
  unfold ListedMote.underName
  split
  · rename_i hnamed
    constructor
    · intro h _
      exact (congrArg (fun m : ListedMote => m.entry.devAddr) h).symm
    · intro h
      rw [ListedMote.setDevAddr, ← h hnamed]
  · rename_i hnamed
    exact ⟨fun _ h => absurd h hnamed, fun _ => rfl⟩

theorem getMote_found {db : PolicyDb} {devEui devAddr c : ℕ} {l : MoteList}
    (h : findMote (db.sought devEui devAddr) devAddr l.entries = some c) :
    l.getMote db devEui devAddr = (l.update c
      (ListedMote.underName (db.sought devEui devAddr) devAddr), c) := by
  simp only [MoteList.getMote, h]
  split
  · rename_i hnamed
    congr 2
    funext m
    rw [ListedMote.underName, if_pos hnamed]
  · rename_i hnamed
    have hsame := (update_eq_self_iff c
      (ListedMote.underName (db.sought devEui devAddr) devAddr) l).mpr
        fun m _ => if_neg hnamed
    rw [hsame]

theorem uplinkJson_underName_iff (env : StartEnv) (req : JsonReq) (devEui devAddr : ℕ)
    (m : ListedMote) :
    ((m.underName devEui devAddr).uplinkJson env req).2 = m ↔
      (devEui ≠ NONE_DEVEUI ∧ devAddr ≠ NONE_DEVADDR → m.entry.devAddr = devAddr) ∧
        m.roam.progress ≠ .OFF ∧ (req.refusal env.db m.entry.devEui m.entry.devAddr).isSome := by
  rw [← underName_eq_self_iff, ← uplinkJson_eq_self_iff]
  constructor
  · intro h
    have hentry : (m.underName devEui devAddr).entry = m.entry := by
      rw [← entry_uplinkJson env req, h]
    have hname : m.underName devEui devAddr = m := by
      rw [underName_eq_self_iff]
      intro hnamed
      rw [ListedMote.underName, if_pos hnamed] at hentry
      exact (congrArg MoteEntry.devAddr hentry).symm
    rw [hname] at h
    exact ⟨hname, h⟩
  · rintro ⟨hname, h⟩
    rw [hname, h]

theorem uplinkJson_inert_iff (env : StartEnv) (req : JsonReq) (l : MoteList) :
    (l.uplinkJson env req).2 = l ↔ RefusedInWindow env.db req l := by
  unfold MoteList.uplinkJson RefusedInWindow
  by_cases hlen : req.payLen = 0
  · simp [hlen]
  · cases hnamed : req.named with
    | none => simp [hlen]
    | some name =>
      obtain ⟨devEui, devAddr⟩ := name
      simp only [hlen, if_false, false_or, reduceCtorEq, Option.some.injEq, Prod.mk.injEq]
      cases hfind : findMote (env.db.sought devEui devAddr) devAddr
          l.entries with
      | none =>
        obtain ⟨hempty, hplaced⟩ := at_place
          (.new (env.db.sought devEui devAddr) devAddr) l
        constructor
        · intro h
          -- the new entry is there, where none was
          simp only [MoteList.getMote, hfind, hplaced] at h
          have hat := congrArg (fun l' => MoteList.at l' (l.place
            (.new (env.db.sought devEui devAddr) devAddr)).2) h
          simp only [at_update, hplaced, hempty, Option.map_some, reduceCtorEq] at hat
        · rintro ⟨devEui', devAddr', c, m, ⟨rfl, rfl⟩, hc, -⟩
          rw [hfind] at hc
          cases hc
      | some c =>
        obtain ⟨m, hm⟩ := at_of_findMote hfind
        rw [getMote_found hfind]
        simp only [at_update, hm, Option.map_some, update_update, update_eq_self_iff,
          Option.some.injEq, forall_eq', Function.comp_apply, uplinkJson_underName_iff]
        constructor
        · intro h
          exact ⟨devEui, devAddr, c, m, ⟨rfl, rfl⟩, hfind, hm, h⟩
        · rintro ⟨devEui', devAddr', c', m', ⟨rfl, rfl⟩, hc, hm', h⟩
          obtain rfl : c = c' := Option.some.inj (hfind.symm.trans hc)
          obtain rfl : m = m' := Option.some.inj (hm.symm.trans hm')
          exact h

end Lorawan.NetworkServer

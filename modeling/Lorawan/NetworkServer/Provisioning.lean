import Lorawan.Lib.Transaction
import Mathlib.Data.Rat.Defs

/-!
# Provisioning (network_server/web.c:2550-3297, structure.sql:190-420)

The web page adds motes and their profiles, edits the profiles and deletes motes.
`motes` is a MyISAM table, which has no transactions; the other tables are InnoDB.
Text columns that are only stored are kept as they are printed into the query.
-/

namespace Lorawan.NetworkServer.Provisioning
open Lorawan Lorawan.Database

/-! ### The tables -/

structure DeviceProfile where
  RFRegion : List Char
  RXDROffset1 : ℕ
  RXDataRate2 : ℕ
  RXFreq2 : ℚ
  PingSlotDR : ℕ
  PingSlotFreq : ℚ
  /-- The other columns. -/
  columns : List (List Char)
deriving DecidableEq

structure ServiceProfile where
  ULRatePolicy : List Char
  DLRatePolicy : List Char
  ChannelMask : List Char
  /-- The other columns. -/
  columns : List (List Char)
deriving DecidableEq

structure DeviceRow where
  DeviceProfileID : ℕ
  profile : DeviceProfile
  timestamp : ℕ
deriving DecidableEq

structure ServiceRow where
  ServiceProfileID : ℕ
  profile : ServiceProfile
deriving DecidableEq

structure RoutingRow where
  RoutingProfileID : ℕ
  AS_ID : List Char
deriving DecidableEq

structure SessionsRow where
  ID : ℕ
  DevAddr : ℕ
deriving DecidableEq

@[ext] structure Tables where
  sessions : List SessionsRow
  DeviceProfiles : List DeviceRow
  ServiceProfiles : List ServiceRow
  RoutingProfiles : List RoutingRow
deriving DecidableEq

structure MoteRow where
  ID : ℕ
  DevEUI : Option ℕ
  fwdToNetID : Option ℕ
deriving DecidableEq

/-- `motes`; its `ID` is `AUTO_INCREMENT`, which starts at one. -/
structure Motes where
  rows : List MoteRow
  AUTO_INCREMENT : ℕ
  pos : 0 < AUTO_INCREMENT
  fresh : ∀ r ∈ rows, 0 < r.ID ∧ r.ID < AUTO_INCREMENT
deriving DecidableEq

def Motes.insert (DevEUI fwdToNetID : Option ℕ) (m : Motes) : Motes where
  rows := m.rows ++ [⟨m.AUTO_INCREMENT, DevEUI, fwdToNetID⟩]
  AUTO_INCREMENT := m.AUTO_INCREMENT + 1
  pos := Nat.succ_pos _
  fresh := by
    intro r hr
    rcases List.mem_append.mp hr with hold | hnew
    · exact ⟨(m.fresh r hold).1, Nat.lt_succ_of_lt (m.fresh r hold).2⟩
    · rw [List.mem_singleton.mp hnew]
      exact ⟨m.pos, Nat.lt_succ_self _⟩

def Motes.delete (mote_id : ℕ) (m : Motes) : Motes where
  rows := m.rows.filter (·.ID ≠ mote_id)
  AUTO_INCREMENT := m.AUTO_INCREMENT
  pos := m.pos
  fresh := fun r hr => m.fresh r (List.mem_filter.mp hr).1

abbrev Db := Connection Tables Motes

/-- The statements; a call makes each of them once at most. -/
inductive Query
  | selectSession
  | selectMote
  | insertMote
  | insertSession
  | BEGIN
  | insertDeviceProfile
  | insertServiceProfile
  | insertRoutingProfile
  | updateDeviceProfile
  | updateTimestamp
  | updateServiceProfile
  | updateRoutingProfile
  | deleteDeviceProfile
  | deleteServiceProfile
  | deleteRoutingProfile
  | deleteMote
  | deleteSessions
  | COMMIT
deriving DecidableEq

/-- The defaults of `regional_t` that `insertDeviceProfile` reads. -/
structure Region where
  RFRegion : List Char
  Rx1DrOffset : ℕ
  Rx2FrequencyHz : ℕ
  Rx2Datarate : ℕ
  ping_freq_hz : ℕ
  ping_dr : ℕ
deriving DecidableEq

/-- The members of `appInfo_t`; an empty string is `none`, and so is the NetID `NULL`. -/
structure appInfo_t where
  DevEUIstr : Option ℕ
  devAddrStr : Option ℕ
  NetIDstr : Option ℕ
  moteID : ℕ
  DeviceProfile : DeviceProfile
  ServiceProfile : ServiceProfile
  AS_ID : List Char
deriving DecidableEq

/-- `getTarget`: the DevEUI, else the DevAddr. -/
inductive Target
  | DevEUI (devEui : ℕ)
  | DevAddr (devAddr : ℕ)
deriving DecidableEq

variable (region_list : List Region) (ok : Query → Bool) (now : ℕ)

abbrev Statements := List (Bool × Write Tables Motes)

/-! ### Looking up a mote -/

/-- The first row of a table that a `SELECT` finds. -/
def select {α : Type} (answered : Bool) (rows : List α) (p : α → Bool) : Option α :=
  if answered then rows.find? p else none

/-- `newProfiles` (web.c:3081-3101): the ID that `strGetMotesWhere` leads to. -/
def existingMote (ai : appInfo_t) (c : Db) : Option ℕ :=
  match ai.DevEUIstr, ai.devAddrStr with
  | some devEui, _ => (select (ok .selectMote) c.direct.rows (·.DevEUI = some devEui)).map (·.ID)
  | none, none => none
  | none, some devAddr =>
    (select (ok .selectSession) c.view.sessions (·.DevAddr = devAddr)).bind fun session =>
      (select (ok .selectMote) c.direct.rows (·.ID = session.ID)).map (·.ID)

/-- `deleteMote` (web.c:3229-3257): the ID of the mote, or of the session. -/
def targetMote (target : Target) (c : Db) : Option ℕ :=
  match target with
  | .DevEUI devEui => (select (ok .selectMote) c.direct.rows (·.DevEUI = some devEui)).map (·.ID)
  | .DevAddr devAddr =>
    (select (ok .selectSession) c.view.sessions (·.DevAddr = devAddr)).map (·.ID)

/-! ### Adding -/

/-- `addMote` (web.c:2791-2867); zero is failure. -/
def addMote (ai : appInfo_t) (c : Db) : ℕ × Db :=
  if ai.DevEUIstr = none ∧ ai.devAddrStr = none then (0, c)
  else if ok .insertMote = false then (0, c)
  else
    let id := c.direct.AUTO_INCREMENT
    let c := c.write (.direct (Motes.insert ai.DevEUIstr ai.NetIDstr))
    match ai.devAddrStr with
    | none => (id, c)
    | some devAddr =>
      if ok .insertSession then
        (id, c.write (.tables fun t => { t with sessions := t.sessions ++ [⟨id, devAddr⟩] }))
      else (0, c)

/-- web.c:2944-2966: the defaults of the region. -/
def withDefaults (dp : DeviceProfile) : DeviceProfile :=
  match region_list.find? (·.RFRegion = dp.RFRegion) with
  | none => dp
  | some rp =>
    { dp with
      RXDROffset1 := rp.Rx1DrOffset
      RXFreq2 := rp.Rx2FrequencyHz / 1000000
      RXDataRate2 := rp.Rx2Datarate
      PingSlotFreq := if rp.ping_freq_hz ≠ 0 then rp.ping_freq_hz else dp.PingSlotFreq
      PingSlotDR := rp.ping_dr }

def insertDeviceProfile (dp : DeviceProfile) (id : ℕ) (t : Tables) : Tables :=
  { t with DeviceProfiles := t.DeviceProfiles ++ [⟨id, withDefaults region_list dp, now⟩] }

/-- The lengths that `insertServiceProfile` refuses (web.c:2556-2567). -/
def fits (sp : ServiceProfile) : Bool :=
  decide (sp.ULRatePolicy.length ≤ 16) && decide (sp.DLRatePolicy.length ≤ 16) &&
    decide (sp.ChannelMask.length ≤ 32)

def insertServiceProfile (sp : ServiceProfile) (id : ℕ) (t : Tables) : Tables :=
  { t with ServiceProfiles := t.ServiceProfiles ++ [⟨id, sp⟩] }

def insertRoutingProfile (AS_ID : List Char) (id : ℕ) (t : Tables) : Tables :=
  { t with RoutingProfiles := t.RoutingProfiles ++ [⟨id, AS_ID⟩] }

/-- web.c:3110-3133. -/
def insertProfiles (ai : appInfo_t) (m_id : ℕ) : Statements :=
  [(ok .insertDeviceProfile, .tables (insertDeviceProfile region_list now ai.DeviceProfile m_id)),
    (fits ai.ServiceProfile && ok .insertServiceProfile,
      .tables (insertServiceProfile ai.ServiceProfile m_id)),
    (ok .insertRoutingProfile, .tables (insertRoutingProfile ai.AS_ID m_id))]

/-- `newProfiles` (web.c:3057-3141); the result is whether it returns zero. -/
def newProfiles (newMote : Bool) (ai : appInfo_t) (c : Db) : Db × Bool :=
  if newMote then
    let (m_id, c) := addMote ok ai c
    c.transaction (ok .BEGIN) (insertProfiles region_list ok now ai m_id) (ok .COMMIT)
  else
    match existingMote ok ai c with
    | none => (c, false)
    | some m_id =>
      c.transaction (ok .BEGIN) (insertProfiles region_list ok now ai m_id) (ok .COMMIT)

/-! ### Editing -/

/-- The `UPDATE` of the profile: the timestamp of a row that changes is set as well. -/
def updateDeviceRows (dp : DeviceProfile) (id : ℕ) (t : Tables) : Tables :=
  { t with DeviceProfiles := t.DeviceProfiles.map fun r =>
      if r.DeviceProfileID = id ∧ r.profile ≠ dp then ⟨r.DeviceProfileID, dp, now⟩ else r }

/-- `UPDATE DeviceProfiles SET timestamp = CURRENT_TIMESTAMP()`: all rows. -/
def touchDeviceRows (t : Tables) : Tables :=
  { t with DeviceProfiles := t.DeviceProfiles.map fun r => { r with timestamp := now } }

/-- The `UPDATE` affects no row. -/
def unaffected (dp : DeviceProfile) (id : ℕ) (t : Tables) : Bool :=
  t.DeviceProfiles.all fun r => decide (r.DeviceProfileID = id → r.profile = dp)

/-- `updateDeviceProfile` (web.c:2870-2935), which finds the tables `t`. -/
def updateDeviceProfile (dp : DeviceProfile) (id : ℕ) (t : Tables) : Statements :=
  (ok .updateDeviceProfile, .tables (updateDeviceRows now dp id)) ::
    if unaffected dp id t then [(ok .updateTimestamp, .tables (touchDeviceRows now))] else []

def updateServiceProfile (sp : ServiceProfile) (id : ℕ) (t : Tables) : Tables :=
  { t with ServiceProfiles := t.ServiceProfiles.map fun r =>
      if r.ServiceProfileID = id then { r with profile := sp } else r }

def updateRoutingProfile (AS_ID : List Char) (id : ℕ) (t : Tables) : Tables :=
  { t with RoutingProfiles := t.RoutingProfiles.map fun r =>
      if r.RoutingProfileID = id then { r with AS_ID := AS_ID } else r }

/-- `updateProfiles` (web.c:2696-2789). -/
def updateProfiles (ai : appInfo_t) (c : Db) : Db × Bool :=
  c.transaction (ok .BEGIN)
    (updateDeviceProfile ok now ai.DeviceProfile ai.moteID c.view ++
      [(ok .updateServiceProfile, .tables (updateServiceProfile ai.ServiceProfile ai.moteID)),
        (ok .updateRoutingProfile, .tables (updateRoutingProfile ai.AS_ID ai.moteID))])
    (ok .COMMIT)

/-! ### Deleting -/

def deleteDeviceProfile (id : ℕ) (t : Tables) : Tables :=
  { t with DeviceProfiles := t.DeviceProfiles.filter (·.DeviceProfileID ≠ id) }

def deleteServiceProfile (id : ℕ) (t : Tables) : Tables :=
  { t with ServiceProfiles := t.ServiceProfiles.filter (·.ServiceProfileID ≠ id) }

def deleteRoutingProfile (id : ℕ) (t : Tables) : Tables :=
  { t with RoutingProfiles := t.RoutingProfiles.filter (·.RoutingProfileID ≠ id) }

def deleteSessions (id : ℕ) (t : Tables) : Tables :=
  { t with sessions := t.sessions.filter (·.ID ≠ id) }

/-- web.c:3264-3289. -/
def deletes (mote_id : ℕ) : Statements :=
  [(ok .deleteDeviceProfile, .tables (deleteDeviceProfile mote_id)),
    (ok .deleteServiceProfile, .tables (deleteServiceProfile mote_id)),
    (ok .deleteRoutingProfile, .tables (deleteRoutingProfile mote_id)),
    (ok .deleteMote, .direct (Motes.delete mote_id)),
    (ok .deleteSessions, .tables (deleteSessions mote_id))]

/-- `deleteMote` (web.c:3214-3297). -/
def deleteMote (target : Target) (c : Db) : Db × Bool :=
  match targetMote ok target c with
  | none => (c, false)
  | some mote_id => c.transaction (ok .BEGIN) (deletes ok mote_id) (ok .COMMIT)

/-! ### All or nothing -/

inductive Operation
  | newMote (ai : appInfo_t)
  | addProfiles (ai : appInfo_t)
  | updateProfiles (ai : appInfo_t)
  | deleteMote (target : Target)
deriving DecidableEq

def perform (c : Db) : Operation → Db × Bool
  | .newMote ai => newProfiles region_list ok now true ai c
  | .addProfiles ai => newProfiles region_list ok now false ai c
  | .updateProfiles ai => updateProfiles ok now ai c
  | .deleteMote target => deleteMote ok target c

/-- The rows of the three profiles under an ID. -/
def profileRows (id : ℕ) (t : Tables) : ℕ × ℕ × ℕ :=
  (t.DeviceProfiles.countP (·.DeviceProfileID = id),
    t.ServiceProfiles.countP (·.ServiceProfileID = id),
    t.RoutingProfiles.countP (·.RoutingProfileID = id))

def Motes.Has (m : Motes) (id : ℕ) : Prop := ∃ r ∈ m.rows, r.ID = id

/-- One row of each profile for a mote that exists, none for another. -/
def Uniform (id : ℕ) (m : Motes) (t : Tables) : Prop :=
  (m.Has id → profileRows id t = (1, 1, 1)) ∧ (¬m.Has id → profileRows id t = (0, 0, 0))

/-- What an operation that succeeds leaves, for the ID it wrote. -/
def Done (c c' : Db) : Operation → Prop
  | .newMote ai => c'.direct.Has (addMote ok ai c).1 ∧
      profileRows (addMote ok ai c).1 c'.committed = (1, 1, 1)
  | .addProfiles ai => ∀ id, existingMote ok ai c = some id →
      c'.direct.Has id ∧ profileRows id c'.committed = (1, 1, 1)
  | .updateProfiles ai => Uniform ai.moteID c'.direct c'.committed
  | .deleteMote target => ∀ id, targetMote ok target c = some id →
      ¬c'.direct.Has id ∧ profileRows id c'.committed = (0, 0, 0)

/-- A failure leaves the tables as they were, a success leaves what was asked for. -/
def AllOrNothing (c : Db) (op : Operation) : Prop :=
  ((perform region_list ok now c op).2 = false → Kept c (perform region_list ok now c op).1) ∧
    ((perform region_list ok now c op).2 = true →
      Done ok c (perform region_list ok now c op).1 op)

/-! ### When it is so -/

/-- No statement of the transaction fails that adds the profiles. -/
def AddsProfiles (ai : appInfo_t) : Prop :=
  ok .BEGIN ∧ ok .insertDeviceProfile ∧ fits ai.ServiceProfile ∧ ok .insertServiceProfile ∧
    ok .insertRoutingProfile ∧ ok .COMMIT

/-- `addMote` inserts a row into `motes`. -/
def InsertsMote (ai : appInfo_t) : Prop :=
  (ai.DevEUIstr ≠ none ∨ ai.devAddrStr ≠ none) ∧ ok .insertMote

/-- .. and succeeds. -/
def AddsMote (ai : appInfo_t) : Prop :=
  InsertsMote ok ai ∧ (ai.devAddrStr ≠ none → ok .insertSession)

/-- Each table that is written before a statement fails holds the values already. -/
def UpToDate (ai : appInfo_t) (t : Tables) : Prop :=
  ok .updateDeviceProfile → unaffected ai.DeviceProfile ai.moteID t ∧
    (ok .updateTimestamp → (∀ r ∈ t.DeviceProfiles, r.timestamp = now) ∧
      (ok .updateServiceProfile → (∀ r ∈ t.ServiceProfiles, r.ServiceProfileID = ai.moteID →
          r.profile = ai.ServiceProfile) ∧
        (ok .updateRoutingProfile → ∀ r ∈ t.RoutingProfiles, r.RoutingProfileID = ai.moteID →
          r.AS_ID = ai.AS_ID)))

def UpdatesAll (ai : appInfo_t) (t : Tables) : Prop :=
  ok .BEGIN ∧ ok .updateDeviceProfile ∧
    (unaffected ai.DeviceProfile ai.moteID t → ok .updateTimestamp) ∧
    ok .updateServiceProfile ∧ ok .updateRoutingProfile ∧ ok .COMMIT

/-- Each table that a `DELETE` reaches before one fails has no row of the mote. -/
def NothingToDelete (id : ℕ) (m : Motes) (t : Tables) : Prop :=
  ok .deleteDeviceProfile → (∀ r ∈ t.DeviceProfiles, r.DeviceProfileID ≠ id) ∧
    (ok .deleteServiceProfile → (∀ r ∈ t.ServiceProfiles, r.ServiceProfileID ≠ id) ∧
      (ok .deleteRoutingProfile → (∀ r ∈ t.RoutingProfiles, r.RoutingProfileID ≠ id) ∧
        (ok .deleteMote → ¬m.Has id ∧
          (ok .deleteSessions → ∀ r ∈ t.sessions, r.ID ≠ id))))

def DeletesAll : Prop :=
  ok .BEGIN ∧ ok .deleteDeviceProfile ∧ ok .deleteServiceProfile ∧ ok .deleteRoutingProfile ∧
    ok .deleteMote ∧ ok .deleteSessions ∧ ok .COMMIT

/-- Nothing fails and the mote has the rows the operation assumes, or what fails comes before
the first change; then no changes may wait in a transaction that is still open. -/
def Works (c : Db) : Operation → Prop
  | .newMote ai =>
    (AddsProfiles ok ai → AddsMote ok ai ∧
        profileRows c.direct.AUTO_INCREMENT c.view = (0, 0, 0)) ∧
      (¬AddsProfiles ok ai → ¬InsertsMote ok ai ∧ (ok .BEGIN → ¬ok .insertDeviceProfile) ∧
        c.view = c.committed)
  | .addProfiles ai =>
    match existingMote ok ai c with
    | none => c.view = c.committed
    | some id =>
      (AddsProfiles ok ai → profileRows id c.view = (0, 0, 0)) ∧
        (¬AddsProfiles ok ai → (ok .BEGIN → ¬ok .insertDeviceProfile) ∧ c.view = c.committed)
  | .updateProfiles ai =>
    (UpdatesAll ok ai c.view → Uniform ai.moteID c.direct c.view) ∧
      (¬UpdatesAll ok ai c.view → (ok .BEGIN → UpToDate ok now ai c.view) ∧
        c.view = c.committed)
  | .deleteMote target =>
    match targetMote ok target c with
    | none => c.view = c.committed
    | some id => DeletesAll ok ∨
        (ok .BEGIN → NothingToDelete ok id c.direct c.view) ∧ c.view = c.committed

/-! ### Adding profiles -/

theorem allOk_insertProfiles_iff (ai : appInfo_t) (id : ℕ) :
    AllOk (ok .BEGIN) (insertProfiles region_list ok now ai id) (ok .COMMIT) ↔
      AddsProfiles ok ai := by
  simp only [AllOk, insertProfiles, AddsProfiles, List.all_cons, List.all_nil, Bool.and_eq_true,
    Bool.and_true]
  tauto

theorem applyAll_insertProfiles {ai : appInfo_t} (h : AddsProfiles ok ai) (id : ℕ) (t : Tables)
    (m : Motes) : applyAll (executed (insertProfiles region_list ok now ai id)) (t, m) =
      (insertRoutingProfile ai.AS_ID id (insertServiceProfile ai.ServiceProfile id
        (insertDeviceProfile region_list now ai.DeviceProfile id t)), m) := by
  obtain ⟨-, hdevice, hfits, hservice, hrouting, -⟩ := h
  simp [insertProfiles, hdevice, hfits, hservice, hrouting, Write.apply]

theorem profileRows_insert (dp : DeviceProfile) (sp : ServiceProfile) (AS_ID : List Char)
    (id : ℕ) (t : Tables) :
    profileRows id (insertRoutingProfile AS_ID id (insertServiceProfile sp id
        (insertDeviceProfile region_list now dp id t))) =
      ((profileRows id t).1 + 1, (profileRows id t).2.1 + 1, (profileRows id t).2.2 + 1) := by
  simp [profileRows, insertRoutingProfile, insertServiceProfile, insertDeviceProfile]

theorem length_insertProfiles (ai : appInfo_t) (h : ok .insertDeviceProfile) (id : ℕ) (t : Tables)
    (m : Motes) :
    (applyAll (executed (insertProfiles region_list ok now ai id)) (t, m)).1.DeviceProfiles.length =
      t.DeviceProfiles.length + 1 := by
  unfold insertProfiles
  rw [h, executed_true, applyAll_cons]
  -- the later statements write other tables
  refine (applyAll_keeps (fun x : Tables × Motes => x.1.DeviceProfiles.length) ?_ _).trans ?_
  · simp [Write.apply, insertServiceProfile, insertRoutingProfile]
  · simp [Write.apply, insertDeviceProfile]

theorem insertProfiles_succeeds {ai : appInfo_t} (h : AddsProfiles ok ai) (id : ℕ) (c : Db) :
    (c.transaction (ok .BEGIN) (insertProfiles region_list ok now ai id) (ok .COMMIT)).2 = true ∧
      (c.transaction (ok .BEGIN) (insertProfiles region_list ok now ai id)
        (ok .COMMIT)).1.direct = c.direct ∧
      (profileRows id (c.transaction (ok .BEGIN) (insertProfiles region_list ok now ai id)
        (ok .COMMIT)).1.committed = (1, 1, 1) ↔ profileRows id c.view = (0, 0, 0)) := by
  have hall := (allOk_insertProfiles_iff region_list ok now ai id).mpr h
  refine ⟨(transaction_succeeds_iff c _ _ _).mpr hall, ?_⟩
  rw [transaction_of_allOk c hall, applyAll_insertProfiles region_list ok now h]
  refine ⟨rfl, ?_⟩
  rw [profileRows_insert]
  simp [Prod.ext_iff]

theorem insertProfiles_fails {ai : appInfo_t} (h : ¬AddsProfiles ok ai) (id : ℕ) (c : Db) :
    (c.transaction (ok .BEGIN) (insertProfiles region_list ok now ai id)
        (ok .COMMIT)).2 = false ∧
      (Kept c (c.transaction (ok .BEGIN) (insertProfiles region_list ok now ai id)
        (ok .COMMIT)).1 ↔ (ok .BEGIN → ¬ok .insertDeviceProfile) ∧ c.view = c.committed) := by
  have hall := mt (allOk_insertProfiles_iff region_list ok now ai id).mp h
  refine ⟨?_, ?_⟩
  · exact Bool.eq_false_iff.mpr (mt (transaction_succeeds_iff c _ _ _).mp hall)
  · rw [kept_transaction_iff c hall, and_comm]
    refine and_congr_left fun _ => imp_congr_right fun _ => ?_
    constructor
    · intro heq hdevice
      have hlen := length_insertProfiles region_list ok now ai hdevice id c.view c.direct
      rw [heq] at hlen
      exact Nat.succ_ne_self _ hlen.symm
    · intro hdevice
      rw [Bool.not_eq_true] at hdevice
      simp [insertProfiles, hdevice]

/-! ### New motes -/

theorem Motes.not_has_zero (m : Motes) : ¬m.Has 0 := by
  rintro ⟨r, hr, hid⟩
  have := (m.fresh r hr).1
  omega

theorem Motes.insert_has (m : Motes) (DevEUI fwdToNetID : Option ℕ) :
    (m.insert DevEUI fwdToNetID).Has m.AUTO_INCREMENT :=
  ⟨⟨m.AUTO_INCREMENT, DevEUI, fwdToNetID⟩, List.mem_append_right _ List.mem_cons_self, rfl⟩

theorem Motes.insert_ne (m : Motes) (DevEUI fwdToNetID : Option ℕ) :
    m.insert DevEUI fwdToNetID ≠ m := by
  intro h
  have hai := congrArg Motes.AUTO_INCREMENT h
  exact Nat.succ_ne_self _ hai

@[simp] theorem write_direct_direct (c : Db) (f : Motes → Motes) :
    (c.write (.direct f)).direct = f c.direct := rfl

@[simp] theorem write_tables_direct (c : Db) (f : Tables → Tables) :
    (c.write (.tables f)).direct = c.direct := by
  unfold Connection.write
  dsimp only
  split <;> rfl

theorem write_tables_view (c : Db) (f : Tables → Tables) :
    (c.write (.tables f)).view = f c.view := by
  obtain ⟨direct, committed, opened⟩ := c
  cases opened <;> rfl

theorem addMote_of_not_inserts {ai : appInfo_t} (h : ¬InsertsMote ok ai) (c : Db) :
    addMote ok ai c = (0, c) := by
  unfold addMote
  by_cases hnothing : ai.DevEUIstr = none ∧ ai.devAddrStr = none
  · rw [if_pos hnothing]
  · rw [if_neg hnothing]
    have hfail : ok .insertMote = false := by
      by_contra hok
      exact h ⟨by tauto, by simpa using hok⟩
    rw [if_pos hfail]

theorem addMote_direct {ai : appInfo_t} (h : InsertsMote ok ai) (c : Db) :
    (addMote ok ai c).2.direct = c.direct.insert ai.DevEUIstr ai.NetIDstr := by
  obtain ⟨hnothing, hok⟩ := h
  unfold addMote
  rw [if_neg (by tauto), if_neg (by simp [hok])]
  cases ai.devAddrStr with
  | none => rfl
  | some devAddr =>
    dsimp only
    split <;> simp

theorem addMote_of_adds {ai : appInfo_t} (h : AddsMote ok ai) (c : Db) :
    (addMote ok ai c).1 = c.direct.AUTO_INCREMENT ∧
      ∀ id, profileRows id (addMote ok ai c).2.view = profileRows id c.view := by
  obtain ⟨⟨hnothing, hok⟩, hsession⟩ := h
  unfold addMote
  rw [if_neg (by tauto), if_neg (by simp [hok])]
  cases haddr : ai.devAddrStr with
  | none => exact ⟨rfl, fun _ => rfl⟩
  | some devAddr =>
    rw [haddr] at hsession
    dsimp only
    rw [if_pos (hsession nofun)]
    refine ⟨rfl, fun id => ?_⟩
    rw [write_tables_view]
    rfl

theorem addMote_of_not_adds {ai : appInfo_t} (h : ¬AddsMote ok ai) (c : Db) :
    (addMote ok ai c).1 = 0 := by
  by_cases hins : InsertsMote ok ai
  · obtain ⟨hnothing, hok⟩ := hins
    unfold addMote
    rw [if_neg (by tauto), if_neg (by simp [hok])]
    cases haddr : ai.devAddrStr with
    | none => exact absurd ⟨⟨hnothing, hok⟩, fun hne => absurd haddr hne⟩ h
    | some devAddr =>
      dsimp only
      rw [if_neg fun hses => h ⟨⟨hnothing, hok⟩, fun _ => hses⟩]
  · rw [addMote_of_not_inserts ok hins]

theorem not_kept_of_inserts {ai : appInfo_t} (h : InsertsMote ok ai) (c : Db) {c' : Db}
    (hdirect : c'.direct = (addMote ok ai c).2.direct) : ¬Kept c c' := by
  intro hkept
  rw [addMote_direct ok h] at hdirect
  exact Motes.insert_ne _ _ _ (hdirect.symm.trans hkept.direct)

theorem insertProfiles_direct (ai : appInfo_t) (id : ℕ) (t : Tables) (m : Motes) :
    (applyAll (executed (insertProfiles region_list ok now ai id)) (t, m)).2 = m :=
  applyAll_keeps Prod.snd (by simp [insertProfiles, Write.apply]) (t, m)

theorem transaction_direct_insert (ai : appInfo_t) (id : ℕ) (c : Db) :
    (c.transaction (ok .BEGIN) (insertProfiles region_list ok now ai id)
      (ok .COMMIT)).1.direct = c.direct := by
  have hdirect := insertProfiles_direct region_list ok now ai id c.view c.direct
  obtain ⟨hstate, -⟩ := writes_opened (c := c.begin) rfl (insertProfiles region_list ok now ai id)
  unfold Connection.transaction
  cases ok .BEGIN with
  | false => rfl
  | true =>
    dsimp only
    rw [if_pos rfl]
    split
    · exact (congrArg Connection.direct hstate).trans hdirect
    · exact (congrArg Connection.direct hstate).trans hdirect

theorem allOrNothing_newMote (ai : appInfo_t) (c : Db) :
    AllOrNothing region_list ok now c (.newMote ai) ↔ Works ok now c (.newMote ai) := by
  simp only [AllOrNothing, perform, newProfiles, if_true, Done, Works]
  have hdirect := transaction_direct_insert region_list ok now ai (addMote ok ai c).1
    (addMote ok ai c).2
  by_cases hadds : AddsProfiles ok ai
  · obtain ⟨hok, -, hrows⟩ := insertProfiles_succeeds region_list ok now hadds (addMote ok ai c).1
      (addMote ok ai c).2
    simp only [hok, hadds, hdirect, hrows, Bool.true_eq_false, false_imp_iff, true_and, true_imp_iff,
      not_true_eq_false, and_true]
    by_cases hmote : AddsMote ok ai
    · obtain ⟨hid, hview⟩ := addMote_of_adds ok hmote c
      have hhas := c.direct.insert_has ai.DevEUIstr ai.NetIDstr
      rw [addMote_direct ok hmote.1, hid, hview]
      simp only [hhas, hmote, true_and]
    · rw [addMote_of_not_adds ok hmote]
      simp only [Motes.not_has_zero, hmote, false_and]
  · obtain ⟨hfail, hkept⟩ := insertProfiles_fails region_list ok now hadds (addMote ok ai c).1
      (addMote ok ai c).2
    simp only [hfail, hadds, true_imp_iff, Bool.false_eq_true, false_imp_iff, and_true,
      not_false_eq_true, true_and]
    by_cases hins : InsertsMote ok ai
    · simp only [hins, not_true_eq_false, false_and, iff_false]
      exact not_kept_of_inserts ok hins c hdirect
    · rw [addMote_of_not_inserts ok hins] at hkept ⊢
      simp only [hins, not_false_eq_true, true_and]
      exact hkept

/-! ### Motes that exist -/

theorem has_of_existingMote {ai : appInfo_t} {c : Db} {id : ℕ}
    (h : existingMote ok ai c = some id) : c.direct.Has id := by
  have hselect : ∀ {answered : Bool} {p : MoteRow → Bool} {id : ℕ},
      (select answered c.direct.rows p).map (·.ID) = some id → c.direct.Has id := by
    intro answered p id hsel
    obtain ⟨r, hr, rfl⟩ := Option.map_eq_some_iff.mp hsel
    unfold select at hr
    split at hr
    · exact ⟨r, List.mem_of_find?_eq_some hr, rfl⟩
    · cases hr
  unfold existingMote at h
  split at h
  · exact hselect h
  · cases h
  · obtain ⟨session, -, hmote⟩ := Option.bind_eq_some_iff.mp h
    exact hselect hmote

theorem allOrNothing_addProfiles (ai : appInfo_t) (c : Db) :
    AllOrNothing region_list ok now c (.addProfiles ai) ↔ Works ok now c (.addProfiles ai) := by
  simp only [AllOrNothing, perform, newProfiles, Bool.false_eq_true, if_false, Done, Works]
  cases hid : existingMote ok ai c with
  | none => simp [kept_self_iff]
  | some id =>
    dsimp only
    by_cases hadds : AddsProfiles ok ai
    · obtain ⟨hok, hdirect, hrows⟩ := insertProfiles_succeeds region_list ok now hadds id c
      have hhas := has_of_existingMote ok hid
      simp [hok, hadds, hdirect, hrows, hhas]
    · obtain ⟨hfail, hkept⟩ := insertProfiles_fails region_list ok now hadds id c
      simp only [hfail, hadds, true_imp_iff, Bool.false_eq_true, false_imp_iff, and_true,
        not_false_eq_true, true_and]
      exact hkept

/-! ### Editing profiles -/

/-- The statements of `updateProfiles` on the tables `t`. -/
def updates (ai : appInfo_t) (t : Tables) : Statements :=
  updateDeviceProfile ok now ai.DeviceProfile ai.moteID t ++
    [(ok .updateServiceProfile, .tables (updateServiceProfile ai.ServiceProfile ai.moteID)),
      (ok .updateRoutingProfile, .tables (updateRoutingProfile ai.AS_ID ai.moteID))]

theorem allOk_updates_iff (ai : appInfo_t) (t : Tables) :
    AllOk (ok .BEGIN) (updates ok now ai t) (ok .COMMIT) ↔ UpdatesAll ok ai t := by
  unfold AllOk updates updateDeviceProfile UpdatesAll
  cases hsame : unaffected ai.DeviceProfile ai.moteID t <;> simp <;> tauto

/-- An `UPDATE` neither adds nor removes rows. -/
def KeepsRows (f : Tables → Tables) : Prop := ∀ id t, profileRows id (f t) = profileRows id t

theorem countP_map_of_eq {α : Type} (key : α → ℕ) {f : α → α} (h : ∀ a, key (f a) = key a)
    (id : ℕ) (l : List α) :
    (l.map f).countP (fun a => decide (key a = id)) = l.countP (fun a => decide (key a = id)) := by
  rw [List.countP_map]
  exact congrArg (List.countP · l) (funext fun a => by simp [h a])

theorem keepsRows_updateDevice (dp : DeviceProfile) (id : ℕ) :
    KeepsRows (updateDeviceRows now dp id) := by
  intro id' t
  unfold profileRows updateDeviceRows
  rw [countP_map_of_eq (DeviceRow.DeviceProfileID)]
  intro r
  split <;> rfl

theorem keepsRows_touch : KeepsRows (touchDeviceRows now) := by
  intro id t
  unfold profileRows touchDeviceRows
  rw [countP_map_of_eq (DeviceRow.DeviceProfileID)]
  exact fun _ => rfl

theorem keepsRows_updateService (sp : ServiceProfile) (id : ℕ) :
    KeepsRows (updateServiceProfile sp id) := by
  intro id' t
  unfold profileRows updateServiceProfile
  rw [countP_map_of_eq (ServiceRow.ServiceProfileID)]
  intro r
  split <;> rfl

theorem keepsRows_updateRouting (AS_ID : List Char) (id : ℕ) :
    KeepsRows (updateRoutingProfile AS_ID id) := by
  intro id' t
  unfold profileRows updateRoutingProfile
  rw [countP_map_of_eq (RoutingRow.RoutingProfileID)]
  intro r
  split <;> rfl

theorem keepsRows_updates (ai : appInfo_t) (id : ℕ) (t : Tables) :
    ∀ a ∈ updates ok now ai t, ∀ x, (profileRows id (a.2.apply x).1, (a.2.apply x).2) =
      (profileRows id x.1, x.2) := by
  have hrows : ∀ {f : Tables → Tables}, KeepsRows f → ∀ x : Tables × Motes,
      (profileRows id ((Write.tables f).apply x).1, ((Write.tables f).apply x).2) =
        (profileRows id x.1, x.2) := fun hf x => Prod.ext (hf id x.1) rfl
  intro a ha
  unfold updates updateDeviceProfile at ha
  rcases List.mem_append.mp ha with hdevice | hrest
  · rcases List.mem_cons.mp hdevice with rfl | htouch
    · exact hrows (keepsRows_updateDevice now _ _)
    · split at htouch
      · rw [List.mem_singleton.mp htouch]
        exact hrows (keepsRows_touch now)
      · cases htouch
  · rcases List.mem_cons.mp hrest with rfl | hrouting
    · exact hrows (keepsRows_updateService _ _)
    · rw [List.mem_singleton.mp hrouting]
      exact hrows (keepsRows_updateRouting _ _)

theorem profileRows_updates (ai : appInfo_t) (id : ℕ) (c : Db) :
    profileRows id (applyAll (executed (updates ok now ai c.view)) (c.view, c.direct)).1 =
        profileRows id c.view ∧
      (applyAll (executed (updates ok now ai c.view)) (c.view, c.direct)).2 = c.direct := by
  have hkeeps := applyAll_keeps (fun x => (profileRows id x.1, x.2))
    (keepsRows_updates ok now ai id c.view) (c.view, c.direct)
  exact Prod.mk.inj hkeeps

/-! What an `UPDATE` leaves as it is. -/

theorem map_eq_self_iff {α : Type} {f : α → α} {l : List α} :
    l.map f = l ↔ ∀ a ∈ l, f a = a := by
  induction l with
  | nil => simp
  | cons a l ih => simp [ih]

theorem updateDevice_eq_iff (dp : DeviceProfile) (id : ℕ) (t : Tables) :
    (updateDeviceRows now dp id t).DeviceProfiles = t.DeviceProfiles ↔
      unaffected dp id t = true := by
  unfold updateDeviceRows
  rw [map_eq_self_iff]
  simp only [unaffected, List.all_eq_true, decide_eq_true_eq]
  refine forall₂_congr fun r _ => ⟨fun heq hid => ?_, fun hsame => ?_⟩
  · by_contra hne
    rw [if_pos ⟨hid, hne⟩] at heq
    exact hne (congrArg DeviceRow.profile heq).symm
  · exact if_neg fun hboth => hboth.2 (hsame hboth.1)

theorem touch_eq_iff (t : Tables) :
    (touchDeviceRows now t).DeviceProfiles = t.DeviceProfiles ↔
      ∀ r ∈ t.DeviceProfiles, r.timestamp = now := by
  unfold touchDeviceRows
  rw [map_eq_self_iff]
  refine forall₂_congr fun r _ => ⟨fun heq => (congrArg DeviceRow.timestamp heq).symm, ?_⟩
  rintro rfl
  rfl

theorem map_if_eq_self_iff {α β : Type} (key : α → ℕ) (column : α → β) {set : α → α} {v : β}
    (hset : ∀ a, column (set a) = v) (hsame : ∀ a, column a = v → set a = a) (id : ℕ)
    (l : List α) :
    l.map (fun a => if key a = id then set a else a) = l ↔
      ∀ a ∈ l, key a = id → column a = v := by
  rw [map_eq_self_iff]
  refine forall₂_congr fun a _ => ⟨fun heq hid => ?_, fun hv => ?_⟩
  · rw [if_pos hid] at heq
    rw [← heq, hset]
  · by_cases hid : key a = id
    · rw [if_pos hid, hsame a (hv hid)]
    · rw [if_neg hid]

theorem updateService_eq_iff (sp : ServiceProfile) (id : ℕ) (t : Tables) :
    (updateServiceProfile sp id t).ServiceProfiles = t.ServiceProfiles ↔
      ∀ r ∈ t.ServiceProfiles, r.ServiceProfileID = id → r.profile = sp := by
  apply map_if_eq_self_iff ServiceRow.ServiceProfileID ServiceRow.profile
  · exact fun _ => rfl
  · rintro r rfl
    rfl

theorem updateRouting_eq_iff (AS_ID : List Char) (id : ℕ) (t : Tables) :
    (updateRoutingProfile AS_ID id t).RoutingProfiles = t.RoutingProfiles ↔
      ∀ r ∈ t.RoutingProfiles, r.RoutingProfileID = id → r.AS_ID = AS_ID := by
  apply map_if_eq_self_iff RoutingRow.RoutingProfileID RoutingRow.AS_ID
  · exact fun _ => rfl
  · rintro r rfl
    rfl

theorem updateDeviceRows_eq_self {dp : DeviceProfile} {id : ℕ} {t : Tables}
    (h : unaffected dp id t = true) : updateDeviceRows now dp id t = t :=
  Tables.ext rfl ((updateDevice_eq_iff now dp id t).mpr h) rfl rfl

theorem others_eq_self_iff (ai : appInfo_t) (t : Tables) (service routing : Bool) (m : Motes) :
    applyAll (executed [(service, .tables (updateServiceProfile ai.ServiceProfile ai.moteID)),
        (routing, .tables (updateRoutingProfile ai.AS_ID ai.moteID))]) (t, m) = (t, m) ↔
      (service = true → (∀ r ∈ t.ServiceProfiles, r.ServiceProfileID = ai.moteID →
          r.profile = ai.ServiceProfile) ∧
        (routing = true → ∀ r ∈ t.RoutingProfiles, r.RoutingProfileID = ai.moteID →
          r.AS_ID = ai.AS_ID)) := by
  rw [← updateService_eq_iff, ← updateRouting_eq_iff,
    applyAll_cons_eq_self_iff (fun x => x.1.ServiceProfiles)]
  · cases routing with
    | false => simp [Write.apply, Tables.ext_iff, updateServiceProfile]
    | true => simp [Write.apply, Tables.ext_iff, updateServiceProfile, updateRoutingProfile]
  · exact fun h => Prod.ext (Tables.ext rfl rfl h rfl) rfl
  · simp [Write.apply, updateRoutingProfile]

theorem updates_eq_self_iff (ai : appInfo_t) (t : Tables) (m : Motes) :
    applyAll (executed (updates ok now ai t)) (t, m) = (t, m) ↔ UpToDate ok now ai t := by
  have hothers := others_eq_self_iff ai t (ok .updateServiceProfile) (ok .updateRoutingProfile) m
  have hkeeps : ∀ a ∈ [(ok .updateServiceProfile,
      Write.tables (updateServiceProfile ai.ServiceProfile ai.moteID)),
      (ok .updateRoutingProfile, .tables (updateRoutingProfile ai.AS_ID ai.moteID))],
      ∀ x : Tables × Motes, (a.2.apply x).1.DeviceProfiles = x.1.DeviceProfiles := by
    simp [Write.apply, updateServiceProfile, updateRoutingProfile]
  unfold updates updateDeviceProfile UpToDate
  cases hsame : unaffected ai.DeviceProfile ai.moteID t with
  | true =>
    have hdevice : (Write.tables (updateDeviceRows now ai.DeviceProfile ai.moteID)).apply (t, m) =
        (t, m) := Prod.ext (updateDeviceRows_eq_self now hsame) rfl
    rw [if_pos rfl, List.cons_append, List.cons_append, List.nil_append,
      applyAll_cons_of_self hdevice,
      applyAll_cons_eq_self_iff (fun x => x.1.DeviceProfiles) _ hkeeps, hothers]
    · have htouch : (Write.tables (touchDeviceRows now)).apply (t, m) = (t, m) ↔
          ∀ r ∈ t.DeviceProfiles, r.timestamp = now := by
        rw [← touch_eq_iff]
        simp [Write.apply, Tables.ext_iff, touchDeviceRows]
      simp only [htouch, true_and]
    · exact fun h => Prod.ext (Tables.ext rfl h rfl rfl) rfl
  | false =>
    -- the device profile was changed, and nothing after it writes that table
    have hdiffers : (Write.tables (updateDeviceRows now ai.DeviceProfile ai.moteID)).apply (t, m) ≠
        (t, m) := by
      intro heq
      have hrows := congrArg (fun x => x.1.DeviceProfiles) heq
      rw [(updateDevice_eq_iff now _ _ _).mp hrows] at hsame
      cases hsame
    rw [if_neg Bool.false_ne_true, List.cons_append, List.nil_append,
      applyAll_cons_eq_self_iff (fun x => x.1.DeviceProfiles) _ hkeeps]
    · simp only [hdiffers, Bool.false_eq_true, false_and]
    · exact fun h => Prod.ext (Tables.ext rfl h rfl rfl) rfl

theorem allOrNothing_updateProfiles (ai : appInfo_t) (c : Db) :
    AllOrNothing region_list ok now c (.updateProfiles ai) ↔ Works ok now c (.updateProfiles ai) := by
  have hiff := allOk_updates_iff ok now ai c.view
  obtain ⟨hrows, hdirect⟩ := profileRows_updates ok now ai ai.moteID c
  show ((c.transaction (ok .BEGIN) (updates ok now ai c.view) (ok .COMMIT)).2 = false → _) ∧
    ((c.transaction (ok .BEGIN) (updates ok now ai c.view) (ok .COMMIT)).2 = true → _) ↔ _
  by_cases hall : UpdatesAll ok ai c.view
  · have hok := (transaction_succeeds_iff c _ _ _).mpr (hiff.mpr hall)
    simp only [hok, Bool.true_eq_false, false_imp_iff, true_and, true_imp_iff, Works, hall,
      not_true_eq_false, and_true, Done, perform]
    show Uniform ai.moteID
      (c.transaction (ok .BEGIN) (updates ok now ai c.view) (ok .COMMIT)).1.direct
      (c.transaction (ok .BEGIN) (updates ok now ai c.view) (ok .COMMIT)).1.committed ↔ _
    rw [transaction_of_allOk c (hiff.mpr hall)]
    unfold Uniform
    rw [hrows, hdirect]
  · have hfail := mt hiff.mp hall
    have hresult := Bool.eq_false_iff.mpr (mt (transaction_succeeds_iff c _ _ _).mp hfail)
    simp only [hresult, true_imp_iff, Bool.false_eq_true, false_imp_iff, and_true, Works, hall,
      not_false_eq_true, true_and, perform]
    show Kept c (c.transaction (ok .BEGIN) (updates ok now ai c.view) (ok .COMMIT)).1 ↔ _
    rw [kept_transaction_iff c hfail, updates_eq_self_iff, and_comm]

/-! ### Deleting motes -/

theorem allOk_deletes_iff (id : ℕ) :
    AllOk (ok .BEGIN) (deletes ok id) (ok .COMMIT) ↔ DeletesAll ok := by
  simp only [AllOk, deletes, DeletesAll, List.all_cons, List.all_nil, Bool.and_eq_true,
    Bool.and_true]
  tauto

theorem Motes.delete_not_has (id : ℕ) (m : Motes) : ¬(m.delete id).Has id := by
  rintro ⟨r, hr, hid⟩
  simpa [hid] using (List.mem_filter.mp hr).2

theorem Motes.delete_eq_iff (id : ℕ) (m : Motes) : m.delete id = m ↔ ¬m.Has id := by
  constructor
  · rintro heq hhas
    rw [← heq] at hhas
    exact m.delete_not_has id hhas
  · intro hnot
    obtain ⟨rows, next, pos, fresh⟩ := m
    have hrows : rows.filter (·.ID ≠ id) = rows :=
      List.filter_eq_self.mpr fun r hr => decide_eq_true fun hid => hnot ⟨r, hr, hid⟩
    simp only [Motes.delete, hrows]

theorem countP_filter_ne {α : Type} (key : α → ℕ) (id : ℕ) (l : List α) :
    (l.filter fun a => decide (key a ≠ id)).countP (fun a => decide (key a = id)) = 0 := by
  rw [List.countP_eq_zero]
  intro a ha
  simpa using (List.mem_filter.mp ha).2

theorem profileRows_deletes (h : DeletesAll ok) (id : ℕ) (t : Tables) (m : Motes) :
    profileRows id (applyAll (executed (deletes ok id)) (t, m)).1 = (0, 0, 0) ∧
      (applyAll (executed (deletes ok id)) (t, m)).2 = m.delete id := by
  obtain ⟨-, hdevice, hservice, hrouting, hmote, hsessions, -⟩ := h
  simp only [deletes, hdevice, hservice, hrouting, hmote, hsessions, executed_true, executed_nil,
    applyAll_cons, applyAll_nil, Write.apply, and_true]
  exact Prod.ext (countP_filter_ne DeviceRow.DeviceProfileID id _) (Prod.ext
    (countP_filter_ne ServiceRow.ServiceProfileID id _)
    (countP_filter_ne RoutingRow.RoutingProfileID id _))

theorem filter_ne_eq_self_iff {α : Type} (key : α → ℕ) (id : ℕ) (l : List α) :
    (l.filter fun a => decide (key a ≠ id)) = l ↔ ∀ a ∈ l, key a ≠ id := by
  rw [List.filter_eq_self]
  simp

theorem deletes_eq_self_iff (id : ℕ) (t : Tables) (m : Motes) :
    applyAll (executed (deletes ok id)) (t, m) = (t, m) ↔ NothingToDelete ok id m t := by
  have hdevices := filter_ne_eq_self_iff DeviceRow.DeviceProfileID id t.DeviceProfiles
  have hservices := filter_ne_eq_self_iff ServiceRow.ServiceProfileID id t.ServiceProfiles
  have hroutings := filter_ne_eq_self_iff RoutingRow.RoutingProfileID id t.RoutingProfiles
  have hsessions := filter_ne_eq_self_iff SessionsRow.ID id t.sessions
  have hmote := m.delete_eq_iff id
  unfold deletes NothingToDelete
  rw [← hdevices, ← hservices, ← hroutings, ← hsessions, ← hmote,
    applyAll_cons_eq_self_iff (fun x => x.1.DeviceProfiles),
    applyAll_cons_eq_self_iff (fun x => x.1.ServiceProfiles),
    applyAll_cons_eq_self_iff (fun x => x.1.RoutingProfiles),
    applyAll_cons_eq_self_iff Prod.snd, applyAll_cons_eq_self_iff (fun x => x.1.sessions)]
  · simp [Write.apply, Tables.ext_iff, deleteDeviceProfile, deleteServiceProfile,
      deleteRoutingProfile, deleteSessions]
  · exact fun h => Prod.ext (Tables.ext h rfl rfl rfl) rfl
  · simp
  · exact fun h => Prod.ext rfl h
  · simp [Write.apply]
  · exact fun h => Prod.ext (Tables.ext rfl rfl rfl h) rfl
  · simp [Write.apply, deleteSessions]
  · exact fun h => Prod.ext (Tables.ext rfl rfl h rfl) rfl
  · simp [Write.apply, deleteSessions, deleteRoutingProfile]
  · exact fun h => Prod.ext (Tables.ext rfl h rfl rfl) rfl
  · simp [Write.apply, deleteSessions, deleteRoutingProfile, deleteServiceProfile]

theorem allOrNothing_deleteMote (target : Target) (c : Db) :
    AllOrNothing region_list ok now c (.deleteMote target) ↔
      Works ok now c (.deleteMote target) := by
  simp only [AllOrNothing, perform, deleteMote, Done, Works]
  cases hid : targetMote ok target c with
  | none => simp [kept_self_iff]
  | some id =>
    have hiff := allOk_deletes_iff ok id
    dsimp only
    by_cases hall : DeletesAll ok
    · have hok := (transaction_succeeds_iff c _ _ _).mpr (hiff.mpr hall)
      obtain ⟨hrows, hdirect⟩ := profileRows_deletes ok hall id c.view c.direct
      simp only [hok, Bool.true_eq_false, false_imp_iff, true_and, true_imp_iff, hall, true_or,
        iff_true, Option.some.injEq, forall_eq', transaction_of_allOk c (hiff.mpr hall), hrows,
        hdirect, and_true]
      exact c.direct.delete_not_has id
    · have hfail := mt hiff.mp hall
      have hresult := Bool.eq_false_iff.mpr (mt (transaction_succeeds_iff c _ _ _).mp hfail)
      simp only [hresult, true_imp_iff, Bool.false_eq_true, false_imp_iff, and_true, hall,
        false_or]
      rw [kept_transaction_iff c hfail, deletes_eq_self_iff, and_comm]

/-! ### The whole -/

theorem allOrNothing_iff (c : Db) (op : Operation) :
    AllOrNothing region_list ok now c op ↔ Works ok now c op := by
  cases op with
  | newMote ai => exact allOrNothing_newMote region_list ok now ai c
  | addProfiles ai => exact allOrNothing_addProfiles region_list ok now ai c
  | updateProfiles ai => exact allOrNothing_updateProfiles region_list ok now ai c
  | deleteMote target => exact allOrNothing_deleteMote region_list ok now target c

/-- A mote with its profiles, on an empty database. -/
def emptyDb : Db := ⟨⟨[], 1, Nat.one_pos, nofun⟩, ⟨[], [], [], []⟩, none⟩

def someMote : appInfo_t :=
  ⟨some 0x1122334455667788, none, none, 0, ⟨[], 0, 0, 0, 0, 0, []⟩, ⟨[], [], [], []⟩, []⟩

/-- The `INSERT` of the ServiceProfile fails: the mote stays, and the DeviceProfile appears with
the next `BEGIN`. -/
theorem serviceProfile_fails :
    ¬AllOrNothing [] (fun q => decide (q ≠ .insertServiceProfile)) 0 emptyDb (.newMote someMote) ∧
      (perform [] (fun q => decide (q ≠ .insertServiceProfile)) 0 emptyDb (.newMote someMote)).2 =
        false ∧
      (perform [] (fun q => decide (q ≠ .insertServiceProfile)) 0 emptyDb
        (.newMote someMote)).1.direct.rows.length = 1 ∧
      (perform [] (fun q => decide (q ≠ .insertServiceProfile)) 0 emptyDb
        (.newMote someMote)).1.begin.committed.DeviceProfiles.length = 1 := by
  have hlater : (perform [] (fun q => decide (q ≠ .insertServiceProfile)) 0 emptyDb
      (.newMote someMote)).1.begin.committed.DeviceProfiles.length = 1 := by
    decide
  refine ⟨fun h => ?_, by decide, by decide, hlater⟩
  have hkept := (h.1 (by decide)).later
  rw [hkept] at hlater
  exact absurd hlater (by decide)

end Lorawan.NetworkServer.Provisioning

import Lorawan.NetworkServer.MotesTable
import Lorawan.NetworkServer.Serving

/-!
# The stop of roaming (network_server/common.c:2618-2682)

A PRStopReq or HRStopReq names a device by DevAddr or DevEUI. `RStop` reads its
roaming state and queues the update when the request is of the kind that stops
it. Which network sent the request is not compared with the one that the device
roams with, and every other case is answered as a device that is not known.
-/

namespace Lorawan.NetworkServer
open Lorawan Lorawan.Backend

/-! ### RStop -/

inductive StopKind
  | PRStopReq
  | HRStopReq
deriving DecidableEq

/-- The members of the request, as `sscanf` and `json_object_get_int` read them. -/
structure StopReq where
  DevAddr : Option ℕ
  DevEUI : Option ℕ
  Lifetime : Option ℕ
deriving DecidableEq

/-- Which queries succeed, and whether the statement can be queued. -/
structure StopEnv where
  lookup : LookupEnv
  /-- The query of `mote_update_database_roam`. -/
  updateOk : Bool
  mqOk : Bool
deriving DecidableEq

/-- The update: roaming is over, or deferred when the request has a lifetime. -/
def stopRoaming (env : StopEnv) (devEui devAddr otherNetID : ℕ) (Lifetime : Option ℕ)
    (db : RoamTables) : RoamTables :=
  match Lifetime with
  | some lifetime =>
    mote_update_database_roam env.updateOk env.mqOk devEui devAddr .DEFERRED
      (some (env.lookup.now + lifetime)) (some otherNetID) none db
  | none =>
    mote_update_database_roam env.updateOk env.mqOk devEui devAddr .NONE none (some otherNetID)
      none db

/-- `RStop` with the device and the default answer; `senderID` is the sender's NetID. -/
def stopDevice (env : StopEnv) (pmt : StopKind) (req : StopReq) (senderID devEui devAddr : ℕ)
    (ret : Result) (db : RoamTables) : Result × RoamTables :=
  match sql_motes_query env.lookup db.sessions db.motes.table devEui devAddr with
  | .error _ => (ret, db)
  | .ok sql =>
    if sql.roamState = .fPASSIVE then
      if pmt = .PRStopReq then
        (.Success, stopRoaming env devEui devAddr senderID req.Lifetime db)
      else (ret, db)
    else if sql.roamState = .sHANDOVER then
      if pmt = .HRStopReq then
        (.Success, stopRoaming env devEui devAddr senderID req.Lifetime db)
      else (ret, db)
    else (ret, db)

def RStop (env : StopEnv) (pmt : StopKind) (req : StopReq) (senderID : ℕ) (db : RoamTables) :
    Result × RoamTables :=
  match req.DevAddr with
  | some devAddr => stopDevice env pmt req senderID NONE_DEVEUI devAddr .UnknownDevAddr db
  | none =>
    match req.DevEUI with
    | some devEui => stopDevice env pmt req senderID devEui NONE_DEVADDR .UnknownDevEUI db
    | none => (.MalformedRequest, db)

/-! ### The device and its state -/

/-- The DevEUI and the DevAddr that the device is looked up by. -/
def StopReq.named (req : StopReq) : Option (ℕ × ℕ) :=
  match req.DevAddr with
  | some devAddr => some (NONE_DEVEUI, devAddr)
  | none => req.DevEUI.map fun devEui => (devEui, NONE_DEVADDR)

/-- The answer when nothing is stopped. -/
def StopReq.unknown (req : StopReq) : Result :=
  if req.DevAddr.isSome then .UnknownDevAddr
  else if req.DevEUI.isSome then .UnknownDevEUI
  else .MalformedRequest

/-- The condition on `motes`, when the tables have it. -/
def RoamTables.cond (db : RoamTables) (devEui devAddr : ℕ) : Option MotesWhere :=
  if devEui ≠ NONE_DEVEUI then some (.DevEUI devEui)
  else (db.sessions.find? (·.DevAddr = devAddr)).map fun r => .ID r.ID

/-- The row of the device. -/
def RoamTables.device (db : RoamTables) (devEui devAddr : ℕ) : Option MotesRow :=
  (db.cond devEui devAddr).bind fun cond => db.motes.table.find? (cond.holds ·)

/-- The roaming that a request of a kind stops. -/
def StopKind.stops : StopKind → RoamState → Bool
  | .PRStopReq, .fPASSIVE => true
  | .HRStopReq, .sHANDOVER => true
  | _, _ => false

/-- The queries that look the device up succeed. -/
def StopEnv.finds (env : StopEnv) (devEui : ℕ) : Bool :=
  (decide (devEui ≠ NONE_DEVEUI) || env.lookup.sessionsOk) && env.lookup.motesOk

/-- The statement is queued. -/
def StopEnv.queues (env : StopEnv) (devEui : ℕ) : Bool :=
  (decide (devEui ≠ NONE_DEVEUI) || env.updateOk) && env.mqOk

/-- The request names a device of the tables and stops the roaming that its row states. -/
structure Stops (env : StopEnv) (pmt : StopKind) (req : StopReq) (db : RoamTables)
    (devEui devAddr : ℕ) (row : MotesRow) : Prop where
  named : req.named = some (devEui, devAddr)
  device : db.device devEui devAddr = some row
  stops : pmt.stops row.roamState = true
  finds : env.finds devEui = true

/-- The statement that stops roaming. -/
def stopStatement (env : StopEnv) (req : StopReq) (senderID : ℕ) (cond : MotesWhere) :
    RoamStatement :=
  { cond := cond
    state := if req.Lifetime.isSome then .DEFERRED else .NONE
    until_ := req.Lifetime.map (env.lookup.now + ·)
    roamingWithNetID := some senderID
    enable_fNS_MIC := none }

/-! ### A foreign network, and a device at home -/

/-- All queries succeed. -/
def plainStop : StopEnv := ⟨⟨0, true, true⟩, true, true⟩

/-- A device with the state, which roams with the network 0x20. -/
def roamingDevice (state : RoamState) : RoamTables :=
  ⟨[sampleRow], ⟨[⟨1, none, none, state, none, some 0x20, none⟩], []⟩⟩

/-- The network 0x30 stops the roaming with the network 0x20; and the device that does not roam is
in the tables and is answered as unknown. -/
theorem foreign_stop_accepted :
    RStop plainStop .PRStopReq ⟨some sampleDevAddr, none, none⟩ 0x30 (roamingDevice .fPASSIVE) =
        (.Success, { roamingDevice .fPASSIVE with
          motes := (roamingDevice .fPASSIVE).motes.enqueue
            ⟨.ID 1, .NONE, none, some 0x30, none⟩ }) ∧
      (RStop plainStop .PRStopReq ⟨some sampleDevAddr, none, none⟩ 0x20 (roamingDevice .NONE)).1 =
        .UnknownDevAddr ∧
      ((roamingDevice .NONE).device NONE_DEVEUI sampleDevAddr).isSome = true := by
  decide

/-! ### What RStop does -/

variable {env : StopEnv} {pmt : StopKind} {req : StopReq} {senderID devEui devAddr : ℕ}
  {db : RoamTables}

theorem getMotesWhere_cases (sqlOk : Bool) (devEui devAddr : ℕ) (db : RoamTables) :
    (∃ cond, getMotesWhere sqlOk db.sessions devEui devAddr = .ok cond ∧
        db.cond devEui devAddr = some cond ∧ (decide (devEui ≠ NONE_DEVEUI) || sqlOk) = true) ∨
      (∃ result, getMotesWhere sqlOk db.sessions devEui devAddr = .error result) ∧
        ((decide (devEui ≠ NONE_DEVEUI) || sqlOk) = false ∨ db.cond devEui devAddr = none) := by
  unfold getMotesWhere RoamTables.cond
  by_cases heui : devEui = NONE_DEVEUI
  · cases sqlOk with
    | false => simp [heui]
    | true => cases hrow : db.sessions.find? (·.DevAddr = devAddr) <;> simp [heui]
  · simp [heui]

theorem sql_motes_query_cases (env : StopEnv) (devEui devAddr : ℕ) (db : RoamTables) :
    (∃ row, sql_motes_query env.lookup db.sessions db.motes.table devEui devAddr =
          .ok (.ofRow env.lookup.now row) ∧
        db.device devEui devAddr = some row ∧ env.finds devEui = true) ∨
      (∃ result, sql_motes_query env.lookup db.sessions db.motes.table devEui devAddr =
          .error result) ∧
        (env.finds devEui = false ∨ db.device devEui devAddr = none) := by
  unfold sql_motes_query StopEnv.finds RoamTables.device
  rcases getMotesWhere_cases env.lookup.sessionsOk devEui devAddr db with
    ⟨cond, hwhere, hcond, hok⟩ | ⟨⟨result, hwhere⟩, hfails⟩
  · rw [hwhere, hcond, hok]
    cases env.lookup.motesOk with
    | false => exact Or.inr ⟨⟨.Other, rfl⟩, Or.inl rfl⟩
    | true =>
      cases hrow : db.motes.table.find? (cond.holds ·) with
      | none => exact Or.inr ⟨⟨_, by simp only [hrow]; rfl⟩, Or.inr hrow⟩
      | some row => exact Or.inl ⟨row, by simp only [hrow]; rfl, hrow, rfl⟩
  · rw [hwhere]
    refine Or.inr ⟨⟨result, rfl⟩, ?_⟩
    rcases hfails with hoff | hnone
    · rw [hoff]
      exact Or.inl rfl
    · rw [hnone]
      exact Or.inr rfl

theorem stopRoaming_eq (env : StopEnv) (req : StopReq) (senderID devEui devAddr : ℕ)
    (db : RoamTables) :
    stopRoaming env devEui devAddr senderID req.Lifetime db =
      match db.cond devEui devAddr with
      | none => db
      | some cond =>
        if env.queues devEui then
          { db with motes := db.motes.enqueue (stopStatement env req senderID cond) }
        else db := by
  have hupdate : ∀ state until_,
      mote_update_database_roam env.updateOk env.mqOk devEui devAddr state until_ (some senderID)
          none db =
        match db.cond devEui devAddr with
        | none => db
        | some cond =>
          if env.queues devEui then
            { db with motes := db.motes.enqueue ⟨cond, state, until_, some senderID, none⟩ }
          else db := by
    intro state until_
    unfold mote_update_database_roam StopEnv.queues
    rcases getMotesWhere_cases env.updateOk devEui devAddr db with
      ⟨cond, hwhere, hcond, hok⟩ | ⟨⟨result, hwhere⟩, hfails⟩
    · rw [hwhere, hcond, hok, Bool.true_and]
    · rw [hwhere]
      rcases hfails with hoff | hnone
      · rw [hoff]
        cases db.cond devEui devAddr <;> rfl
      · rw [hnone]
  unfold stopRoaming stopStatement
  cases req.Lifetime with
  | none => exact hupdate .NONE none
  | some lifetime => exact hupdate .DEFERRED (some (env.lookup.now + lifetime))

theorem stopDevice_eq (env : StopEnv) (pmt : StopKind) (req : StopReq)
    (senderID devEui devAddr : ℕ) (ret : Result) (db : RoamTables) :
    stopDevice env pmt req senderID devEui devAddr ret db =
      if env.finds devEui && (db.device devEui devAddr).any fun row => pmt.stops row.roamState then
        (.Success, stopRoaming env devEui devAddr senderID req.Lifetime db)
      else (ret, db) := by
  unfold stopDevice
  rcases sql_motes_query_cases env devEui devAddr db with
    ⟨row, hquery, hdevice, hfinds⟩ | ⟨⟨result, hquery⟩, hfails⟩
  · rw [hquery, hdevice, hfinds]
    cases hstate : row.roamState <;> cases pmt <;> simp [sql_t.ofRow, StopKind.stops, hstate]
  · rw [hquery]
    rcases hfails with hoff | hnone
    · simp [hoff]
    · simp [hnone]

theorem RStop_of_named (h : req.named = some (devEui, devAddr)) :
    RStop env pmt req senderID db =
      stopDevice env pmt req senderID devEui devAddr req.unknown db := by
  unfold RStop StopReq.unknown
  unfold StopReq.named at h
  cases haddr : req.DevAddr with
  | some a =>
    simp only [haddr, Option.some.injEq, Prod.mk.injEq] at h
    rw [h.1, h.2]
    rfl
  | none =>
    cases heui : req.DevEUI with
    | some e =>
      simp only [haddr, heui, Option.map_some, Option.some.injEq, Prod.mk.injEq] at h
      rw [h.1, h.2]
      rfl
    | none => simp [haddr, heui] at h

theorem RStop_of_not_named (h : req.named = none) :
    RStop env pmt req senderID db = (req.unknown, db) := by
  unfold RStop StopReq.unknown
  unfold StopReq.named at h
  cases haddr : req.DevAddr with
  | some a => simp [haddr] at h
  | none =>
    cases heui : req.DevEUI with
    | some e => simp [haddr, heui] at h
    | none => rfl

theorem unknown_ne_Success (req : StopReq) : req.unknown ≠ .Success := by
  unfold StopReq.unknown
  split
  · decide
  · split <;> decide

theorem RStop_of_stops {row : MotesRow} (h : Stops env pmt req db devEui devAddr row) :
    RStop env pmt req senderID db =
      (.Success, stopRoaming env devEui devAddr senderID req.Lifetime db) := by
  rw [RStop_of_named h.named, stopDevice_eq, h.finds, h.device]
  simp [h.stops]

theorem RStop_otherwise (h : ∀ devEui devAddr row, ¬Stops env pmt req db devEui devAddr row) :
    RStop env pmt req senderID db = (req.unknown, db) := by
  cases hnamed : req.named with
  | none => exact RStop_of_not_named hnamed
  | some name =>
    obtain ⟨devEui, devAddr⟩ := name
    rw [RStop_of_named hnamed, stopDevice_eq, if_neg]
    intro hall
    obtain ⟨hfinds, hany⟩ := Bool.and_eq_true_iff.mp hall
    cases hdevice : db.device devEui devAddr with
    | none => simp [hdevice] at hany
    | some row =>
      rw [hdevice, Option.any_some] at hany
      exact h devEui devAddr row ⟨hnamed, hdevice, hany, hfinds⟩

theorem device_cond {row : MotesRow} (h : db.device devEui devAddr = some row) :
    ∃ cond, db.cond devEui devAddr = some cond ∧ cond.holds row = true := by
  obtain ⟨cond, hcond, hrow⟩ := Option.bind_eq_some_iff.mp h
  exact ⟨cond, hcond, by simpa using List.find?_some hrow⟩

theorem stopStatement_roamState {row : MotesRow} (cond : MotesWhere)
    (h : pmt.stops row.roamState = true) :
    ((stopStatement env req senderID cond).set row).roamState ≠ row.roamState := by
  show (if req.Lifetime.isSome then RoamState.DEFERRED else .NONE) ≠ row.roamState
  revert h
  cases row.roamState <;> cases pmt <;> cases req.Lifetime <;> simp [StopKind.stops]

/-- Once the update is executed, no row that it names is in a state that the request stops. -/
theorem not_stops_of_executed {cond : MotesWhere} {motes : List MotesRow} {row : MotesRow}
    (hrow : row ∈ executeRoam motes (stopStatement env req senderID cond))
    (hcond : cond.holds row = true) : pmt.stops row.roamState = false := by
  obtain ⟨r, hr, rfl⟩ := List.mem_map.mp hrow
  by_cases hnamed : (stopStatement env req senderID cond).cond.holds r = true
  · rw [if_pos hnamed]
    show pmt.stops (if req.Lifetime.isSome then RoamState.DEFERRED else .NONE) = false
    cases pmt <;> cases req.Lifetime <;> rfl
  · rw [if_neg hnamed] at hcond
    exact absurd hcond hnamed

/-- A request stops the roaming of a device in the tables when it is of the right kind, whoever
sent it. It is then answered with Success, and the update that is queued ends or defers the
roaming; every other request leaves the tables, and is answered as if its device were not
known. -/
theorem RStop_spec (env : StopEnv) (pmt : StopKind) (req : StopReq) (senderID : ℕ)
    (db : RoamTables) :
    ((RStop env pmt req senderID db).2 ≠ db ↔
        ∃ devEui devAddr row, Stops env pmt req db devEui devAddr row ∧
          env.queues devEui = true) ∧
      ((RStop env pmt req senderID db).1 = .Success ↔
        ∃ devEui devAddr row, Stops env pmt req db devEui devAddr row) ∧
      ((RStop env pmt req senderID db).1 ≠ .Success →
        (RStop env pmt req senderID db).1 = req.unknown) ∧
      ∀ devEui devAddr row, Stops env pmt req db devEui devAddr row → env.queues devEui = true →
        ∃ cond, cond.holds row = true ∧
          (RStop env pmt req senderID db).2 =
            { db with motes := db.motes.enqueue (stopStatement env req senderID cond) } ∧
          ((stopStatement env req senderID cond).set row).roamState ≠ row.roamState := by
  by_cases hstops : ∃ devEui devAddr row, Stops env pmt req db devEui devAddr row
  · obtain ⟨devEui, devAddr, row, h⟩ := hstops
    obtain ⟨cond, hcond, hholds⟩ := device_cond h.device
    have hsame : ∀ devEui' devAddr' row', Stops env pmt req db devEui' devAddr' row' →
        devEui' = devEui ∧ row' = row := by
      intro devEui' devAddr' row' h'
      have hname := h.named.symm.trans h'.named
      simp only [Option.some.injEq, Prod.mk.injEq] at hname
      obtain ⟨rfl, rfl⟩ := hname
      exact ⟨rfl, Option.some.inj (h'.device.symm.trans h.device)⟩
    rw [RStop_of_stops h, stopRoaming_eq, hcond]
    dsimp only
    refine ⟨⟨fun hchanged => ?_, ?_⟩, ⟨fun _ => ⟨devEui, devAddr, row, h⟩, fun _ => rfl⟩,
      fun hother => absurd rfl hother, ?_⟩
    · refine ⟨devEui, devAddr, row, h, ?_⟩
      by_contra hqueue
      rw [if_neg hqueue] at hchanged
      exact hchanged rfl
    · rintro ⟨devEui', devAddr', row', h', hqueue⟩ heq
      obtain ⟨rfl, rfl⟩ := hsame _ _ _ h'
      rw [if_pos hqueue] at heq
      have hlen := congrArg (fun db : RoamTables => db.motes.queue.length) heq
      simp [WriteBehind.Store.enqueue] at hlen
    · intro devEui' devAddr' row' h' hqueue
      obtain ⟨rfl, rfl⟩ := hsame _ _ _ h'
      rw [if_pos hqueue]
      exact ⟨cond, hholds, rfl, stopStatement_roamState cond h.stops⟩
  · have hnone : ∀ devEui devAddr row, ¬Stops env pmt req db devEui devAddr row :=
      fun devEui devAddr row h => hstops ⟨devEui, devAddr, row, h⟩
    rw [RStop_otherwise hnone]
    refine ⟨⟨fun hchanged => absurd rfl hchanged, ?_⟩, ⟨?_, fun h => absurd h hstops⟩,
      fun _ => rfl, fun devEui devAddr row h => absurd h (hnone devEui devAddr row)⟩
    · rintro ⟨devEui, devAddr, row, h, -⟩
      exact absurd h (hnone devEui devAddr row)
    · intro hsuccess
      exact absurd hsuccess (unknown_ne_Success req)

end Lorawan.NetworkServer

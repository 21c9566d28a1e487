import Lorawan.NetworkServer.MoteList
import Lorawan.NetworkServer.Requesters

/-!
# The motes table (structure.sql:312-325, network_server/common.c:489-540, 1079-1220)

The roaming state of a device stands in its row of `motes`. It is read by DevEUI,
or by the ID of a session with the DevAddr, and written by the process that
executes the statements of the message queue.
-/

namespace Lorawan.NetworkServer
open Lorawan Lorawan.Backend

/-- A row of `motes`, with the columns that `sql_motes_query` reads. -/
structure MotesRow where
  ID : ℕ
  DevEUI : Option ℕ
  OptNeg : Option Bool
  roamState : RoamState
  roamUntil : Option ℕ
  roamingWithNetID : Option ℕ
  enable_fNS_MIC : Option Bool
deriving DecidableEq

/-- The condition that `getMotesWhere` writes. -/
inductive MotesWhere
  | DevEUI (devEui : ℕ)
  | ID (moteID : ℕ)
deriving DecidableEq

/-- A comparison with `NULL` does not hold. -/
def MotesWhere.holds (r : MotesRow) : MotesWhere → Bool
  | .DevEUI devEui => decide (r.DevEUI = some devEui)
  | .ID moteID => decide (r.ID = moteID)

/-- `getMotesWhere`: `scan` are the sessions in the order in which the query without `ORDER BY`
returns them. -/
def getMotesWhere (sqlOk : Bool) (scan : List SessionRow) (devEui devAddr : ℕ) :
    Except Result MotesWhere :=
  if devEui ≠ NONE_DEVEUI then .ok (.DevEUI devEui)
  else if sqlOk then
    match scan.find? (·.DevAddr = devAddr) with
    | none => .error .UnknownDevAddr
    | some r => .ok (.ID r.ID)
  else .error .Other

/-! ### sql_motes_query -/

/-- `sql_t`; `roamUntil` is zero for `NULL`. -/
structure sql_t where
  OptNeg : Bool
  roamState : RoamState
  is_sNS : Bool
  enable_fNS_MIC : Bool
  roamingWithNetID : ℕ
  roamUntil : ℕ
  roamExpired : Bool
deriving DecidableEq

def RoamState.is_sNS : RoamState → Bool
  | NONE | sPASSIVE | sHANDOVER => true
  | fPASSIVE | DEFERRED | hHANDOVER => false

def sql_t.ofRow (now : ℕ) (r : MotesRow) : sql_t :=
  { OptNeg := r.OptNeg.getD false
    roamState := r.roamState
    is_sNS := r.roamState.is_sNS
    enable_fNS_MIC := r.enable_fNS_MIC.getD false
    roamingWithNetID := r.roamingWithNetID.getD 0
    roamUntil := r.roamUntil.getD 0
    roamExpired := r.roamUntil.any fun t => decide (t < now) }

/-- Which of the queries succeed. -/
structure LookupEnv where
  now : ℕ
  sessionsOk : Bool
  motesOk : Bool
deriving DecidableEq

def sql_motes_query (env : LookupEnv) (scan : List SessionRow) (motes : List MotesRow)
    (devEui devAddr : ℕ) : Except Result sql_t :=
  match getMotesWhere env.sessionsOk scan devEui devAddr with
  | .error result => .error result
  | .ok cond =>
    if env.motesOk then
      match motes.find? (cond.holds ·) with
      | none => .error (if devEui = NONE_DEVEUI then .UnknownDevAddr else .UnknownDevEUI)
      | some r => .ok (.ofRow env.now r)
    else .error .Other

/-! ### mote_update_database_roam -/

/-- `UPDATE motes SET roamState = .., .. WHERE ..`: a column without a value is not named. -/
structure RoamStatement where
  cond : MotesWhere
  state : RoamState
  until_ : Option ℕ
  roamingWithNetID : Option ℕ
  enable_fNS_MIC : Option Bool
deriving DecidableEq

def RoamStatement.set (u : RoamStatement) (r : MotesRow) : MotesRow :=
  { r with
    roamState := u.state
    roamUntil := u.until_.orElse fun _ => r.roamUntil
    roamingWithNetID := u.roamingWithNetID.orElse fun _ => r.roamingWithNetID
    enable_fNS_MIC := u.enable_fNS_MIC.orElse fun _ => r.enable_fNS_MIC }

def executeRoam (motes : List MotesRow) (u : RoamStatement) : List MotesRow :=
  motes.map fun r => if u.cond.holds r then u.set r else r

/-- The two tables, `motes` with the statements that wait for it. -/
structure RoamTables where
  sessions : List SessionRow
  motes : WriteBehind.Store (List MotesRow) RoamStatement
deriving DecidableEq

def mote_update_database_roam (sqlOk mqOk : Bool) (devEui devAddr : ℕ) (state : RoamState)
    (until_ roamingWithNetID : Option ℕ) (enable_fNS_MIC : Option Bool) (db : RoamTables) :
    RoamTables :=
  match getMotesWhere sqlOk db.sessions devEui devAddr with
  | .error _ => db
  | .ok cond =>
    if mqOk then
      { db with
        motes := db.motes.enqueue ⟨cond, state, until_, roamingWithNetID, enable_fNS_MIC⟩ }
    else db

end Lorawan.NetworkServer

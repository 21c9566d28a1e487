import Lorawan.Backend.KeyEnvelope

/-!
# The application server's table and its writer (structure.sql:32-40, app_server/child.c)

`activemotes` has one row for a device by design, but no index that says so: a
`SELECT` reads the first row its condition matches, an `UPDATE` changes every
one. Session keys are written by a second process, which executes the `UPDATE`s
of a message queue in order.
-/

namespace Lorawan.AppServer
open Lorawan Lorawan.Backend

/-- A row of `activemotes`; `none` is SQL `NULL`. -/
structure ActiveMote where
  eui : Option ℕ
  AppSKey : Option Octets
  DevAddr : Option ℕ
  AFCntDown : Option ℕ
deriving DecidableEq

/-- The value that `send_downlink` reads: zero for `NULL`. -/
def ActiveMote.counter (r : ActiveMote) : ℕ := r.AFCntDown.getD 0

/-- The `where` text of the statements: by DevEUI for OTA, by DevAddr for ABP. -/
def ActiveMote.selected (devEui devAddr : ℕ) (r : ActiveMote) : Bool :=
  if devEui = NONE_DEVEUI then decide (r.DevAddr = some devAddr) else decide (r.eui = some devEui)

/-- An `UPDATE` of the key of a device, waiting in the queue (web.c:166-200). -/
structure SKeyUpdate where
  clrAFCntDown : Bool
  AppSKey : Octets
  devEui : ℕ
  otaDevAddr : Option ℕ
deriving DecidableEq

/-- The assignments of one queued `UPDATE`, on the rows `WHERE eui = ..`. -/
def SKeyUpdate.apply (u : SKeyUpdate) (r : ActiveMote) : ActiveMote :=
  if r.eui = some u.devEui then
    { r with
      DevAddr := if u.otaDevAddr.isSome then u.otaDevAddr else r.DevAddr
      AFCntDown := if u.clrAFCntDown then some 0 else r.AFCntDown
      AppSKey := some u.AppSKey }
  else r

/-! ### Statements on the counter (web.c:253-299) -/

/-- `UPDATE activemotes SET AFCntDown = fcnt`. -/
def set_sql_AFCntDown (rows : List ActiveMote) (devEui devAddr fcnt : ℕ) : List ActiveMote :=
  rows.map fun r => if r.selected devEui devAddr then { r with AFCntDown := some fcnt } else r

/-- `UPDATE activemotes SET AFCntDown = AFCntDown + 1`; `NULL + 1` is `NULL`, and the statement
fails as a whole when a value leaves the column. -/
def incr_sql_AFCntDown (rows : List ActiveMote) (devEui devAddr : ℕ) : Option (List ActiveMote) :=
  if rows.any fun r => r.selected devEui devAddr && decide (r.AFCntDown = some (2 ^ 32 - 1)) then
    none
  else
    some (rows.map fun r =>
      if r.selected devEui devAddr then { r with AFCntDown := r.AFCntDown.map (· + 1) } else r)

/-- `updateDevAddr` (web.c:204-251): `none` when it fails, for a device without a row too. -/
def updateDevAddr (sqlOk updateOk : Bool) (rows : List ActiveMote) (DevEui64 DevAddr32 : ℕ) :
    Option (List ActiveMote) :=
  match if sqlOk then rows.find? fun r => r.eui = some DevEui64 else none with
  | none => none
  | some r =>
    if r.DevAddr.getD NONE_DEVADDR = DevAddr32 then some rows
    else if updateOk then
      some (rows.map fun r =>
        if r.eui = some DevEui64 then { r with DevAddr := some DevAddr32 } else r)
    else none

end Lorawan.AppServer

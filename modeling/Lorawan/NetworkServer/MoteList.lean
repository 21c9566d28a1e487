import Lorawan.NetworkServer.Sessions

/-!
# The mote list (network_server/common.c:72-231, 587-635, sNS.c:107-268, 2073-2205)

Every frame and every message names a device by DevEUI or by DevAddr, and
`getMote` looks it up in one list, with the address it was last named by. Joins
give out addresses that the list and the sessions table do not have, and an
answered join frees the entries of sessions that were never used.
-/

namespace Lorawan.NetworkServer
open Lorawan

def NONE_DEVEUI : ℕ := 0xffffffffffffffff

def NONE_DEVADDR : ℕ := 0xffffffff

/-- A row of `motes`. -/
structure MoteRow where
  ID : ℕ
  DevEUI : Option ℕ
deriving DecidableEq

/-- `mote_t`: `awaited` are the DevAddrs of the JoinReqs whose answers are to come. -/
structure MoteEntry where
  devEui : ℕ
  devAddr : ℕ
  awaited : List ℕ
deriving DecidableEq

/-- `mote_list`: the `motePtr` of each element, `none` for `NULL`. -/
abbrev Motes := List (Option MoteEntry)

/-- The entry that a `mote_t*` points to. -/
def Motes.entry (l : Motes) (c : ℕ) : Option MoteEntry := l[c]?.join

/-! ### getMote (common.c:72-231) -/

/-- `SELECT DevEUI FROM motes WHERE ID = id`. -/
def ownerOf (motes : List MoteRow) (id : ℕ) : ℕ :=
  if id = 0 then NONE_DEVEUI
  else ((motes.find? (·.ID = id)).bind (·.DevEUI)).getD NONE_DEVEUI

/-- `getMoteID` of a DevAddr; 0 without a session. -/
def getMoteID (rows : List SessionRow) (devAddr : ℕ) : ℕ :=
  ((newestByDevAddr devAddr rows).map (·.ID)).getD 0

/-- What the query for the DevEUI of the session with the DevAddr gives. -/
def sessionDevEui (ok : Bool) (motes : List MoteRow) (rows : List SessionRow) (devAddr : ℕ) : ℕ :=
  if ok then ownerOf motes (getMoteID rows devAddr) else NONE_DEVEUI

/-- The DevEUI that `getMote` looks for; `first` is what its query gives. -/
def resolvedDevEui (first devEui : ℕ) : ℕ := if devEui = NONE_DEVEUI then first else devEui

/-- The test of the loop over the list. -/
def MoteEntry.isNamed (devEui devAddr : ℕ) (e : MoteEntry) : Bool :=
  if devEui ≠ NONE_DEVEUI then decide (e.devEui = devEui)
  else decide (devAddr ≠ NONE_DEVADDR) && decide (e.devAddr = devAddr)

def findMote (devEui devAddr : ℕ) (l : Motes) : Option ℕ :=
  l.findIdx? (·.any (MoteEntry.isNamed devEui devAddr))

def updateMote (c : ℕ) (f : MoteEntry → MoteEntry) (l : Motes) : Motes := l.modify c (Option.map f)

/-- `create_mote`; `lookup` is the DevEUI that its query gives, or `NONE_DEVEUI`. -/
def create_mote (lookup devEui devAddr : ℕ) : MoteEntry :=
  ⟨if devEui = NONE_DEVEUI then lookup else devEui, devAddr, []⟩

/-- A new entry in the first empty element, else in a new one. -/
def placeMote (e : MoteEntry) (l : Motes) : Motes × ℕ :=
  match l.findIdx? (·.isNone) with
  | some c => (l.set c (some e), c)
  | none => (l ++ [some e], l.length)

/-- `getMote` with what its own query gives and the one of `create_mote`: a query can fail, and the
tables can change between the two. -/
def getMoteBetween (first second devEui devAddr : ℕ) (l : Motes) : Motes × ℕ :=
  let devEui := resolvedDevEui first devEui
  match findMote devEui devAddr l with
  | some c =>
    if devEui ≠ NONE_DEVEUI ∧ devAddr ≠ NONE_DEVADDR then
      (updateMote c (fun e => { e with devAddr := devAddr }) l, c)
    else (l, c)
  | none => placeMote (create_mote second devEui devAddr) l

/-- `free_mote` and `motePtr = NULL`. -/
def free_mote (c : ℕ) (l : Motes) : Motes := l.modify c fun _ => none

/-! ### getDevAddr (sNS.c:2073-2129) -/

/-- The addresses of this network, `nwkAddrBits` and `devAddrBase`. -/
structure AddrConfig where
  nwkAddrBits : ℕ
  devAddrBase : ℕ
deriving DecidableEq

/-- The loop; `fails` are the addresses whose query fails. Without a free address the mote keeps
the one it has. -/
def tryDevAddrs (l : Motes) (rows : List SessionRow) (fails : List ℕ) (devAddr : ℕ) : List ℕ → ℕ
  | [] => devAddr
  | attempt :: rest =>
    if l.any (·.any fun e => e.devAddr = attempt) then tryDevAddrs l rows fails devAddr rest
    else if attempt ∈ fails then NONE_DEVADDR
    else if rows.any (·.DevAddr = attempt) then tryDevAddrs l rows fails devAddr rest
    else attempt

def getDevAddr (cfg : AddrConfig) (l : Motes) (rows : List SessionRow) (fails : List ℕ)
    (devAddr : ℕ) : ℕ :=
  tryDevAddrs l rows fails devAddr
    ((List.range (2 ^ cfg.nwkAddrBits - 1)).map (cfg.devAddrBase ||| ·))

/-! ### The server -/

/-- History: a session row that was queued for the answer of a JoinReq. -/
structure Inserted where
  sent : ℕ
  DevAddr : ℕ
deriving DecidableEq

/-- History: an entry freed while the answer for the mote `by_` was handled. -/
structure Freed where
  by_ : ℕ
  devEui : ℕ
  cell : ℕ
  entry : MoteEntry
deriving DecidableEq

structure Network where
  motes : List MoteRow
  store : WriteBehind.Store (List SessionRow) Statement
  mote_list : Motes
  /-- Memory was used after it was freed. -/
  dead : Bool
  inserted : List Inserted
  freed : List Freed
deriving DecidableEq

def Network.init (motes : List MoteRow) (rows : List SessionRow) : Network :=
  ⟨motes, ⟨rows, []⟩, [], false, [], []⟩

/-- `getMoteIDfromDevEUI`; 0 when there is none. -/
def getMoteIDfromDevEUI (motes : List MoteRow) (devEui : ℕ) : ℕ :=
  ((motes.find? (·.DevEUI = some devEui)).map (·.ID)).getD 0

/-- The result of `SELECT DevAddr FROM sessions WHERE ID = id AND FCntUp IS NULL`. -/
def neverUsed (id : ℕ) (rows : List SessionRow) : List ℕ :=
  (rows.filter fun r => decide (r.ID = id) && r.FCntUp.isNone).map (·.DevAddr)

def freeMotes (addrs : List ℕ) (l : Motes) : Motes :=
  l.map fun c => c.filter fun e => decide (e.devAddr ∉ addrs)

/-- History. -/
def freedMotes (by_ devEui : ℕ) (addrs : List ℕ) (l : Motes) : List Freed :=
  l.zipIdx.filterMap fun p =>
    (p.1.filter fun e => decide (e.devAddr ∈ addrs)).map fun e => ⟨by_, devEui, p.2, e⟩

/-- The answer to a JoinReq or HRStartReq. -/
structure JoinAns where
  /-- The result is Success; for an HRStartAns also that it carries a join accept. -/
  success : Bool
  Lifetime : Option ℕ
  DevAddr : Option ℕ
  keysOk : Bool
  /-- The query of `deleteNeverUsedSessions`. -/
  selectOk : Bool
  /-- `mq_send` takes the DELETE. -/
  deleteOk : Bool
  /-- It takes the INSERT. -/
  insertOk : Bool
  /-- The columns that do not depend on the mote. -/
  row : SessionRow
deriving DecidableEq

def Network.enqueue (mqOk : Bool) (u : Statement) (s : Network) : Network :=
  if mqOk then { s with store := s.store.enqueue u } else s

/-- `deleteNeverUsedSessions` (common.c:587-635), called for the mote `c`. -/
def deleteNeverUsedSessions (c devEui : ℕ) (ans : JoinAns) (s : Network) : Network :=
  if ans.selectOk then
    let id := getMoteIDfromDevEUI s.motes devEui
    let addrs := neverUsed id s.store.table
    Network.enqueue ans.deleteOk (.deleteNeverUsed id)
      { s with
        mote_list := freeMotes addrs s.mote_list
        freed := s.freed ++ freedMotes c devEui addrs s.mote_list }
  else s

/-- The row that `add_database_session` inserts. -/
def joinedRow (motes : List MoteRow) (e : MoteEntry) (ans : JoinAns) : SessionRow :=
  { ans.row with
    ID := getMoteIDfromDevEUI motes e.devEui
    DevAddr := e.devAddr
    NFCntDown := none
    FCntUp := none }

/-- `add_database_session` for the mote; `sent` is the DevAddr of the JoinReq. -/
def addSession (sent : Option ℕ) (e : MoteEntry) (ans : JoinAns) (s : Network) : Network :=
  if e.devEui ≠ NONE_DEVEUI ∧ ans.insertOk then
    { s with
      store := s.store.enqueue (.insert (joinedRow s.motes e ans))
      inserted := s.inserted ++ (sent.map fun a => ⟨a, e.devAddr⟩).toList }
  else s

/-- What `take_JoinAns` does to the mote, its sessions and the list (sNS.c:107-208). -/
def takeJoinAns (sent : Option ℕ) (c : ℕ) (ans : JoinAns) (s : Network) : Network :=
  if ans.success ∧ ans.Lifetime.getD 0 ≠ 0 then
    match s.mote_list.entry c with
    | none => s
    | some e =>
      let e := { e with devAddr := ans.DevAddr.getD e.devAddr }
      let s := { s with mote_list := updateMote c (fun _ => e) s.mote_list }
      if ans.keysOk then
        let s := deleteNeverUsedSessions c e.devEui ans s
        -- what follows reads and writes the mote
        if (s.mote_list.entry c).isSome then addSession sent e ans s else { s with dead := true }
      else s
  else s

/-- Which queries for a DevEUI succeed: the one of `getMote`, and that of `create_mote`. -/
structure LookupOk where
  getMote : Bool
  create_mote : Bool
deriving DecidableEq

inductive MoteEvent
  /-- A frame or a message names a device. -/
  | name (devEui devAddr : ℕ) (ok : LookupOk)
  /-- `assignDevAddrToJS`; `posted` when the JoinReq was sent. -/
  | assign (c : ℕ) (fails : List ℕ) (posted : Bool)
  /-- An answer that will not come. -/
  | lost (c i : ℕ)
  | joinAns (c i : ℕ) (ans : JoinAns)
  | hrStartAns (c : ℕ) (ans : JoinAns)
  /-- `PRStartAnsCallback` and `sNS_HRStartAnsCallback` take these from the answer. -/
  | roamAns (c : ℕ) (devEui devAddr : Option ℕ)
  /-- `common_service` comes to a device whose uplink is discarded. -/
  | discard (c : ℕ)
  /-- What other handlers and the other devices queue. -/
  | statement (u : Statement)
  | writer
deriving DecidableEq

/-- `assignDevAddrToJS` (sNS.c:2189-2205). -/
def assignDevAddrToJS (cfg : AddrConfig) (c : ℕ) (fails : List ℕ) (posted : Bool) (s : Network) :
    Network :=
  { s with
    mote_list := updateMote c (fun e =>
      let devAddr := getDevAddr cfg s.mote_list s.store.table fails e.devAddr
      { e with
        devAddr := devAddr
        awaited := if devAddr ≠ NONE_DEVADDR ∧ posted then e.awaited ++ [devAddr]
          else e.awaited }) s.mote_list }

def forgetAwaited (i : ℕ) (e : MoteEntry) : MoteEntry := { e with awaited := e.awaited.eraseIdx i }

/-- `hNS_JoinAnsCallback`: the transaction is over when the answer is handled. -/
def joinAnsCallback (c i : ℕ) (ans : JoinAns) (s : Network) : Network :=
  match (s.mote_list.entry c).bind (·.awaited[i]?) with
  | none => s
  | some sent =>
    takeJoinAns (some sent) c ans
      { s with mote_list := updateMote c (forgetAwaited i) s.mote_list }

def roamAnsCallback (devEui devAddr : Option ℕ) (e : MoteEntry) : MoteEntry :=
  { e with devEui := devEui.getD e.devEui, devAddr := devAddr.getD e.devAddr }

/-- What `getMote` looks for. -/
def Network.sought (s : Network) (ok : LookupOk) (devEui devAddr : ℕ) : ℕ :=
  resolvedDevEui (sessionDevEui ok.getMote s.motes s.store.table devAddr) devEui

/-- What `create_mote` finds where no DevEUI is known. -/
def Network.lookup (s : Network) (ok : LookupOk) (devAddr : ℕ) : ℕ :=
  sessionDevEui ok.create_mote s.motes s.store.table devAddr

def Network.getMote (s : Network) (ok : LookupOk) (devEui devAddr : ℕ) : Motes :=
  (getMoteBetween (sessionDevEui ok.getMote s.motes s.store.table devAddr) (s.lookup ok devAddr)
    devEui devAddr s.mote_list).1

def Network.handle (cfg : AddrConfig) (s : Network) : MoteEvent → Network
  | .name devEui devAddr ok => { s with mote_list := s.getMote ok devEui devAddr }
  | .assign c fails posted => assignDevAddrToJS cfg c fails posted s
  | .lost c i => { s with mote_list := updateMote c (forgetAwaited i) s.mote_list }
  | .joinAns c i ans => joinAnsCallback c i ans s
  | .hrStartAns c ans => takeJoinAns none c ans s
  | .roamAns c devEui devAddr =>
    { s with mote_list := updateMote c (roamAnsCallback devEui devAddr) s.mote_list }
  | .discard c => { s with mote_list := free_mote c s.mote_list }
  | .statement u => { s with store := s.store.enqueue u }
  | .writer => { s with store := s.store.writeNext execute }

/-- After a use of freed memory nothing is known. -/
def Network.step (cfg : AddrConfig) (s : Network) (e : MoteEvent) : Network :=
  if s.dead then s else s.handle cfg e

end Lorawan.NetworkServer

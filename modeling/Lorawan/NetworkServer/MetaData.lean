import Lorawan.Backend.MetaData

/-!
# Metadata between network servers (common.c:234-336, 829-1030, 2449-2464)

The objects that carry uplink and downlink metadata, and the search for the gateway
with the best signal in what was received.
-/

namespace Lorawan.NetworkServer
open Lorawan Lorawan.Backend

inductive role_e
  | noneNS
  | fNS
  | sNS
  | hNS
deriving DecidableEq

variable {S D : Type} (E : JsonEnv S D)

/-! ### ULMetaData -/

def hexText (n : ℕ) : Json Member D := .string (Text.print 16 n)

/-- `json_object_new_string`; the library reads the text. -/
def new_region (r : Option Region) : Except Fault (Json Member D) := do
  let r ← deref r
  pure (.string r.text)

def generateGWInfoElement (gi : Option (GWInfo_t S)) (sender : role_e) (up : Bool) :
    Except Fault (Json Member D) := do
  let gi ← deref gi
  let region ← new_region gi.RFRegion
  let element := Json.add .ID (hexText gi.id.toNat) Json.noMembers
  let element := Json.add .RFRegion region element
  let element := Json.add .RSSI (Json.new_int gi.RSSI.toInt32) element
  let element := Json.add .SNR (Json.new_int gi.SNR.toInt32) element
  let element := Json.add .Lat (.double (E.floats.widen gi.Lat)) element
  let element := Json.add .Lon (.double (E.floats.widen gi.Lon)) element
  -- not sent by an sNS up to the hNS
  if (up ∧ sender = .fNS) ∨ (¬up ∧ sender = .sNS) then
    let element := Json.addSome .ULToken (gi.ULToken.map .string) element
    pure (.object (Json.add .DLAllowed (.boolean gi.DLAllowed) element))
  else pure (.object element)

/-- The first `n` nodes. -/
def generateGWInfo (sender : role_e) : ℕ → List (Option (GWInfo_t S)) →
    Except Fault (List (Json Member D))
  | 0, _ => .ok []
  | _ + 1, [] => .error .undefined
  | n + 1, gi :: gis => do
    let element ← generateGWInfoElement E gi sender true
    let elements ← generateGWInfo sender n gis
    pure (element :: elements)

/-- What the function adds after the gateways. -/
def addUplink (md : ULMetaData_t S) (sender : role_e) (region : Option (Json Member D))
    (o : Member → Option (Json Member D)) : Member → Option (Json Member D) :=
  let o := Json.addSome .DevEUI
    (if md.DevEUI.toNat = Backend.NONE_DEVEUI then none else some (hexText md.DevEUI.toNat)) o
  let o := Json.addSome .DevAddr
    (if md.DevAddr.toNat = Backend.NONE_DEVADDR then none else some (hexText md.DevAddr.toNat)) o
  let o :=
    if sender = .sNS then
      let o := Json.add .FPort (Json.new_int md.FPort) o
      let o := Json.add .FCntDown (Json.new_int md.FCntDown.toInt32) o
      let o := Json.add .FCntUp (Json.new_int md.FCntUp.toInt32) o
      Json.add .Confirmed (.boolean md.Confirmed) o
    else o
  let o := Json.add .DataRate (Json.new_int md.DataRate.toUInt32.toInt32) o
  let o := Json.add .ULFreq (.double (E.floats.widen md.ULFreq)) o
  let o := Json.addSome .RFRegion region o
  let o := Json.addSome .FNSULToken (if sender = .fNS then md.FNSULToken.map .string else none) o
  let o := Json.add .RecvTime (.string md.RecvTime) o
  Json.add .ULFreq (.double (E.floats.widen md.ULFreq)) o

def generateULMetaData (md : ULMetaData_t S) (sender : role_e) (addGWMetadata : Bool) :
    Except Fault (Json Member D) := do
  let gateways ← if addGWMetadata ∧ 0 < md.GWCnt then
      if md.gwList = [] then .error .refused
      else do
        let jarray ← generateGWInfo E sender md.GWCnt.toNat md.gwList
        pure (Json.add .GWCnt (Json.new_int md.GWCnt.toUInt32.toInt32)
          (Json.add .GWInfo (.array jarray) Json.noMembers))
    else pure Json.noMembers
  if sender = .fNS then do
    let region ← new_region md.RFRegion
    pure (.object (addUplink E md sender (some region) gateways))
  else pure (.object (addUplink E md sender none gateways))

/-! ### DLMetaData -/

structure DLMetaData_t (S : Type) where
  DevEUI : UInt64
  DevAddr : UInt32
  FPort : UInt8
  FCntDown : UInt32
  Confirmed : Bool
  DLFreq1 : S
  DLFreq2 : S
  RXDelay1 : UInt8
  DataRate1 : UInt8
  DataRate2 : UInt8
  ClassMode : Char
  FNSULToken : Option (List Char)
  /-- The `ULToken` pointers of the nodes. -/
  ultList : List (Option (List Char))
  HiPriorityFlag : Bool
  PingPeriod : UInt32
deriving DecidableEq

/-- What `sNS_band_conv` leaves in the members it writes. -/
structure Windows (S : Type) where
  DLFreq1 : S
  DataRate1 : UInt8
  DLFreq2 : S
  DataRate2 : UInt8

def sNS_band_conv (w : Windows S) (dlmd : DLMetaData_t S) : DLMetaData_t S :=
  { dlmd with
    DLFreq1 := w.DLFreq1
    DataRate1 := w.DataRate1
    DLFreq2 := w.DLFreq2
    DataRate2 := w.DataRate2 }

/-- `out_jarray`, which is made and not added to the object. -/
def generateULTokens : List (Option (GWInfo_t S)) → Except Fault (List (Json Member D))
  | [] => .ok []
  | gi :: gis => do
    let gi ← deref gi
    let token ← deref gi.ULToken
    let tokens ← generateULTokens gis
    pure (.object (Json.add .ULToken (.string token) Json.noMembers) :: tokens)

/-- The downlink with its frequencies. -/
def fillFreqs (ulmd : Option (ULMetaData_t S)) (w : Windows S) (dlmd : DLMetaData_t S) :
    DLMetaData_t S :=
  if ulmd.isSome ∧ dlmd.ClassMode = 'A' then sNS_band_conv w dlmd else dlmd

/-- What the function adds after what it took from the uplink. -/
def addDownlink (dlmd : DLMetaData_t S) (sender : role_e) (o : Member → Option (Json Member D)) :
    Member → Option (Json Member D) :=
  let o := Json.addSome .DevEUI
    (if dlmd.DevEUI.toNat = Backend.NONE_DEVEUI then none else some (hexText dlmd.DevEUI.toNat)) o
  let o := Json.addSome .DevAddr
    (if dlmd.DevAddr.toNat = Backend.NONE_DEVADDR then none else some (hexText dlmd.DevAddr.toNat)) o
  if sender = .sNS then
    let pos1 := E.floats.isPos dlmd.DLFreq1
    let pos2 := E.floats.isPos dlmd.DLFreq2
    let o := Json.addSome .DLFreq1
      (if pos1 then some (.double (E.floats.widen dlmd.DLFreq1)) else none) o
    let o := Json.addSome .DataRate1
      (if pos1 then some (Json.new_int dlmd.DataRate1.toUInt32.toInt32) else none) o
    let o := Json.addSome .DLFreq2
      (if pos2 then some (.double (E.floats.widen dlmd.DLFreq2)) else none) o
    let o := Json.addSome .DataRate2
      (if pos2 then some (Json.new_int dlmd.DataRate2.toUInt32.toInt32) else none) o
    let o := Json.add .RXDelay1 (Json.new_int dlmd.RXDelay1.toUInt32.toInt32) o
    let o := Json.add .ClassMode (.string (if dlmd.ClassMode = '\x00' then [] else [dlmd.ClassMode])) o
    let o := Json.addSome .PingPeriod
      (if dlmd.ClassMode = 'B' then some (Json.new_int dlmd.PingPeriod.toInt32) else none) o
    Json.add .HiPriorityFlag (.boolean dlmd.HiPriorityFlag) o
  else
    let o := Json.add .FPort (Json.new_int dlmd.FPort.toUInt32.toInt32) o
    let o := Json.add .FCntDown (Json.new_int dlmd.FCntDown.toInt32) o
    Json.add .Confirmed (.boolean dlmd.Confirmed) o

/-- The object, and the downlink with its frequencies. -/
def generateDLMetaData (ulmd : Option (ULMetaData_t S)) (w : Windows S) (dlmd : DLMetaData_t S)
    (sender : role_e) : Except Fault (Json Member D × DLMetaData_t S) := do
  let uplink ← match ulmd with
    | none => pure Json.noMembers
    | some md => do
      let ret := Json.addSome .FNSULToken (md.FNSULToken.map .string) Json.noMembers
      let ret := Json.add .DataRate (Json.new_int md.DataRate.toUInt32.toInt32) ret
      let region ← new_region md.RFRegion
      let ret := Json.add .RFRegion region ret
      let ret := Json.add .GWCnt (Json.new_int md.GWCnt.toUInt32.toInt32) ret
      let _out_jarray : List (Json Member D) ← generateULTokens md.gwList
      pure ret
  let dlmd := fillFreqs ulmd w dlmd
  pure (.object (addDownlink E dlmd sender uplink), dlmd)

/-! ### parseDLMetaData -/

/-- `DLMetaData_t dlMetaData = { 0 }` after the first lines of the parser. -/
def DLMetaData_t.zero : DLMetaData_t S :=
  { DevEUI := UInt64.ofNat Backend.NONE_DEVEUI
    DevAddr := UInt32.ofNat Backend.NONE_DEVADDR
    FPort := 0
    FCntDown := 0
    Confirmed := false
    DLFreq1 := E.floats.zero
    DLFreq2 := E.floats.zero
    RXDelay1 := 0
    DataRate1 := 0
    DataRate2 := 0
    ClassMode := '\x00'
    FNSULToken := none
    ultList := []
    HiPriorityFlag := false
    PingPeriod := 0 }

/-- The frequencies; a data rate is only looked for beside its frequency. -/
def parseWindows (obj : Json Member D) : DLMetaData_t S :=
  let rate := fun freq rate =>
    (if (obj.get_ex freq).isSome then readInt E 0 (obj.get_ex rate) else 0).toUInt32.toUInt8
  { DLMetaData_t.zero E with
    DLFreq1 := readSingle E E.floats.zero (obj.get_ex .DLFreq1)
    DataRate1 := rate .DLFreq1 .DataRate1
    DLFreq2 := readSingle E E.floats.zero (obj.get_ex .DLFreq2)
    DataRate2 := rate .DLFreq2 .DataRate2 }

/-- The texts of the elements, all into the same node. -/
def parseULTokens : Option (List Char) → List (Json Member D) → Except Fault (Option (List Char))
  | token, [] => .ok token
  | _, v :: vs => do
    let str ← deref (v.get_string E.conv)
    parseULTokens (some str) vs

/-- The first node is allocated before the elements are looked at; `mylist` stays at it, so what
`next` points to on the way is left again. -/
def parseULTokenList (v : Option (Json Member D)) : Except Fault (List (Option (List Char))) :=
  match v with
  | none => .ok []
  | some v => do
    let vs ← deref v.elements
    let token ← parseULTokens E none vs
    pure [token]

/-- The receiver is an fNS (common.c:860-910, 935-950). -/
def parseForFNS (obj : Json Member D) (out : DLMetaData_t S) :
    Except Fault (role_e × DLMetaData_t S) :=
  match obj.get_ex .RXDelay1 with
  | none => .ok (.noneNS, out)
  | some delay =>
    let out := { out with RXDelay1 := (delay.get_int E.conv).toUInt32.toUInt8 }
    match obj.get_ex .ClassMode with
    | none => .ok (.noneNS, out)
    | some mode => do
      let str ← deref (mode.get_string E.conv)
      let out := { out with ClassMode := str.headD '\x00' }
      if out.ClassMode = 'B' ∧ (obj.get_ex .PingPeriod).isNone then pure (.noneNS, out)
      else
        let DevEUI ← readHex E 64 Backend.NONE_DEVEUI (obj.get_ex .DevEUI)
        let DevAddr ← readHex E 32 Backend.NONE_DEVADDR (obj.get_ex .DevAddr)
        let FNSULToken ← readText E (obj.get_ex .FNSULToken)
        let ultList ← parseULTokenList E (obj.get_ex .GWInfo)
        pure (.fNS, { out with
          PingPeriod :=
            if out.ClassMode = 'B' then (readInt E 0 (obj.get_ex .PingPeriod)).toUInt32
            else out.PingPeriod
          DevEUI := UInt64.ofNat DevEUI
          DevAddr := UInt32.ofNat DevAddr
          FNSULToken := FNSULToken
          HiPriorityFlag := readBool E false (obj.get_ex .HiPriorityFlag)
          ultList := ultList })

/-- The device: the DevEUI, else the DevAddr. -/
def parseDevice (obj : Json Member D) : Except Fault (Option (ℕ × ℕ)) :=
  match obj.get_ex .DevEUI, obj.get_ex .DevAddr with
  | some v, _ => do
    let DevEUI ← readHex E 64 Backend.NONE_DEVEUI (some v)
    pure (some (DevEUI, Backend.NONE_DEVADDR))
  | none, some v => do
    let DevAddr ← readHex E 32 Backend.NONE_DEVADDR (some v)
    pure (some (Backend.NONE_DEVEUI, DevAddr))
  | none, none => .ok none

/-- The receiver is an sNS (common.c:911-933). -/
def parseForSNS (obj : Json Member D) (out : DLMetaData_t S) :
    Except Fault (role_e × DLMetaData_t S) := do
  match ← parseDevice E obj with
  | none => pure (.noneNS, out)
  | some (DevEUI, DevAddr) =>
    let out := { out with DevEUI := UInt64.ofNat DevEUI, DevAddr := UInt32.ofNat DevAddr }
    match obj.get_ex .FPort with
    | none => pure (.noneNS, out)
    | some port =>
      let out := { out with FPort := (port.get_int E.conv).toUInt32.toUInt8 }
      match obj.get_ex .FCntDown with
      | none => pure (.noneNS, out)
      | some count =>
        pure (.sNS, { out with
          FCntDown := (count.get_int E.conv).toUInt32
          Confirmed := readBool E false (obj.get_ex .Confirmed) })

/-- The role is that of the receiver: a frequency is only sent to an fNS. -/
def parseDLMetaData (obj : Json Member D) : Except Fault (role_e × DLMetaData_t S) :=
  let out := parseWindows E obj
  if !E.floats.isZero out.DLFreq1 || !E.floats.isZero out.DLFreq2 then parseForFNS E obj out
  else parseForSNS E obj out

/-! ### The best gateway of a request (common.c:2449-2464) -/

def SNR_WEIGHT : ℤ := 12

def GWInfo_t_sq (gi : GWInfo_t S) : ℤ := gi.SNR.toInt * SNR_WEIGHT + gi.RSSI.toInt

/-- `best_sq`, `rx_snr` and `ulToken` after the loop. -/
structure BestGateway where
  best_sq : ℤ
  rx_snr : Int8
  ulToken : Option (List Char)
deriving DecidableEq

def BestGateway.compare (best : BestGateway) (gi : GWInfo_t S) : BestGateway :=
  if best.best_sq < GWInfo_t_sq gi then ⟨GWInfo_t_sq gi, gi.SNR, gi.ULToken⟩ else best

def bestGateway : List (Option (GWInfo_t S)) → BestGateway → Except Fault BestGateway
  | [], best => .ok best
  | gi :: gis, best => do
    let gi ← deref gi
    bestGateway gis (best.compare gi)

def BestGateway.init : BestGateway := ⟨-2 ^ 31, -128, none⟩

end Lorawan.NetworkServer

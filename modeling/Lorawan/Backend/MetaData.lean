import Lorawan.Backend.Message

/-!
# Uplink metadata (libserver.c:1789-1996, libserver.h:447-483)

`ULMetaData` tells which gateways received an uplink. What the sender may leave out
depends on its role; the parser leaves a null pointer for what is not there.
-/

namespace Lorawan.Backend
open Lorawan

/-! ### Data -/

inductive Region
  | EU868
  | US902
  | US902A
  | US902B
  | US902C
  | US902D
  | US902E
  | US902F
  | US902G
  | US902H
  | China779
  | China470
  | EU433
  | Australia915
  | AS923
deriving DecidableEq

namespace Region

def text : Region → List Char
  | EU868 => "EU868".toList
  | US902 => "US902".toList
  | US902A => "US902A".toList
  | US902B => "US902B".toList
  | US902C => "US902C".toList
  | US902D => "US902D".toList
  | US902E => "US902E".toList
  | US902F => "US902F".toList
  | US902G => "US902G".toList
  | US902H => "US902H".toList
  | China779 => "China779".toList
  | China470 => "China470".toList
  | EU433 => "EU433".toList
  | Australia915 => "Australia915".toList
  | AS923 => "AS923".toList

/-- In the order of the tests. -/
def all : List Region :=
  [EU868, US902, US902A, US902B, US902C, US902D, US902E, US902F, US902G, US902H, China779,
    China470, EU433, Australia915, AS923]

end Region

def getRFRegion (str : List Char) : Option Region := Region.all.find? fun r => str = r.text

theorem getRFRegion_isSome_iff (str : List Char) :
    (getRFRegion str).isSome ↔ ∃ r : Region, str = r.text := by
  rw [getRFRegion, List.find?_isSome]
  constructor
  · rintro ⟨r, -, hr⟩
    exact ⟨r, of_decide_eq_true hr⟩
  · rintro ⟨r, hr⟩
    have hall : r ∈ Region.all := by cases r <;> decide
    exact ⟨r, hall, decide_eq_true hr⟩

@[simp] theorem getRFRegion_text (r : Region) : getRFRegion r.text = some r := by
  cases r <;> decide

variable {S D : Type}

structure GWInfo_t (S : Type) where
  id : UInt64
  /-- A null pointer when it is not there, or unknown. -/
  RFRegion : Option Region
  RSSI : Int8
  SNR : Int8
  Lat : S
  Lon : S
  ULToken : Option (List Char)
  DLAllowed : Bool
deriving DecidableEq

/-- The list of gateways is the list of the `GWInfo` pointers of its nodes. -/
structure ULMetaData_t (S : Type) where
  DevEUI : UInt64
  DevAddr : UInt32
  FPort : Int32
  FCntDown : UInt32
  FCntUp : UInt32
  Confirmed : Bool
  DataRate : UInt8
  FNSULToken : Option (List Char)
  ULFreq : S
  Margin : Int32
  Battery : Int32
  RecvTime : List Char
  RFRegion : Option Region
  GWCnt : UInt8
  gwList : List (Option (GWInfo_t S))
deriving DecidableEq

/-- Why a function has no result: a null pointer was followed (or the JSON library aborted), or
it returned its failure. -/
inductive Fault
  | undefined
  | refused
deriving DecidableEq

theorem bind_ok_iff {ε α β : Type} {x : Except ε α} {f : α → Except ε β} {b : β} :
    x >>= f = .ok b ↔ ∃ a, x = .ok a ∧ f a = .ok b := by
  cases x with
  | error e => simp [bind, Except.bind]
  | ok a => simp [bind, Except.bind]

theorem bind_error_iff {ε α β : Type} {x : Except ε α} {f : α → Except ε β} {e : ε} :
    x >>= f = .error e ↔ x = .error e ∨ ∃ a, x = .ok a ∧ f a = .error e := by
  cases x with
  | error e' => simp [bind, Except.bind]
  | ok a => simp [bind, Except.bind]

@[simp] theorem ok_bind {ε α β : Type} (a : α) (f : α → Except ε β) : Except.ok a >>= f = f a := rfl

@[simp] theorem error_bind {ε α β : Type} (e : ε) (f : α → Except ε β) :
    Except.error e >>= f = .error e := rfl

@[simp] theorem pure_eq_ok {ε α : Type} (a : α) : (pure a : Except ε α) = .ok a := rfl

theorem pure_ok_iff {ε α : Type} {a b : α} : (pure a : Except ε α) = .ok b ↔ a = b := by
  simp [pure, Except.pure]

/-! ### ParseULMetaData -/

/-- What the parser is given beside the object. -/
structure JsonEnv (S D : Type) where
  conv : Json.Conversions Member D
  floats : Floats S D

variable (E : JsonEnv S D)

def deref {α : Type} : Option α → Except Fault α
  | none => .error .undefined
  | some a => .ok a

@[simp] theorem deref_some {α : Type} (a : α) : deref (some a) = .ok a := rfl

@[simp] theorem deref_none {α : Type} : (deref none : Except Fault α) = .error .undefined := rfl

theorem deref_ok_iff {α : Type} {o : Option α} {a : α} : deref o = .ok a ↔ o = some a := by
  cases o with
  | none => simp [deref]
  | some a' => simp [deref]

/-- `sscanf` of a hexadecimal member; nothing is stored when it is no number. -/
def readHex (bits dflt : ℕ) (v : Option (Json Member D)) : Except Fault ℕ :=
  match v with
  | none => .ok dflt
  | some v => do
    let str ← deref (v.get_string E.conv)
    pure ((Text.scan 16 bits str).getD dflt)

/-- A member that is copied as text. -/
def readText (v : Option (Json Member D)) : Except Fault (Option (List Char)) :=
  match v with
  | none => .ok none
  | some v => do
    let str ← deref (v.get_string E.conv)
    pure (some str)

theorem readText_ok_isSome {v : Option (Json Member D)} {str : Option (List Char)}
    (h : readText E v = .ok str) : str.isSome ↔ v.isSome := by
  cases v with
  | none =>
    simp only [readText, Except.ok.injEq] at h
    simp [← h]
  | some v =>
    obtain ⟨s, -, hs⟩ := bind_ok_iff.mp h
    simp [← pure_ok_iff.mp hs]

def readRegion (v : Option (Json Member D)) : Except Fault (Option Region) := do
  let str ← readText E v
  pure (str.bind getRFRegion)

def readInt (dflt : Int32) (v : Option (Json Member D)) : Int32 :=
  v.elim dflt (Json.get_int E.conv)

def readSingle (dflt : S) (v : Option (Json Member D)) : S :=
  v.elim dflt fun v => E.floats.narrow (v.get_double E.conv)

def readBool (dflt : Bool) (v : Option (Json Member D)) : Bool :=
  v.elim dflt (Json.get_boolean E.conv)

def CHAR_MIN : Int32 := -128

/-- Into a node that was just allocated. -/
def parseGWInfoElement (obj : Json Member D) : Except Fault (GWInfo_t S) := do
  let id ← readHex E 64 0 (obj.get_ex .ID)
  let RFRegion ← readRegion E (obj.get_ex .RFRegion)
  let ULToken ← readText E (obj.get_ex .ULToken)
  pure {
    id := UInt64.ofNat id
    RFRegion := RFRegion
    RSSI := (readInt E CHAR_MIN (obj.get_ex .RSSI)).toInt8
    SNR := (readInt E CHAR_MIN (obj.get_ex .SNR)).toInt8
    Lat := readSingle E E.floats.zero (obj.get_ex .Lat)
    Lon := readSingle E E.floats.zero (obj.get_ex .Lon)
    ULToken := ULToken
    DLAllowed := readBool E false (obj.get_ex .DLAllowed) }

/-- The elements of the array, each into the next node. -/
def parseGWInfoElements : List (Json Member D) → Except Fault (List (Option (GWInfo_t S)))
  | [] => .ok []
  | obj :: objs => do
    let gi ← parseGWInfoElement E obj
    let gis ← parseGWInfoElements objs
    pure (some gi :: gis)

/-- The first node is allocated before the elements are looked at. -/
def parseGWInfo (GWCnt : UInt8) (v : Option (Json Member D)) :
    Except Fault (List (Option (GWInfo_t S))) :=
  match v with
  | none => if 0 < GWCnt then .error .refused else .ok []
  | some v => do
    let objs ← deref v.elements
    if objs.length ≠ GWCnt.toNat then .error .refused
    else if objs = [] then .ok [none]
    else parseGWInfoElements E objs

/-- `strncpy` into `RecvTime[32]`. -/
def readRecvTime (v : Option (Json Member D)) : Except Fault (List Char) :=
  match v with
  | none => .error .refused
  | some v => do
    let str ← deref (v.get_string E.conv)
    pure (str.take 32)

/-- `old` is what `ulMetaData` points to before; three members keep what they had. -/
def ParseULMetaData (old : ULMetaData_t S) (j : Json Member D) :
    Except Fault (ULMetaData_t S) := do
  let DevEUI ← readHex E 64 NONE_DEVEUI (j.get_ex .DevEUI)
  let DevAddr ← readHex E 32 NONE_DEVADDR (j.get_ex .DevAddr)
  let FNSULToken ← readText E (j.get_ex .FNSULToken)
  let RecvTime ← readRecvTime E (j.get_ex .RecvTime)
  let RFRegion ← readRegion E (j.get_ex .RFRegion)
  let GWCnt := (readInt E 0 (j.get_ex .GWCnt)).toUInt32.toUInt8
  let gwList ← parseGWInfo E GWCnt (j.get_ex .GWInfo)
  pure {
    DevEUI := UInt64.ofNat DevEUI
    DevAddr := UInt32.ofNat DevAddr
    FPort := readInt E (-1) (j.get_ex .FPort)
    FCntDown := (readInt E 0 (j.get_ex .FCntDown)).toUInt32
    FCntUp := (readInt E 0 (j.get_ex .FCntUp)).toUInt32
    Confirmed := readBool E old.Confirmed (j.get_ex .Confirmed)
    DataRate := (readInt E 255 (j.get_ex .DataRate)).toUInt32.toUInt8
    FNSULToken := FNSULToken
    ULFreq := readSingle E E.floats.zero (j.get_ex .ULFreq)
    Margin := readInt E old.Margin (j.get_ex .Margin)
    Battery := readInt E old.Battery (j.get_ex .Battery)
    RecvTime := RecvTime
    RFRegion := RFRegion
    GWCnt := GWCnt
    gwList := gwList }

end Lorawan.Backend

import Lorawan.NetworkServer.UplinkMetaData

/-!
# Downlink metadata that is sent and parsed (common.c:829-1030)

The receiver takes itself for an fNS when it finds a frequency, else for an sNS. The
sender fills the frequencies in class A only, and it makes the array of gateway tokens
without adding it to the object.
-/

namespace Lorawan.NetworkServer
open Lorawan Lorawan.Backend

variable {S D : Type} (E : JsonEnv S D)

/-! ### sNS to fNS -/

/-- What the fNS needs of the downlink. -/
structure SameDownlink (md : ULMetaData_t S) (dlmd : DLMetaData_t S) (role : role_e)
    (out : DLMetaData_t S) : Prop where
  role : role = .fNS
  ClassMode : out.ClassMode = dlmd.ClassMode
  RXDelay1 : out.RXDelay1 = dlmd.RXDelay1
  DLFreq1 : out.DLFreq1 = dlmd.DLFreq1
  DataRate1 : out.DataRate1 = dlmd.DataRate1
  DLFreq2 : out.DLFreq2 = dlmd.DLFreq2
  DataRate2 : out.DataRate2 = dlmd.DataRate2
  PingPeriod : dlmd.ClassMode = 'B' → out.PingPeriod = dlmd.PingPeriod
  FNSULToken : out.FNSULToken = md.FNSULToken
  HiPriorityFlag : out.HiPriorityFlag = dlmd.HiPriorityFlag
  ultList : out.ultList = md.gwList.map fun gi => gi.bind GWInfo_t.ULToken

/-- The downlink of an sNS reaches the fNS. -/
def ReachesFNS (md : ULMetaData_t S) (w : Windows S) (dlmd : DLMetaData_t S) : Prop :=
  ∃ j filled role out, generateDLMetaData E (some md) w dlmd .sNS = .ok (j, filled) ∧
    parseDLMetaData E j = .ok (role, out) ∧ SameDownlink md filled role out

/-- A window that is sent, or that has the values the receiver starts with. -/
def WindowTold (freq : S) (rate : UInt8) : Prop :=
  E.floats.isPos freq = true ∨ (freq = E.floats.zero ∧ rate = 0)

/-- What the receiver reads of the windows. -/
def receivedFreq (freq : S) : S := if E.floats.isPos freq then freq else E.floats.zero

def receivedRate (freq : S) (rate : UInt8) : UInt8 := if E.floats.isPos freq then rate else 0

theorem windowTold_iff (freq : S) (rate : UInt8) :
    WindowTold E freq rate ↔ receivedFreq E freq = freq ∧ receivedRate E freq rate = rate := by
  rw [WindowTold, receivedFreq, receivedRate]
  cases E.floats.isPos freq with
  | true => simp
  | false =>
    simp only [Bool.false_eq_true, false_or, if_false]
    exact and_congr eq_comm eq_comm

theorem isZero_receivedFreq (freq : S) :
    E.floats.isZero (receivedFreq E freq) = !E.floats.isPos freq := by
  rw [receivedFreq]
  cases h : E.floats.isPos freq with
  | true => simpa using E.floats.isZero_of_isPos freq h
  | false => simpa using E.floats.isZero_zero

/-- What the sNS adds of the uplink. -/
def addFromUplink (md : ULMetaData_t S) (r : Region) : Member → Option (Json Member D) :=
  Json.add .GWCnt (Json.new_int md.GWCnt.toUInt32.toInt32)
    (Json.add .RFRegion (.string r.text)
      (Json.add .DataRate (Json.new_int md.DataRate.toUInt32.toInt32)
        (Json.addSome .FNSULToken (md.FNSULToken.map .string) Json.noMembers)))

theorem parseWindows_addDownlink (md : ULMetaData_t S) (r : Region) (dlmd : DLMetaData_t S) :
    parseWindows E (.object (addDownlink E dlmd .sNS (addFromUplink md r))) =
      { DLMetaData_t.zero E with
        DLFreq1 := receivedFreq E dlmd.DLFreq1
        DataRate1 := receivedRate E dlmd.DLFreq1 dlmd.DataRate1
        DLFreq2 := receivedFreq E dlmd.DLFreq2
        DataRate2 := receivedRate E dlmd.DLFreq2 dlmd.DataRate2 } := by
  simp [parseWindows, addDownlink, addFromUplink, receivedFreq, receivedRate]
  have h0 : (Int32.toUInt32 0).toUInt8 = 0 := rfl
  cases E.floats.isPos dlmd.DLFreq1 with
  | true => cases E.floats.isPos dlmd.DLFreq2 <;> simp [readSingle, E.floats.narrow_widen, h0]
  | false => cases E.floats.isPos dlmd.DLFreq2 <;> simp [readSingle, E.floats.narrow_widen, h0]

theorem parseForFNS_addDownlink (md : ULMetaData_t S) (r : Region) (dlmd out : DLMetaData_t S) :
    parseForFNS E (.object (addDownlink E dlmd .sNS (addFromUplink md r))) out =
      .ok (.fNS, { out with
        RXDelay1 := dlmd.RXDelay1
        ClassMode := dlmd.ClassMode
        PingPeriod := if dlmd.ClassMode = 'B' then dlmd.PingPeriod else out.PingPeriod
        DevEUI := dlmd.DevEUI
        DevAddr := dlmd.DevAddr
        FNSULToken := md.FNSULToken
        HiPriorityFlag := dlmd.HiPriorityFlag
        ultList := [] }) := by
  have hmode : (if dlmd.ClassMode = '\x00' then [] else [dlmd.ClassMode]).head?.getD '\x00' =
      dlmd.ClassMode := by
    split
    · rename_i h
      rw [h]
      rfl
    · rfl
  by_cases hB : dlmd.ClassMode = 'B'
  · simp [parseForFNS, addDownlink, addFromUplink, parseULTokenList, hB]
  · simp [parseForFNS, addDownlink, addFromUplink, parseULTokenList, hmode, hB]

theorem parseForSNS_role {obj : Json Member D} {out out' : DLMetaData_t S} {role : role_e}
    (h : parseForSNS E obj out = .ok (role, out')) : role ≠ .fNS := by
  obtain ⟨device, -, h⟩ := bind_ok_iff.mp h
  rintro rfl
  cases device with
  | none => cases h
  | some device =>
    dsimp only at h
    split at h
    · cases h
    · split at h <;> cases h

/-- What the fNS makes of a downlink in which it finds a frequency. -/
def atFNS (md : ULMetaData_t S) (dlmd : DLMetaData_t S) : DLMetaData_t S :=
  { DLMetaData_t.zero E with
    DLFreq1 := receivedFreq E dlmd.DLFreq1
    DataRate1 := receivedRate E dlmd.DLFreq1 dlmd.DataRate1
    DLFreq2 := receivedFreq E dlmd.DLFreq2
    DataRate2 := receivedRate E dlmd.DLFreq2 dlmd.DataRate2
    RXDelay1 := dlmd.RXDelay1
    ClassMode := dlmd.ClassMode
    PingPeriod := if dlmd.ClassMode = 'B' then dlmd.PingPeriod else 0
    DevEUI := dlmd.DevEUI
    DevAddr := dlmd.DevAddr
    FNSULToken := md.FNSULToken
    HiPriorityFlag := dlmd.HiPriorityFlag
    ultList := [] }

theorem parseDLMetaData_addDownlink (md : ULMetaData_t S) (r : Region) (dlmd : DLMetaData_t S)
    (hpos : E.floats.isPos dlmd.DLFreq1 ∨ E.floats.isPos dlmd.DLFreq2) :
    parseDLMetaData E (.object (addDownlink E dlmd .sNS (addFromUplink md r))) =
      .ok (.fNS, atFNS E md dlmd) := by
  rw [parseDLMetaData, parseWindows_addDownlink]
  dsimp only
  rw [isZero_receivedFreq, isZero_receivedFreq, Bool.not_not, Bool.not_not,
    if_pos (by simpa using hpos), parseForFNS_addDownlink]
  rfl

theorem parseDLMetaData_role (md : ULMetaData_t S) (r : Region) (dlmd : DLMetaData_t S)
    (hpos : ¬(E.floats.isPos dlmd.DLFreq1 ∨ E.floats.isPos dlmd.DLFreq2)) {role : role_e}
    {out : DLMetaData_t S}
    (h : parseDLMetaData E (.object (addDownlink E dlmd .sNS (addFromUplink md r))) =
      .ok (role, out)) : role ≠ .fNS := by
  rw [parseDLMetaData, parseWindows_addDownlink] at h
  dsimp only at h
  rw [isZero_receivedFreq, isZero_receivedFreq, Bool.not_not, Bool.not_not,
    if_neg (by simpa using hpos)] at h
  exact parseForSNS_role E h

theorem generateDLMetaData_some {md : ULMetaData_t S} {w : Windows S} {dlmd : DLMetaData_t S}
    {r : Region} (hr : md.RFRegion = some r) {tokens : List (Json Member D)}
    (ht : generateULTokens md.gwList = .ok tokens) :
    generateDLMetaData E (some md) w dlmd .sNS =
      .ok (.object (addDownlink E (fillFreqs (some md) w dlmd) .sNS (addFromUplink md r)),
        fillFreqs (some md) w dlmd) := by
  simp [generateDLMetaData, hr, ht, addFromUplink]

/-- The condition on what is sent, after the frequencies were filled. -/
structure Told (md : ULMetaData_t S) (dlmd : DLMetaData_t S) : Prop where
  region : md.RFRegion.isSome
  gateways : md.gwList = []
  frequency : E.floats.isPos dlmd.DLFreq1 ∨ E.floats.isPos dlmd.DLFreq2
  window1 : WindowTold E dlmd.DLFreq1 dlmd.DataRate1
  window2 : WindowTold E dlmd.DLFreq2 dlmd.DataRate2

theorem reachesFNS_of_told {md : ULMetaData_t S} {w : Windows S} {dlmd : DLMetaData_t S}
    (h : Told E md (fillFreqs (some md) w dlmd)) : ReachesFNS E md w dlmd := by
  obtain ⟨r, hr⟩ := Option.isSome_iff_exists.mp h.region
  have ht : (generateULTokens md.gwList : Except Fault (List (Json Member D))) = .ok [] := by
    rw [h.gateways]
    rfl
  obtain ⟨hf1, hd1⟩ := (windowTold_iff E _ _).mp h.window1
  obtain ⟨hf2, hd2⟩ := (windowTold_iff E _ _).mp h.window2
  refine ⟨_, _, _, _, generateDLMetaData_some E hr ht,
    parseDLMetaData_addDownlink E md r _ h.frequency, ?_⟩
  exact
    { role := rfl
      ClassMode := rfl
      RXDelay1 := rfl
      DLFreq1 := hf1
      DataRate1 := hd1
      DLFreq2 := hf2
      DataRate2 := hd2
      PingPeriod := fun hB => if_pos hB
      FNSULToken := rfl
      HiPriorityFlag := rfl
      ultList := by
        rw [h.gateways]
        rfl }

theorem told_of_reachesFNS {md : ULMetaData_t S} {w : Windows S} {dlmd : DLMetaData_t S}
    (h : ReachesFNS E md w dlmd) : Told E md (fillFreqs (some md) w dlmd) := by
  obtain ⟨j, filled, role, out, hgen, hparse, hsame⟩ := h
  have hsafe : generateDLMetaData E (some md) w dlmd .sNS ≠ .error .undefined := by
    rw [hgen]
    simp
  obtain ⟨hregion, hreach⟩ := (generateDLMetaData_safe_iff E md w dlmd .sNS).mp hsafe
  obtain ⟨r, hr⟩ := Option.isSome_iff_exists.mp hregion
  obtain ⟨tokens, ht⟩ := generateULTokens_ok (D := D) hreach
  rw [generateDLMetaData_some E hr ht] at hgen
  cases hgen
  by_cases hpos : E.floats.isPos (fillFreqs (some md) w dlmd).DLFreq1 ∨
      E.floats.isPos (fillFreqs (some md) w dlmd).DLFreq2
  · rw [parseDLMetaData_addDownlink E md r _ hpos] at hparse
    cases hparse
    refine ⟨hregion, ?_, hpos, ?_, ?_⟩
    · exact List.map_eq_nil_iff.mp hsame.ultList.symm
    · exact (windowTold_iff E _ _).mpr ⟨hsame.DLFreq1, hsame.DataRate1⟩
    · exact (windowTold_iff E _ _).mpr ⟨hsame.DLFreq2, hsame.DataRate2⟩
  · exact absurd hsame.role (parseDLMetaData_role E md r _ hpos hparse)

/-! ### hNS to sNS -/

/-- What the sNS needs of the downlink; the device is named by its DevEUI when it has one. -/
structure SameAppDownlink (dlmd : DLMetaData_t S) (role : role_e) (out : DLMetaData_t S) : Prop where
  role : role = .sNS
  DevEUI : out.DevEUI = dlmd.DevEUI
  DevAddr : dlmd.DevEUI.toNat = Backend.NONE_DEVEUI → out.DevAddr = dlmd.DevAddr
  FPort : out.FPort = dlmd.FPort
  FCntDown : out.FCntDown = dlmd.FCntDown
  Confirmed : out.Confirmed = dlmd.Confirmed

/-- The downlink of an hNS reaches the sNS. -/
def ReachesSNS (w : Windows S) (dlmd : DLMetaData_t S) : Prop :=
  ∃ j filled role out, generateDLMetaData E none w dlmd .hNS = .ok (j, filled) ∧
    parseDLMetaData E j = .ok (role, out) ∧ SameAppDownlink filled role out

theorem fillFreqs_none (w : Windows S) (dlmd : DLMetaData_t S) : fillFreqs none w dlmd = dlmd := by
  simp [fillFreqs]

theorem generateDLMetaData_none (w : Windows S) (dlmd : DLMetaData_t S) :
    generateDLMetaData E none w dlmd .hNS =
      .ok (.object (addDownlink E dlmd .hNS Json.noMembers), dlmd) := by
  simp [generateDLMetaData, fillFreqs_none]

/-- The object of an hNS. -/
def hNSObject (dlmd : DLMetaData_t S) : Json Member D :=
  .object (addDownlink E dlmd .hNS Json.noMembers)

theorem parseDLMetaData_hNS (dlmd : DLMetaData_t S) :
    parseDLMetaData E (hNSObject E dlmd) =
      parseForSNS E (hNSObject E dlmd) (DLMetaData_t.zero E) := by
  have h0 : (Int32.toUInt32 0).toUInt8 = 0 := rfl
  have hw : parseWindows E (hNSObject E dlmd) = DLMetaData_t.zero E := by
    simp [parseWindows, hNSObject, addDownlink, readSingle, DLMetaData_t.zero, h0]
  rw [parseDLMetaData, hw]
  simp [DLMetaData_t.zero, E.floats.isZero_zero]

theorem parseDevice_hNS (dlmd : DLMetaData_t S) :
    parseDevice E (hNSObject E dlmd) = .ok
      (if dlmd.DevEUI.toNat ≠ Backend.NONE_DEVEUI then some (dlmd.DevEUI.toNat, Backend.NONE_DEVADDR)
      else if dlmd.DevAddr.toNat ≠ Backend.NONE_DEVADDR then some (Backend.NONE_DEVEUI, dlmd.DevAddr.toNat)
      else none) := by
  by_cases h1 : dlmd.DevEUI.toNat = Backend.NONE_DEVEUI
  · by_cases h2 : dlmd.DevAddr.toNat = Backend.NONE_DEVADDR
    · simp [parseDevice, hNSObject, addDownlink, h1, h2]
    · simp [parseDevice, hNSObject, addDownlink, h1, h2]
  · simp [parseDevice, hNSObject, addDownlink, h1]

theorem parseForSNS_hNS (dlmd out : DLMetaData_t S) {DevEUI DevAddr : ℕ}
    (h : parseDevice E (hNSObject E dlmd) = .ok (some (DevEUI, DevAddr))) :
    parseForSNS E (hNSObject E dlmd) out = .ok (.sNS, { out with
      DevEUI := UInt64.ofNat DevEUI
      DevAddr := UInt32.ofNat DevAddr
      FPort := dlmd.FPort
      FCntDown := dlmd.FCntDown
      Confirmed := dlmd.Confirmed }) := by
  rw [parseForSNS, h]
  simp [hNSObject, addDownlink]

theorem reachesSNS_iff (w : Windows S) (dlmd : DLMetaData_t S) :
    ReachesSNS E w dlmd ↔ dlmd.DevEUI.toNat ≠ Backend.NONE_DEVEUI ∨ dlmd.DevAddr.toNat ≠ Backend.NONE_DEVADDR := by
  have hdev := parseDevice_hNS E dlmd
  constructor
  · rintro ⟨j, filled, role, out, hgen, hparse, hsame⟩
    rw [generateDLMetaData_none] at hgen
    cases hgen
    by_contra hnone
    rw [not_or, not_not, not_not] at hnone
    rw [if_neg (not_not.mpr hnone.1), if_neg (not_not.mpr hnone.2)] at hdev
    have hnoRole : parseDLMetaData E (hNSObject E dlmd) = .ok (.noneNS, DLMetaData_t.zero E) := by
      rw [parseDLMetaData_hNS, parseForSNS, hdev]
      rfl
    rw [hNSObject, hparse] at hnoRole
    cases hnoRole
    cases hsame.role
  · intro hsome
    by_cases h1 : dlmd.DevEUI.toNat = Backend.NONE_DEVEUI
    · have h2 : dlmd.DevAddr.toNat ≠ Backend.NONE_DEVADDR := hsome.resolve_left (not_not.mpr h1)
      rw [if_neg (not_not.mpr h1), if_pos h2] at hdev
      refine ⟨_, _, _, _, generateDLMetaData_none E w dlmd,
        (parseDLMetaData_hNS E dlmd).trans (parseForSNS_hNS E dlmd _ hdev), ?_⟩
      refine ⟨rfl, ?_, fun _ => ?_, rfl, rfl, rfl⟩
      · rw [← h1]
        exact UInt64.ofNat_toNat
      · exact UInt32.ofNat_toNat
    · rw [if_pos h1] at hdev
      refine ⟨_, _, _, _, generateDLMetaData_none E w dlmd,
        (parseDLMetaData_hNS E dlmd).trans (parseForSNS_hNS E dlmd _ hdev), ?_⟩
      refine ⟨rfl, ?_, fun h => absurd h h1, rfl, rfl, rfl⟩
      exact UInt64.ofNat_toNat

/-- When the metadata of a downlink comes back: from an sNS, when no gateway received the uplink and
every window is told; from an hNS, when the device is named. -/
theorem downlink_comes_back_iff :
    (∀ (md : ULMetaData_t S) (w : Windows S) (dlmd : DLMetaData_t S),
        ReachesFNS E md w dlmd ↔ Told E md (fillFreqs (some md) w dlmd)) ∧
      ∀ (w : Windows S) (dlmd : DLMetaData_t S), ReachesSNS E w dlmd ↔
        dlmd.DevEUI.toNat ≠ Backend.NONE_DEVEUI ∨ dlmd.DevAddr.toNat ≠ Backend.NONE_DEVADDR :=
  ⟨fun _ _ _ => ⟨told_of_reachesFNS E, reachesFNS_of_told E⟩, reachesSNS_iff E⟩

/-- A class A downlink in the first window. -/
def classADownlink : DLMetaData_t ℚ :=
  { DLMetaData_t.zero plainEnv with
    DevEUI := 0x0102030405060708
    RXDelay1 := 1
    ClassMode := 'A' }

/-- An uplink that no gateway is told of. -/
def noGateway : ULMetaData_t ℚ := { oneGateway with GWCnt := 0, gwList := [] }

/-- The token of the only gateway is lost, and a class C downlink has no frequency. -/
theorem tokens_and_class_c_lost :
    (¬ ReachesFNS plainEnv oneGateway ⟨868, 0, 0, 0⟩ classADownlink) ∧
      ¬ ReachesFNS plainEnv noGateway ⟨868, 0, 0, 0⟩ { classADownlink with ClassMode := 'C' } := by
  constructor
  · intro h
    have hnil := (told_of_reachesFNS plainEnv h).gateways
    cases hnil
  · intro h
    have hfreq := (told_of_reachesFNS plainEnv h).frequency
    revert hfreq
    decide +kernel

end Lorawan.NetworkServer

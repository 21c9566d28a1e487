import Mathlib.Data.List.Forall2
import Lorawan.Backend.Exchange
import Lorawan.NetworkServer.MetaData

/-!
# Uplink metadata that is parsed and used (libserver.c:1826-1996, common.c:234-336, 955-1030)

What the parser accepts is handed to the search for the best gateway and to both
generators. They follow pointers that the parser leaves null: the parser takes an
object without region, a gateway without region or token, and an empty array of
gateways, whose list has one node without gateway.
-/

namespace Lorawan.NetworkServer
open Lorawan Lorawan.Backend

variable {S D : Type} (E : JsonEnv S D)

/-! ### What the consumers need -/

@[simp] theorem new_region_some (r : Region) :
    (new_region (some r) : Except Fault (Json Member D)) = .ok (.string r.text) := rfl

@[simp] theorem new_region_none :
    (new_region none : Except Fault (Json Member D)) = .error .undefined := rfl

/-- The node has a gateway, with a region. -/
def Located (gi : Option (GWInfo_t S)) : Prop := ∃ g, gi = some g ∧ g.RFRegion.isSome

/-- The node has a gateway, with a token. -/
def Reachable (gi : Option (GWInfo_t S)) : Prop := ∃ g, gi = some g ∧ g.ULToken.isSome

theorem generateGWInfoElement_located {gi : Option (GWInfo_t S)} (h : Located gi)
    (sender : role_e) (up : Bool) : ∃ element, generateGWInfoElement E gi sender up = .ok element := by
  obtain ⟨g, rfl, hg⟩ := h
  obtain ⟨r, hr⟩ := Option.isSome_iff_exists.mp hg
  simp only [generateGWInfoElement, hr, deref_some, ok_bind, new_region_some]
  split
  · exact ⟨_, rfl⟩
  · exact ⟨_, rfl⟩

theorem located_of_generateGWInfoElement {gi : Option (GWInfo_t S)} {sender : role_e} {up : Bool}
    (h : generateGWInfoElement E gi sender up ≠ .error .undefined) : Located gi := by
  by_contra hgi
  apply h
  cases gi with
  | none => rfl
  | some g =>
    cases hr : g.RFRegion with
    | none => simp [generateGWInfoElement, hr]
    | some r => exact absurd ⟨g, rfl, by simp [hr]⟩ hgi

theorem generateGWInfo_located (sender : role_e) {gis : List (Option (GWInfo_t S))}
    (h : ∀ gi ∈ gis, Located gi) :
    ∃ elements, generateGWInfo E sender gis.length gis = .ok elements := by
  induction gis with
  | nil => exact ⟨[], rfl⟩
  | cons gi gis ih =>
    obtain ⟨element, h1⟩ := generateGWInfoElement_located E (h gi (by simp)) sender true
    obtain ⟨elements, h2⟩ := ih fun gi' hgi' => h gi' (by simp [hgi'])
    exact ⟨element :: elements, by
      simp only [List.length_cons, generateGWInfo, h1, h2]
      rfl⟩

theorem located_of_generateGWInfo {sender : role_e} {gis : List (Option (GWInfo_t S))}
    (h : generateGWInfo E sender gis.length gis ≠ .error .undefined) : ∀ gi ∈ gis, Located gi := by
  induction gis with
  | nil => simp
  | cons gi gis ih =>
    rw [List.length_cons, generateGWInfo, ne_eq, bind_error_iff, not_or] at h
    have hgi : Located gi := located_of_generateGWInfoElement E h.1
    obtain ⟨element, he⟩ := generateGWInfoElement_located E hgi sender true
    intro gi' hgi'
    cases hgi' with
    | head => exact hgi
    | tail _ hgi' =>
      refine ih (fun hu => h.2 ⟨element, he, ?_⟩) gi' hgi'
      exact bind_error_iff.mpr (Or.inl hu)

theorem generateULTokens_undefined_iff (gis : List (Option (GWInfo_t S))) :
    (generateULTokens gis : Except Fault (List (Json Member D))) ≠ .error .undefined ↔
      ∀ gi ∈ gis, Reachable gi := by
  induction gis with
  | nil => simp [generateULTokens]
  | cons gi gis ih =>
    rw [List.forall_mem_cons, ← ih]
    cases gi with
    | none => simp [generateULTokens, Reachable]
    | some g =>
      cases ht : g.ULToken with
      | none => simp [generateULTokens, Reachable, ht]
      | some token =>
        have hg : Reachable (some g) := ⟨g, rfl, by simp [ht]⟩
        simp [generateULTokens, ht, hg, bind_error_iff]

theorem generateULTokens_ok {gis : List (Option (GWInfo_t S))} (h : ∀ gi ∈ gis, Reachable gi) :
    ∃ tokens, (generateULTokens gis : Except Fault (List (Json Member D))) = .ok tokens := by
  induction gis with
  | nil => exact ⟨[], rfl⟩
  | cons gi gis ih =>
    obtain ⟨g, rfl, hg⟩ := h gi (by simp)
    obtain ⟨token, ht⟩ := Option.isSome_iff_exists.mp hg
    obtain ⟨tokens, hts⟩ := ih fun gi' hgi' => h gi' (by simp [hgi'])
    simp [generateULTokens, ht, hts]

theorem bestGateway_undefined_iff (gis : List (Option (GWInfo_t S))) (best : BestGateway) :
    bestGateway gis best = .error .undefined ↔ none ∈ gis := by
  induction gis generalizing best with
  | nil => simp [bestGateway]
  | cons gi gis ih =>
    cases gi with
    | none => simp [bestGateway]
    | some g =>
      rw [bestGateway, deref_some, ok_bind, ih]
      simp

theorem generateDLMetaData_safe_iff (md : ULMetaData_t S) (w : Windows S) (dlmd : DLMetaData_t S)
    (sender : role_e) :
    generateDLMetaData E (some md) w dlmd sender ≠ .error .undefined ↔
      md.RFRegion.isSome ∧ ∀ gi ∈ md.gwList, Reachable gi := by
  rw [← generateULTokens_undefined_iff (D := D)]
  cases hr : md.RFRegion with
  | none => simp [generateDLMetaData, hr]
  | some r => simp [generateDLMetaData, hr, bind_error_iff]

/-- The first members of the object, when gateways are to be told. -/
def addGateways (md : ULMetaData_t S) (elements : List (Json Member D)) :
    Member → Option (Json Member D) :=
  if 0 < md.GWCnt then
    Json.add .GWCnt (Json.new_int md.GWCnt.toUInt32.toInt32)
      (Json.add .GWInfo (.array elements) Json.noMembers)
  else Json.noMembers

theorem generateULMetaData_true {md : ULMetaData_t S} {sender : role_e}
    {elements : List (Json Member D)} (hcnt : md.gwList.length = md.GWCnt.toNat)
    (he : generateGWInfo E sender md.GWCnt.toNat md.gwList = .ok elements) :
    generateULMetaData E md sender true =
      if sender = .fNS then do
        let region ← new_region md.RFRegion
        pure (.object (addUplink E md sender (some region) (addGateways md elements)))
      else pure (.object (addUplink E md sender none (addGateways md elements))) := by
  by_cases hpos : 0 < md.GWCnt
  · have hne : md.gwList ≠ [] := by
      intro hnil
      rw [hnil, List.length_nil] at hcnt
      rw [UInt8.lt_iff_toNat_lt, ← hcnt] at hpos
      exact Nat.lt_irrefl 0 hpos
    simp [generateULMetaData, addGateways, hpos, hne, he]
  · simp [generateULMetaData, addGateways, hpos]

theorem generateULMetaData_safe {md : ULMetaData_t S} (hcnt : md.gwList.length = md.GWCnt.toNat)
    (hgis : ∀ gi ∈ md.gwList, Located gi) (hr : md.RFRegion.isSome) (sender : role_e) (add : Bool) :
    generateULMetaData E md sender add ≠ .error .undefined := by
  obtain ⟨r, hr⟩ := Option.isSome_iff_exists.mp hr
  cases add with
  | true =>
    obtain ⟨elements, he⟩ := generateGWInfo_located E sender hgis
    rw [hcnt] at he
    rw [generateULMetaData_true E hcnt he, hr]
    split <;> simp
  | false =>
    cases sender <;> simp [generateULMetaData, hr]

theorem complete_of_generateULMetaData {md : ULMetaData_t S}
    (hcnt : md.gwList.length = md.GWCnt.toNat)
    (h : generateULMetaData E md .fNS true ≠ .error .undefined) :
    md.RFRegion.isSome ∧ ∀ gi ∈ md.gwList, Located gi := by
  have hgis : ∀ gi ∈ md.gwList, Located gi := by
    refine located_of_generateGWInfo E fun (hu : generateGWInfo E .fNS _ _ = _) => h ?_
    rw [hcnt] at hu
    by_cases hpos : 0 < md.GWCnt
    · by_cases hne : md.gwList = []
      · rw [hne] at hcnt
        rw [← hcnt] at hu
        cases hu
      · simp [generateULMetaData, hpos, hne, hu]
    · have h0 : md.GWCnt.toNat = 0 := Nat.eq_zero_of_not_pos (by simpa [UInt8.lt_iff_toNat_lt] using hpos)
      rw [h0] at hu
      cases hu
  obtain ⟨elements, he⟩ := generateGWInfo_located E .fNS hgis
  rw [hcnt] at he
  refine ⟨?_, hgis⟩
  by_contra hr
  rw [Option.not_isSome_iff_eq_none] at hr
  exact h (by simp [generateULMetaData_true E hcnt he, hr])

/-! ### What the parser leaves -/

/-- The member is there, with the name of a region. -/
def KnownRegion (j : Json Member D) : Prop :=
  ∃ v r, j.get_ex .RFRegion = some v ∧ v.get_string E.conv = some (Region.text r)

theorem readRegion_isSome {j : Json Member D} {region : Option Region}
    (h : readRegion E (j.get_ex .RFRegion) = .ok region) : region.isSome ↔ KnownRegion E j := by
  cases hv : j.get_ex .RFRegion with
  | none =>
    rw [hv] at h
    cases h
    simp [KnownRegion, hv]
  | some v =>
    rw [hv] at h
    obtain ⟨str, hstr, h⟩ := bind_ok_iff.mp h
    obtain ⟨cs, hcs, hp⟩ := bind_ok_iff.mp hstr
    obtain rfl := pure_ok_iff.mp hp
    obtain rfl := pure_ok_iff.mp h
    rw [Option.bind_some, getRFRegion_isSome_iff]
    simp [KnownRegion, hv, deref_ok_iff.mp hcs]

/-- What a gateway's object must hold for the gateway to be usable. -/
def CompleteGateway (obj : Json Member D) : Prop :=
  KnownRegion E obj ∧ (obj.get_ex .ULToken).isSome

theorem parseGWInfoElement_usable {obj : Json Member D} {g : GWInfo_t S}
    (h : parseGWInfoElement E obj = .ok g) :
    g.RFRegion.isSome ∧ g.ULToken.isSome ↔ CompleteGateway E obj := by
  obtain ⟨_, -, h⟩ := bind_ok_iff.mp h
  obtain ⟨region, hr, h⟩ := bind_ok_iff.mp h
  obtain ⟨token, ht, h⟩ := bind_ok_iff.mp h
  obtain rfl := pure_ok_iff.mp h
  exact and_congr (readRegion_isSome E hr) (readText_ok_isSome E ht)

theorem parseGWInfoElements_ok {objs : List (Json Member D)} {gis : List (Option (GWInfo_t S))}
    (h : parseGWInfoElements E objs = .ok gis) :
    List.Forall₂ (fun obj gi => ∃ g, parseGWInfoElement E obj = .ok g ∧ gi = some g) objs gis := by
  induction objs generalizing gis with
  | nil =>
    cases h
    exact .nil
  | cons obj objs ih =>
    obtain ⟨g, hg, h⟩ := bind_ok_iff.mp h
    obtain ⟨gis', hgis, h⟩ := bind_ok_iff.mp h
    obtain rfl := pure_ok_iff.mp h
    exact .cons ⟨g, hg, rfl⟩ (ih hgis)

theorem parseGWInfoElements_usable {objs : List (Json Member D)} {gis : List (Option (GWInfo_t S))}
    (h : parseGWInfoElements E objs = .ok gis) :
    (∀ gi ∈ gis, Located gi ∧ Reachable gi) ↔ ∀ obj ∈ objs, CompleteGateway E obj := by
  have hall := parseGWInfoElements_ok E h
  clear h
  induction hall with
  | nil => simp
  | cons hgi _ ih =>
    obtain ⟨g, hg, rfl⟩ := hgi
    rw [List.forall_mem_cons, List.forall_mem_cons, ← parseGWInfoElement_usable E hg]
    refine and_congr ?_ ih
    simp [Located, Reachable]

/-- The object tells every region, and a token for every gateway. -/
structure Complete (j : Json Member D) : Prop where
  region : KnownRegion E j
  gateways : ∀ v, j.get_ex .GWInfo = some v →
    ∃ objs, v.elements = some objs ∧ objs ≠ [] ∧ ∀ obj ∈ objs, CompleteGateway E obj

theorem ParseULMetaData_parts {old md : ULMetaData_t S} {j : Json Member D}
    (h : ParseULMetaData E old j = .ok md) :
    readRegion E (j.get_ex .RFRegion) = .ok md.RFRegion ∧
      parseGWInfo E md.GWCnt (j.get_ex .GWInfo) = .ok md.gwList := by
  obtain ⟨_, -, h⟩ := bind_ok_iff.mp h
  obtain ⟨_, -, h⟩ := bind_ok_iff.mp h
  obtain ⟨_, -, h⟩ := bind_ok_iff.mp h
  obtain ⟨_, -, h⟩ := bind_ok_iff.mp h
  obtain ⟨region, hr, h⟩ := bind_ok_iff.mp h
  obtain ⟨gwList, hgw, h⟩ := bind_ok_iff.mp h
  obtain rfl := pure_ok_iff.mp h
  exact ⟨hr, hgw⟩

theorem parseGWInfo_ok {cnt : UInt8} {v : Option (Json Member D)}
    {gis : List (Option (GWInfo_t S))} (h : parseGWInfo E cnt v = .ok gis) :
    (v = none ∧ gis = [] ∧ cnt.toNat = 0) ∨
      ∃ v' objs, v = some v' ∧ v'.elements = some objs ∧ objs.length = cnt.toNat ∧
        ((objs = [] ∧ gis = [none]) ∨ (objs ≠ [] ∧ parseGWInfoElements E objs = .ok gis)) := by
  cases v with
  | none =>
    left
    rw [parseGWInfo] at h
    split at h
    · cases h
    · rename_i hpos
      cases h
      exact ⟨rfl, rfl, Nat.eq_zero_of_not_pos (by simpa [UInt8.lt_iff_toNat_lt] using hpos)⟩
  | some v' =>
    right
    obtain ⟨objs, he, h⟩ := bind_ok_iff.mp h
    refine ⟨v', objs, rfl, deref_ok_iff.mp he, ?_⟩
    split at h
    · cases h
    · rename_i hlen
      refine ⟨not_not.mp hlen, ?_⟩
      split at h
      · rename_i hnil
        cases h
        exact Or.inl ⟨hnil, rfl⟩
      · rename_i hne
        exact Or.inr ⟨hne, h⟩

/-! ### When what was accepted can be used -/

/-- No consumer follows a null pointer, and the list has a gateway for every count. -/
structure Usable (md : ULMetaData_t S) : Prop where
  nodes : md.gwList ≠ [] → md.gwList.length = md.GWCnt.toNat ∧ ∀ gi ∈ md.gwList, gi.isSome
  scan : bestGateway md.gwList .init ≠ .error .undefined
  uplink : ∀ sender add, sender = .fNS ∨ sender = .sNS →
    generateULMetaData E md sender add ≠ .error .undefined
  downlink : ∀ w dlmd sender, generateDLMetaData E (some md) w dlmd sender ≠ .error .undefined

theorem usable_of_gateways {md : ULMetaData_t S} (hr : md.RFRegion.isSome)
    (hcnt : md.gwList.length = md.GWCnt.toNat)
    (hgis : ∀ gi ∈ md.gwList, Located gi ∧ Reachable gi) : Usable E md := by
  have hsome : ∀ gi ∈ md.gwList, gi.isSome := by
    intro gi hgi
    obtain ⟨g, rfl, -⟩ := (hgis gi hgi).1
    rfl
  refine ⟨fun _ => ⟨hcnt, hsome⟩, ?_, ?_, ?_⟩
  · intro hscan
    have hnone := hsome none ((bestGateway_undefined_iff md.gwList .init).mp hscan)
    cases hnone
  · intro sender add _
    exact generateULMetaData_safe E hcnt (fun gi hgi => (hgis gi hgi).1) hr sender add
  · intro w dlmd sender
    exact (generateDLMetaData_safe_iff E md w dlmd sender).mpr ⟨hr, fun gi hgi => (hgis gi hgi).2⟩

theorem Usable.gateways {md : ULMetaData_t S} (h : Usable E md) (w : Windows S)
    (dlmd : DLMetaData_t S) (hcnt : md.gwList.length = md.GWCnt.toNat) :
    md.RFRegion.isSome ∧ ∀ gi ∈ md.gwList, Located gi ∧ Reachable gi := by
  obtain ⟨hr, hloc⟩ := complete_of_generateULMetaData E hcnt (h.uplink .fNS true (Or.inl rfl))
  have htok := (generateDLMetaData_safe_iff E md w dlmd .sNS).mp (h.downlink w dlmd .sNS)
  exact ⟨hr, fun gi hgi => ⟨hloc gi hgi, htok.2 gi hgi⟩⟩

/-- What the parser accepts can be used without following a null pointer exactly when the object
names a region the server knows, and the array of gateways is missing or is not empty and tells a
known region and a token for each. -/
theorem usable_iff_complete {old md : ULMetaData_t S} {j : Json Member D}
    (h : ParseULMetaData E old j = .ok md) : Usable E md ↔ Complete E j := by
  obtain ⟨hregion, hgw⟩ := ParseULMetaData_parts E h
  have hr := readRegion_isSome E hregion
  let w : Windows S := ⟨E.floats.zero, 0, E.floats.zero, 0⟩
  rcases parseGWInfo_ok E hgw with ⟨hv, hnil, hcnt⟩ | ⟨v, objs, hv, he, hlen, hobjs⟩
  · -- no gateways
    have hcnt' : md.gwList.length = md.GWCnt.toNat := by rw [hnil, hcnt]; rfl
    constructor
    · intro hu
      refine ⟨hr.mp (hu.gateways E w (DLMetaData_t.zero E) hcnt').1, ?_⟩
      intro v hv'
      rw [hv] at hv'
      cases hv'
    · intro hc
      refine usable_of_gateways E (hr.mpr hc.region) hcnt' ?_
      simp [hnil]
  · rcases hobjs with ⟨hempty, hgis⟩ | ⟨hne, hgis⟩
    · -- the head of the list was allocated for nothing
      constructor
      · intro hu
        have hbad := (hu.nodes (by simp [hgis])).2 none (by simp [hgis])
        cases hbad
      · intro hc
        obtain ⟨objs', he', hne, -⟩ := hc.gateways v hv
        rw [he] at he'
        cases he'
        exact absurd hempty hne
    · have hlen' : md.gwList.length = md.GWCnt.toNat := by
        rw [← hlen, (parseGWInfoElements_ok E hgis).length_eq]
      constructor
      · intro hu
        obtain ⟨h1, h2⟩ := hu.gateways E w (DLMetaData_t.zero E) hlen'
        refine ⟨hr.mp h1, ?_⟩
        intro v' hv'
        rw [hv] at hv'
        cases hv'
        exact ⟨objs, he, hne, (parseGWInfoElements_usable E hgis).mp h2⟩
      · intro hc
        obtain ⟨objs', he', -, hall⟩ := hc.gateways v hv
        rw [he] at he'
        cases he'
        exact usable_of_gateways E (hr.mpr hc.region) hlen'
          ((parseGWInfoElements_usable E hgis).mpr hall)

/-- Numbers with a point as rationals, without loss. -/
def plainFloats : Floats ℚ ℚ :=
  { zero := 0
    widen := id
    narrow := id
    narrow_widen := fun _ => rfl
    isPos := fun x => decide (0 < x)
    isZero := fun x => decide (x = 0)
    isZero_zero := by decide
    isZero_of_isPos := by
      intro x hx
      have h : x ≠ 0 := (of_decide_eq_true hx).ne'
      exact decide_eq_false h }

def plainEnv : JsonEnv ℚ ℚ := ⟨plainConversions, plainFloats⟩

/-- All members zero. -/
def emptyUplink : ULMetaData_t ℚ :=
  { DevEUI := 0, DevAddr := 0, FPort := 0, FCntDown := 0, FCntUp := 0, Confirmed := false,
    DataRate := 0, FNSULToken := none, ULFreq := 0, Margin := 0, Battery := 0, RecvTime := [],
    RFRegion := none, GWCnt := 0, gwList := [] }

/-- `{"RecvTime": "", "GWInfo": []}` -/
def emptyGWInfo : Json Member ℚ :=
  .object (Json.add .GWInfo (.array []) (Json.add .RecvTime (.string []) Json.noMembers))

/-- An empty array of gateways is accepted, and the search for the best gateway follows the null
pointer of its only node. -/
theorem empty_array_not_usable :
    ¬ ∀ md, ParseULMetaData plainEnv emptyUplink emptyGWInfo = .ok md → Usable plainEnv md := by
  intro h
  obtain ⟨md, hmd, hgis⟩ : ∃ md, ParseULMetaData plainEnv emptyUplink emptyGWInfo = .ok md ∧
      md.gwList = [none] := ⟨_, rfl, rfl⟩
  exact (h md hmd).scan (by rw [hgis]; rfl)

/-- `{"RFRegion": "EU868", "ULToken": "a"}` -/
def sampleGWInfo : Json Member ℚ :=
  .object (Json.add .ULToken (.string ['a'])
    (Json.add .RFRegion (.string Region.EU868.text) Json.noMembers))

/-- An uplink that one gateway received. -/
def oneGWInfo : Json Member ℚ :=
  .object (Json.add .GWInfo (.array [sampleGWInfo]) (Json.add .GWCnt (.int 1)
    (Json.add .RFRegion (.string Region.EU868.text)
      (Json.add .RecvTime (.string []) Json.noMembers))))

theorem one_gateway_usable :
    ∃ md, ParseULMetaData plainEnv emptyUplink oneGWInfo = .ok md ∧ md.gwList.length = 1 ∧
      Usable plainEnv md := by
  refine ⟨_, rfl, rfl, (usable_iff_complete plainEnv (j := oneGWInfo) rfl).mpr ?_⟩
  refine ⟨⟨_, .EU868, rfl, rfl⟩, ?_⟩
  intro v hv
  cases hv
  refine ⟨[sampleGWInfo], rfl, List.cons_ne_nil _ _, ?_⟩
  intro obj hobj
  obtain rfl := List.mem_singleton.mp hobj
  exact ⟨⟨_, .EU868, rfl, rfl⟩, rfl⟩

/-! ### What the sender tells comes back -/

/-- What is told of a gateway: an sNS leaves out the token. -/
def told (sender : role_e) (gi : GWInfo_t S) : GWInfo_t S :=
  if sender = .fNS then gi else { gi with ULToken := none, DLAllowed := false }

/-- What a receiver knows of the uplink. -/
structure SameUplink (sender : role_e) (md md' : ULMetaData_t S) : Prop where
  DevEUI : md'.DevEUI = md.DevEUI
  DevAddr : md'.DevAddr = md.DevAddr
  DataRate : md'.DataRate = md.DataRate
  ULFreq : md'.ULFreq = md.ULFreq
  RecvTime : md'.RecvTime = md.RecvTime
  GWCnt : md'.GWCnt = md.GWCnt
  gwList : md'.gwList = md.gwList.map (Option.map (told sender))
  RFRegion : sender = .fNS → md'.RFRegion = md.RFRegion
  FNSULToken : sender = .fNS → md'.FNSULToken = md.FNSULToken
  FPort : sender = .sNS → md'.FPort = md.FPort
  FCntUp : sender = .sNS → md'.FCntUp = md.FCntUp
  FCntDown : sender = .sNS → md'.FCntDown = md.FCntDown
  Confirmed : sender = .sNS → md'.Confirmed = md.Confirmed

/-- The list has the gateways that were counted, their regions and that of the uplink are known,
and the time fits its buffer with its end. -/
structure Sendable (md : ULMetaData_t S) : Prop where
  count : md.gwList.length = md.GWCnt.toNat
  gateways : ∀ gi ∈ md.gwList, Located gi
  region : md.RFRegion.isSome
  recvTime : md.RecvTime.length < 32

theorem readHex_hexText {bits n : ℕ} (dflt : ℕ) (hbits : bits ≤ 64) (hn : n < 2 ^ bits) :
    readHex E bits dflt (some (hexText n)) = .ok n := by
  simp [readHex, hexText, Text.scan_print bits n (by omega : 1 < 16) (by omega) hbits hn]

@[simp] theorem readHex_eui (n : UInt64) (dflt : ℕ) :
    readHex E 64 dflt (some (hexText n.toNat)) = .ok n.toNat :=
  readHex_hexText E dflt (Nat.le_refl 64) n.toNat_lt

@[simp] theorem readHex_addr (n : UInt32) (dflt : ℕ) :
    readHex E 32 dflt (some (hexText n.toNat)) = .ok n.toNat :=
  readHex_hexText E dflt (by omega) n.toNat_lt

@[simp] theorem readHex_optional_eui (n : UInt64) (dflt : ℕ) :
    readHex E 64 dflt (if n.toNat = dflt then none else some (hexText n.toNat)) = .ok n.toNat := by
  split
  · rename_i h
    rw [readHex, h]
  · exact readHex_eui E n dflt

@[simp] theorem readHex_optional_addr (n : UInt32) (dflt : ℕ) :
    readHex E 32 dflt (if n.toNat = dflt then none else some (hexText n.toNat)) = .ok n.toNat := by
  split
  · rename_i h
    rw [readHex, h]
  · exact readHex_addr E n dflt

@[simp] theorem readText_map (str : Option (List Char)) :
    readText E (str.map .string) = .ok str := by
  cases str with
  | none => rfl
  | some cs => rfl

@[simp] theorem readText_none : readText E none = .ok none := rfl

@[simp] theorem readRegion_none : readRegion E none = .ok none := rfl

@[simp] theorem readRegion_text (r : Region) :
    readRegion E (some (.string r.text)) = .ok (some r) := by
  simp [readRegion, readText]

@[simp] theorem readInt_new_int (dflt n : Int32) : readInt E dflt (some (Json.new_int n)) = n := by
  simp [readInt]

@[simp] theorem readSingle_double (dflt x : S) :
    readSingle E dflt (some (.double (E.floats.widen x))) = x := by
  simp [readSingle, E.floats.narrow_widen]

@[simp] theorem readBool_boolean (dflt b : Bool) : readBool E dflt (some (.boolean b)) = b := rfl

@[simp] theorem readInt_none (dflt : Int32) : readInt E dflt none = dflt := rfl

@[simp] theorem readBool_none (dflt : Bool) : readBool E dflt none = dflt := rfl

theorem parse_generateGWInfoElement {g : GWInfo_t S} {r : Region} (hr : g.RFRegion = some r)
    (sender : role_e) :
    ∃ element, generateGWInfoElement E (some g) sender true = .ok element ∧
      parseGWInfoElement E element = .ok (told sender g) := by
  by_cases hs : sender = .fNS
  · simp [generateGWInfoElement, parseGWInfoElement, told, hr, hs]
    rw [← hr]
  · simp [generateGWInfoElement, parseGWInfoElement, told, hr, hs]

theorem parse_generateGWInfo (sender : role_e) {gis : List (Option (GWInfo_t S))}
    (h : ∀ gi ∈ gis, Located gi) :
    ∃ elements, generateGWInfo E sender gis.length gis = .ok elements ∧
      elements.length = gis.length ∧
      parseGWInfoElements E elements = .ok (gis.map (Option.map (told sender))) := by
  induction gis with
  | nil => exact ⟨[], rfl, rfl, rfl⟩
  | cons gi gis ih =>
    obtain ⟨g, rfl, hg⟩ := h gi (by simp)
    obtain ⟨r, hr⟩ := Option.isSome_iff_exists.mp hg
    obtain ⟨element, h1, h2⟩ := parse_generateGWInfoElement E hr sender
    obtain ⟨elements, h3, hlen, h4⟩ := ih fun gi' hgi' => h gi' (by simp [hgi'])
    refine ⟨element :: elements, ?_, by simp [hlen], ?_⟩
    · simp [generateGWInfo, h1, h3]
    · simp [parseGWInfoElements, h2, h4]

@[simp] theorem addGateways_other (md : ULMetaData_t S) (elements : List (Json Member D))
    {k : Member} (h1 : k ≠ .GWCnt) (h2 : k ≠ .GWInfo) : addGateways md elements k = none := by
  rw [addGateways]
  split
  · rw [Json.add_of_ne h1, Json.add_of_ne h2, Json.noMembers_apply]
  · rfl

@[simp] theorem readInt_GWCnt (md : ULMetaData_t S) (elements : List (Json Member D)) :
    (readInt E 0 (addGateways md elements .GWCnt)).toUInt32.toUInt8 = md.GWCnt := by
  rw [addGateways]
  split
  · simp
  · rename_i h
    have h0 : md.GWCnt = 0 := by
      rw [UInt8.lt_iff_toNat_lt] at h
      exact UInt8.toNat_inj.mp (Nat.eq_zero_of_not_pos h)
    rw [h0]
    rfl

theorem parseGWInfo_addGateways {md : ULMetaData_t S} {sender : role_e}
    {elements : List (Json Member D)} (hcnt : elements.length = md.GWCnt.toNat)
    (hp : parseGWInfoElements E elements = .ok (md.gwList.map (Option.map (told sender)))) :
    parseGWInfo E md.GWCnt (addGateways md elements .GWInfo) =
      .ok (md.gwList.map (Option.map (told sender))) := by
  rw [addGateways]
  split
  · rename_i hpos
    have hne : elements ≠ [] := by
      rintro rfl
      rw [UInt8.lt_iff_toNat_lt, ← hcnt] at hpos
      exact Nat.lt_irrefl 0 hpos
    simp [parseGWInfo, Json.elements, hcnt, hne, hp]
  · rename_i hpos
    have hnil : elements = [] := by
      rw [← List.length_eq_zero_iff, hcnt]
      rw [UInt8.lt_iff_toNat_lt] at hpos
      exact Nat.eq_zero_of_not_pos hpos
    subst hnil
    rw [Json.noMembers_apply, parseGWInfo, if_neg hpos]
    exact hp

theorem parse_generateULMetaData {md : ULMetaData_t S} (h : Sendable md) (old : ULMetaData_t S)
    {sender : role_e} (hs : sender = .fNS ∨ sender = .sNS) :
    ∃ j md', generateULMetaData E md sender true = .ok j ∧ ParseULMetaData E old j = .ok md' ∧
      SameUplink sender md md' := by
  obtain ⟨r, hr⟩ := Option.isSome_iff_exists.mp h.region
  obtain ⟨elements, he, hlen, hp⟩ := parse_generateGWInfo E sender h.gateways
  rw [h.count] at he hlen
  have hgw := parseGWInfo_addGateways E hlen hp
  have htime : md.RecvTime.take 32 = md.RecvTime := List.take_of_length_le (Nat.le_of_lt h.recvTime)
  rw [generateULMetaData_true E h.count he, hr]
  rcases hs with rfl | rfl
  · simp only [ParseULMetaData, addUplink]
    simp [hgw, htime, readRecvTime]
    constructor <;> simp [hr]
  · simp only [ParseULMetaData, addUplink]
    simp [hgw, htime, readRecvTime]
    constructor <;> simp

/-- An uplink with one gateway. -/
def oneGateway : ULMetaData_t ℚ :=
  { emptyUplink with
    DevEUI := 0x0102030405060708
    FCntUp := 0xffffffff
    RecvTime := "2020-01-01T00:00:00Z".toList
    RFRegion := some .EU868
    GWCnt := 1
    gwList := [some { id := 1, RFRegion := some .EU868, RSSI := -100, SNR := 5, Lat := 0, Lon := 0,
                      ULToken := some ['a'], DLAllowed := true }] }

theorem oneGateway_comes_back :
    ∃ j md', generateULMetaData plainEnv oneGateway .sNS true = .ok j ∧
      ParseULMetaData plainEnv emptyUplink j = .ok md' ∧ SameUplink .sNS oneGateway md' :=
  parse_generateULMetaData plainEnv
    ⟨rfl, by simp [oneGateway, Located], rfl, by decide⟩ emptyUplink (Or.inr rfl)

end Lorawan.NetworkServer

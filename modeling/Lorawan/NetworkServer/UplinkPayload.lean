import Lorawan.Backend.FrmPayload
import Lorawan.NetworkServer.FrameCounters
import Lorawan.NetworkServer.KeyTexts
import Lorawan.NetworkServer.ReceivedTexts
import Lorawan.NetworkServer.SessionPruning
import Lorawan.NetworkServer.UplinkMetaData

/-!
# The payload of an uplink and its AppSKey (sNS.c:2635-2697, hNS.c:23-76, 407-468,
common.c:2019-2027, 2482-2494)

The server that serves the device takes the payload out of the frame and posts it to the
application server, or to the home server, which posts it on. With the first payload of a session
goes the envelope of the AppSKey, as the home server has it in its database.
-/

namespace Lorawan.NetworkServer
open Lorawan Lorawan.Backend

variable {S D : Type} (E : JsonEnv S D)

/-! ### The messages -/

/-- `XmitDataReq` with an uplink; the members of its header are left out. -/
structure UplinkPost (D : Type) where
  FRMPayload : List Char
  ULMetaData : Json Member D
  AppSKey : Option AppSKeyJson

/-- `hNS_XmitDataReq_toAS` with `sendXmitDataReq`; `envl` is what `getAppSKeyEnvelope` returned,
if it was called. -/
def hNS_XmitDataReq_toAS (envl : Option AppSKeyJson) (FRMPayloadBin : Octets)
    (ulmd : ULMetaData_t S) : Option (UplinkPost D) :=
  if FRMPayloadBin = [] then none
  else
    match generateULMetaData E ulmd .sNS true with
    | .error _ => none
    | .ok uj => some ⟨Text.printOctets FRMPayloadBin, uj, envl⟩

/-- What `sNS_finish_phy_downlink` posts, or gives to `hNS_XmitDataReq_toAS`: the payload and the
metadata, in which `sNS_uplink` put the counter. -/
def sNS_forward (AddGWMetadata : Bool) (ulmd : ULMetaData_t S) (m : Mote) :
    Option (Octets × Json Member D) :=
  if has_rx_fhdr m then
    match rxFRMPayload m with
    | none => none
    | some (port, FRMPayloadBin) =>
      if 0 < port then
        let ulmd := { ulmd with
          FCntUp := UInt32.ofNat (takenFCntUp m), FPort := port.toUInt32.toInt32 }
        (generateULMetaData E ulmd .sNS AddGWMetadata).toOption.map (FRMPayloadBin, ·)
      else none
  else none

/-- What the home server makes of an uplink of a device that is with another server: `ParseJson`,
`uplinkJson`, and `finish` when the window is over. -/
def hNS_relay (junk : UInt8) (old : ULMetaData_t S) (envl : Option AppSKeyJson)
    (FRMPayload : List Char) (ulj : Json Member D) : Option (UplinkPost D) :=
  (parsePayload junk .FRMPayload FRMPayload).toOption.bind fun p =>
    (ParseULMetaData E old ulj).toOption.bind fun ulmd =>
      if 0 < p.payloadLen then
        hNS_XmitDataReq_toAS E envl (p.payBuf.take p.payloadLen) ulmd
      else none

/-- The two ways to the application server, with what the variables held before. -/
inductive UplinkRoute (S : Type)
  | direct (old : ULMetaData_t S)
  | viaHome (junk : UInt8) (old : ULMetaData_t S)

def UplinkRoute.post (envl : Option AppSKeyJson) (AddGWMetadata : Bool) (ulmd : ULMetaData_t S)
    (m : Mote) : UplinkRoute S → Option (UplinkPost D)
  | .direct old =>
    (sNS_forward E AddGWMetadata ulmd m).bind fun (frm, ulj) =>
      (ParseULMetaData E old ulj).toOption.bind fun ulmd => hNS_XmitDataReq_toAS E envl frm ulmd
  | .viaHome junk old =>
    (sNS_forward E AddGWMetadata ulmd m).bind fun (frm, ulj) =>
      if frm = [] then none else hNS_relay E junk old envl (Text.printOctets frm) ulj

/-! ### The envelope in the database -/

/-- The statement of `hNS_JoinAnsCallback`. -/
def envelopeUpdate (id : ℕ) (obj : KeyEnvelopeJson) : List Char :=
  "UPDATE sessions SET AS_KEK_label = ".toList ++
    (match obj.KEKLabel with
      | some label => ['\''] ++ label ++ ['\'']
      | none => "NULL".toList) ++
    ", AS_KEK_key = 0x".toList ++ obj.AESKey ++ " WHERE ID = ".toList ++ Text.print 10 id ++
    " ORDER BY createdAt DESC LIMIT 1".toList

/-- The label can be quoted as it is, and the statement fits `query[512]`. -/
def Storable (id : ℕ) (obj : KeyEnvelopeJson) : Prop :=
  (∀ label, obj.KEKLabel = some label → KeyTexts.Quotable label) ∧
    (envelopeUpdate id obj).length < 512

/-- The session after the statement. -/
def storeEnvelope (obj : KeyEnvelopeJson) (row : AppSession) : AppSession :=
  { row with
    AS_KEK_label := obj.KEKLabel
    AS_KEK_key := some (Text.scanOctets 0 obj.AESKey) }

/-- The object of the key, if it has an `AESKey`. -/
def AppSKeyJson.toEnvelope (o : AppSKeyJson) : Option KeyEnvelopeJson :=
  o.AESKey.map fun key => ⟨o.KEKLabel, key⟩

/-! ### Upper-case digits -/

theorem scan2_upper (b : UInt8) (cs : List Char) :
    Text.scan2 ((Text.print2 b).map Char.toUpper ++ cs) = some b.toNat := by
  have hlt : b.toNat < 256 := b.toNat_lt
  have hspace : ∀ hi < 16, Text.isSpace (Nat.digitChar hi).toUpper = false := by decide
  have hpair : ∀ hi < 16, ∀ lo < 16,
      Text.scanNumber 16 32 [(Nat.digitChar hi).toUpper, (Nat.digitChar lo).toUpper] =
        some (16 * hi + lo) := by
    decide +kernel
  have htake : (((Text.print2 b).map Char.toUpper ++ cs).dropWhile Text.isSpace).take 2 =
      [(Nat.digitChar (b.toNat / 16)).toUpper, (Nat.digitChar (b.toNat % 16)).toUpper] := by
    simp only [Text.print2, List.map_cons, List.map_nil, List.cons_append, List.nil_append,
      List.dropWhile_cons, hspace (b.toNat / 16) (by omega), Bool.false_eq_true, if_false,
      List.take_succ_cons, List.take_zero]
  rw [Text.scan2, htake, hpair _ (by omega) _ (by omega)]
  congr 1
  omega

theorem scanOctets_upper (junk : UInt8) (bs : Octets) :
    Text.scanOctets junk ((Text.printOctets bs).map Char.toUpper) = bs := by
  induction bs with
  | nil => rfl
  | cons b bs ih =>
    have hb := scan2_upper b ((Text.printOctets bs).map Char.toUpper)
    simp only [Text.printOctets, List.flatMap_cons, Text.print2, List.map_cons, List.map_nil,
      List.cons_append, List.nil_append] at ih hb ⊢
    simp only [Text.scanOctets, hb, ih, Option.map_some, Option.getD_some, UInt8.ofNat_toNat]

theorem scanOctets_of_hexPairs {text : List Char} (h : HexPairs text) (junk junk' : UInt8) :
    Text.scanOctets junk text = Text.scanOctets junk' text := by
  induction text using Text.scanOctets.induct with
  | case1 => rfl
  | case2 c =>
    have heven : 2 ∣ [c].length := h.1
    rw [List.length_singleton] at heven
    omega
  | case3 c d cs ih =>
    have heven : 2 ∣ (c :: d :: cs).length := h.1
    simp only [List.length_cons] at heven
    have hrest : HexPairs cs := by
      refine ⟨by omega, ?_⟩
      intro x hx
      exact h.2 x (List.mem_cons_of_mem c (List.mem_cons_of_mem d hx))
    have hsome := KeyTexts.scan2_of_hex cs (h.2 c (by simp)) (h.2 d (by simp))
    obtain ⟨n, hn⟩ := Option.isSome_iff_exists.mp hsome
    rw [Text.scanOctets, Text.scanOctets, ih hrest, hn, Option.map_some, Option.getD_some,
      Option.getD_some]

theorem hexPairs_of_create {W : KeyWrap} {key : Octets} {ke : key_envelope_t}
    {obj : KeyEnvelopeJson} (h : create_KeyEnvelope W key ke = some obj) : HexPairs obj.AESKey := by
  have hprinted : ∀ bs, HexPairs (Text.printOctets bs) := fun bs =>
    ⟨⟨bs.length, Text.printOctets_length bs⟩, KeyTexts.isHexDigit_printed bs⟩
  unfold create_KeyEnvelope at h
  split at h
  · obtain ⟨encrypted, -, rfl⟩ := Option.map_eq_some_iff.mp h
    exact hprinted encrypted
  · cases h
    exact hprinted key

/-- The envelope that comes out of the database is opened like the one that went in. -/
theorem parse_stored_envelope (W : KeyWrap) (junk junk' : UInt8) (ke : key_envelope_t)
    {obj : KeyEnvelopeJson} (h : HexPairs obj.AESKey) (row : AppSession) :
    ∃ obj', (storeEnvelope obj row).envelope.toEnvelope = some obj' ∧
      Backend.parse_key_envelope W junk' obj' ke = Backend.parse_key_envelope W junk obj ke := by
  refine ⟨⟨obj.KEKLabel, (Text.printOctets (Text.scanOctets 0 obj.AESKey)).map Char.toUpper⟩, rfl,
    ?_⟩
  have heven := h.1
  have hscan := scanOctets_of_hexPairs h junk 0
  have hlen : ((Text.printOctets (Text.scanOctets 0 obj.AESKey)).map Char.toUpper).length =
      obj.AESKey.length := by
    rw [List.length_map, Text.printOctets_length, scanOctets_length]
    omega
  unfold Backend.parse_key_envelope
  simp only [hlen, scanOctets_upper, hscan]

/-! ### The metadata -/

theorem toOption_eq_some {ε α : Type} {x : Except ε α} {a : α} (h : x.toOption = some a) :
    x = .ok a := by
  cases x with
  | error e => cases h
  | ok b => exact congrArg Except.ok (Option.some.inj h)

/-- The members that the payload is deciphered and saved with. -/
structure KeepsUplink (md md' : ULMetaData_t S) : Prop where
  DevEUI : md'.DevEUI = md.DevEUI
  DevAddr : md'.DevAddr = md.DevAddr
  FPort : md'.FPort = md.FPort
  FCntUp : md'.FCntUp = md.FCntUp

theorem KeepsUplink.trans {md md' md'' : ULMetaData_t S} (h : KeepsUplink md md')
    (h' : KeepsUplink md' md'') : KeepsUplink md md'' :=
  ⟨h'.DevEUI.trans h.DevEUI, h'.DevAddr.trans h.DevAddr, h'.FPort.trans h.FPort,
    h'.FCntUp.trans h.FCntUp⟩

theorem generateULMetaData_sNS {md : ULMetaData_t S} {add : Bool} {j : Json Member D}
    (h : generateULMetaData E md .sNS add = .ok j) :
    ∃ gateways, j = .object (addUplink E md .sNS none gateways) ∧
      ∀ k, k ≠ .GWCnt → k ≠ .GWInfo → gateways k = none := by
  unfold generateULMetaData at h
  simp only [reduceCtorEq, if_false, pure_eq_ok, ok_bind, error_bind] at h
  split at h
  · split at h
    · cases h
    · obtain ⟨jarray, -, h⟩ := bind_ok_iff.mp h
      refine ⟨_, (Except.ok.inj h).symm, ?_⟩
      intro k hcnt hinfo
      rw [Json.add_of_ne hcnt, Json.add_of_ne hinfo, Json.noMembers_apply]
  · refine ⟨_, (Except.ok.inj h).symm, ?_⟩
    intro k _ _
    exact Json.noMembers_apply k

theorem keepsUplink_of_parse {md md' old : ULMetaData_t S} {add : Bool} {j : Json Member D}
    (hgenerate : generateULMetaData E md .sNS add = .ok j)
    (hparse : ParseULMetaData E old j = .ok md') : KeepsUplink md md' := by
  obtain ⟨gateways, rfl, hother⟩ := generateULMetaData_sNS E hgenerate
  obtain ⟨DevEUI, heui, h⟩ := bind_ok_iff.mp hparse
  obtain ⟨DevAddr, haddr, h⟩ := bind_ok_iff.mp h
  obtain ⟨FNSULToken, -, h⟩ := bind_ok_iff.mp h
  obtain ⟨RecvTime, -, h⟩ := bind_ok_iff.mp h
  obtain ⟨RFRegion, -, h⟩ := bind_ok_iff.mp h
  obtain ⟨gwList, -, h⟩ := bind_ok_iff.mp h
  obtain rfl := pure_ok_iff.mp h
  simp [addUplink, hother] at heui haddr
  constructor
  · simp [← heui]
  · simp [← haddr]
  · simp [addUplink]
  · simp [addUplink]

/-- The gateways are there, and the time fits. -/
structure Carriable (md : ULMetaData_t S) : Prop where
  count : md.gwList.length = md.GWCnt.toNat
  gateways : ∀ gi ∈ md.gwList, Located gi
  recvTime : md.RecvTime.length < 32

theorem located_told {gi : Option (GWInfo_t S)} (h : Located gi) :
    Located (gi.map (told .sNS)) := by
  obtain ⟨g, rfl, hg⟩ := h
  exact ⟨_, rfl, hg⟩

theorem carriable_parse {md : ULMetaData_t S} (h : Carriable md) (old : ULMetaData_t S)
    (add : Bool) :
    ∃ j md', generateULMetaData (D := D) E md .sNS add = .ok j ∧
      ParseULMetaData E old j = .ok md' ∧ Carriable md' := by
  have htime : md.RecvTime.take 32 = md.RecvTime := List.take_of_length_le (Nat.le_of_lt h.recvTime)
  cases add with
  | true =>
    obtain ⟨elements, he, hlen, hp⟩ := parse_generateGWInfo (D := D) E .sNS h.gateways
    rw [h.count] at he hlen
    have hgw := parseGWInfo_addGateways E hlen hp
    rw [generateULMetaData_true E h.count he, if_neg (by decide)]
    simp only [ParseULMetaData, addUplink]
    simp [hgw, htime, readRecvTime]
    refine ⟨?_, ?_, h.recvTime⟩
    · rw [List.length_map, h.count]
    · intro gi hgi
      obtain ⟨gi', hgi', rfl⟩ := List.mem_map.mp hgi
      exact located_told (h.gateways gi' hgi')
  | false =>
    have hj : generateULMetaData (D := D) E md .sNS false =
        .ok (.object (addUplink E md .sNS none Json.noMembers)) := by
      simp [generateULMetaData]
    have hnone : (Int32.toUInt32 0).toUInt8 = 0 := rfl
    have hgw : parseGWInfo (S := S) E 0 none = .ok [] := rfl
    rw [hj]
    simp only [ParseULMetaData, addUplink]
    simp [htime, readRecvTime, hnone, hgw]
    exact ⟨rfl, by simp, h.recvTime⟩

/-! ### The ways -/

/-- The metadata that the serving server forwards. -/
def forwarded (ulmd : ULMetaData_t S) (m : Mote) (port : UInt8) : ULMetaData_t S :=
  { ulmd with FCntUp := UInt32.ofNat (takenFCntUp m), FPort := port.toUInt32.toInt32 }

theorem sNS_forward_some {AddGWMetadata : Bool} {ulmd : ULMetaData_t S} {m : Mote} {frm : Octets}
    {ulj : Json Member D} (h : sNS_forward E AddGWMetadata ulmd m = some (frm, ulj)) :
    ∃ port, rxFRMPayload m = some (port, frm) ∧
      generateULMetaData E (forwarded ulmd m port) .sNS AddGWMetadata = .ok ulj := by
  unfold sNS_forward at h
  split at h
  · split at h
    · cases h
    · rename_i port frm' hrx
      split at h
      · obtain ⟨ulj', hulj, hpair⟩ := Option.map_eq_some_iff.mp h
        obtain ⟨rfl, rfl⟩ := Prod.mk.inj hpair
        exact ⟨port, hrx, toOption_eq_some hulj⟩
      · cases h
  · cases h

theorem hNS_XmitDataReq_toAS_some {envl : Option AppSKeyJson} {frm : Octets}
    {ulmd : ULMetaData_t S} {post : UplinkPost D}
    (h : hNS_XmitDataReq_toAS E envl frm ulmd = some post) :
    post.FRMPayload = Text.printOctets frm ∧ post.AppSKey = envl ∧
      generateULMetaData E ulmd .sNS true = .ok post.ULMetaData := by
  unfold hNS_XmitDataReq_toAS at h
  split at h
  · cases h
  · split at h
    · cases h
    · rename_i uj huj
      cases h
      exact ⟨rfl, rfl, huj⟩

theorem parsePayload_printed {junk : UInt8} {frm : PayloadKind} {payload : Octets}
    {p : ReceivedPayload} (hlen : payload.length ≤ 255)
    (h : (parsePayload junk frm (Text.printOctets payload)).toOption = some p) :
    p.payBuf.take p.payloadLen = payload := by
  have hshort : (Text.printOctets payload).length ≤ 510 := by
    rw [Text.printOctets_length]
    omega
  have hhalf : (Text.printOctets payload).length / 2 = payload.length := by
    rw [Text.printOctets_length]
    omega
  by_cases hrefuse : refusesPayload frm (Text.printOctets payload)
  · rw [parsePayload, if_pos hrefuse] at h
    cases h
  · rw [parsePayload_of_short junk hrefuse hshort] at h
    cases h
    simp only [Text.scanOctets_printOctets, hhalf, List.take_length]

/-- By either way the payload arrives as it was in the frame, with its counter and port. -/
theorem UplinkRoute.post_some {route : UplinkRoute S} {envl : Option AppSKeyJson}
    {AddGWMetadata : Bool} {ulmd : ULMetaData_t S} {m : Mote} {port : UInt8} {frm : Octets}
    {post : UplinkPost D} (hrx : rxFRMPayload m = some (port, frm)) (hlen : frm.length ≤ 255)
    (h : route.post E envl AddGWMetadata ulmd m = some post) :
    post.FRMPayload = Text.printOctets frm ∧ post.AppSKey = envl ∧
      ∃ md, KeepsUplink (forwarded ulmd m port) md ∧
        generateULMetaData E md .sNS true = .ok post.ULMetaData := by
  have hforward : ∀ {frm' : Octets} {ulj : Json Member D},
      sNS_forward E AddGWMetadata ulmd m = some (frm', ulj) → frm' = frm ∧
        generateULMetaData E (forwarded ulmd m port) .sNS AddGWMetadata = .ok ulj := by
    intro frm' ulj hsent
    obtain ⟨port', hrx', hulj⟩ := sNS_forward_some E hsent
    obtain ⟨rfl, rfl⟩ := Prod.mk.inj (Option.some.inj (hrx.symm.trans hrx'))
    exact ⟨rfl, hulj⟩
  cases route with
  | direct old =>
    obtain ⟨⟨frm', ulj⟩, hsent, h⟩ := Option.bind_eq_some_iff.mp h
    obtain ⟨rfl, hulj⟩ := hforward hsent
    obtain ⟨md, hmd, h⟩ := Option.bind_eq_some_iff.mp h
    obtain ⟨hpayload, henvl, hpost⟩ := hNS_XmitDataReq_toAS_some E h
    exact ⟨hpayload, henvl, md, keepsUplink_of_parse E hulj (toOption_eq_some hmd), hpost⟩
  | viaHome junk old =>
    obtain ⟨⟨frm', ulj⟩, hsent, h⟩ := Option.bind_eq_some_iff.mp h
    obtain ⟨rfl, hulj⟩ := hforward hsent
    dsimp only at h
    split at h
    · cases h
    · obtain ⟨p, hp, h⟩ := Option.bind_eq_some_iff.mp h
      obtain ⟨md, hmd, h⟩ := Option.bind_eq_some_iff.mp h
      split at h
      · rw [parsePayload_printed hlen hp] at h
        obtain ⟨hpayload, henvl, hpost⟩ := hNS_XmitDataReq_toAS_some E h
        exact ⟨hpayload, henvl, md, keepsUplink_of_parse E hulj (toOption_eq_some hmd), hpost⟩
      · cases h

theorem UplinkRoute.post_carriable (route : UplinkRoute S) (envl : Option AppSKeyJson)
    (AddGWMetadata : Bool) {ulmd : ULMetaData_t S} {m : Mote} {port : UInt8} {frm : Octets}
    (hfhdr : has_rx_fhdr m = true) (hrx : rxFRMPayload m = some (port, frm)) (hport : 0 < port)
    (hne : frm ≠ []) (hlen : frm.length ≤ 242) (hmd : Carriable ulmd) :
    ∃ (post : UplinkPost D) (md : ULMetaData_t S),
      route.post E envl AddGWMetadata ulmd m = some post ∧
        KeepsUplink (forwarded ulmd m port) md ∧
        generateULMetaData E md .sNS true = .ok post.ULMetaData ∧ Carriable md := by
  have hforwarded : Carriable (forwarded ulmd m port) := ⟨hmd.count, hmd.gateways, hmd.recvTime⟩
  have hforward : ∀ {ulj : Json Member D},
      generateULMetaData E (forwarded ulmd m port) .sNS AddGWMetadata = .ok ulj →
        sNS_forward E AddGWMetadata ulmd m = some (frm, ulj) := by
    intro ulj hulj
    unfold sNS_forward
    rw [if_pos hfhdr, hrx]
    dsimp only
    rw [if_pos hport, show ({ ulmd with
      FCntUp := UInt32.ofNat (takenFCntUp m), FPort := port.toUInt32.toInt32 } : ULMetaData_t S) =
        forwarded ulmd m port from rfl, hulj]
    rfl
  have hpost : ∀ {md : ULMetaData_t S}, Carriable md → ∃ post : UplinkPost D,
      hNS_XmitDataReq_toAS E envl frm md = some post ∧
        generateULMetaData E md .sNS true = .ok post.ULMetaData := by
    intro md hcarriable
    obtain ⟨uj, -, huj, -⟩ := carriable_parse (D := D) E hcarriable md true
    refine ⟨⟨Text.printOctets frm, uj, envl⟩, ?_, huj⟩
    rw [hNS_XmitDataReq_toAS, if_neg hne, huj]
  cases route with
  | direct old =>
    obtain ⟨ulj, md, hulj, hparse, hcarriable⟩ :=
      carriable_parse (D := D) E hforwarded old AddGWMetadata
    obtain ⟨post, hsent, huj⟩ := hpost hcarriable
    refine ⟨post, md, ?_, keepsUplink_of_parse E hulj hparse, huj, hcarriable⟩
    rw [UplinkRoute.post, hforward hulj, Option.bind_some]
    dsimp only
    rw [hparse, Except.toOption, Option.bind_some, hsent]
  | viaHome junk old =>
    obtain ⟨ulj, md, hulj, hparse, hcarriable⟩ :=
      carriable_parse (D := D) E hforwarded old AddGWMetadata
    obtain ⟨post, hsent, huj⟩ := hpost hcarriable
    refine ⟨post, md, ?_, keepsUplink_of_parse E hulj hparse, huj, hcarriable⟩
    have hshort : (Text.printOctets frm).length ≤ 510 := by
      rw [Text.printOctets_length]
      omega
    have hhalf : (Text.printOctets frm).length / 2 = frm.length := by
      rw [Text.printOctets_length]
      omega
    have hok : ¬refusesPayload .FRMPayload (Text.printOctets frm) := by
      show ¬MAXIMUM_FRM_SIZE < payloadLen8 (Text.printOctets frm)
      rw [payloadLen8_of_short hshort, hhalf]
      have hmax : MAXIMUM_FRM_SIZE = 243 := rfl
      omega
    have hpos : 0 < frm.length := List.length_pos_of_ne_nil hne
    rw [UplinkRoute.post, hforward hulj, Option.bind_some]
    dsimp only
    rw [if_neg hne, hNS_relay, parsePayload_of_short junk hok hshort]
    simp only [Except.toOption, Option.bind_some, hparse, hhalf, Text.scanOctets_printOctets,
      if_pos hpos, List.take_length]
    exact hsent

end Lorawan.NetworkServer

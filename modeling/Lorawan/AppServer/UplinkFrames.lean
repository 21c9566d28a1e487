import Lorawan.AppServer.UplinkKeys
import Lorawan.NetworkServer.UplinkPayload

/-!
# Uplinks that are saved (app_server/main.c:172-331, app_server/web.c:421-483)

`ParseJson` finds the AppSKey of an uplink, `app_uplink` deciphers the payload, and `save_frame`
puts an `INSERT` into the queue of the second process.
-/

namespace Lorawan.AppServer
open Lorawan Lorawan.Backend NetworkServer

variable {S D : Type} (E : JsonEnv S D) (A : BlockCipher) (W : KeyWrap) (cfg : Config)

/-! ### save_frame -/

/-- A row of `frames`, with the frequency in MHz and the time as it came. -/
structure FrameRow (S : Type) where
  ID : ℕ
  /-- `GWCnt`, `RSSI` and `SNR`. -/
  signal : Option (UInt8 × Int8 × Int8)
  ULFreq : Option S
  DataRate : Option UInt8
  FRMPayload : Option Octets
  RecvTime : List Char
  FPort : ℕ
  FCntUp : ℕ
  Confirmed : Bool

/-- `snr` and `rssi` after the loop over the gateways. -/
def bestSignal : List (Option (GWInfo_t S)) → Int8 × Int8 → Except Fault (Int8 × Int8)
  | [], best => .ok best
  | gi :: gis, (snr, rssi) => do
    let gi ← deref gi
    bestSignal gis
      (if snr < gi.SNR then gi.SNR else snr, if rssi < gi.RSSI then gi.RSSI else rssi)

/-- What the calls of `save_frame` return: the ID of the `SELECT`, if it succeeds and finds one, and
whether `mq_send` succeeds. -/
structure FrameCalls where
  selectOk : Bool
  ID : Option ℕ
  sendOk : Bool
deriving DecidableEq

/-- `save_frame`, with the row of its `INSERT`. -/
def save_frame (c : FrameCalls) (ulmd : ULMetaData_t S) (decrypted : Buffer) (payLen : UInt8) :
    Except Fault (Result × Option (FrameRow S)) :=
  if c.selectOk = false then .ok (.Other, none)
  else
    match c.ID with
    | none =>
      .ok (if ulmd.DevEUI.toNat = Backend.NONE_DEVEUI then .UnknownDevAddr else .UnknownDevEUI,
        none)
    | some id => do
      let (snr, rssi) ← bestSignal ulmd.gwList (-128, -128)
      let row : FrameRow S :=
        { ID := id
          signal := if 0 < ulmd.GWCnt then some (ulmd.GWCnt, rssi, snr) else none
          ULFreq := if E.floats.isPos ulmd.ULFreq then some ulmd.ULFreq else none
          DataRate := if ulmd.DataRate ≠ 255 then some ulmd.DataRate else none
          FRMPayload :=
            if 0 < payLen then some ((List.range payLen.toNat).map decrypted) else none
          RecvTime := ulmd.RecvTime
          FPort := ulmd.FPort.toUInt32.toNat
          FCntUp := ulmd.FCntUp.toNat
          Confirmed := ulmd.Confirmed }
      if c.sendOk then pure (.Success, some row) else pure (.Other, none)

/-! ### ParseJson -/

/-- The contents of the handler's variables that nothing was written to. -/
structure Unwritten (S : Type) where
  DevEui64 : ℕ
  AppSKeyBin : Octets
  ulmd : ULMetaData_t S
  octet : UInt8
  decrypted : Buffer

/-- `getKey` with the AppSKey of a post: `none` when it fails, as without an `AESKey`. -/
def postedKey (post : UplinkPost D) : Option (Option KeyEnvelopeJson) :=
  match post.AppSKey with
  | none => some none
  | some obj => obj.toEnvelope.map some

/-- What the handler reads of the message for the AppSKey; `none` when it fails on it. A post has
no `DevAddr` beside the `ULMetaData`. -/
def uplinkReq (junkEui : ℕ) (post : UplinkPost D) : Option UplinkReq := do
  let DevAddr ← (readHex E 32 Backend.NONE_DEVADDR (post.ULMetaData.get_ex .DevAddr)).toOption
  let DevEUI ← (readHex E 64 junkEui (post.ULMetaData.get_ex .DevEUI)).toOption
  let AppSKey ← postedKey post
  return {
    DevEUI := if (post.ULMetaData.get_ex .DevEUI).isSome then some DevEUI else none
    DevAddr := if (post.ULMetaData.get_ex .DevAddr).isSome then some DevAddr else none
    junkEui := junkEui
    topDevAddr := none
    AppSKey := AppSKey }

/-- `AppSKeyBin`, when the uplink is not refused. -/
def UplinkKey.bin (unset : Octets) : UplinkKey → Option Octets
  | .refused => none
  | .unset => some unset
  | .key AppSKey => some AppSKey

/-- The row that the handling of an uplink puts into the queue, given fuel for the loop of
`LoRa_Encrypt`. -/
def savedRow (env : Surroundings) (U : Unwritten S) (c : FrameCalls) (fuel : ℕ) (s : Server)
    (post : UplinkPost D) : Option (FrameRow S) := do
  let req ← uplinkReq E U.DevEui64 post
  let AppSKeyBin ← (uplinkKey W cfg env req s).bin U.AppSKeyBin
  let ulmd ← (ParseULMetaData E U.ulmd post.ULMetaData).toOption
  let up := app_uplink A U.octet AppSKeyBin ulmd.DevAddr.toNat ulmd.FCntUp.toNat post.FRMPayload
  let run ← up.decrypted fuel
  let saved ← (save_frame E c ulmd (run.apply U.decrypted) up.payLen).toOption
  saved.2

/-! ### Lemmas -/

theorem bestSignal_ok {gis : List (Option (GWInfo_t S))} (h : ∀ gi ∈ gis, gi.isSome)
    (best : Int8 × Int8) : ∃ best', bestSignal gis best = .ok best' := by
  induction gis generalizing best with
  | nil => exact ⟨best, rfl⟩
  | cons gi gis ih =>
    obtain ⟨hgi, hgis⟩ := List.forall_mem_cons.mp h
    obtain ⟨g, rfl⟩ := Option.isSome_iff_exists.mp hgi
    exact ih hgis _

theorem save_frame_some {c : FrameCalls} {ulmd : ULMetaData_t S} {decrypted : Buffer}
    {payLen : UInt8} {saved : Result × Option (FrameRow S)} {row : FrameRow S}
    (h : save_frame E c ulmd decrypted payLen = .ok saved) (hrow : saved.2 = some row) :
    row.FRMPayload =
        (if 0 < payLen then some ((List.range payLen.toNat).map decrypted) else none) ∧
      row.FPort = ulmd.FPort.toUInt32.toNat ∧ row.FCntUp = ulmd.FCntUp.toNat := by
  unfold save_frame at h
  split at h
  · cases h
    cases hrow
  · split at h
    · cases h
      cases hrow
    · obtain ⟨⟨snr, rssi⟩, -, h⟩ := bind_ok_iff.mp h
      dsimp only at h
      split at h
      · cases h
        cases hrow
        exact ⟨rfl, rfl, rfl⟩
      · cases h
        cases hrow

/-- A message whose payload is enciphered under the AppSKey that the handler finds: the row holds
the payload. -/
theorem savedRow_some {env : Surroundings} {U : Unwritten S} {c : FrameCalls} {fuel : ℕ}
    {s : Server} {post : UplinkPost D} {req : UplinkReq} {AppSKey payload : Octets}
    {row : FrameRow S} {md : ULMetaData_t S} (hreq : uplinkReq E U.DevEui64 post = some req)
    (hkey : uplinkKey W cfg env req s = .refused ∨ uplinkKey W cfg env req s = .key AppSKey)
    (hmd : generateULMetaData E md .sNS true = .ok post.ULMetaData)
    (hpayload : post.FRMPayload = Text.printOctets
      (frmPayload A AppSKey md.DevAddr.toNat true md.FCntUp.toNat payload))
    (hne : payload ≠ []) (hlen : payload.length ≤ 255) (hfuel : 16 < fuel)
    (h : savedRow E A W cfg env U c fuel s post = some row) :
    row.FRMPayload = some payload ∧ row.FPort = md.FPort.toUInt32.toNat ∧
      row.FCntUp = md.FCntUp.toNat := by
  rw [savedRow, hreq, Option.bind_eq_bind, Option.bind_some] at h
  rcases hkey with hkey | hkey
  · rw [hkey] at h
    cases h
  · rw [hkey] at h
    obtain ⟨_, hrefl, h⟩ := Option.bind_eq_some_iff.mp h
    cases hrefl
    obtain ⟨ulmd, hparse, h⟩ := Option.bind_eq_some_iff.mp h
    obtain ⟨run, hrun, h⟩ := Option.bind_eq_some_iff.mp h
    obtain ⟨saved, hsaved, hrow⟩ := Option.bind_eq_some_iff.mp h
    have hkeeps := keepsUplink_of_parse E hmd (toOption_eq_some hparse)
    have hsize : (frmPayload A AppSKey md.DevAddr.toNat true md.FCntUp.toNat payload).length =
        payload.length := length_frmPayload ..
    have hlen8 : (UInt8.ofNat payload.length).toNat = payload.length := by
      rw [UInt8.toNat_ofNat']
      omega
    have hpos : 0 < payload.length := List.length_pos_of_ne_nil hne
    rw [hpayload, hkeeps.DevAddr, hkeeps.FCntUp, app_uplink, Text.scanOctets_printOctets] at hrun
    dsimp only at hrun
    obtain ⟨run', hrun', happly⟩ := encryptAccesses_eq_frmPayload A AppSKey md.DevAddr.toNat true
      md.FCntUp.toNat (hsize ▸ hlen : (frmPayload A AppSKey md.DevAddr.toNat true md.FCntUp.toNat
        payload).length ≤ 255) hfuel
    obtain rfl := Option.some.inj (hrun.symm.trans hrun')
    obtain ⟨hFRM, hFPort, hFCntUp⟩ := save_frame_some E (toOption_eq_some hsaved) hrow
    rw [hpayload, app_uplink, Text.scanOctets_printOctets] at hFRM
    dsimp only at hFRM
    rw [hsize, if_pos (by rw [UInt8.lt_iff_toNat_lt, hlen8]; exact hpos), hlen8] at hFRM
    refine ⟨?_, by rw [hFPort, hkeeps.FPort], by rw [hFCntUp, hkeeps.FCntUp]⟩
    rw [hFRM]
    congr 1
    apply List.ext_getElem
    · rw [List.length_map, List.length_range]
    · intro k hk hk'
      rw [List.getElem_map, List.getElem_range, happly U.decrypted k (by rwa [hsize]),
        frmPayload_frmPayload, List.getD_eq_getElem _ _ hk']

/-- Such a message is saved, when the key is there and the calls succeed. -/
theorem savedRow_isSome {env : Surroundings} {U : Unwritten S} {c : FrameCalls} {fuel : ℕ}
    {s : Server} {post : UplinkPost D} {req : UplinkReq} {AppSKey payload : Octets}
    {md : ULMetaData_t S} (hreq : uplinkReq E U.DevEui64 post = some req)
    (hkey : uplinkKey W cfg env req s = .key AppSKey) (hcarriable : Carriable md)
    (hmd : generateULMetaData E md .sNS true = .ok post.ULMetaData)
    (hpayload : post.FRMPayload = Text.printOctets
      (frmPayload A AppSKey md.DevAddr.toNat true md.FCntUp.toNat payload))
    (hlen : payload.length ≤ 255) (hfuel : 16 < fuel) (hselect : c.selectOk = true)
    (hid : c.ID.isSome) (hsend : c.sendOk = true) :
    (savedRow E A W cfg env U c fuel s post).isSome := by
  obtain ⟨j, ulmd, hj, hparse, hulmd⟩ := carriable_parse (D := D) E hcarriable U.ulmd true
  obtain rfl := Except.ok.inj (hj.symm.trans hmd)
  have hkeeps := keepsUplink_of_parse E hmd hparse
  obtain ⟨run, hrun, -⟩ := encryptAccesses_eq_frmPayload A AppSKey md.DevAddr.toNat true
    md.FCntUp.toNat ((length_frmPayload ..).symm ▸ hlen : (frmPayload A AppSKey md.DevAddr.toNat
      true md.FCntUp.toNat payload).length ≤ 255) hfuel
  obtain ⟨id, hid⟩ := Option.isSome_iff_exists.mp hid
  have hsome : ∀ gi ∈ ulmd.gwList, gi.isSome := by
    intro gi hgi
    obtain ⟨g, rfl, -⟩ := hulmd.gateways gi hgi
    rfl
  obtain ⟨⟨snr, rssi⟩, hbest⟩ := bestSignal_ok hsome (-128, -128)
  have hdecrypted : (app_uplink A U.octet AppSKey ulmd.DevAddr.toNat ulmd.FCntUp.toNat
      post.FRMPayload).decrypted fuel = some run := by
    rw [hpayload, hkeeps.DevAddr, hkeeps.FCntUp, app_uplink, Text.scanOctets_printOctets]
    exact hrun
  rw [savedRow, hreq, Option.bind_eq_bind, Option.bind_some, hkey]
  simp only [UplinkKey.bin, hparse, Except.toOption, Option.bind_eq_bind, Option.bind_some,
    hdecrypted, save_frame, hselect, reduceCtorEq, if_false, hid, hbest, ok_bind, hsend, if_true,
    pure_eq_ok, Option.isSome_some]

/-- What the handler reads of a post for a device with a DevEUI. -/
theorem uplinkReq_eq {post : UplinkPost D} {md : ULMetaData_t S} {AppSKey : Option KeyEnvelopeJson}
    (junkEui : ℕ) (hmd : generateULMetaData E md .sNS true = .ok post.ULMetaData)
    (heui : md.DevEUI.toNat ≠ Backend.NONE_DEVEUI)
    (hkey : postedKey post = some AppSKey) :
    ∃ DevAddr, uplinkReq E junkEui post =
      some ⟨some md.DevEUI.toNat, DevAddr, junkEui, none, AppSKey⟩ := by
  obtain ⟨gateways, hj, hother⟩ := generateULMetaData_sNS E hmd
  have hDevEUI : post.ULMetaData.get_ex .DevEUI = some (hexText md.DevEUI.toNat) := by
    rw [hj]
    simp [addUplink, heui]
  have hDevAddr : post.ULMetaData.get_ex .DevAddr =
      if md.DevAddr.toNat = Backend.NONE_DEVADDR then none
      else some (hexText md.DevAddr.toNat) := by
    rw [hj]
    simp [addUplink, hother]
  unfold uplinkReq
  rw [hDevEUI, hDevAddr, hkey, readHex_optional_addr, readHex_eui]
  exact ⟨_, rfl⟩

end Lorawan.AppServer

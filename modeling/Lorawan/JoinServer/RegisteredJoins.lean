import Lorawan.JoinServer.Agreement
import Lorawan.JoinServer.Registry

/-!
# Joins of registered devices

What a device has from being registered: whatever forms and requests came
before, a join request with a DevNonce above the stored one is answered, the
device receives the accept, and no pair of nonces makes keys twice. The stored
DevNonce counts requests (main.c:386): one that was answered after a skip is
above it, and is answered again.
-/

namespace Lorawan.JoinServer
open Lorawan Lorawan.Backend Lorawan.NetworkServer mtype_e

variable (A : BlockCipher) (W : KeyWrap) (cfg : Config)

/-! ### A join request of a device -/

namespace Device

variable (dev : Device)

/-- The join request, with the MIC that the device computes. -/
def joinUplink (DevNonce : ℕ) : Uplink :=
  .join DevNonce (Octets.toNat (LoRa_GenerateJoinFrameIntegrityCode A dev.NwkKey
    ((dev.frame (.join DevNonce 0)).take 19)))

/-- What the join server makes of it. -/
def joinDispatch (DevNonce : ℕ) : Dispatch where
  MType := MTYPE_JOIN_REQ
  JoinReqType := 0xff
  rxNonce := DevNonce % 2 ^ 16
  rfJoinEUI := Octets.ofNat 8 dev.JoinEUI
  MicKey := some dev.NwkKey

/-- The form that adds the device. -/
def form : appInfo_t where
  DevEUI := dev.DevEUI
  NwkKeyStr := Text.printOctets dev.NwkKey
  AppKeyStr := (dev.AppKey.map Text.printOctets).getD []
  op := .OP_ADD
  Lifetime := 0

/-- What the device is registered with. -/
def rootKeys : RootKeys := ⟨dev.NwkKey, dev.AppKey⟩

end Device

/-- The network server passes a join request of the device on. -/
structure SentJoin (dev : Device) (DevNonce myNetwork_id32 : ℕ) (mote : JoiningMote)
    (r : Regional) (msg : JoinMessage) : Prop where
  joinEui : cfg.myJoinEui64 = dev.JoinEUI
  frame : mote.ULPayloadBin = dev.frame (dev.joinUplink A DevNonce)
  devEui : mote.devEui = dev.DevEUI
  devAddr_lt : mote.devAddr < 2 ^ 32
  netId_lt : myNetwork_id32 < 2 ^ 24
  delay_le : (meant myNetwork_id32 mote r).RxDelay ≤ 15
  sent : hNS_toJS myNetwork_id32 mote (get_cflist r) = some msg

/-! ### When it is answered -/

/-- The DevNonce is not above `DevNonce_last`; without an AppKey, it stands in `nonces`. -/
def nonceStale (t : Tables) (dev : Device) (DevNonce : ℕ) : Bool :=
  match t.row dev.DevEUI with
  | none => false
  | some m =>
    if m.AppKey.isSome then decide (DevNonce % 2 ^ 16 ≤ m.DevNonce_last.getD 0)
    else check_nonce t false dev.DevEUI (DevNonce % 2 ^ 16)

/-- A counter of the device has reached the end of its column. -/
def countersFull (t : Tables) (dev : Device) : Bool :=
  dev.AppKey.isSome &&
    t.joinmotes.any fun m => m.eui = dev.DevEUI && m.outOfRange .DevNonce_last

/-- The device receives what the network server meant, and its session keys are in the answer. -/
structure Received (dev : Device) (u : Device.Uplink) (meant : Meant) (joinNonce : ℕ) (junk : UInt8)
    (ans : JoinAnsJson) : Prop where
  accept : dev.receiveAccept A u (Text.scanOctets junk ans.PHYPayload) =
    { expectedAccept dev meant joinNonce
        (dev.expectedMic A u (Text.scanOctets junk ans.PHYPayload)) with
      RxDelay := UInt8.ofNat (receivedDelay meant.RxDelay) }
  keys : HoldsSessionKeys A W cfg dev u
    (dev.receiveAccept A u (Text.scanOctets junk ans.PHYPayload)) junk ans

/-- The three ways a join request of a registered device ends. -/
inductive JoinOutcome (dev : Device) (DevNonce : ℕ) (env : Env) (t : Tables) (meant : Meant)
    (junk : UInt8) : Except Stop JoinAnsJson → Prop
  | served {ans : JoinAnsJson} : nonceStale t dev DevNonce = false → countersFull t dev = false →
      Received A W cfg dev (dev.joinUplink A DevNonce) meant (serverJoinNonce env t dev.DevEUI)
        junk ans → JoinOutcome dev DevNonce env t meant junk (.ok ans)
  | stale : nonceStale t dev DevNonce = true →
      JoinOutcome dev DevNonce env t meant junk (.error (.result .ActivationDisallowed))
  | full : nonceStale t dev DevNonce = false → countersFull t dev = true →
      JoinOutcome dev DevNonce env t meant junk (.error (.result .JoinReqFailed))

/-- Every key of sixteen octets is put into an envelope. -/
def MakesEnvelopes (ke : key_envelope_t) : Prop :=
  ∀ key : Octets, key.length = 16 → (create_KeyEnvelope W key ke).isSome

variable {A W cfg} {dev : Device} {DevNonce myNetwork_id32 : ℕ} {mote : JoiningMote} {r : Regional}
  {msg : JoinMessage} {env : Env} {t : Tables} {m : JoinMote}

/-! ### The request is received -/

/-- The frame, and its parts that the join server reads. -/
theorem joinFrame_parts (A : BlockCipher) (dev : Device) (DevNonce : ℕ) {rx : RxFrame}
    (hrx : rx.octets = dev.frame (dev.joinUplink A DevNonce)) (hlen : rx.rxLen = 23) :
    MType (rx.byte 0) = MTYPE_JOIN_REQ ∧ rx.bytes 1 8 = Octets.ofNat 8 dev.JoinEUI ∧
      rx.bytes 9 8 = Octets.ofNat 8 dev.DevEUI ∧ rx.bytes 17 2 = Octets.ofNat 2 DevNonce ∧
      rx.bytes (rx.rxLen - 4) 4 =
        LoRa_GenerateJoinFrameIntegrityCode A dev.NwkKey (rx.bytes 0 (rx.rxLen - 4)) := by
  let J := Octets.ofNat 8 dev.JoinEUI
  let D := Octets.ofNat 8 dev.DevEUI
  let N := Octets.ofNat 2 DevNonce
  let body := [mhdr MTYPE_JOIN_REQ] ++ J ++ D ++ N
  have hbody : body.length = 19 := by simp [body, J, D, N]
  have htake : (dev.frame (.join DevNonce 0)).take 19 = body := List.take_left' hbody
  let mic := LoRa_GenerateJoinFrameIntegrityCode A dev.NwkKey body
  have hmic : Octets.ofNat 4 (Octets.toNat mic) = mic := by
    have h := Octets.ofNat_toNat mic
    rw [LoRa_GenerateJoinFrameIntegrityCode_length] at h
    exact h
  have hframe : rx.octets = body ++ mic := by
    rw [hrx, Device.joinUplink, Device.frame, htake, hmic]
  refine ⟨?_, ?_, ?_, ?_, ?_⟩
  · simp [RxFrame.byte, hframe, body]
  · exact @slice_bytes rx [mhdr MTYPE_JOIN_REQ] J (D ++ N ++ mic) 1 8
      (by simp [hframe, body]) rfl (by simp [J])
  · exact @slice_bytes rx ([mhdr MTYPE_JOIN_REQ] ++ J) D (N ++ mic) 9 8
      (by simp [hframe, body]) (by simp [J]) (by simp [D])
  · exact @slice_bytes rx ([mhdr MTYPE_JOIN_REQ] ++ J ++ D) N mic 17 2 hframe
      (by simp [J, D]) (by simp [N])
  · rw [hlen, @slice_bytes rx body mic [] 19 4 (by simp [hframe]) hbody
      (LoRa_GenerateJoinFrameIntegrityCode_length A ..),
      @slice_bytes rx [] body mic 0 19 (by simp [hframe]) rfl hbody]

theorem joinFrame_length (A : BlockCipher) (dev : Device) (DevNonce : ℕ) :
    (dev.frame (dev.joinUplink A DevNonce)).length = 23 := by
  simp [Device.joinUplink, Device.frame]

theorem receive_join (hsent : SentJoin A cfg dev DevNonce myNetwork_id32 mote r msg)
    (hquiet : ∀ u, env.refused u = false) (hrow : t.row dev.DevEUI = some m)
    (hkey : m.NwkKey = some dev.NwkKey) :
    receive A cfg.myJoinEui64 env t msg.members = .ok (dev.DevEUI, dev.joinDispatch DevNonce) := by
  obtain ⟨dr2, off, delay, -, -, -, -, hmembers⟩ := hNS_toJS_some hsent.sent
  let text := Text.printOctets (dev.frame (dev.joinUplink A DevNonce))
  let rx : RxFrame := ⟨Text.scanOctets env.junkByte text, env.stack, text.length / 2⟩
  have htext : text.length = 46 := by
    rw [Text.printOctets_length, joinFrame_length]
  have hshort : ¬256 < (JsonValue.string text).get_string.length := by
    change ¬256 < text.length
    rw [htext]
    omega
  have hphy : receivePHYPayload env msg.members = .ok rx := by
    rw [hmembers, hsent.frame]
    change (if 256 < (JsonValue.string text).get_string.length then
      .error (.result .FrameSizeError) else .ok rx) = Except.ok rx
    exact if_neg hshort
  have heui : receiveDevEUI env msg.members = .ok dev.DevEUI := by
    have hscan := @Text.scan_print 16 64 dev.DevEUI (by omega) (le_refl 16) (le_refl 64)
      dev.DevEUI_lt
    simp only [receiveDevEUI, hmembers, JsonValue.get_string, hsent.devEui, hscan, Option.getD_some]
  have hoctets : rx.octets = dev.frame (dev.joinUplink A DevNonce) :=
    Text.scanOctets_printOctets env.junkByte _
  have hlen : rx.rxLen = 23 := by
    change text.length / 2 = 23
    rw [htext]
  obtain ⟨hmt, hJ, hD, hN, hmic⟩ := joinFrame_parts A dev DevNonce hoctets hlen
  have hjoin : eui_buf_to_uint64 (Octets.ofNat 8 dev.JoinEUI) = dev.JoinEUI :=
    eui_buf_roundtrip dev.JoinEUI dev.JoinEUI_lt
  have hdev : dev.DevEUI = eui_buf_to_uint64 (rx.bytes 9 8) := by
    rw [hD]
    exact (eui_buf_roundtrip dev.DevEUI dev.DevEUI_lt).symm
  have hread : get_sql_joinmote_key_ t (env.refused (.selectMicKey .NwkKey)) .NwkKey dev.DevEUI =
      .found dev.NwkKey := by
    simp only [get_sql_joinmote_key_, hquiet, Bool.false_eq_true, if_false, hrow, JoinMote.key, hkey]
  have hdisp : dispatch dev.JoinEUI env t dev.DevEUI rx = .ok (dev.joinDispatch DevNonce) := by
    simp only [dispatch, hmt, ← hdev, ne_eq, not_true_eq_false, if_false, hread, hJ, hN,
      Octets.toNat_ofNat, Device.joinDispatch, bind, Except.bind, pure, Except.pure]
    norm_num
  have hcheck : checkMic A rx (some dev.NwkKey) = .ok () := by
    simp only [checkMic, hmic, ne_eq, not_true_eq_false, if_false]
    rw [if_neg (by rw [hlen]; omega)]
    rfl
  simp only [receive, hphy, heui, hdisp, bind, Except.bind, Device.joinDispatch, hjoin,
    hsent.joinEui, ne_eq, not_true_eq_false, if_false, hcheck, pure, Except.pure]

/-! ### The counter -/

/-- What the counter of a registered device is answered with. -/
theorem admit_join (DevNonce : ℕ) (hquiet : ∀ u, env.refused u = false) (hrow : t.row dev.DevEUI = some m)
    (happ : m.AppKey = dev.AppKey) (hcounted : m.joinNonce.isSome) :
    (nonceStale t dev DevNonce = true ∧
      admitNonce env t dev.DevEUI (dev.joinDispatch DevNonce) =
        (t, .error (.result .ActivationDisallowed))) ∨
    (nonceStale t dev DevNonce = false ∧ countersFull t dev = true ∧
      admitNonce env t dev.DevEUI (dev.joinDispatch DevNonce) =
        (t, .error (.result .JoinReqFailed))) ∨
    (nonceStale t dev DevNonce = false ∧ countersFull t dev = false ∧
      ∃ t' a, admitNonce env t dev.DevEUI (dev.joinDispatch DevNonce) = (t', .ok a)) := by
  obtain ⟨n, hn⟩ := Option.isSome_iff_exists.mp hcounted
  unfold nonceStale countersFull Device.joinDispatch
  rw [hrow]
  generalize DevNonce % 2 ^ 16 = nonce
  cases hkey : dev.AppKey with
  | none =>
    have hnull : m.AppKey = none := happ.trans hkey
    by_cases hmem : (dev.DevEUI, nonce) ∈ t.nonces
    · left
      simp [admitNonce, get_sql_joinmote_key_, hquiet, hrow, JoinMote.key, hnull, admit1v0,
        check_nonce, hmem]
    · right; right
      simp [admitNonce, get_sql_joinmote_key_, hquiet, hrow, JoinMote.key, hnull, admit1v0,
        check_nonce, hmem]
  | some AppKey =>
    have hsome : m.AppKey = some AppKey := happ.trans hkey
    by_cases hle : nonce ≤ m.DevNonce_last.getD 0
    · left
      simp [admitNonce, get_sql_joinmote_key_, hquiet, hrow, JoinMote.key, hsome, admit1v1, hn,
        nonceColumn, JoinMote.counter, hle]
    · right
      cases hfull : t.joinmotes.any fun m => m.eui = dev.DevEUI && m.outOfRange .DevNonce_last with
      | true =>
        left
        simp [admitNonce, get_sql_joinmote_key_, hquiet, hrow, JoinMote.key, hsome, admit1v1, hn,
          nonceColumn, JoinMote.counter, hle, Tables.updateCounter, hfull]
      | false =>
        right
        simp [admitNonce, get_sql_joinmote_key_, hquiet, hrow, JoinMote.key, hsome, admit1v1, hn,
          nonceColumn, JoinMote.counter, hle, Tables.updateCounter, hfull]

/-! ### The answer -/

theorem requireKey_found {column : KeyColumn} {devEui : ℕ} {key : Octets}
    (hquiet : ∀ u, env.refused u = false) (hrow : t.row devEui = some m)
    (hkey : m.key column = some key) : requireKey env t column devEui = .ok key := by
  simp only [requireKey, get_sql_joinmote_key_, hquiet, Bool.false_eq_true, if_false, hrow, hkey]

theorem requireEnvelope_made {ke : key_envelope_t} (h : MakesEnvelopes W ke) {key : Octets}
    (hkey : key.length = 16) : ∃ obj, requireEnvelope W key ke = .ok obj := by
  obtain ⟨obj, hobj⟩ := Option.isSome_iff_exists.mp (h key hkey)
  exact ⟨obj, by simp only [requireEnvelope, hobj]⟩

/-- Nothing after the counter fails for a request that the network server made. -/
theorem buildAccept_join {a : Admission}
    (hsent : SentJoin A cfg dev DevNonce myNetwork_id32 mote r msg)
    (hquiet : ∀ u, env.refused u = false) (hprov : Provisioned A dev t)
    (hopt : a.OptNeg = dev.AppKey.isSome) :
    ∃ accept, buildAccept A myNetwork_id32 env t dev.DevEUI (dev.joinDispatch DevNonce) a
      dev.NwkKey msg.members = .ok accept := by
  obtain ⟨dr2, off, delay, -, -, hdelay1, -, hmembers⟩ := hNS_toJS_some hsent.sent
  obtain ⟨m, hrow, -, -, hJS⟩ := hprov
  have hdelay : rxDelay delay ≤ 15 := by
    have h := hsent.delay_le
    simpa only [meant, hdelay1, Option.getD_some] using h
  have h1 : requireHex env msg.members.DevAddr = .ok mote.devAddr := by
    rw [hmembers]
    exact requireHex_print env _ hsent.devAddr_lt
  have h2 : requireHex env msg.members.DLSettings = .ok (dlSettings dr2 off).toNat := by
    rw [hmembers]
    exact requireHex_print2 env _
  have h3 : requireHex env msg.members.RxDelay = .ok (receivedDelay (rxDelay delay)) := by
    rw [hmembers]
    exact requireHex_int env _ hdelay
  have h4 : receiveCFList env msg.members.CFList = .ok r.CFListBin := by
    rw [hmembers]
    exact receiveCFList_get_cflist env r
  cases hon : a.OptNeg with
  | false =>
    simp only [buildAccept, h1, h2, h3, h4, hon, bind, Except.bind, Bool.false_eq_true, if_false]
    exact ⟨_, rfl⟩
  | true =>
    obtain ⟨hint, -⟩ := hJS (hopt.symm.trans hon)
    have h5 := requireKey_found hquiet hrow (show m.key .JSIntKey = _ from hint)
    simp only [buildAccept, h1, h2, h3, h4, h5, hon, bind, Except.bind, if_true,
      Device.joinDispatch]
    exact ⟨_, rfl⟩

theorem buildAnswer_join (A : BlockCipher) (dev : Device) (DevNonce myNetwork_id32 : ℕ)
    (a : Admission) (happ : MakesEnvelopes W cfg.key_envelope_app)
    (hnwk : MakesEnvelopes W cfg.key_envelope_nwk) (lifetime : ℕ) (txBuf : Octets) :
    ∃ ans, buildAnswer A W cfg myNetwork_id32 (dev.joinDispatch DevNonce) a dev.NwkKey lifetime
      txBuf = .ok ans := by
  have hlen (OptNeg : Bool) (type : keyType_e) (root : Octets) :
      (GenerateSessionKey A OptNeg type root a.joinNonce (dev.joinDispatch DevNonce).rfJoinEUI
        (dev.joinDispatch DevNonce).rxNonce myNetwork_id32).length = 16 :=
    GenerateSessionKey_length A OptNeg type root _ _ _ _ (Octets.length_ofNat 8 dev.JoinEUI)
  cases hon : a.OptNeg with
  | false =>
    obtain ⟨f, hf⟩ := requireEnvelope_made hnwk (hlen false .keyType_FNwkSIntKey dev.NwkKey)
    obtain ⟨s, hs⟩ := requireEnvelope_made happ (hlen false .keyType_AppSKey dev.NwkKey)
    simp only [buildAnswer, hon, hf, hs, bind, Except.bind, Bool.false_eq_true, if_false]
    exact ⟨_, rfl⟩
  | true =>
    obtain ⟨i, hi⟩ := requireEnvelope_made hnwk (hlen true .keyType_SNwkSIntKey dev.NwkKey)
    obtain ⟨f, hf⟩ := requireEnvelope_made hnwk (hlen true .keyType_FNwkSIntKey dev.NwkKey)
    obtain ⟨n, hn⟩ := requireEnvelope_made hnwk (hlen true .keyType_NwkSEncKey dev.NwkKey)
    obtain ⟨s, hs⟩ := requireEnvelope_made happ (hlen true .keyType_AppSKey a.AppKey)
    simp only [buildAnswer, hon, hi, hf, hn, hs, bind, Except.bind, if_true]
    exact ⟨_, rfl⟩

theorem joinAccept_join {a : Admission}
    (hsent : SentJoin A cfg dev DevNonce myNetwork_id32 mote r msg)
    (hquiet : ∀ u, env.refused u = false) (happ : MakesEnvelopes W cfg.key_envelope_app)
    (hnwk : MakesEnvelopes W cfg.key_envelope_nwk) (hprov : Provisioned A dev t)
    (hopt : a.OptNeg = dev.AppKey.isSome) :
    ∃ ans, joinAccept A W cfg myNetwork_id32 env t dev.DevEUI (dev.joinDispatch DevNonce) a
      msg.members = .ok ans := by
  obtain ⟨⟨key, uncyphered⟩, haccept⟩ := buildAccept_join hsent hquiet hprov hopt
  obtain ⟨m, hrow, hNwk, -⟩ := hprov
  have hkey := requireKey_found hquiet hrow (show m.key .NwkKey = _ from hNwk)
  have hlifetime : readLifetime env t dev.DevEUI = .ok m.Lifetime := by
    simp only [readLifetime, hquiet, Bool.false_eq_true, if_false, hrow]
  obtain ⟨ans, hans⟩ := buildAnswer_join A dev DevNonce myNetwork_id32 a happ hnwk m.Lifetime
    (acceptPHYPayload A env key uncyphered)
  refine ⟨ans, ?_⟩
  simp only [joinAccept, hkey, haccept, hlifetime, bind, Except.bind]
  exact hans

/-! ### Registered devices -/

theorem Holds.row_of_registered {r : Registry} (h : Holds A t r) {devEui : ℕ} {keys : RootKeys}
    (hreg : r devEui = some keys) :
    ∃ m, t.row devEui = some m ∧ m.key = keys.column A devEui := by
  have hkeys := h.keys devEui
  rw [hreg, Option.map_some] at hkeys
  exact Option.map_eq_some_iff.mp hkeys

theorem Holds.provisioned {r : Registry} (h : Holds A t r)
    (hreg : r dev.DevEUI = some dev.rootKeys) : Provisioned A dev t := by
  obtain ⟨m, hrow, hkey⟩ := h.row_of_registered hreg
  refine ⟨m, hrow, congrFun hkey .NwkKey, congrFun hkey .AppKey, fun hsome => ?_⟩
  obtain ⟨k, hk⟩ := Option.isSome_iff_exists.mp hsome
  have hint := congrFun hkey .JSIntKey
  have henc := congrFun hkey .JSEncKey
  simp only [RootKeys.column, Device.rootKeys, hk, Option.map_some] at hint henc
  exact ⟨hint, henc⟩

/-- The accept of an answered join, for tables that hold the registry. -/
theorem received_of_answered {g : Registry} {t' : Tables} {ans : JoinAnsJson}
    (h : Holds A t g) (hreg : g dev.DevEUI = some dev.rootKeys)
    (hsent : SentJoin A cfg dev DevNonce myNetwork_id32 mote r msg)
    (hans : parse_rf_join_req A W cfg (senderNetId msg) env msg.members t = (t', .ok ans))
    (junk : UInt8) :
    Received A W cfg dev (dev.joinUplink A DevNonce) (meant myNetwork_id32 mote r)
      (serverJoinNonce env t dev.DevEUI) junk ans := by
  have hanswered : AnsweredJoin A W cfg dev (dev.joinUplink A DevNonce) myNetwork_id32 mote r env
      t ans := {
    provisioned := h.provisioned hreg
    joinNonce_lt := fun m n hrow hn => h.joinNonce_lt m (List.mem_of_find?_eq_some hrow) n hn
    joinEui := hsent.joinEui
    frame := hsent.frame
    devEui := hsent.devEui
    devAddr_lt := hsent.devAddr_lt
    netId_lt := hsent.netId_lt
    answered := ⟨msg, t', hsent.sent, hans⟩ }
  obtain ⟨haccept, hkeys⟩ := device_receives A W hanswered hsent.delay_le junk
  exact ⟨haccept, hkeys⟩

/-- After every sequence of forms and requests: a join request of a registered device is answered,
and the accept received, unless its DevNonce is stale or a counter is at its end. -/
theorem registered_join_served (A : BlockCipher) (W : KeyWrap) (cfg : Config) (es : List Event)
    (dev : Device) (DevNonce myNetwork_id32 : ℕ) (mote : JoiningMote) (r : Regional)
    (msg : JoinMessage) (env : Env) (junk : UInt8)
    (hreg : registryAfter es dev.DevEUI = some dev.rootKeys)
    (hsent : SentJoin A cfg dev DevNonce myNetwork_id32 mote r msg)
    (hquiet : ∀ u, env.refused u = false) (happ : MakesEnvelopes W cfg.key_envelope_app)
    (hnwk : MakesEnvelopes W cfg.key_envelope_nwk) :
    let t := (serverAfter A W cfg es).tables
    JoinOutcome A W cfg dev DevNonce env t (meant myNetwork_id32 mote r) junk
      (parse_rf_join_req A W cfg (senderNetId msg) env msg.members t).2 := by
  have h := holds_after A W cfg es
  generalize (serverAfter A W cfg es).tables = t at h
  generalize registryAfter es = g at h hreg
  dsimp only
  have hprov := h.provisioned hreg
  obtain ⟨m, hrow, hNwk, hApp, -⟩ := hprov
  have hrx := receive_join hsent hquiet hrow hNwk
  have hcounted := h.counted m (List.mem_of_find?_eq_some hrow)
  have hsender := senderNetId_hNS_toJS hsent.sent (lt_trans hsent.netId_lt (by omega))
  rcases admit_join DevNonce hquiet hrow hApp hcounted with ⟨hstale, hadm⟩ |
    ⟨hfresh, hfull, hadm⟩ | ⟨hfresh, hroom, t', a, hadm⟩
  · simp only [parse_rf_join_req, hrx, hadm]
    exact .stale hstale
  · simp only [parse_rf_join_req, hrx, hadm]
    exact .full hfresh hfull
  · obtain ⟨hopt, -, -⟩ := admit_device A (h.provisioned hreg) hadm
    have hprov' := provisioned_admit A (h.provisioned hreg) hadm
    obtain ⟨ans, hans⟩ := joinAccept_join (W := W) hsent hquiet happ hnwk hprov' hopt
    have hparse : parse_rf_join_req A W cfg (senderNetId msg) env msg.members t = (t', .ok ans) := by
      simp only [parse_rf_join_req, hrx, hadm, hsender, hans]
    have hreceived := received_of_answered h hreg hsent hparse junk
    rw [hparse]
    exact .served hfresh hroom hreceived

/-! ### Registering a device -/

theorem isHexChar_printOctets (bs : Octets) : ∀ c ∈ Text.printOctets bs, isHexChar c = true := by
  have hdigit : ∀ d < 16, isHexChar (Nat.digitChar d) = true := by decide
  intro c hc
  obtain ⟨b, -, hb⟩ := List.mem_flatMap.mp hc
  have hlt : b.toNat < 256 := b.toNat_lt
  simp only [Text.print2, List.mem_cons, List.not_mem_nil, or_false] at hb
  rcases hb with rfl | rfl
  · exact hdigit _ (by omega)
  · exact hdigit _ (by omega)

theorem scanKey_printOctets (env : PageEnv) {key : Octets} (hlen : key.length = 16) :
    scanKey env (Text.printOctets key) = key := by
  rw [scanKey, Text.scanOctets_printOctets, List.take_of_length_le (le_of_eq hlen)]

theorem isEmpty_printOctets {key : Octets} (hlen : key.length = 16) :
    (Text.printOctets key).isEmpty = false := by
  have h := Text.printOctets_length key
  cases htext : Text.printOctets key with
  | nil =>
    rw [htext, hlen] at h
    cases h
  | cons c cs => rfl

theorem form_change {env : PageEnv} (hNwk : dev.NwkKey.length = 16)
    (hApp : ∀ k ∈ dev.AppKey, k.length = 16) (hsql : env.refused .replaceMote = false) :
    (Event.otaMotes env dev.form).change = some (.register dev.DevEUI dev.rootKeys) := by
  have hNwkText := Text.printOctets_length dev.NwkKey
  have hfind : (Text.printOctets dev.NwkKey).findIdx? (!isHexChar ·) = none := by
    rw [List.findIdx?_eq_none_iff]
    intro c hc
    rw [isHexChar_printOctets dev.NwkKey c hc]
    rfl
  have hNwkMsg : nwkKeyMsg (Text.printOctets dev.NwkKey) = "" := by
    rw [nwkKeyMsg, if_neg (by omega), List.take_of_length_le (by omega), hfind]
  have hmsg : addMsg dev.form = "" ∧ formKeys env dev.form = dev.rootKeys := by
    cases hkey : dev.AppKey with
    | none =>
      simp only [addMsg, formKeys, Device.form, Device.rootKeys, hkey, Option.map_none,
        Option.getD_none, List.isEmpty_nil, Bool.not_true, Bool.false_and, Bool.false_eq_true,
        if_false, scanKey_printOctets env hNwk, hNwkMsg, and_self]
    | some k =>
      have hk := hApp k hkey
      have hkText := Text.printOctets_length k
      have hlong : ¬(Text.printOctets k).length < 32 := by omega
      simp only [addMsg, formKeys, Device.form, Device.rootKeys, hkey, Option.map_some,
        Option.getD_some, isEmpty_printOctets hk, hlong, decide_false, Bool.and_false,
        Bool.false_eq_true, if_false, Bool.not_false, if_true, scanKey_printOctets env hNwk,
        scanKey_printOctets env hk, hNwkMsg, and_self]
  simp only [Event.change, hmsg.2, hsql, Bool.false_eq_true, if_false]
  exact if_pos hmsg.1

theorem Registry.step_keeps {g : Registry} {e : Event} {devEui : ℕ} {keys : RootKeys}
    (hreg : g devEui = some keys) (hkept : e.change ≠ some (.remove devEui)) :
    g.step e devEui = some keys := by
  cases hc : e.change with
  | none =>
    simp only [Registry.step, hc]
    exact hreg
  | some c =>
    simp only [Registry.step, hc]
    cases c with
    | register other others =>
      by_cases hsome : (g other).isSome
      · rw [Registry.apply, if_pos hsome]
        exact hreg
      · rw [Registry.apply, if_neg hsome, Function.update_of_ne]
        · exact hreg
        · rintro rfl
          exact hsome (by rw [hreg]; rfl)
    | remove other =>
      rw [Registry.apply, Function.update_of_ne]
      · exact hreg
      · rintro rfl
        exact hkept hc

theorem registered_until_removed {es fs : List Event} {env : PageEnv}
    (hnone : registryAfter es dev.DevEUI = none) (hNwk : dev.NwkKey.length = 16)
    (hApp : ∀ k ∈ dev.AppKey, k.length = 16) (hsql : env.refused .replaceMote = false)
    (hkept : ∀ e ∈ fs, e.change ≠ some (.remove dev.DevEUI)) :
    registryAfter (es ++ .otaMotes env dev.form :: fs) dev.DevEUI = some dev.rootKeys := by
  have hadded : (registryAfter es).step (.otaMotes env dev.form) dev.DevEUI =
      some dev.rootKeys := by
    have hfree : ¬(registryAfter es dev.DevEUI).isSome := by
      rw [hnone]
      exact Bool.false_ne_true
    simp only [Registry.step, form_change hNwk hApp hsql, Registry.apply]
    rw [if_neg hfree, Function.update_self]
  rw [registryAfter, Machine.run_append, Machine.run_cons]
  exact @Machine.run_invariant _ _ Registry.step (fun g => g dev.DevEUI = some dev.rootKeys)
    (fun _ e => e.change ≠ some (.remove dev.DevEUI))
    (fun _ _ hreg he => Registry.step_keeps hreg he) _ fs hadded (Machine.along_of_forall _ _ hkept)

/-! ### Keys of devices that are not removed -/

/-- The `INSERT` of a nonce is executed, and no device that was answered is removed. -/
def KeepsAnswered (s : KeyServer) (e : Event) : Prop :=
  (match e with
    | .request e => e.env.refused .insertNonce = false
    | _ => True) ∧
  ∀ devEui, e.change = some (.remove devEui) → ∀ k ∈ s.used, k.devEui ≠ devEui

theorem recorded_of_row {t' : Tables} {k : KeyInput} (hk : Recorded t k)
    (hrow : ∀ m, t.row k.devEui = some m → ∃ m', t'.row k.devEui = some m' ∧
      m'.AppKey = m.AppKey ∧ m'.joinNonce = m.joinNonce)
    (hnonces : (k.devEui, k.rxNonce) ∈ t.nonces → (k.devEui, k.rxNonce) ∈ t'.nonces) :
    Recorded t' k := by
  obtain ⟨m, hm, hversion, hcounted, hused⟩ := hk
  obtain ⟨m', hm', happ, hjoin⟩ := hrow m hm
  refine ⟨m', hm', ?_, ?_, fun hopt => hnonces (hused hopt)⟩
  · rw [happ]
    exact hversion
  · rw [hjoin]
    exact hcounted

theorem recorded_otaMotes {env : PageEnv} {ai : appInfo_t} {k : KeyInput} (hk : Recorded t k)
    (hkept : ∀ devEui, (Event.otaMotes env ai).change = some (.remove devEui) →
      k.devEui ≠ devEui) :
    Recorded (otaMotesSubmitted A env ai t).1 k := by
  rcases otaMotesSubmitted_cases A env ai t with ⟨htables, -⟩ | ⟨htables, -⟩ |
    ⟨nonces, htables, hnonces, hchange⟩
  · rw [htables]
    exact hk
  · rw [htables]
    refine recorded_of_row hk (fun m hm => ⟨m, ?_, rfl, rfl⟩) id
    rw [row_append, hm]
    rfl
  · have hne := hkept ai.DevEUI hchange
    rw [htables]
    refine recorded_of_row hk (fun m hm => ⟨m, ?_, rfl, rfl⟩) (fun hmem => ?_)
    · rw [row_filter, if_neg hne]
      exact hm
    · rcases hnonces with rfl | rfl
      · exact hmem
      · exact List.mem_filter.mpr ⟨hmem, decide_eq_true hne⟩

theorem recorded_lifetime {env : PageEnv} {ai : appInfo_t} {k : KeyInput} (hk : Recorded t k) :
    Recorded (updateLifetime env ai t).1 k := by
  rcases updateLifetime_cases env ai t with htables | htables
  · rw [htables]
    exact hk
  · rw [htables]
    refine recorded_of_row hk (fun m hm => ?_) id
    rw [row_lifetime, hm, Option.map_some]
    refine ⟨_, rfl, ?_⟩
    split <;> exact ⟨rfl, rfl⟩

theorem keysInv_adminStep (s : KeyServer) (e : Event) (hs : KeysInv s) (he : KeepsAnswered s e) :
    KeysInv (adminStep A W cfg s e) := by
  obtain ⟨hinsert, hkept⟩ := he
  cases e with
  | request e => exact keysInv_step hs hinsert
  | otaMotes env ai =>
    exact ⟨otaMotesSubmitted_rows (newMote_joinNonce_lt A env ai) hs.stored, hs.joinNonce_lt, hs.rxNonce_lt,
      fun k hk => recorded_otaMotes (hs.recorded k hk) fun devEui hchange =>
        hkept devEui hchange k hk, hs.fresh⟩
  | lifetime env ai =>
    exact ⟨updateLifetime_rows (fun _ hm => hm) hs.stored, hs.joinNonce_lt, hs.rxNonce_lt,
      fun k hk => recorded_lifetime (hs.recorded k hk), hs.fresh⟩

/-- Over every sequence of forms and requests that executes each `INSERT` of a nonce and removes no
device that was answered, no two answers for a device are derived from the same pair, nor have they
a key of one type under one root key in common. -/
theorem registered_keys_fresh (A : BlockCipher) (W : KeyWrap) (cfg : Config) (es : List Event)
    (h : Machine.Along (adminStep A W cfg) KeepsAnswered ⟨⟨[], []⟩, []⟩ es) :
    KeysFresh (serverAfter A W cfg es).used ∧ KeysDiffer A (serverAfter A W cfg es).used := by
  have hinit : KeysInv ⟨⟨[], []⟩, []⟩ := keysInv_init ⟨⟨[], []⟩, by simp⟩
  have hs := Machine.run_invariant (adminStep A W cfg) keysInv_adminStep hinit h
  exact ⟨hs.fresh, keysDiffer_of_inv hs⟩

/-! ### The sample device, added by its form -/

def quietPage : PageEnv := ⟨fun _ => false, "", 0⟩

def addSample : Event := .otaMotes quietPage sampleDevice.form

theorem addSample_registered :
    registryAfter [addSample] sampleDevice.DevEUI = some sampleDevice.rootKeys :=
  @registered_until_removed sampleDevice [] [] quietPage rfl (by decide) (by decide) rfl (by simp)

theorem plain_makesEnvelopes : MakesEnvelopes noWrap ⟨none, []⟩ := fun _ _ => rfl

/-- The first join after the form is answered, and the device receives the accept. -/
theorem added_device_joins :
    ∃ msg ans, hNS_toJS 0x13 (sampleMote 5) (get_cflist .plain) = some msg ∧
      (parse_rf_join_req BlockCipher.xorKey noWrap plainConfig (senderNetId msg) quietEnv
        msg.members (serverAfter BlockCipher.xorKey noWrap plainConfig [addSample]).tables).2 =
          .ok ans ∧
      Received BlockCipher.xorKey noWrap plainConfig sampleDevice
        (sampleDevice.joinUplink BlockCipher.xorKey 1) (meant 0x13 (sampleMote 5) .plain)
        (serverJoinNonce quietEnv
          (serverAfter BlockCipher.xorKey noWrap plainConfig [addSample]).tables 2) 0 ans := by
  obtain ⟨msg, hmsg⟩ : ∃ msg, hNS_toJS 0x13 (sampleMote 5) (get_cflist .plain) = some msg :=
    ⟨_, rfl⟩
  have hsent : SentJoin BlockCipher.xorKey plainConfig sampleDevice 1 0x13 (sampleMote 5) .plain
      msg := ⟨rfl, rfl, rfl, (by decide : 0x26000001 < 2 ^ 32), by decide, by decide, hmsg⟩
  have h := registered_join_served BlockCipher.xorKey noWrap plainConfig [addSample] sampleDevice 1
    0x13 (sampleMote 5) .plain msg quietEnv 0 addSample_registered hsent (fun _ => rfl)
    plain_makesEnvelopes plain_makesEnvelopes
  have hfresh : nonceStale (serverAfter BlockCipher.xorKey noWrap plainConfig [addSample]).tables
      sampleDevice 1 = false := by decide +kernel
  have hroom : countersFull (serverAfter BlockCipher.xorKey noWrap plainConfig [addSample]).tables
      sampleDevice = false := by decide +kernel
  refine ⟨msg, ?_⟩
  dsimp only at h
  generalize (parse_rf_join_req BlockCipher.xorKey noWrap plainConfig (senderNetId msg) quietEnv
    msg.members (serverAfter BlockCipher.xorKey noWrap plainConfig [addSample]).tables).2 =
      answer at h ⊢
  cases h with
  | served _ _ hreceived => exact ⟨_, hmsg, rfl, hreceived⟩
  | stale hstale => exact absurd (hfresh.symm.trans hstale) (by decide)
  | full _ hfull => exact absurd (hroom.symm.trans hfull) (by decide)

/-- Two joins of the device that was added have two pairs. -/
theorem added_device_keys_fresh :
    let s := serverAfter BlockCipher.xorKey noWrap plainConfig
      [addSample, .request (joinRequest 1), addSample, .request (joinRequest 2)]
    s.used.map (·.rxNonce) = [2, 1] ∧ KeysFresh s.used := by
  have hadd : ∀ s, KeepsAnswered s addSample := fun s => by
    refine ⟨trivial, fun devEui hchange => ?_⟩
    rw [addSample, form_change (by decide) (by decide) rfl] at hchange
    cases hchange
  have hjoin : ∀ s n, KeepsAnswered s (.request (joinRequest n)) := fun s n =>
    ⟨rfl, fun devEui hchange => by cases hchange⟩
  have h := registered_keys_fresh BlockCipher.xorKey noWrap plainConfig
    [addSample, .request (joinRequest 1), addSample, .request (joinRequest 2)]
    ⟨hadd _, hjoin _ 1, hadd _, hjoin _ 2, trivial⟩
  exact ⟨by decide +kernel, h.1⟩

end Lorawan.JoinServer

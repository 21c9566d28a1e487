import Lorawan.JoinServer.Agreement
import Lorawan.JoinServer.Replay

/-!
# Rejoin requests at the join server (main.c:254-336, 484-544)

A rejoin request of type 0 or 2 is answered with an accept under the two join keys. One of type 1
is refused after its key was read, because an `else` is missing. What is neither a rejoin request
nor a join request gets no accept, and the tables stay.
-/

namespace Lorawan.JoinServer
open Lorawan Lorawan.Backend mtype_e

variable (A : BlockCipher) (W : KeyWrap) (cfg : Config)

/-! ### What is asked and what is answered -/

/-- RJcount1 or RJcount0, by the type. -/
def rejoinCount (rx : RxFrame) : ℕ :=
  Octets.toNat (if rx.byte 1 = 1 then rx.bytes 18 2 else rx.bytes 13 2)

/-- A rejoin request of type 1 names the device and the join server, and its MIC is made with
JSIntKey. -/
structure OwnRejoin (rx : RxFrame) (devEui64 : ℕ) (JSIntKey : Octets) : Prop where
  DevEUI : eui_buf_to_uint64 (rx.bytes 10 8) = devEui64
  JoinEUI : eui_buf_to_uint64 (rx.bytes 2 8) = cfg.myJoinEui64
  length : 4 ≤ rx.rxLen
  mic : rx.bytes (rx.rxLen - 4) 4 =
    LoRa_GenerateJoinFrameIntegrityCode A JSIntKey (rx.bytes 0 (rx.rxLen - 4))

/-- A rejoin request of type 0, 1 or 2 with a counter that the row does not have yet. -/
structure FreshRejoin (inJobj : JoinReqJson) (rx : RxFrame) (devEui64 : ℕ) (m : JoinMote)
    (JSIntKey : Octets) : Prop where
  rejoin : MType (rx.byte 0) = MTYPE_REJOIN_REQ
  type : rx.byte 1 = 0 ∨ rx.byte 1 = 1 ∨ rx.byte 1 = 2
  fresh : m.RJcount1_last.getD 0 < rejoinCount rx
  own : rx.byte 1 = 1 → OwnRejoin A cfg rx devEui64 JSIntKey
  DevAddr : inJobj.DevAddr.isSome
  DLSettings : inJobj.DLSettings.isSome
  RxDelay : inJobj.RxDelay.isSome
  CFList : ∀ v ∈ inJobj.CFList, v.get_string.length ≤ 32

/-- The row of a 1.1 device, whose counters can go up. -/
structure Known1v1 (t : Tables) (devEui64 : ℕ) (m : JoinMote) (JSIntKey JSEncKey : Octets) :
    Prop where
  row : t.row devEui64 = some m
  AppKey : m.AppKey.isSome
  JSIntKey : m.JSIntKey = some JSIntKey
  JSEncKey : m.JSEncKey = some JSEncKey
  joinNonce : m.joinNonce.isSome
  room : ∀ m' ∈ t.joinmotes, m'.eui = devEui64 → m'.outOfRange .RJcount1_last = false

/-- The server executes every statement, and its keys wrap a session key. -/
structure Serves (env : Env) : Prop where
  accepted : ∀ u, env.refused u = false
  joinEui : cfg.myJoinEui64 < 2 ^ 64
  nwk : ∀ key, key.length = 16 → (create_KeyEnvelope W key cfg.key_envelope_nwk).isSome
  app : ∀ key, key.length = 16 → (create_KeyEnvelope W key cfg.key_envelope_app).isSome

/-- The accept of a rejoin request: the MIC is made with JSIntKey, the frame is encrypted with
JSEncKey, and whoever has that key recovers an accept of whole blocks. -/
def UnderJoinKeys (env : Env) (JSIntKey JSEncKey : Octets) (type : UInt8) (JoinEUI RJcount0 : ℕ)
    (PHYPayload : List Char) : Prop :=
  ∃ header CFList mic, header.length = 13 ∧
    mic = LoRa_GenerateJoinFrameIntegrityCode A JSIntKey
      ([type] ++ uint64_to_eui_buf JoinEUI ++ Octets.ofNat 2 RJcount0 ++ (header ++ CFList)) ∧
    PHYPayload = Text.printOctets (acceptPHYPayload A env JSEncKey (header ++ CFList ++ mic)) ∧
    (CFList.length = 0 ∨ CFList.length = 16 →
      BlockCipher.ecb (A.encrypt JSEncKey) (((header ++ CFList ++ mic).length - 1) / 16)
        ((acceptPHYPayload A env JSEncKey (header ++ CFList ++ mic)).drop 1) =
        (header ++ CFList ++ mic).drop 1)

/-- The first two octets are those of no request. -/
def OtherFrame (rx : RxFrame) : Prop :=
  MType (rx.byte 0) ≠ MTYPE_REJOIN_REQ ∧ MType (rx.byte 0) ≠ MTYPE_JOIN_REQ ∨
    MType (rx.byte 0) = MTYPE_REJOIN_REQ ∧ 2 < rx.byte 1

/-! ### Step by step -/

variable {A W cfg} {network_id : ℕ} {env : Env} {inJobj : JoinReqJson} {t : Tables}
  {rx : RxFrame} {devEui64 : ℕ} {m : JoinMote} {JSIntKey JSEncKey : Octets}

/-- What the dispatch takes from a rejoin request of type 0 or 2. -/
def rejoin02 (cfg : Config) (rx : RxFrame) : Dispatch where
  MType := MTYPE_REJOIN_REQ
  JoinReqType := rx.byte 1
  rxNonce := Octets.toNat (rx.bytes 13 2)
  rfJoinEUI := uint64_to_eui_buf cfg.myJoinEui64
  MicKey := none

theorem FreshRejoin.type02 (h : FreshRejoin A cfg inJobj rx devEui64 m JSIntKey)
    (hone : rx.byte 1 ≠ 1) : rx.byte 1 = 0 ∨ rx.byte 1 = 2 :=
  h.type.imp_right fun h => h.resolve_left hone

theorem rejoinCount02 (hone : rx.byte 1 ≠ 1) : rejoinCount rx = Octets.toNat (rx.bytes 13 2) := by
  rw [rejoinCount, if_neg hone]

theorem dispatch_rejoin02 (hrejoin : MType (rx.byte 0) = MTYPE_REJOIN_REQ)
    (htype : rx.byte 1 = 0 ∨ rx.byte 1 = 2) :
    dispatch cfg.myJoinEui64 env t devEui64 rx = .ok (rejoin02 cfg rx) := by
  have hone : rx.byte 1 ≠ 1 := by
    rcases htype with h | h <;> rw [h] <;> decide
  unfold dispatch
  simp only [hrejoin, if_neg hone, if_pos htype]
  rfl

theorem receive_rejoin02 (hs : Serves W cfg env) (hrx : receivePHYPayload env inJobj = .ok rx)
    (heui : receiveDevEUI env inJobj = .ok devEui64)
    (hrejoin : MType (rx.byte 0) = MTYPE_REJOIN_REQ) (htype : rx.byte 1 = 0 ∨ rx.byte 1 = 2) :
    receive A cfg.myJoinEui64 env t inJobj = .ok (devEui64, rejoin02 cfg rx) := by
  have hjoin : eui_buf_to_uint64 (rejoin02 cfg rx).rfJoinEUI = cfg.myJoinEui64 :=
    eui_buf_roundtrip _ hs.joinEui
  unfold receive
  rw [hrx, heui]
  simp only [bind, Except.bind, dispatch_rejoin02 hrejoin htype, hjoin, ne_eq, not_true_eq_false, if_false]
  rfl

theorem get_key_found (hs : Serves W cfg env) (hrow : t.row devEui64 = some m) (u : Statement)
    (column : KeyColumn) {key : Octets} (hkey : m.key column = some key) :
    get_sql_joinmote_key_ t (env.refused u) column devEui64 = .found key := by
  simp only [get_sql_joinmote_key_, hs.accepted u, hrow, hkey, Bool.false_eq_true, if_false]

theorem admit_rejoin02 (hs : Serves W cfg env) (hm : Known1v1 t devEui64 m JSIntKey JSEncKey)
    (hnew : m.RJcount1_last.getD 0 < Octets.toNat (rx.bytes 13 2)) :
    ∃ t' AppKey n, admitNonce env t devEui64 (rejoin02 cfg rx) = (t', .ok ⟨true, AppKey, n⟩) ∧
      t'.row devEui64 = some (m.increment .RJcount1_last) := by
  obtain ⟨AppKey, hAppKey⟩ := Option.isSome_iff_exists.mp hm.AppKey
  obtain ⟨n, hn⟩ := Option.isSome_iff_exists.mp hm.joinNonce
  have hroom : ¬(false = true ∨ (t.joinmotes.any fun m' =>
      m'.eui = devEui64 && m'.outOfRange .RJcount1_last) = true) := by
    rintro (h | h)
    · cases h
    · obtain ⟨m', hm', hout⟩ := List.any_eq_true.mp h
      obtain ⟨heui, hout⟩ := Bool.and_eq_true_iff.mp hout
      rw [hm.room m' hm' (of_decide_eq_true heui)] at hout
      cases hout
  obtain ⟨t', hup⟩ : ∃ t', t.updateCounter false .RJcount1_last devEui64 = some t' :=
    ⟨_, if_neg hroom⟩
  refine ⟨t', AppKey, n, ?_, ?_⟩
  · have hfresh : ¬Octets.toNat (rx.bytes 13 2) ≤ m.RJcount1_last.getD 0 := by
      omega
    rw [admitNonce, get_key_found hs hm.row _ .AppKey hAppKey]
    simp only [admit1v1, hs.accepted, hm.row, hn, rejoin02, nonceColumn, JoinMote.counter, hup,
      if_neg hfresh, Bool.false_eq_true, if_false]
  · rw [updateCounter_row hup, hm.row, Option.map_some, if_pos (row_eui hm.row)]

theorem requireKey_of_row (hs : Serves W cfg env) (hrow : t.row devEui64 = some m)
    (column : KeyColumn) :
    requireKey env t column devEui64 = .ok ((m.key column).getD (env.junkKey column)) := by
  unfold requireKey
  cases hkey : m.key column with
  | none =>
    simp only [get_sql_joinmote_key_, hs.accepted, hrow, hkey, Bool.false_eq_true, if_false,
      Option.getD_none]
  | some key =>
    rw [get_key_found hs hrow _ _ hkey, Option.getD_some]

theorem requireHex_of_isSome (env : Env) {v : Option JsonValue} (h : v.isSome) :
    ∃ n, requireHex env v = .ok n := by
  obtain ⟨v, rfl⟩ := Option.isSome_iff_exists.mp h
  exact ⟨_, rfl⟩

theorem receiveCFList_of_short (env : Env) {v : Option JsonValue}
    (h : ∀ w ∈ v, w.get_string.length ≤ 32) : ∃ cfl, receiveCFList env v = .ok cfl := by
  cases v with
  | none => exact ⟨[], rfl⟩
  | some w => exact ⟨_, if_neg (not_lt.mpr (h w rfl))⟩

/-- The accept of a rejoin request before its encryption, and JSEncKey to encrypt it. -/
theorem buildAccept_rejoin02 (A : BlockCipher) (network_id : ℕ) (hs : Serves W cfg env)
    (hrow : t.row devEui64 = some m) (hint : m.JSIntKey = some JSIntKey)
    (henc : m.JSEncKey = some JSEncKey) {m₀ : JoinMote} {key : Octets}
    (h : FreshRejoin A cfg inJobj rx devEui64 m₀ key) (hone : rx.byte 1 ≠ 1) {a : Admission}
    (ha : a.OptNeg = true) (NwkKey : Octets) :
    ∃ header cfl, header.length = 13 ∧
      buildAccept A network_id env t devEui64 (rejoin02 cfg rx) a NwkKey inJobj =
        .ok (JSEncKey, header ++ cfl ++ LoRa_GenerateJoinFrameIntegrityCode A JSIntKey
          ([rx.byte 1] ++ uint64_to_eui_buf cfg.myJoinEui64 ++
            Octets.ofNat 2 (Octets.toNat (rx.bytes 13 2)) ++ (header ++ cfl))) := by
  obtain ⟨devAddr, hdevAddr⟩ := requireHex_of_isSome env h.DevAddr
  obtain ⟨DLsettings, hDLsettings⟩ := requireHex_of_isSome env h.DLSettings
  obtain ⟨rx_delay, hrx_delay⟩ := requireHex_of_isSome env h.RxDelay
  obtain ⟨cfl, hcfl⟩ := receiveCFList_of_short env h.CFList
  have hintKey := requireKey_of_row hs hrow .JSIntKey
  have hencKey := requireKey_of_row hs hrow .JSEncKey
  have htype : (rejoin02 cfg rx).JoinReqType ≠ 0xff := by
    show rx.byte 1 ≠ 0xff
    rcases h.type02 hone with h | h <;> rw [h] <;> decide
  simp only [JoinMote.key, hint, henc, Option.getD_some] at hintKey hencKey
  refine ⟨_, cfl, joinAccept_t_length a.joinNonce network_id devAddr
    (optNegDLSettings a.OptNeg DLsettings) (UInt8.ofNat rx_delay), ?_⟩
  simp only [buildAccept, hdevAddr, hDLsettings, hrx_delay, hcfl, hintKey, hencKey, ha, if_true,
    if_neg htype, bind, Except.bind, pure, Except.pure, acceptMic]
  rfl

theorem requireEnvelope_of_isSome {key : Octets} {ke : key_envelope_t}
    (h : (create_KeyEnvelope W key ke).isSome) : ∃ obj, requireEnvelope W key ke = .ok obj := by
  obtain ⟨obj, hobj⟩ := Option.isSome_iff_exists.mp h
  exact ⟨obj, by rw [requireEnvelope, hobj]⟩

theorem buildAnswer_rejoin02 (hs : Serves W cfg env) (network_id : ℕ) (rx : RxFrame)
    {a : Admission} (ha : a.OptNeg = true) (NwkKey : Octets) (lifetime : ℕ) (txBuf : Octets) :
    ∃ ans, buildAnswer A W cfg network_id (rejoin02 cfg rx) a NwkKey lifetime txBuf = .ok ans ∧
      ans.PHYPayload = Text.printOctets txBuf := by
  have hlen : ∀ type root, (GenerateSessionKey A true type root a.joinNonce
      (rejoin02 cfg rx).rfJoinEUI (rejoin02 cfg rx).rxNonce network_id).length = 16 :=
    fun type root => GenerateSessionKey_length A true type root _ _ _ _ (Octets.length_ofNat 8 _)
  obtain ⟨s, hs'⟩ := requireEnvelope_of_isSome (hs.nwk _ (hlen .keyType_SNwkSIntKey NwkKey))
  obtain ⟨f, hf⟩ := requireEnvelope_of_isSome (hs.nwk _ (hlen .keyType_FNwkSIntKey NwkKey))
  obtain ⟨n, hn⟩ := requireEnvelope_of_isSome (hs.nwk _ (hlen .keyType_NwkSEncKey NwkKey))
  obtain ⟨app, happ⟩ := requireEnvelope_of_isSome (hs.app _ (hlen .keyType_AppSKey a.AppKey))
  refine ⟨⟨Text.printOctets txBuf, some s, some f, some n, none, app, newInt lifetime⟩, ?_, rfl⟩
  simp only [buildAnswer, ha, if_true, hs', hf, hn, happ, bind, Except.bind, pure, Except.pure]

/-- A rejoin request of type 0 or 2 of a 1.1 device is answered. -/
theorem rejoin02_answered (hs : Serves W cfg env) (hrx : receivePHYPayload env inJobj = .ok rx)
    (heui : receiveDevEUI env inJobj = .ok devEui64)
    (hm : Known1v1 t devEui64 m JSIntKey JSEncKey)
    (h : FreshRejoin A cfg inJobj rx devEui64 m JSIntKey) (hone : rx.byte 1 ≠ 1) :
    ∃ t' ans, parse_rf_join_req A W cfg network_id env inJobj t = (t', .ok ans) ∧
      UnderJoinKeys A env JSIntKey JSEncKey (rx.byte 1) cfg.myJoinEui64 (rejoinCount rx)
        ans.PHYPayload := by
  have hnew := h.fresh
  rw [rejoinCount02 hone] at hnew ⊢
  obtain ⟨t', AppKey, n, hnonce, hrow⟩ := admit_rejoin02 hs hm hnew
  have hkeep := increment_key m .RJcount1_last
  obtain ⟨header, cfl, hheader, hbuild⟩ := buildAccept_rejoin02 A network_id hs hrow
    ((hkeep .JSIntKey).trans hm.JSIntKey) ((hkeep .JSEncKey).trans hm.JSEncKey) h hone
    (a := ⟨true, AppKey, n⟩) rfl (((m.increment .RJcount1_last).key .NwkKey).getD
      (env.junkKey .NwkKey))
  obtain ⟨ans, hanswer, hphy⟩ := buildAnswer_rejoin02 (A := A) hs network_id rx
    (a := ⟨true, AppKey, n⟩) rfl (((m.increment .RJcount1_last).key .NwkKey).getD
      (env.junkKey .NwkKey)) (m.increment .RJcount1_last).Lifetime
    (acceptPHYPayload A env JSEncKey (header ++ cfl ++
      LoRa_GenerateJoinFrameIntegrityCode A JSIntKey
        ([rx.byte 1] ++ uint64_to_eui_buf cfg.myJoinEui64 ++
          Octets.ofNat 2 (Octets.toNat (rx.bytes 13 2)) ++ (header ++ cfl))))
  have haccept : joinAccept A W cfg network_id env t' devEui64 (rejoin02 cfg rx)
      ⟨true, AppKey, n⟩ inJobj = .ok ans := by
    have hlifetime : readLifetime env t' devEui64 =
        .ok (m.increment .RJcount1_last).Lifetime := by
      simp only [readLifetime, hs.accepted, hrow, Bool.false_eq_true, if_false]
    simp only [joinAccept, requireKey_of_row hs hrow .NwkKey, hbuild, hlifetime, bind, Except.bind]
    exact hanswer
  refine ⟨t', ans, ?_, header, cfl, _, hheader, rfl, hphy, fun hcfl => ?_⟩
  · rw [parse_rf_join_req, receive_rejoin02 hs hrx heui h.rejoin (h.type02 hone)]
    simp only [hnonce, haccept]
  · refine (ecb_acceptPHYPayload A env JSEncKey _ ?_).2
    rw [List.length_append, List.length_append, hheader,
      LoRa_GenerateJoinFrameIntegrityCode_length]
    omega

theorem dispatch_other (myJoinEui64 : ℕ) (env : Env) (t : Tables) (devEui64 : ℕ)
    (h : OtherFrame rx) : dispatch myJoinEui64 env t devEui64 rx = .error (.result .Other) := by
  unfold dispatch
  rcases h with ⟨hrejoin, hjoin⟩ | ⟨hrejoin, htype⟩
  · cases hmt : MType (rx.byte 0) with
    | MTYPE_REJOIN_REQ => exact absurd hmt hrejoin
    | MTYPE_JOIN_REQ => exact absurd hmt hjoin
    | _ => rfl
  · have hne : ∀ k : UInt8, k ≤ 2 → rx.byte 1 ≠ k := by
      rintro k hk rfl
      exact absurd htype (UInt8.not_lt.mpr hk)
    have hnot : ¬(rx.byte 1 = 0 ∨ rx.byte 1 = 2) :=
      not_or.mpr ⟨hne 0 (by decide), hne 2 (by decide)⟩
    simp only [hrejoin, if_neg (hne 1 (by decide)), if_neg hnot]
    rfl

theorem other_refused (A : BlockCipher) (W : KeyWrap) (cfg : Config) (network_id : ℕ)
    (hrx : receivePHYPayload env inJobj = .ok rx) (t : Tables) (h : OtherFrame rx) :
    ∃ r, r ≠ Result.Success ∧
      parse_rf_join_req A W cfg network_id env inJobj t = (t, .error (.result r)) := by
  unfold parse_rf_join_req receive
  rw [hrx]
  cases hv : inJobj.DevEUI with
  | none =>
    refine ⟨.MalformedRequest, by decide, ?_⟩
    simp only [receiveDevEUI, hv, bind, Except.bind]
  | some v =>
    refine ⟨.Other, by decide, ?_⟩
    simp only [receiveDevEUI, hv, bind, Except.bind, dispatch_other _ _ _ _ h]

/-- The branch of type 1 goes on to the test for types 0 and 2. -/
theorem dispatch_type1 (myJoinEui64 : ℕ) (env : Env) (t : Tables) (devEui64 : ℕ)
    (hrejoin : MType (rx.byte 0) = MTYPE_REJOIN_REQ) (hone : rx.byte 1 = 1) :
    ∃ r, dispatch myJoinEui64 env t devEui64 rx = .error (.result r) := by
  have hnot : ¬(rx.byte 1 = 0 ∨ rx.byte 1 = 2) := by
    rw [hone]
    decide
  unfold dispatch
  simp only [hrejoin, if_pos hone, if_neg hnot]
  split
  · exact ⟨.Other, rfl⟩
  · split
    · exact ⟨.Other, rfl⟩
    · exact ⟨.UnknownDevEUI, rfl⟩

theorem type1_refused (A : BlockCipher) (W : KeyWrap) (cfg : Config) (network_id : ℕ)
    (hrx : receivePHYPayload env inJobj = .ok rx) (heui : receiveDevEUI env inJobj = .ok devEui64)
    (t : Tables) (hrejoin : MType (rx.byte 0) = MTYPE_REJOIN_REQ) (hone : rx.byte 1 = 1) :
    ∃ r, parse_rf_join_req A W cfg network_id env inJobj t = (t, .error (.result r)) := by
  obtain ⟨r, hr⟩ := dispatch_type1 cfg.myJoinEui64 env t devEui64 hrejoin hone
  refine ⟨r, ?_⟩
  unfold parse_rf_join_req receive
  simp only [hrx, heui, hr, bind, Except.bind]

/-- The request is answered with an accept under the join keys. -/
def AnsweredUnderJoinKeys (A : BlockCipher) (W : KeyWrap) (cfg : Config) (network_id : ℕ)
    (env : Env) (inJobj : JoinReqJson) (t : Tables) (rx : RxFrame) (JSIntKey JSEncKey : Octets) :
    Prop :=
  ∃ t' ans, parse_rf_join_req A W cfg network_id env inJobj t = (t', .ok ans) ∧
    UnderJoinKeys A env JSIntKey JSEncKey (rx.byte 1) cfg.myJoinEui64 (rejoinCount rx)
      ans.PHYPayload

/-- The message of a rejoin request of type 1 with RJcount1 1, its MIC made with JSIntKey. -/
def rejoin1Request : JoinReqJson :=
  let msg := [mhdr MTYPE_REJOIN_REQ, 1] ++ Octets.ofNat 8 1 ++ Octets.ofNat 8 2 ++ Octets.ofNat 2 1
  { (joinRequest 1).inJobj with
    PHYPayload := some (.string (Text.printOctets
      (msg ++ LoRa_GenerateJoinFrameIntegrityCode BlockCipher.xorKey (List.replicate 16 0x33) msg))) }

theorem mote1v1_known :
    Known1v1 ⟨[mote1v1], []⟩ 2 mote1v1 (List.replicate 16 0x33) (List.replicate 16 0x44) := by
  refine ⟨rfl, rfl, rfl, rfl, rfl, ?_⟩
  intro m hm _
  rw [List.mem_singleton.mp hm]
  rfl

theorem plain_serves : Serves noWrap plainConfig quietEnv :=
  ⟨fun _ => rfl, by decide, fun _ _ => rfl, fun _ _ => rfl⟩

/-- The key of the device is found, and the request is refused as one of an unknown type. -/
theorem rejoin1_lost :
    ∃ rx, receivePHYPayload quietEnv rejoin1Request = .ok rx ∧
      receiveDevEUI quietEnv rejoin1Request = .ok 2 ∧
      FreshRejoin BlockCipher.xorKey plainConfig rejoin1Request rx 2 mote1v1
        (List.replicate 16 0x33) ∧
      parse_rf_join_req BlockCipher.xorKey noWrap plainConfig 0x13 quietEnv rejoin1Request
        ⟨[mote1v1], []⟩ = (⟨[mote1v1], []⟩, .error (.result .Other)) ∧
      ¬(Serves noWrap plainConfig quietEnv →
        Known1v1 ⟨[mote1v1], []⟩ 2 mote1v1 (List.replicate 16 0x33) (List.replicate 16 0x44) →
        AnsweredUnderJoinKeys BlockCipher.xorKey noWrap plainConfig 0x13 quietEnv rejoin1Request
          ⟨[mote1v1], []⟩ rx (List.replicate 16 0x33) (List.replicate 16 0x44)) := by
  have hparse : parse_rf_join_req BlockCipher.xorKey noWrap plainConfig 0x13 quietEnv
      rejoin1Request ⟨[mote1v1], []⟩ = (⟨[mote1v1], []⟩, .error (.result .Other)) := by
    decide +kernel
  refine ⟨_, rfl, by decide +kernel, ⟨by decide +kernel, Or.inr (Or.inl (by decide +kernel)),
    by decide +kernel, fun _ => ⟨by decide +kernel, by decide +kernel, by decide +kernel,
      by decide +kernel⟩, rfl, rfl, rfl, ?_⟩, hparse, ?_⟩
  · intro v hv
    cases hv
  · intro h
    obtain ⟨t', ans, hans, -⟩ := h plain_serves mote1v1_known
    rw [hparse] at hans
    cases hans

/-- A rejoin request in order is answered under the join keys exactly when it is not of type 1, and
frames of other kinds are refused before a nonce is counted. -/
theorem rejoin_dispatch_iff (A : BlockCipher) (W : KeyWrap) (cfg : Config) (network_id : ℕ)
    (env : Env) (inJobj : JoinReqJson) (t : Tables) (rx : RxFrame)
    (hrx : receivePHYPayload env inJobj = .ok rx) :
    (∀ devEui64 m JSIntKey JSEncKey, Serves W cfg env → receiveDevEUI env inJobj = .ok devEui64 →
      Known1v1 t devEui64 m JSIntKey JSEncKey →
      FreshRejoin A cfg inJobj rx devEui64 m JSIntKey →
      (AnsweredUnderJoinKeys A W cfg network_id env inJobj t rx JSIntKey JSEncKey ↔
        rx.byte 1 ≠ 1)) ∧
    (OtherFrame rx → ∃ r, r ≠ Result.Success ∧
      parse_rf_join_req A W cfg network_id env inJobj t = (t, .error (.result r))) := by
  refine ⟨fun devEui64 m JSIntKey JSEncKey hs heui hm h => ⟨?_, ?_⟩,
    fun h => other_refused A W cfg network_id hrx t h⟩
  · rintro ⟨t', ans, hans, -⟩ hone
    obtain ⟨r, hr⟩ := type1_refused A W cfg network_id hrx heui t h.rejoin hone
    rw [hr] at hans
    cases hans
  · exact fun hone => rejoin02_answered hs hrx heui hm h hone

/-- The message of a rejoin request of type 0 with RJcount0 1. -/
def rejoinRequest : JoinReqJson :=
  { (joinRequest 1).inJobj with
    PHYPayload := some (.string (Text.printOctets
      ([mhdr MTYPE_REJOIN_REQ, 0] ++ Octets.ofNat 3 0x13 ++ Octets.ofNat 8 2 ++ Octets.ofNat 2 1 ++
        Octets.ofNat 4 0))) }

theorem rejoinRequest_answered :
    ∃ t' ans, parse_rf_join_req BlockCipher.xorKey noWrap plainConfig 0x13 quietEnv rejoinRequest
        ⟨[mote1v1], []⟩ = (t', .ok ans) ∧
      UnderJoinKeys BlockCipher.xorKey quietEnv (List.replicate 16 0x33) (List.replicate 16 0x44)
        0 1 1 ans.PHYPayload := by
  refine ((rejoin_dispatch_iff BlockCipher.xorKey noWrap plainConfig 0x13 quietEnv rejoinRequest
    ⟨[mote1v1], []⟩ _ rfl).1 2 mote1v1 _ _ plain_serves (by decide +kernel) mote1v1_known
    ⟨by decide +kernel, Or.inl (by decide +kernel), by decide +kernel, fun hone => ?_, rfl, rfl, rfl,
      ?_⟩).mpr (by decide +kernel)
  · exact absurd hone (by decide +kernel)
  · intro v hv
    cases hv

end Lorawan.JoinServer

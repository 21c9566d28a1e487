import Lorawan.Backend.KeyEnvelope
import Lorawan.JoinServer.Request

/-!
# The join accept and the answer (join_server/main.c:129-195, 421-637)

`joinAccept` packs the accept, appends its MIC, decrypts it block by block and
derives the session keys; `parse_rf_join_req` is the whole handler.
-/

namespace Lorawan.JoinServer
open Lorawan Lorawan.Backend mtype_e

variable (A : BlockCipher) (W : KeyWrap)

/-! ### Session keys (main.c:137-168) -/

inductive keyType_e
  | keyType_FNwkSIntKey
  | keyType_SNwkSIntKey
  | keyType_NwkSEncKey
  | keyType_AppSKey
deriving DecidableEq

def keyType_e.octet : keyType_e → UInt8
  | .keyType_FNwkSIntKey => 0x01
  | .keyType_SNwkSIntKey => 0x03
  | .keyType_NwkSEncKey => 0x04
  | .keyType_AppSKey => 0x02

def sessionKeyInput (OptNeg : Bool) (key_type : keyType_e) (joinNonce : ℕ) (rxJoinEUI : Octets)
    (rxDevNonce network_id : ℕ) : Octets :=
  let input := [key_type.octet] ++ Octets.ofNat 3 joinNonce ++
    (if OptNeg then rxJoinEUI else Octets.ofNat 3 network_id) ++ Octets.ofNat 2 rxDevNonce
  input ++ List.replicate (16 - input.length) 0

def GenerateSessionKey (OptNeg : Bool) (key_type : keyType_e) (root_key : Octets) (joinNonce : ℕ)
    (rxJoinEUI : Octets) (rxDevNonce network_id : ℕ) : Octets :=
  A.encrypt root_key (sessionKeyInput OptNeg key_type joinNonce rxJoinEUI rxDevNonce network_id)

/-! ### Encryption of the accept (main.c:170-183) -/

/-- `input` is the memory from the first encrypted octet on. The second block is
made whenever `length` reaches 16, so also when the accept ends with the first. -/
def CryptJoinServer (key input : Octets) (length : ℕ) : Octets :=
  A.decrypt key (input.take 16) ++
    (if 16 ≤ length then A.decrypt key ((input.drop 16).take 16) else [])

/-! ### The accept (main.c:421-540) -/

/-- `joinAccept_t`: thirteen octets. -/
def joinAccept_t (joinNonce Home_NetID DevAddr : ℕ) (DLSettings RxDelay : UInt8) : Octets :=
  [mhdr MTYPE_JOIN_ACC] ++ Octets.ofNat 3 joinNonce ++ Octets.ofNat 3 Home_NetID ++
    Octets.ofNat 4 DevAddr ++ [DLSettings, RxDelay]

/-- `DLsettings |= 0x80` for 1.1, `&= ~0x80` for 1.0. -/
def optNegDLSettings (OptNeg : Bool) (DLsettings : ℕ) : UInt8 :=
  if OptNeg then UInt8.ofNat DLsettings ||| 0x80 else UInt8.ofNat DLsettings &&& 0x7f

/-- A key column that must be readable; a `NULL` leaves the buffer as it was. -/
def requireKey (env : Env) (t : Tables) (column : KeyColumn) (devEui64 : ℕ) : Except Stop Octets :=
  match get_sql_joinmote_key_ t (env.refused (.selectKey column)) column devEui64 with
  | .failed => .error (.result .JoinReqFailed)
  | .found key => .ok key
  | .null => .ok (env.junkKey column)

/-- `sscanf(str, "%x", &v)` of a mandatory member. -/
def requireHex (env : Env) : Option JsonValue → Except Stop ℕ
  | none => .error (.result .MalformedRequest)
  | some v => .ok ((Text.scan 16 32 v.get_string).getD env.junkNumber)

def receiveCFList (env : Env) : Option JsonValue → Except Stop Octets
  | none => .ok []
  | some v =>
    if 32 < v.get_string.length then .error (.result .FrameSizeError)
    else .ok (Text.scanOctets env.junkByte v.get_string)

/-- What the MIC of the accept is computed over, and under which key. -/
def acceptMic (OptNeg : Bool) (JSIntKey NwkKey : Octets) (d : Dispatch) (uncyphered : Octets) :
    Octets :=
  if OptNeg then
    LoRa_GenerateJoinFrameIntegrityCode A JSIntKey
      ([d.JoinReqType] ++ d.rfJoinEUI ++ Octets.ofNat 2 d.rxNonce ++ uncyphered)
  else LoRa_GenerateJoinFrameIntegrityCode A NwkKey uncyphered

/-- `txBuf`, as many octets as the accept has; past its end the memory is `env.stack`. -/
def acceptPHYPayload (env : Env) (key uncyphered : Octets) : Octets :=
  let memory := uncyphered.drop 1 ++ (List.range 16).map env.stack
  (mhdr MTYPE_JOIN_ACC :: CryptJoinServer A key memory (uncyphered.length - 1)).take
    uncyphered.length

structure Config where
  myJoinEui64 : ℕ
  key_envelope_app : key_envelope_t
  key_envelope_nwk : key_envelope_t

/-- The members of a successful `JoinAns`. -/
structure JoinAnsJson where
  PHYPayload : List Char
  SNwkSIntKey : Option KeyEnvelopeJson
  FNwkSIntKey : Option KeyEnvelopeJson
  NwkSEncKey : Option KeyEnvelopeJson
  NwkSKey : Option KeyEnvelopeJson
  AppSKey : KeyEnvelopeJson
  Lifetime : Int32
deriving DecidableEq

/-- `json_object_new_int` of an `unsigned`. -/
def newInt (n : ℕ) : Int32 := (UInt32.ofNat n).toInt32

def requireEnvelope (key_bin : Octets) (ke : key_envelope_t) : Except Stop KeyEnvelopeJson :=
  match create_KeyEnvelope W key_bin ke with
  | none => .error (.result .JoinReqFailed)
  | some obj => .ok obj

def readLifetime (env : Env) (t : Tables) (devEui64 : ℕ) : Except Stop ℕ :=
  if env.refused .selectLifetime then .error (.result .JoinReqFailed)
  else
    match t.row devEui64 with
    | none => .ok env.junkNumber
    | some m => .ok m.Lifetime

/-- The frame part: the accept before encryption and the key that encrypts it. -/
def buildAccept (network_id : ℕ) (env : Env) (t : Tables) (devEui64 : ℕ) (d : Dispatch)
    (a : Admission) (NwkKey : Octets) (inJobj : JoinReqJson) : Except Stop (Octets × Octets) := do
  let devAddr ← requireHex env inJobj.DevAddr
  let DLsettings ← requireHex env inJobj.DLSettings
  let rx_delay ← requireHex env inJobj.RxDelay
  let cfl ← receiveCFList env inJobj.CFList
  let uncyphered := joinAccept_t a.joinNonce network_id devAddr
    (optNegDLSettings a.OptNeg DLsettings) (UInt8.ofNat rx_delay) ++ cfl
  if a.OptNeg then
    let JSIntKey ← requireKey env t .JSIntKey devEui64
    let frame := uncyphered ++ acceptMic A true JSIntKey NwkKey d uncyphered
    if d.JoinReqType = 0xff then pure (NwkKey, frame)
    else
      let JSEncKey ← requireKey env t .JSEncKey devEui64
      pure (JSEncKey, frame)
  else pure (NwkKey, uncyphered ++ acceptMic A false [] NwkKey d uncyphered)

/-- The JSON part (main.c:561-632). -/
def buildAnswer (cfg : Config) (network_id : ℕ) (d : Dispatch) (a : Admission) (NwkKey : Octets)
    (lifetime : ℕ) (txBuf : Octets) : Except Stop JoinAnsJson := do
  let key OptNeg key_type root :=
    GenerateSessionKey A OptNeg key_type root a.joinNonce d.rfJoinEUI d.rxNonce network_id
  let FNwkSIntKey_bin := key a.OptNeg .keyType_FNwkSIntKey NwkKey
  if a.OptNeg then
    let s ← requireEnvelope W (key true .keyType_SNwkSIntKey NwkKey) cfg.key_envelope_nwk
    let f ← requireEnvelope W FNwkSIntKey_bin cfg.key_envelope_nwk
    let n ← requireEnvelope W (key true .keyType_NwkSEncKey NwkKey) cfg.key_envelope_nwk
    let app ← requireEnvelope W (key true .keyType_AppSKey a.AppKey) cfg.key_envelope_app
    pure ⟨Text.printOctets txBuf, some s, some f, some n, none, app, newInt lifetime⟩
  else
    let f ← requireEnvelope W FNwkSIntKey_bin cfg.key_envelope_nwk
    let app ← requireEnvelope W (key false .keyType_AppSKey NwkKey) cfg.key_envelope_app
    pure ⟨Text.printOctets txBuf, none, none, none, some f, app, newInt lifetime⟩

def joinAccept (cfg : Config) (network_id : ℕ) (env : Env) (t : Tables) (devEui64 : ℕ)
    (d : Dispatch) (a : Admission) (inJobj : JoinReqJson) : Except Stop JoinAnsJson := do
  let NwkKey ← requireKey env t .NwkKey devEui64
  let (key, uncyphered) ← buildAccept A network_id env t devEui64 d a NwkKey inJobj
  let lifetime ← readLifetime env t devEui64
  buildAnswer A W cfg network_id d a NwkKey lifetime (acceptPHYPayload A env key uncyphered)

/-- `parse_rf_join_req`: the tables after the request, and the answer or why there is none. -/
def parse_rf_join_req (cfg : Config) (network_id : ℕ) (env : Env) (inJobj : JoinReqJson)
    (t : Tables) : Tables × Except Stop JoinAnsJson :=
  match receive A cfg.myJoinEui64 env t inJobj with
  | .error s => (t, .error s)
  | .ok (devEui64, d) =>
    match admitNonce env t devEui64 d with
    | (t', .error s) => (t', .error s)
    | (t', .ok a) => (t', joinAccept A W cfg network_id env t' devEui64 d a inJobj)

/-! ### What a successful answer consists of -/

theorem bind_ok {ε α β : Type} {x : Except ε α} {f : α → Except ε β} {b : β} :
    (x >>= f) = .ok b ↔ ∃ a, x = .ok a ∧ f a = .ok b := by
  cases x with
  | error e => simp [bind, Except.bind]
  | ok a => simp [bind, Except.bind]

theorem requireKey_ok {env : Env} {t : Tables} {column : KeyColumn} {devEui64 : ℕ}
    {m : JoinMote} {k key : Octets} (h : requireKey env t column devEui64 = .ok k)
    (hrow : t.row devEui64 = some m) (hkey : m.key column = some key) : k = key := by
  unfold requireKey at h
  cases hread : get_sql_joinmote_key_ t (env.refused (.selectKey column)) column devEui64 with
  | failed => simp [hread] at h
  | found key' =>
    obtain ⟨-, m', hrow', hkey'⟩ := key_found hread
    obtain rfl := Option.some.inj (hrow.symm.trans hrow')
    simp only [hread, Except.ok.injEq] at h
    rw [← h]
    exact Option.some.inj (hkey'.symm.trans hkey)
  | null =>
    obtain ⟨-, m', hrow', hkey'⟩ := key_null hread
    obtain rfl := Option.some.inj (hrow.symm.trans hrow')
    exact absurd (hkey'.symm.trans hkey) (by simp)

/-- The authenticated part of an accept: header and CFList. -/
theorem buildAccept_ok {network_id : ℕ} {env : Env} {t : Tables} {devEui64 : ℕ} {d : Dispatch}
    {a : Admission} {NwkKey : Octets} {inJobj : JoinReqJson} {key frame : Octets}
    (h : buildAccept A network_id env t devEui64 d a NwkKey inJobj = .ok (key, frame)) :
    ∃ devAddr DLsettings rx_delay cfl u,
      requireHex env inJobj.DevAddr = .ok devAddr ∧
      requireHex env inJobj.DLSettings = .ok DLsettings ∧
      requireHex env inJobj.RxDelay = .ok rx_delay ∧
      receiveCFList env inJobj.CFList = .ok cfl ∧
      u = joinAccept_t a.joinNonce network_id devAddr (optNegDLSettings a.OptNeg DLsettings)
        (UInt8.ofNat rx_delay) ++ cfl ∧
      ((a.OptNeg = true ∧ ∃ JSIntKey, requireKey env t .JSIntKey devEui64 = .ok JSIntKey ∧
          frame = u ++ acceptMic A true JSIntKey NwkKey d u ∧
          ((d.JoinReqType = 0xff ∧ key = NwkKey) ∨
            (d.JoinReqType ≠ 0xff ∧ requireKey env t .JSEncKey devEui64 = .ok key))) ∨
        (a.OptNeg = false ∧ key = NwkKey ∧ frame = u ++ acceptMic A false [] NwkKey d u)) := by
  simp only [buildAccept, bind_ok] at h
  obtain ⟨devAddr, haddr, DLsettings, hdl, rx_delay, hrx, cfl, hcfl, h⟩ := h
  refine ⟨devAddr, DLsettings, rx_delay, cfl, _, haddr, hdl, hrx, hcfl, rfl, ?_⟩
  cases hopt : a.OptNeg with
  | false =>
    right
    simp only [hopt, Bool.false_eq_true, if_false, pure, Except.pure, Except.ok.injEq,
      Prod.mk.injEq] at h
    exact ⟨rfl, h.1.symm, h.2.symm⟩
  | true =>
    left
    simp only [hopt, if_true, bind_ok] at h
    obtain ⟨JSIntKey, hint, h⟩ := h
    by_cases htype : d.JoinReqType = 0xff
    · simp only [htype, if_true, pure, Except.pure, Except.ok.injEq, Prod.mk.injEq] at h
      exact ⟨rfl, JSIntKey, hint, h.2.symm, Or.inl ⟨htype, h.1.symm⟩⟩
    · simp only [htype, if_false, bind_ok, pure, Except.pure, Except.ok.injEq,
        Prod.mk.injEq] at h
      obtain ⟨JSEncKey, henc, hk, hf⟩ := h
      exact ⟨rfl, JSIntKey, hint, hf.symm, Or.inr ⟨htype, by rw [← hk]; exact henc⟩⟩

theorem joinAccept_ok {cfg : Config} {network_id : ℕ} {env : Env} {t : Tables} {devEui64 : ℕ}
    {d : Dispatch} {a : Admission} {inJobj : JoinReqJson} {ans : JoinAnsJson}
    (h : joinAccept A W cfg network_id env t devEui64 d a inJobj = .ok ans) :
    ∃ NwkKey key frame lifetime, requireKey env t .NwkKey devEui64 = .ok NwkKey ∧
      buildAccept A network_id env t devEui64 d a NwkKey inJobj = .ok (key, frame) ∧
      buildAnswer A W cfg network_id d a NwkKey lifetime (acceptPHYPayload A env key frame) =
        .ok ans := by
  simp only [joinAccept, bind_ok] at h
  obtain ⟨NwkKey, hkey, ⟨key, frame⟩, haccept, lifetime, -, h⟩ := h
  exact ⟨NwkKey, key, frame, lifetime, hkey, haccept, h⟩

theorem requireEnvelope_ok {key_bin : Octets} {ke : key_envelope_t} {obj : KeyEnvelopeJson}
    (h : requireEnvelope W key_bin ke = .ok obj) : create_KeyEnvelope W key_bin ke = some obj := by
  unfold requireEnvelope at h
  cases hobj : create_KeyEnvelope W key_bin ke with
  | none => simp [hobj] at h
  | some o =>
    simp only [hobj, Except.ok.injEq] at h
    rw [h]

/-- The members of the answer, with the key that each envelope was made of. -/
theorem buildAnswer_ok {cfg : Config} {network_id : ℕ} {d : Dispatch} {a : Admission}
    {NwkKey : Octets} {lifetime : ℕ} {txBuf : Octets} {ans : JoinAnsJson}
    (h : buildAnswer A W cfg network_id d a NwkKey lifetime txBuf = .ok ans) :
    ans.PHYPayload = Text.printOctets txBuf ∧
    (a.OptNeg = true → ∃ s f n, ans.SNwkSIntKey = some s ∧ ans.FNwkSIntKey = some f ∧
      ans.NwkSEncKey = some n ∧
      create_KeyEnvelope W (GenerateSessionKey A true .keyType_SNwkSIntKey NwkKey a.joinNonce
        d.rfJoinEUI d.rxNonce network_id) cfg.key_envelope_nwk = some s ∧
      create_KeyEnvelope W (GenerateSessionKey A true .keyType_FNwkSIntKey NwkKey a.joinNonce
        d.rfJoinEUI d.rxNonce network_id) cfg.key_envelope_nwk = some f ∧
      create_KeyEnvelope W (GenerateSessionKey A true .keyType_NwkSEncKey NwkKey a.joinNonce
        d.rfJoinEUI d.rxNonce network_id) cfg.key_envelope_nwk = some n ∧
      create_KeyEnvelope W (GenerateSessionKey A true .keyType_AppSKey a.AppKey a.joinNonce
        d.rfJoinEUI d.rxNonce network_id) cfg.key_envelope_app = some ans.AppSKey) ∧
    (a.OptNeg = false → ∃ f, ans.NwkSKey = some f ∧
      create_KeyEnvelope W (GenerateSessionKey A false .keyType_FNwkSIntKey NwkKey a.joinNonce
        d.rfJoinEUI d.rxNonce network_id) cfg.key_envelope_nwk = some f ∧
      create_KeyEnvelope W (GenerateSessionKey A false .keyType_AppSKey NwkKey a.joinNonce
        d.rfJoinEUI d.rxNonce network_id) cfg.key_envelope_app = some ans.AppSKey) := by
  unfold buildAnswer at h
  cases hopt : a.OptNeg with
  | false =>
    simp only [hopt, Bool.false_eq_true, if_false, bind_ok, pure, Except.pure,
      Except.ok.injEq] at h
    obtain ⟨f, hf, app, happ, rfl⟩ := h
    exact ⟨rfl, fun hc => absurd hc (by simp),
      fun _ => ⟨f, rfl, requireEnvelope_ok W hf, requireEnvelope_ok W happ⟩⟩
  | true =>
    simp only [hopt, if_true, bind_ok, pure, Except.pure, Except.ok.injEq] at h
    obtain ⟨s, hs, f, hf, n, hn, app, happ, rfl⟩ := h
    exact ⟨rfl, fun _ => ⟨s, f, n, rfl, rfl, rfl, requireEnvelope_ok W hs,
      requireEnvelope_ok W hf, requireEnvelope_ok W hn, requireEnvelope_ok W happ⟩,
      fun hc => absurd hc (by simp)⟩

/-- A successful answer comes from an admitted request. -/
theorem parse_rf_join_req_ok {cfg : Config} {network_id : ℕ} {env : Env} {inJobj : JoinReqJson}
    {t t' : Tables} {ans : JoinAnsJson}
    (h : parse_rf_join_req A W cfg network_id env inJobj t = (t', .ok ans)) :
    ∃ devEui64 d a, receive A cfg.myJoinEui64 env t inJobj = .ok (devEui64, d) ∧
      admitNonce env t devEui64 d = (t', .ok a) ∧
      joinAccept A W cfg network_id env t' devEui64 d a inJobj = .ok ans := by
  unfold parse_rf_join_req at h
  cases hrx : receive A cfg.myJoinEui64 env t inJobj with
  | error s => simp [hrx] at h
  | ok p =>
    obtain ⟨devEui64, d⟩ := p
    simp only [hrx] at h
    rcases hadm : admitNonce env t devEui64 d with ⟨u, s | a⟩
    · simp [hadm] at h
    · simp only [hadm, Prod.mk.injEq] at h
      obtain ⟨rfl, hans⟩ := h
      exact ⟨devEui64, d, a, rfl, hadm, hans⟩

theorem parse_rf_join_req_tables (cfg : Config) (network_id : ℕ) (env : Env) (inJobj : JoinReqJson)
    (t : Tables) :
    (parse_rf_join_req A W cfg network_id env inJobj t).1 = t ∨
    ∃ devEui64 d a, receive A cfg.myJoinEui64 env t inJobj = .ok (devEui64, d) ∧
      admitNonce env t devEui64 d = ((parse_rf_join_req A W cfg network_id env inJobj t).1, .ok a) := by
  unfold parse_rf_join_req
  cases hrx : receive A cfg.myJoinEui64 env t inJobj with
  | error s => exact Or.inl rfl
  | ok p =>
    obtain ⟨devEui64, d⟩ := p
    rcases hadm : admitNonce env t devEui64 d with ⟨u, s | a⟩
    · left
      simp only [hadm]
      exact admit_error hadm
    · right
      exact ⟨devEui64, d, a, rfl, by simp only [hadm]⟩

/-! ### A join server that keeps its keys in the clear -/

def plainConfig : Config := ⟨1, ⟨none, []⟩, ⟨none, []⟩⟩

/-- Every statement is accepted, and uninitialised memory is zero. -/
def quietEnv : Env := ⟨fun _ => false, fun _ => 0, 0, 0, fun _ => [], 0⟩

end Lorawan.JoinServer

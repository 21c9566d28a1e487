import Lorawan.Backend.Crypto
import Lorawan.JoinServer.Tables

/-!
# A join or rejoin request up to its counter (join_server/main.c:197-419)

`parse_rf_join_req` first unpacks the PHYPayload, tells the request types apart
and checks the MIC of a join request (`receive`); then it compares and counts
the request's counter (`admitNonce`). Only the second part changes the tables.
-/

namespace Lorawan.JoinServer
open Lorawan Lorawan.Backend mtype_e

/-- Why `parse_rf_join_req` ends without a join accept. -/
inductive Stop
  | result (r : Result)
  /-- The code reads outside `rxBuf` or through a null pointer: nothing is promised. -/
  | undefined
deriving DecidableEq, Repr

/-- What the request's handling finds outside the request and the tables: which
statements the SQL server refuses, what uninitialised variables hold, `rand()`. -/
structure Env where
  refused : Statement → Bool
  stack : ℕ → UInt8
  junkByte : UInt8
  junkNumber : ℕ
  junkKey : KeyColumn → Octets
  rand : ℕ

/-- The members of a `JoinReq` or `RejoinReq` that the join server reads. -/
structure JoinReqJson where
  PHYPayload : Option JsonValue
  DevEUI : Option JsonValue
  DevAddr : Option JsonValue
  DLSettings : Option JsonValue
  RxDelay : Option JsonValue
  CFList : Option JsonValue
deriving DecidableEq

/-! ### The received frame (main.c:227-243) -/

/-- `rxBuf[256]` after the hex text was stored into it, and `rxLen`. -/
structure RxFrame where
  octets : Octets
  stack : ℕ → UInt8
  rxLen : ℕ

def RxFrame.byte (rx : RxFrame) (i : ℕ) : UInt8 := rx.octets.getD i (rx.stack i)

def RxFrame.bytes (rx : RxFrame) (at_ n : ℕ) : Octets :=
  (List.range n).map fun i => rx.byte (at_ + i)

def receivePHYPayload (env : Env) (inJobj : JoinReqJson) : Except Stop RxFrame :=
  match inJobj.PHYPayload with
  | none => .error (.result .MalformedRequest)
  | some v =>
    let phyStr := v.get_string
    if 256 < phyStr.length then .error (.result .FrameSizeError)
    else .ok ⟨Text.scanOctets env.junkByte phyStr, env.stack, phyStr.length / 2⟩

/-- `sscanf(str, "%"PRIx64, &devEui64)`. -/
def receiveDevEUI (env : Env) (inJobj : JoinReqJson) : Except Stop ℕ :=
  match inJobj.DevEUI with
  | none => .error (.result .MalformedRequest)
  | some v => .ok ((Text.scan 16 64 v.get_string).getD env.junkNumber)

/-! ### Request types (main.c:252-302) -/

/-- What the dispatch on the MType leaves in the local variables. -/
structure Dispatch where
  MType : mtype_e
  JoinReqType : UInt8
  rxNonce : ℕ
  rfJoinEUI : Octets
  MicKey : Option Octets
deriving DecidableEq

/-- `rejoin02_req_t`: RJcount0 at octet 13. `rejoin1_req_t`: DevEUI at octet 10.
`join_req_t`: JoinEUI at octet 1, DevEUI at octet 9, DevNonce at octet 17. -/
def dispatch (myJoinEui64 : ℕ) (env : Env) (t : Tables) (devEui64 : ℕ) (rx : RxFrame) :
    Except Stop Dispatch := do
  match MType (rx.byte 0) with
  | MTYPE_REJOIN_REQ =>
    let type := rx.byte 1
    if type = 1 then
      if devEui64 ≠ eui_buf_to_uint64 (rx.bytes 10 8) then
        throw (.result .Other)
      match get_sql_joinmote_key_ t (env.refused (.selectMicKey .JSIntKey)) .JSIntKey devEui64 with
      | .found _ => pure ()
      | _ => throw (.result .UnknownDevEUI)
    -- the source has `} if` here, not `} else if`: type 1 goes on to this test
    if type = 0 ∨ type = 2 then
      pure {
        MType := MTYPE_REJOIN_REQ
        JoinReqType := type
        rxNonce := Octets.toNat (rx.bytes 13 2)
        rfJoinEUI := uint64_to_eui_buf myJoinEui64
        MicKey := none }
    else throw (.result .Other)
  | MTYPE_JOIN_REQ =>
    if devEui64 ≠ eui_buf_to_uint64 (rx.bytes 9 8) then
      throw (.result .Other)
    match get_sql_joinmote_key_ t (env.refused (.selectMicKey .NwkKey)) .NwkKey devEui64 with
    | .found key =>
      pure {
        MType := MTYPE_JOIN_REQ
        JoinReqType := 0xff
        rxNonce := Octets.toNat (rx.bytes 17 2)
        rfJoinEUI := rx.bytes 1 8
        MicKey := some key }
    | _ => throw (.result .UnknownDevEUI)
  | _ => throw (.result .Other)

/-! ### JoinEUI and MIC (main.c:315-337) -/

def checkMic (A : BlockCipher) (rx : RxFrame) : Option Octets → Except Stop Unit
  | none => pure ()
  | some MicKey =>
    if rx.rxLen < 4 then throw .undefined
    else if rx.bytes (rx.rxLen - 4) 4 ≠
        LoRa_GenerateJoinFrameIntegrityCode A MicKey (rx.bytes 0 (rx.rxLen - 4)) then
      throw (.result .MICFailed)
    else pure ()

/-- The request up to its counter: the device, the dispatch, and nothing written yet. -/
def receive (A : BlockCipher) (myJoinEui64 : ℕ) (env : Env) (t : Tables) (inJobj : JoinReqJson) :
    Except Stop (ℕ × Dispatch) := do
  let rx ← receivePHYPayload env inJobj
  let devEui64 ← receiveDevEUI env inJobj
  let d ← dispatch myJoinEui64 env t devEui64 rx
  if eui_buf_to_uint64 d.rfJoinEUI ≠ myJoinEui64 then throw (.result .Other)
  checkMic A rx d.MicKey
  pure (devEui64, d)

/-! ### The counter (main.c:338-419) -/

/-- What the counter part decides for the join accept. -/
structure Admission where
  OptNeg : Bool
  AppKey : Octets
  joinNonce : ℕ
deriving DecidableEq

def nonceColumn : mtype_e → CounterColumn
  | MTYPE_REJOIN_REQ => .RJcount1_last
  | _ => .DevNonce_last

/-- The LoRaWAN 1.1 branch (main.c:346-397). -/
def admit1v1 (env : Env) (t : Tables) (devEui64 : ℕ) (d : Dispatch) (AppKey : Octets) :
    Tables × Except Stop Admission :=
  if env.refused .selectCounter then (t, .error (.result .JoinReqFailed))
  else
    match t.row devEui64 with
    | none => (t, .error (.result .JoinReqFailed))
    | some m =>
      match m.joinNonce with
      | none => (t, .error .undefined)
      | some n =>
        let nonce_last := (m.counter (nonceColumn d.MType)).getD 0
        if d.rxNonce ≤ nonce_last then (t, .error (.result .ActivationDisallowed))
        else
          match t.updateCounter (env.refused .updateCounter) (nonceColumn d.MType) devEui64 with
          | none => (t, .error (.result .JoinReqFailed))
          | some t' => (t', .ok ⟨true, AppKey, n⟩)

/-- The LoRaWAN 1.0 branch (main.c:398-419). A refused `INSERT` is only printed. -/
def admit1v0 (env : Env) (t : Tables) (devEui64 : ℕ) (d : Dispatch) :
    Tables × Except Stop Admission :=
  if check_nonce t (env.refused .selectNonce) devEui64 d.rxNonce then
    (t, .error (.result .ActivationDisallowed))
  else
    (t.insertNonce (env.refused .insertNonce) devEui64 d.rxNonce,
      .ok ⟨false, env.junkKey .AppKey, env.rand % 2 ^ 24⟩)

def admitNonce (env : Env) (t : Tables) (devEui64 : ℕ) (d : Dispatch) :
    Tables × Except Stop Admission :=
  match get_sql_joinmote_key_ t (env.refused (.selectKey .AppKey)) .AppKey devEui64 with
  | .failed => (t, .error (.result .JoinReqFailed))
  | .found AppKey => admit1v1 env t devEui64 d AppKey
  | .null => admit1v0 env t devEui64 d

/-! ### What passes -/

theorem receivePHYPayload_ok {env : Env} {inJobj : JoinReqJson} {rx : RxFrame}
    (h : receivePHYPayload env inJobj = .ok rx) :
    ∃ v, inJobj.PHYPayload = some v ∧
      rx = ⟨Text.scanOctets env.junkByte v.get_string, env.stack, v.get_string.length / 2⟩ := by
  unfold receivePHYPayload at h
  cases hv : inJobj.PHYPayload with
  | none => simp [hv] at h
  | some v =>
    simp only [hv] at h
    split at h
    · cases h
    · exact ⟨v, rfl, (Except.ok.inj h).symm⟩

/-- The frames the dispatch lets pass: a join request that names the device, with its NwkKey
read, or a rejoin request of type 0 or 2. Type 1 never passes. -/
theorem dispatch_ok {myJoinEui64 devEui64 : ℕ} {env : Env} {t : Tables} {rx : RxFrame}
    {d : Dispatch} (h : dispatch myJoinEui64 env t devEui64 rx = .ok d) :
    (MType (rx.byte 0) = MTYPE_JOIN_REQ ∧ devEui64 = eui_buf_to_uint64 (rx.bytes 9 8) ∧
      ∃ key, d = ⟨MTYPE_JOIN_REQ, 0xff, Octets.toNat (rx.bytes 17 2), rx.bytes 1 8, some key⟩) ∨
    (MType (rx.byte 0) = MTYPE_REJOIN_REQ ∧ (rx.byte 1 = 0 ∨ rx.byte 1 = 2) ∧
      d = ⟨MTYPE_REJOIN_REQ, rx.byte 1, Octets.toNat (rx.bytes 13 2),
        uint64_to_eui_buf myJoinEui64, none⟩) := by
  unfold dispatch at h
  cases hmt : MType (rx.byte 0) with
  | MTYPE_REJOIN_REQ =>
    right
    simp only [hmt] at h
    by_cases h1 : rx.byte 1 = 1
    · -- type 1 goes on to the test for types 0 and 2, which it fails
      simp only [h1, if_true, show ¬((1 : UInt8) = 0 ∨ (1 : UInt8) = 2) by decide, if_false,
        bind, Except.bind, throw, throwThe, MonadExceptOf.throw, pure, Except.pure] at h
      repeat' split at h
      all_goals simp at h
    · by_cases h02 : rx.byte 1 = 0 ∨ rx.byte 1 = 2
      · simp only [h1, h02, if_true, if_false, bind, Except.bind, pure, Except.pure,
          Except.ok.injEq] at h
        exact ⟨rfl, h02, h.symm⟩
      · simp [h1, h02, throw, throwThe, MonadExceptOf.throw] at h
  | MTYPE_JOIN_REQ =>
    left
    simp only [hmt, bind, Except.bind, throw, throwThe, MonadExceptOf.throw, pure,
      Except.pure] at h
    by_cases heui : devEui64 = eui_buf_to_uint64 (rx.bytes 9 8)
    · simp only [heui, ne_eq, not_true_eq_false, if_false] at h
      split at h
      · rename_i key _
        exact ⟨rfl, heui, key, (Except.ok.inj h).symm⟩
      · cases h
    · simp only [ne_eq, heui, not_false_eq_true, if_true] at h
      cases h
  | _ => simp [hmt, throw, throwThe, MonadExceptOf.throw] at h

theorem receive_ok {A : BlockCipher} {myJoinEui64 devEui64 : ℕ} {env : Env} {t : Tables}
    {inJobj : JoinReqJson} {d : Dispatch}
    (h : receive A myJoinEui64 env t inJobj = .ok (devEui64, d)) :
    ∃ rx, receivePHYPayload env inJobj = .ok rx ∧ receiveDevEUI env inJobj = .ok devEui64 ∧
      dispatch myJoinEui64 env t devEui64 rx = .ok d ∧
      eui_buf_to_uint64 d.rfJoinEUI = myJoinEui64 := by
  unfold receive at h
  simp only [bind, Except.bind, throw, throwThe, MonadExceptOf.throw, pure, Except.pure] at h
  cases hrx : receivePHYPayload env inJobj with
  | error s => simp [hrx] at h
  | ok rx =>
    cases heui : receiveDevEUI env inJobj with
    | error s => simp [hrx, heui] at h
    | ok eui =>
      simp only [hrx, heui] at h
      cases hd : dispatch myJoinEui64 env t eui rx with
      | error s => simp [hd] at h
      | ok d' =>
        by_cases hjoin : eui_buf_to_uint64 d'.rfJoinEUI = myJoinEui64
        · simp only [hd, hjoin, ne_eq, not_true_eq_false, if_false] at h
          split at h
          · cases h
          · obtain ⟨rfl, rfl⟩ := Prod.mk.inj (Except.ok.inj h)
            exact ⟨rx, rfl, rfl, hd, hjoin⟩
        · simp [hd, hjoin] at h

/-! ### What admission means -/

/-- A request that `admitNonce` lets pass, told by the branch it took. -/
theorem admit_ok {env : Env} {t t' : Tables} {devEui64 : ℕ} {d : Dispatch} {a : Admission}
    (h : admitNonce env t devEui64 d = (t', .ok a)) :
    (∃ m AppKey, t.row devEui64 = some m ∧ m.AppKey = some AppKey ∧
        (m.counter (nonceColumn d.MType)).getD 0 < d.rxNonce ∧
        m.joinNonce = some a.joinNonce ∧ a.OptNeg = true ∧ a.AppKey = AppKey ∧
        t.updateCounter (env.refused .updateCounter) (nonceColumn d.MType) devEui64 = some t') ∨
    (∃ m, t.row devEui64 = some m ∧ m.AppKey = none ∧ (devEui64, d.rxNonce) ∉ t.nonces ∧
        a = ⟨false, env.junkKey .AppKey, env.rand % 2 ^ 24⟩ ∧
        t' = t.insertNonce (env.refused .insertNonce) devEui64 d.rxNonce) := by
  unfold admitNonce at h
  cases hkey : get_sql_joinmote_key_ t (env.refused (.selectKey .AppKey)) .AppKey devEui64 with
  | failed => simp [hkey] at h
  | found AppKey =>
    left
    obtain ⟨-, m, hrow, hAppKey⟩ := key_found hkey
    simp only [hkey, admit1v1, hrow] at h
    split at h
    · simp at h
    · cases hn : m.joinNonce with
      | none => simp [hn] at h
      | some n =>
        simp only [hn] at h
        split at h
        · simp at h
        · rename_i hlt
          cases hup : t.updateCounter (env.refused .updateCounter) (nonceColumn d.MType) devEui64 with
          | none => simp [hup] at h
          | some u =>
            simp only [hup, Prod.mk.injEq, Except.ok.injEq] at h
            obtain ⟨rfl, rfl⟩ := h
            exact ⟨m, AppKey, hrow, hAppKey, by omega, hn, rfl, rfl, rfl⟩
  | null =>
    right
    obtain ⟨-, m, hrow, hAppKey⟩ := key_null hkey
    simp only [hkey, admit1v0] at h
    split at h
    · simp at h
    · rename_i hfresh
      simp only [Prod.mk.injEq, Except.ok.injEq] at h
      obtain ⟨rfl, rfl⟩ := h
      refine ⟨m, hrow, hAppKey, ?_, rfl, rfl⟩
      intro hmem
      exact hfresh (by simp [check_nonce, hmem])

theorem admit_keys {env : Env} {t t' : Tables} {devEui64 : ℕ} {d : Dispatch} {a : Admission}
    (h : admitNonce env t devEui64 d = (t', .ok a)) {e : ℕ} {m : JoinMote} (hrow : t.row e = some m) :
    ∃ m', t'.row e = some m' ∧ ∀ k, m'.key k = m.key k := by
  rcases admit_ok h with ⟨-, -, -, -, -, -, -, -, hup⟩ | ⟨-, -, -, -, -, rfl⟩
  · have hrow' := updateCounter_row hup e
    rw [hrow, Option.map_some] at hrow'
    refine ⟨_, hrow', fun k => ?_⟩
    split
    · exact increment_key m _ k
    · rfl
  · exact ⟨m, by rw [insertNonce_row]; exact hrow, fun k => rfl⟩

theorem admit1v1_error {env : Env} {t t' : Tables} {devEui64 : ℕ} {d : Dispatch} {AppKey : Octets}
    {s : Stop} (h : admit1v1 env t devEui64 d AppKey = (t', .error s)) : t' = t := by
  unfold admit1v1 at h
  split at h
  · exact (Prod.mk.inj h).1.symm
  · split at h
    · exact (Prod.mk.inj h).1.symm
    · split at h
      · exact (Prod.mk.inj h).1.symm
      · dsimp only at h
        split at h
        · exact (Prod.mk.inj h).1.symm
        · split at h
          · exact (Prod.mk.inj h).1.symm
          · exact absurd (Prod.mk.inj h).2 (by simp)

theorem admit1v0_error {env : Env} {t t' : Tables} {devEui64 : ℕ} {d : Dispatch} {s : Stop}
    (h : admit1v0 env t devEui64 d = (t', .error s)) : t' = t := by
  unfold admit1v0 at h
  split at h
  · exact (Prod.mk.inj h).1.symm
  · exact absurd (Prod.mk.inj h).2 (by simp)

theorem admit_error {env : Env} {t t' : Tables} {devEui64 : ℕ} {d : Dispatch} {s : Stop}
    (h : admitNonce env t devEui64 d = (t', .error s)) : t' = t := by
  unfold admitNonce at h
  split at h
  · exact (Prod.mk.inj h).1.symm
  · exact admit1v1_error h
  · exact admit1v0_error h

end Lorawan.JoinServer

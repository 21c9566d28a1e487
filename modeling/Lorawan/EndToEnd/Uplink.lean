import Lorawan.AppServer.UplinkFrames
import Lorawan.JoinServer.Agreement

/-!
# The way of an uplink payload (sNS.c:2635-2697, hNS.c:23-76, 407-468, app_server/web.c:421-483,
app_server/main.c:172-331)

A device that joined enciphers a payload under the AppSKey it derived. The network server takes it
out of the frame, the home server sends the AppSKey as the join server gave it, and the application
server saves what it deciphers.
-/

namespace Lorawan.EndToEnd
open Lorawan Lorawan.Backend NetworkServer

variable {S D : Type} (E : JsonEnv S D) (A : BlockCipher) (W : KeyWrap)

/-! ### The device -/

/-- A data frame with a payload of a device, and what it needs to be one of at most 255 octets. -/
structure DataUplink where
  confirmed : Bool
  DevAddr : ℕ
  /-- The four bits above FOptsLen. -/
  flags : ℕ
  FCnt : ℕ
  FOpts : Octets
  FPort : UInt8
  payload : Octets
  MIC : Octets
  DevAddr_lt : DevAddr < 2 ^ 32
  flags_lt : flags < 16
  FCnt_lt : FCnt < 2 ^ 32
  FOpts_length : FOpts.length ≤ 15
  FPort_ne : FPort ≠ 0
  payload_ne : payload ≠ []
  MIC_length : MIC.length = 4
  length_le : 13 + FOpts.length + payload.length ≤ 255

namespace DataUplink

variable (f : DataUplink) (AppSKey : Octets)

def header : Octets :=
  [mhdr (if f.confirmed then .MTYPE_CONF_UP else .MTYPE_UNCONF_UP)] ++ Octets.ofNat 4 f.DevAddr ++
    [UInt8.ofNat (16 * f.flags + f.FOpts.length)] ++ Octets.ofNat 2 f.FCnt

/-- What the device sends. -/
def frame : Octets :=
  f.header ++ f.FOpts ++ [f.FPort] ++ frmPayload A AppSKey f.DevAddr true f.FCnt f.payload ++ f.MIC

theorem header_length : f.header.length = 8 := by
  simp [header]

theorem frame_length : (f.frame A AppSKey).length = 13 + f.FOpts.length + f.payload.length := by
  simp only [frame, List.length_append, header_length, List.length_singleton, length_frmPayload,
    f.MIC_length]
  omega

end DataUplink

/-! ### The frame at the server -/

section Received

variable (f : DataUplink) (AppSKey : Octets) (counter : ℕ) (m : Mote)

theorem slice_receive {a b c : Octets} {i n : ℕ} (h : f.frame A AppSKey = a ++ b ++ c)
    (ha : a.length = i) (hb : b.length = n) :
    Octets.slice (receive (f.frame A AppSKey) counter m).ULPayloadBin i n = b := by
  refine Octets.slice_of_eq
    (?_ : _ = a ++ b ++ (c ++ m.ULPayloadBin.drop (f.frame A AppSKey).length)) ha hb
  simp only [receive, h, List.append_assoc]

theorem has_rx_fhdr_receive : has_rx_fhdr (receive (f.frame A AppSKey) counter m) = true := by
  have hhead : (receive (f.frame A AppSKey) counter m).ULPayloadBin.headD 0 =
      mhdr (if f.confirmed then .MTYPE_CONF_UP else .MTYPE_UNCONF_UP) := rfl
  rw [has_rx_fhdr, rxMType, hhead, MType_mhdr]
  cases f.confirmed <;> rfl

theorem rxFCnt_receive : rxFCnt (receive (f.frame A AppSKey) counter m) = f.FCnt % 2 ^ 16 := by
  have hslice := @slice_receive A f AppSKey counter m
    ([mhdr (if f.confirmed then .MTYPE_CONF_UP else .MTYPE_UNCONF_UP)] ++
      Octets.ofNat 4 f.DevAddr ++ [UInt8.ofNat (16 * f.flags + f.FOpts.length)])
    (Octets.ofNat 2 f.FCnt) _ 6 2
    (by simp only [DataUplink.frame, DataUplink.header, List.append_assoc]; rfl) (by simp) (by simp)
  rw [rxFCnt, hslice, Octets.toNat_ofNat]
  rfl

theorem rxFOptsLen_receive :
    rxFOptsLen (receive (f.frame A AppSKey) counter m) = f.FOpts.length := by
  have hslice := @slice_receive A f AppSKey counter m
    ([mhdr (if f.confirmed then .MTYPE_CONF_UP else .MTYPE_UNCONF_UP)] ++ Octets.ofNat 4 f.DevAddr)
    [UInt8.ofNat (16 * f.flags + f.FOpts.length)] _ 5 1
    (by simp only [DataUplink.frame, DataUplink.header, List.append_assoc]; rfl) (by simp) (by simp)
  have hflags := f.flags_lt
  have hopts := f.FOpts_length
  rw [rxFOptsLen, rxFCtrl, Octets.getD_eq_slice, hslice, List.headD_cons, UInt8.toNat_ofNat']
  omega

theorem rxFRMPayload_receive :
    rxFRMPayload (receive (f.frame A AppSKey) counter m) =
      some (f.FPort, frmPayload A AppSKey f.DevAddr true f.FCnt f.payload) := by
  have hlen : (receive (f.frame A AppSKey) counter m).ULPHYPayloadLen =
      13 + f.FOpts.length + f.payload.length := f.frame_length A AppSKey
  have hport := @slice_receive A f AppSKey counter m (f.header ++ f.FOpts) [f.FPort] _
    (8 + f.FOpts.length) 1 (by simp only [DataUplink.frame, List.append_assoc]; rfl)
    (by rw [List.length_append, f.header_length]) (by simp)
  have hpayload := @slice_receive A f AppSKey counter m (f.header ++ f.FOpts ++ [f.FPort])
    (frmPayload A AppSKey f.DevAddr true f.FCnt f.payload) f.MIC (8 + f.FOpts.length + 1)
    f.payload.length (by simp only [DataUplink.frame, List.append_assoc])
    (by simp only [List.length_append, f.header_length, List.length_singleton])
    (length_frmPayload ..)
  rw [rxFRMPayload, rxFOptsLen_receive, hlen]
  rw [if_pos (by omega), Octets.getD_eq_slice, hport,
    show 13 + f.FOpts.length + f.payload.length - 4 - (8 + f.FOpts.length + 1) = f.payload.length by
      omega, hpayload]
  rfl

/-- The counter that the server takes the frame to have, in the range of the one it stored. -/
theorem takenFCntUp_receive (h : m.session.FCntUp / 2 ^ 16 = f.FCnt / 2 ^ 16) :
    takenFCntUp (receive (f.frame A AppSKey) counter m) = f.FCnt := by
  have hsession : (receive (f.frame A AppSKey) counter m).session = m.session := rfl
  rw [takenFCntUp, hsession, rxFCnt_receive, FCntUp32]
  omega

end Received

/-! ### The AppSKey -/

/-- The AppSKey that a device derives of the accept. -/
def deviceAppSKey (dev : JoinServer.Device) (u : JoinServer.Device.Uplink)
    (accept : JoinServer.Device.Accept) : Octets :=
  match dev.AppKey with
  | some AppKey => dev.sessionKey1v1 A 0x02 AppKey u accept
  | none => dev.sessionKey1v0 A 0x02 u accept

/-- The device joined with `u` and received `accept`, the home server stored the envelope of the
answer in the session, and the application server has the other end of its key. -/
structure Joined (js : JoinServer.Config) (cfg : AppServer.Config) (dev : JoinServer.Device)
    (u : JoinServer.Device.Uplink) (accept : JoinServer.Device.Accept) (session : AppSession) :
    Prop where
  join : ∃ netId mote r env t ans junk id row,
    JoinServer.AnsweredJoin A W js dev u netId mote r env t ans ∧
      (JoinServer.meant netId mote r).RxDelay ≤ 15 ∧
      accept = dev.receiveAccept A u (Text.scanOctets junk ans.PHYPayload) ∧
      Storable id ans.AppSKey ∧ session = storeEnvelope ans.AppSKey row
  key_envelope_app : cfg.key_envelope_app = js.key_envelope_app

theorem hexPairs_of_answered {js : JoinServer.Config} {network_id : ℕ} {env : JoinServer.Env}
    {inJobj : JoinServer.JoinReqJson} {t t' : JoinServer.Tables} {ans : JoinServer.JoinAnsJson}
    (h : JoinServer.parse_rf_join_req A W js network_id env inJobj t = (t', .ok ans)) :
    HexPairs ans.AppSKey.AESKey := by
  obtain ⟨devEui64, d, a, -, -, hacc⟩ := JoinServer.parse_rf_join_req_ok A W h
  obtain ⟨NwkKey, key, frame, lifetime, -, -, hanswer⟩ := JoinServer.joinAccept_ok A W hacc
  obtain ⟨-, h1v1, h1v0⟩ := JoinServer.buildAnswer_ok A W hanswer
  cases hopt : a.OptNeg with
  | true =>
    obtain ⟨s, fk, n, -, -, -, -, -, -, happ⟩ := h1v1 hopt
    exact hexPairs_of_create happ
  | false =>
    obtain ⟨fk, -, -, happ⟩ := h1v0 hopt
    exact hexPairs_of_create happ

/-- The application server opens the envelope of the database to the device's AppSKey. -/
theorem Joined.opens {js : JoinServer.Config} {cfg : AppServer.Config} {dev : JoinServer.Device}
    {u : JoinServer.Device.Uplink} {accept : JoinServer.Device.Accept} {session : AppSession}
    (h : Joined A W js cfg dev u accept session) (junk : UInt8) :
    ∃ obj, session.envelope.toEnvelope = some obj ∧
      Backend.parse_key_envelope W junk obj cfg.key_envelope_app =
        some (deviceAppSKey A dev u accept) := by
  obtain ⟨netId, mote, r, env, t, ans, junk', id, row, hans, hdelay, rfl, hstore, rfl⟩ := h.join
  obtain ⟨msg, t', -, hanswer⟩ := hans.answered
  obtain ⟨obj, hobj, hparse⟩ := parse_stored_envelope W junk' junk js.key_envelope_app
    (hexPairs_of_answered A W hanswer) row
  obtain ⟨-, hkeys⟩ := JoinServer.device_receives A W hans hdelay junk'
  refine ⟨obj, hobj, ?_⟩
  rw [h.key_envelope_app, hparse]
  unfold JoinServer.HoldsSessionKeys at hkeys
  unfold deviceAppSKey
  cases happ : dev.AppKey with
  | some AppKey =>
    rw [happ] at hkeys
    obtain ⟨s, fk, n, -, -, -, -, -, -, hkey⟩ := hkeys
    exact hkey
  | none =>
    rw [happ] at hkeys
    obtain ⟨fk, -, -, hkey⟩ := hkeys
    exact hkey

/-! ### The payload -/

/-- What is saved of the uplink is what the device sent. -/
def SavedAsSent (f : DataUplink) (row : AppServer.FrameRow S) : Prop :=
  row.FRMPayload = some f.payload ∧ row.FPort = f.FPort.toNat ∧ row.FCntUp = f.FCnt

section Way

variable {js : JoinServer.Config} {cfg : AppServer.Config} {dev : JoinServer.Device}
  {u : JoinServer.Device.Uplink} {accept : JoinServer.Device.Accept} {session : AppSession}

/-- The envelope of the session goes with the payload, or none does and the AppSKey is the one that
was last accepted. -/
def BringsAppSKey (dev : JoinServer.Device) (AppSKey : Octets) (session : AppSession)
    (t : AppServer.Traced) (envl : Option AppSKeyJson) : Prop :=
  envl = some session.envelope ∨ envl = none ∧ t.current dev.DevEUI = some AppSKey

theorem uplinkKey_of_brings (hjoin : Joined A W js cfg dev u accept session)
    {t : AppServer.Traced} {envl : Option AppSKeyJson} {post : UplinkPost D} {md : ULMetaData_t S}
    {env : AppServer.Surroundings} (junkEui : ℕ)
    (hbrings : BringsAppSKey dev (deviceAppSKey A dev u accept) session t envl)
    (hpost : post.AppSKey = envl)
    (hmd : generateULMetaData E md .sNS true = .ok post.ULMetaData)
    (heui : md.DevEUI.toNat = dev.DevEUI) (hnone : dev.DevEUI ≠ Backend.NONE_DEVEUI)
    (hfollows : AppServer.Follows t) :
    ∃ req, AppServer.uplinkReq E junkEui post = some req ∧
      (AppServer.ReadsWritten W cfg t (.uplink env req) →
        AppServer.uplinkKey W cfg env req t.server = .refused ∨
          AppServer.uplinkKey W cfg env req t.server = .key (deviceAppSKey A dev u accept)) := by
  obtain ⟨obj, hobj, hopens⟩ := hjoin.opens A W cfg.junkByte
  have hmdEui : md.DevEUI.toNat ≠ Backend.NONE_DEVEUI := by rwa [heui]
  rcases hbrings with rfl | ⟨rfl, hcurrent⟩
  · have hposted : AppServer.postedKey post = some (some obj) := by
      rw [AppServer.postedKey, hpost]
      dsimp only
      rw [hobj]
      rfl
    obtain ⟨DevAddr, hreq⟩ := AppServer.uplinkReq_eq E junkEui hmd hmdEui hposted
    refine ⟨_, hreq, fun hread => ?_⟩
    exact AppServer.deciphered_of_follows W cfg hfollows hread dev.DevEUI (by rw [heui]) hnone _
      hopens
  · have hposted : AppServer.postedKey post = some none := by
      rw [AppServer.postedKey, hpost]
    obtain ⟨DevAddr, hreq⟩ := AppServer.uplinkReq_eq E junkEui hmd hmdEui hposted
    refine ⟨_, hreq, fun hread => ?_⟩
    exact AppServer.deciphered_of_follows W cfg hfollows hread dev.DevEUI (by rw [heui]) hnone _
      hcurrent

end Way

/-! ### Two octets by way of the home server -/

/-- The answer to `sampleJoin`. -/
def sampleAns : JoinServer.JoinAnsJson :=
  ⟨"20111111021111101111379314b25c5455".toList,
    some ⟨none, "12111111101111111111111110111111".toList⟩,
    some ⟨none, "10111111101111111111111110111111".toList⟩,
    some ⟨none, "15111111101111111111111110111111".toList⟩, none,
    ⟨none, "20222222232222222222222223222222".toList⟩, 3600⟩

def sampleAccept : JoinServer.Device.Accept :=
  JoinServer.sampleDevice.receiveAccept .xorKey JoinServer.sampleJoin
    (Text.scanOctets 0 sampleAns.PHYPayload)

def sampleSession : AppSession :=
  storeEnvelope sampleAns.AppSKey
    { toSessionRow := sampleRow, AS_KEK_label := none, AS_KEK_key := none }

/-- The other end of the join server's envelopes. -/
def sampleConfig : AppServer.Config := ⟨⟨none, []⟩, 0⟩

theorem sampleSession_joined :
    Joined .xorKey noWrap JoinServer.plainConfig sampleConfig JoinServer.sampleDevice
      JoinServer.sampleJoin sampleAccept sampleSession := by
  obtain ⟨ans, hans⟩ := @JoinServer.sampleJoin_answered 5 _ rfl (by decide +kernel)
  obtain ⟨msg, t', hmsg, hparse⟩ := hans.answered
  have hanswer : (hNS_toJS 0x13 (JoinServer.sampleMote 5)
      (get_cflist .plain)).map (fun msg =>
        (JoinServer.parse_rf_join_req .xorKey noWrap JoinServer.plainConfig
          (senderNetId msg) JoinServer.quietEnv msg.members
          JoinServer.sampleTables).2.toOption) = some (some sampleAns) := by
    decide +kernel
  rw [hmsg, Option.map_some, hparse] at hanswer
  obtain rfl := Option.some.inj (Option.some.inj hanswer)
  refine ⟨⟨0x13, _, _, _, _, _, 0, 1, _, hans, by decide, rfl,
    ⟨?_, by decide +kernel⟩, rfl⟩, rfl⟩
  intro label hlabel
  cases hlabel

def sampleDataUplink : DataUplink where
  confirmed := true
  DevAddr := 0x26000001
  flags := 8
  FCnt := 1
  FOpts := []
  FPort := 1
  payload := [0x68, 0x69]
  MIC := [0, 0, 0, 0]
  DevAddr_lt := by decide
  flags_lt := by decide
  FCnt_lt := by decide
  FOpts_length := by decide
  FPort_ne := by decide
  payload_ne := by decide
  MIC_length := rfl
  length_le := by decide

/-- The metadata without gateways. -/
def sampleMetaData : ULMetaData_t ℚ :=
  { emptyUplink with DevEUI := 2, DevAddr := 0x26000001 }

/-- The home server posts the uplink with the envelope of the new session. -/
def samplePosted : Option (UplinkPost ℚ) :=
  (UplinkRoute.viaHome 0 emptyUplink).post plainEnv (some sampleSession.envelope) true
    sampleMetaData (receive (sampleDataUplink.frame .xorKey
      (deviceAppSKey .xorKey JoinServer.sampleDevice JoinServer.sampleJoin sampleAccept)) 1
      (.init 1 0x26000001))

def sampleUnwritten : AppServer.Unwritten ℚ := ⟨0, [], emptyUplink, 0, fun _ => 0⟩

end Lorawan.EndToEnd

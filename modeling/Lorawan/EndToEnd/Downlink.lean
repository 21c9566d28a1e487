import Lorawan.AppServer.Keystream
import Lorawan.Backend.FrmPayload
import Lorawan.NetworkServer.DeclaredCounter
import Lorawan.NetworkServer.DownlinkMetaData
import Lorawan.NetworkServer.ReceivedTexts

/-!
# The way of a downlink payload (app_server/main.c:434-598, network_server/web.c:2154-2195,
common.c:2112-2241, hNS.c:284-350)

The application server enciphers a payload and posts it. A network server takes it, passes it on
when the device is with another one, and puts it into a frame, from which the device has to get
the payload. Messages are lost, repeated and overtaken on the way.
-/

namespace Lorawan.EndToEnd
open Lorawan Lorawan.Backend NetworkServer

variable {S D : Type} (E : JsonEnv S D) (A : BlockCipher) (W : KeyWrap) (cfg : AppServer.Config)

/-! ### Messages -/

/-- `FRMPayload` and `DLMetaData` of an `XmitDataReq`. -/
structure Post (D : Type) where
  FRMPayload : List Char
  DLMetaData : Json Member D

/-- `AS_generateDLMetaData` (app_server/main.c:434-454). -/
def AS_generateDLMetaData (req : AppServer.XmitDataReq) : Json Member D :=
  let ret := Json.addSome .DevEUI (req.DevEUI.map .string) Json.noMembers
  let ret := Json.addSome .DevAddr (req.DevAddr.map .string) ret
  let ret := Json.add .FPort (Json.new_int (UInt8.ofNat req.FPort).toUInt32.toInt32) ret
  let ret := Json.add .FCntDown (Json.new_int (UInt32.ofNat req.FCntDown).toInt32) ret
  .object (if req.Confirmed then Json.add .Confirmed (.boolean true) ret else ret)

def appPost (req : AppServer.XmitDataReq) : Post D :=
  ⟨req.FRMPayload, AS_generateDLMetaData req⟩

/-- `downlinkJson` of an sNS or hNS, up to the query for the device. -/
def downlinkJson (dlmdobj : Json Member D) : Option (DLMetaData_t S) :=
  match parseDLMetaData E dlmdobj with
  | .ok (.sNS, dlmd) =>
    if dlmd.DevEUI.toNat = Backend.NONE_DEVEUI ∧ dlmd.DevAddr.toNat = Backend.NONE_DEVADDR then
      none
    else
      match dlmdobj.get_ex .FPort with
      | none => none
      | some o => if o.get_int E.conv = 0 then none else some dlmd
  | _ => none

/-- `ParseJson` and `downlinkJson`. -/
def receiveDownlink (junk : UInt8) (post : Post D) : Option (DLMetaData_t S × Octets) :=
  (parsePayload junk .FRMPayload post.FRMPayload).toOption.bind fun p =>
    (downlinkJson E post.DLMetaData).map fun dlmd => (dlmd, p.payBuf.take p.payloadLen)

/-- `hNS_XmitDataReq_down` and `sendXmitDataReq`. -/
def hNS_XmitDataReq_down (w : Windows S) (dlmd : DLMetaData_t S) (frmPayload : Octets) :
    Option (Post D) :=
  match generateDLMetaData E none w dlmd .hNS with
  | .error _ => none
  | .ok (dlo, _) => if frmPayload = [] then none else some ⟨Text.printOctets frmPayload, dlo⟩

/-- The two ways to the server that serves the device. -/
inductive Route (S : Type)
  | direct
  | viaHome (w : Windows S)

def Route.receive (junk : UInt8) (post : Post D) : Route S → Option (DLMetaData_t S × Octets)
  | .direct => receiveDownlink E junk post
  | .viaHome w =>
    (receiveDownlink E junk post).bind fun (dlmd, payload) =>
      (hNS_XmitDataReq_down E w dlmd payload).bind (receiveDownlink E junk)

/-! ### The servers with what is between them -/

structure Path where
  app : AppServer.Server
  ledger : Ledger

inductive Event (S : Type)
  | app (e : AppServer.Event)
  | net (e : NetworkServer.Event)
  /-- A request that was made for an encryption arrives. -/
  | deliver (env : DownlinkEnv) (junk : UInt8) (route : Route S) (tid : ℕ) (msg : AppServer.Msg)
      (e : AppServer.Encryption)

/-- The event of the network server. -/
def Event.atNS : Event S → Option NetworkServer.Event
  | .app _ => none
  | .net e => some e
  | .deliver env junk route tid msg e => do
    let req ← AppServer.xmitDataReq A tid msg e
    let (dlmd, payload) ← route.receive E junk (appPost req)
    return .downlink env ⟨dlmd.FPort, dlmd.FCntDown.toNat, dlmd.Confirmed⟩ payload

def Path.step (p : Path) (ev : Event S) : Path where
  app :=
    match ev with
    | .app e => AppServer.step A W cfg p.app e
    | _ => p.app
  ledger :=
    match ev.atNS E A with
    | none => p.ledger
    | some e => p.ledger.step A e

def Path.init (activemotes : List AppServer.ActiveMote) (next_req_tid : ℕ) (rows : List SessionRow)
    (nextSerial ID devAddr : ℕ) : Path :=
  ⟨.init activemotes next_req_tid, .init rows nextSerial ID devAddr⟩

def asksForDownlink : NetworkServer.Event → Bool
  | .downlink _ _ _ => true
  | _ => false

/-- Nobody but the application server asks for downlinks, `payLen` is a `uint8_t`, and the frames
fit. -/
def Ready (p : Path) (ev : Event S) : Prop :=
  (∀ e, ev.atNS E A = some e → FrameFits A p.ledger.ns e) ∧
    match ev with
    | .app _ => True
    | .net e => asksForDownlink e = false
    | .deliver _ _ _ _ _ e => e ∈ p.app.log ∧ e.payload.length < 256

instance (p : Path) (ev : Event S) : Decidable (Ready E A p ev) :=
  have : Decidable (∀ e, ev.atNS E A = some e → FrameFits A p.ledger.ns e) :=
    decidable_of_iff (∀ e ∈ (ev.atNS E A).toList, FrameFits A p.ledger.ns e) (by simp)
  match ev with
  | .app _ => inferInstanceAs (Decidable (_ ∧ True))
  | .net e => inferInstanceAs (Decidable (_ ∧ asksForDownlink e = false))
  | .deliver _ _ _ _ _ e => inferInstanceAs (Decidable (_ ∧ e ∈ p.app.log ∧ e.payload.length < 256))

/-- The device of the encryption reads the frame in `m'`, which was built from `m`: it comes under
the counter of the encryption, and with AppSKey and DevAddr of the encryption it is deciphered to
the payload. -/
def ReadsPayload (m m' : Mote) (e : AppServer.Encryption) : Prop :=
  ∃ f, splitDownlink (m'.s.PHYPayloadBin.take m'.s.PHYPayloadLen) = some f ∧
    f.FCnt = e.AFCntDown % 2 ^ 16 ∧
    f.MIC = LoRa_GenerateDataFrameIntegrityCode A
      (downlinkBlock (ackedFCnt m m.s) m.devAddr (e.AFCntDown % 2 ^ 32) (m'.s.PHYPayloadLen - 4))
      m.session.SNwkSIntKeyBin
      ((m'.s.PHYPayloadBin.take m'.s.PHYPayloadLen).take (m'.s.PHYPayloadLen - 4)) ∧
    (∃ port, f.FPort = some port ∧ port ≠ 0) ∧
    frmPayload A e.AppSKey e.DevAddr false e.AFCntDown f.FRMPayload = e.payload

/-! ### What a message brings -/

theorem parseForFNS_role {obj : Json Member D} {out out' : DLMetaData_t S} {role : role_e}
    (h : parseForFNS E obj out = .ok (role, out')) : role ≠ .sNS := by
  rintro rfl
  unfold parseForFNS at h
  split at h
  · cases h
  · split at h
    · cases h
    · obtain ⟨str, -, h⟩ := bind_ok_iff.mp h
      dsimp only at h
      split at h
      · cases h
      · obtain ⟨DevEUI, -, h⟩ := bind_ok_iff.mp h
        obtain ⟨DevAddr, -, h⟩ := bind_ok_iff.mp h
        obtain ⟨token, -, h⟩ := bind_ok_iff.mp h
        obtain ⟨tokens, -, h⟩ := bind_ok_iff.mp h
        cases h

theorem parseForSNS_members {obj : Json Member D} {out dlmd : DLMetaData_t S}
    (h : parseForSNS E obj out = .ok (.sNS, dlmd)) :
    ∃ port count, obj.get_ex .FPort = some port ∧ obj.get_ex .FCntDown = some count ∧
      dlmd.FPort = (port.get_int E.conv).toUInt32.toUInt8 ∧
      dlmd.FCntDown = (count.get_int E.conv).toUInt32 := by
  obtain ⟨device, -, h⟩ := bind_ok_iff.mp h
  cases device with
  | none => cases h
  | some device =>
    dsimp only at h
    split at h
    · cases h
    · rename_i port hport
      split at h
      · cases h
      · rename_i count hcount
        cases h
        exact ⟨port, count, hport, hcount, rfl, rfl⟩

/-- A port and a counter that were made of integers come back, and the port is not zero. -/
theorem downlinkJson_some {obj : Json Member D} {dlmd : DLMetaData_t S} {port : UInt8}
    {count : UInt32} (hport : obj.get_ex .FPort = some (Json.new_int port.toUInt32.toInt32))
    (hcount : obj.get_ex .FCntDown = some (Json.new_int count.toInt32))
    (h : downlinkJson E obj = some dlmd) :
    dlmd.FPort = port ∧ dlmd.FCntDown = count ∧ port ≠ 0 := by
  unfold downlinkJson at h
  split at h
  · rename_i out hparse
    split at h
    · cases h
    · rw [hport] at h
      dsimp only at h
      split at h
      · cases h
      · rename_i hzero
        cases h
        have hmembers : parseForSNS E obj (parseWindows E obj) = .ok (.sNS, dlmd) := by
          rw [parseDLMetaData] at hparse
          split at hparse
          · exact absurd rfl (parseForFNS_role E hparse)
          · exact hparse
        obtain ⟨port', count', hport', hcount', hFPort, hFCnt⟩ := parseForSNS_members E hmembers
        rw [hport] at hport'
        rw [hcount] at hcount'
        cases hport'
        cases hcount'
        rw [Json.get_int_new_int] at hFPort hFCnt hzero
        refine ⟨?_, ?_, ?_⟩
        · simpa using hFPort
        · simpa using hFCnt
        · rintro rfl
          exact hzero rfl
  · cases h

theorem parsePayload_ok {junk : UInt8} {frm : PayloadKind} {text : List Char}
    {p : ReceivedPayload} (hshort : text.length ≤ 510)
    (h : (parsePayload junk frm text).toOption = some p) :
    p = ⟨Text.scanOctets junk text, text.length / 2⟩ := by
  by_cases hrefuse : refusesPayload frm text
  · rw [parsePayload, if_pos hrefuse] at h
    cases h
  · rw [parsePayload_of_short junk hrefuse hshort] at h
    exact (Option.some.inj h).symm

theorem receiveDownlink_short {junk : UInt8} {post : Post D} {dlmd : DLMetaData_t S}
    {payload : Octets} (hshort : post.FRMPayload.length ≤ 510)
    (h : receiveDownlink E junk post = some (dlmd, payload)) :
    payload = (Text.scanOctets junk post.FRMPayload).take (post.FRMPayload.length / 2) ∧
      downlinkJson E post.DLMetaData = some dlmd := by
  obtain ⟨p, hp, h⟩ := Option.bind_eq_some_iff.mp h
  obtain ⟨out, hout, hpair⟩ := Option.map_eq_some_iff.mp h
  obtain ⟨rfl, rfl⟩ := Prod.mk.inj hpair
  rw [parsePayload_ok hshort hp]
  exact ⟨rfl, hout⟩

theorem receiveDownlink_some {junk : UInt8} {payload payload' : Octets} {obj : Json Member D}
    {dlmd : DLMetaData_t S} (hlen : payload.length < 256)
    (h : receiveDownlink E junk ⟨Text.printOctets payload, obj⟩ = some (dlmd, payload')) :
    payload' = payload ∧ downlinkJson E obj = some dlmd := by
  have hshort : (Text.printOctets payload).length ≤ 510 := by
    rw [Text.printOctets_length]
    omega
  have hhalf : (Text.printOctets payload).length / 2 = payload.length := by
    rw [Text.printOctets_length]
    omega
  obtain ⟨htake, hjson⟩ := receiveDownlink_short E hshort h
  rw [Text.scanOctets_printOctets, hhalf, List.take_length] at htake
  exact ⟨htake, hjson⟩

/-- Either way port, counter and octets come through. -/
theorem route_receive {junk : UInt8} {route : Route S} {payload payload' : Octets}
    {obj : Json Member D} {dlmd : DLMetaData_t S} {port : UInt8} {count : UInt32}
    (hlen : payload.length < 256)
    (hport : obj.get_ex .FPort = some (Json.new_int port.toUInt32.toInt32))
    (hcount : obj.get_ex .FCntDown = some (Json.new_int count.toInt32))
    (h : route.receive E junk ⟨Text.printOctets payload, obj⟩ = some (dlmd, payload')) :
    payload' = payload ∧ dlmd.FPort = port ∧ dlmd.FCntDown = count ∧ port ≠ 0 := by
  cases route with
  | direct =>
    obtain ⟨rfl, hjson⟩ := receiveDownlink_some E hlen h
    exact ⟨rfl, downlinkJson_some E hport hcount hjson⟩
  | viaHome w =>
    rw [Route.receive, Option.bind_eq_some_iff] at h
    obtain ⟨⟨dlmd₁, payload₁⟩, hfirst, h⟩ := h
    obtain ⟨rfl, hjson⟩ := receiveDownlink_some E hlen hfirst
    obtain ⟨hFPort, hFCnt, hpos⟩ := downlinkJson_some E hport hcount hjson
    rw [Option.bind_eq_some_iff] at h
    obtain ⟨post, hpost, h⟩ := h
    unfold hNS_XmitDataReq_down at hpost
    rw [generateDLMetaData_none] at hpost
    dsimp only at hpost
    split at hpost
    · cases hpost
    · cases hpost
      obtain ⟨rfl, hjson'⟩ := receiveDownlink_some E hlen h
      refine ⟨rfl, ?_⟩
      rw [← hFPort, ← hFCnt]
      exact @downlinkJson_some _ _ E _ _ dlmd₁.FPort dlmd₁.FCntDown
        (by simp [addDownlink]) (by simp [addDownlink]) hjson'

theorem get_ex_AS_generateDLMetaData (req : AppServer.XmitDataReq) :
    (AS_generateDLMetaData req : Json Member D).get_ex .FPort =
        some (Json.new_int (UInt8.ofNat req.FPort).toUInt32.toInt32) ∧
      (AS_generateDLMetaData req : Json Member D).get_ex .FCntDown =
        some (Json.new_int (UInt32.ofNat req.FCntDown).toInt32) := by
  unfold AS_generateDLMetaData
  cases req.Confirmed <;> simp

/-- The request of the encryption. -/
def Comes (e : AppServer.Encryption) (r : AppRequest) : Prop :=
  r.1.FCntDown = e.AFCntDown % 2 ^ 32 ∧ r.1.FPort ≠ 0 ∧
    r.2 = frmPayload A e.AppSKey e.DevAddr false e.AFCntDown e.payload

theorem comes_of_deliver {env : DownlinkEnv} {junk : UInt8} {route : Route S} {tid : ℕ}
    {msg : AppServer.Msg} {e : AppServer.Encryption} {ev : NetworkServer.Event}
    (hlen : e.payload.length < 256)
    (h : (Event.deliver env junk route tid msg e).atNS E A = some ev) :
    ∃ md payload, ev = .downlink env md payload ∧ Comes A e (md, payload) := by
  rw [Event.atNS, Option.bind_eq_bind, Option.bind_eq_some_iff] at h
  obtain ⟨req, hreq, h⟩ := h
  rw [Option.bind_eq_bind, Option.bind_eq_some_iff] at h
  obtain ⟨⟨dlmd, payload⟩, hroute, h⟩ := h
  obtain ⟨⟨NetID24, NwkID, NwkAddr⟩, -, rfl⟩ := Option.map_eq_some_iff.mp hreq
  obtain ⟨hport, hcount⟩ := get_ex_AS_generateDLMetaData (D := D) _
  rw [LoRa_Encrypt_eq_frmPayload] at hroute
  obtain ⟨rfl, hFPort, hFCnt, hpos⟩ := route_receive E (by rwa [length_frmPayload]) hport hcount
    hroute
  obtain rfl := Option.some.inj h
  refine ⟨_, _, rfl, ?_, ?_, rfl⟩
  · dsimp only
    rw [hFCnt]
    exact UInt32.toNat_ofNat'
  · dsimp only
    rwa [hFPort]

/-! ### The invariant -/

theorem mem_log_send {e : AppServer.Encryption} {s : AppServer.Server} (he : e ∈ s.log)
    (sqlOk posted : Bool) (msg : AppServer.Msg) :
    e ∈ (AppServer.send_downlink A sqlOk posted msg s).1.log := by
  rcases AppServer.send_downlink_cases A sqlOk posted msg s with heq | ⟨x, -, heq | ⟨tl, heq, -⟩⟩
  · rwa [heq]
  · rw [heq]
    exact List.mem_append_left _ he
  · rw [heq]
    exact List.mem_append_left _ he

theorem log_saveAppSKey (env : AppServer.Surroundings) (clr : Bool) (key : Octets)
    (DevAddr : Option ℕ) (devEui : ℕ) (s : AppServer.Server) :
    (AppServer.saveAppSKey env clr key DevAddr devEui s).log = s.log := by
  unfold AppServer.saveAppSKey AppServer.updateSKey
  split
  · split <;> rfl
  · split <;> rfl

theorem mem_log_step {e : AppServer.Encryption} {s : AppServer.Server} (he : e ∈ s.log)
    (ev : AppServer.Event) : e ∈ (AppServer.step A W cfg s ev).log := by
  cases ev with
  | downlink env msg => exact mem_log_send A he _ _ _
  | answer env trans_id rxResult FCntDown =>
    have hcount : ∀ t, (AppServer.countDownlink env t s).log = s.log := by
      intro t
      unfold AppServer.countDownlink
      split <;> rfl
    have hretry : ∀ t fcnt, e ∈ (AppServer.retryDownlink A env t fcnt s).log := by
      intro t fcnt
      unfold AppServer.retryDownlink
      split
      · exact he
      · refine mem_log_send A ?_ env.sqlOk env.posted t.msg
        exact he
    show e ∈ (AppServer.xmitDataAns A env trans_id rxResult FCntDown s).log
    unfold AppServer.xmitDataAns
    split
    · exact he
    · split
      · exact he
      · split
        · dsimp only
          split
          · exact (hcount _).symm ▸ he
          · exact (hcount _).symm ▸ he
        · split
          · exact hretry _ _
          · split <;> exact he
  | uplink env req =>
    show e ∈ (AppServer.xmitDataReqUplink W cfg env req s).log
    unfold AppServer.xmitDataReqUplink
    split
    · exact he
    · dsimp only
      split
      · exact he
      · rwa [log_saveAppSKey]
  | keyRequest env devEui devAddr =>
    show e ∈ (AppServer.requestAppSKey env devEui devAddr s).log
    unfold AppServer.requestAppSKey
    split <;> exact he
  | keyAnswer env trans_id rxResult AppSKey DevAddr =>
    have hfold : ∀ (hit : List AppServer.Transaction) (key : Octets) (s : AppServer.Server),
        (hit.foldl (fun s (t : AppServer.Transaction) =>
          AppServer.saveAppSKey env false key DevAddr t.msg.devEui s) s).log = s.log := by
      intro hit key
      induction hit with
      | nil => exact fun _ => rfl
      | cons t hit ih => exact fun s => (ih _).trans (log_saveAppSKey ..)
    show e ∈ (AppServer.appSKeyAns W cfg env trans_id rxResult AppSKey DevAddr s).log
    unfold AppServer.appSKeyAns
    dsimp only
    split
    · exact he
    · rwa [hfold]
  | writer =>
    show e ∈ (AppServer.applyUpdate s).log
    unfold AppServer.applyUpdate
    split <;> exact he

/-- A frame that carries a payload carries that of the request at its time. -/
def Carried (b : Call × Option AppRequest) : Prop :=
  carriesPayload b.1.before = true → b.2 = some (b.1.before.s.md, b.1.before.s.accepted)

theorem carried_step {l : Ledger} (h : LedgerInv A l) (hc : ∀ b ∈ l.built, Carried b)
    (e : NetworkServer.Event) : ∀ b ∈ (l.step A e).built, Carried b := by
  unfold Ledger.step
  cases hoverrun : l.ns.overrun with
  | true => exact hc
  | false =>
    rw [if_neg Bool.false_ne_true]
    have hwaits := waitsFor_saved h.waits e
    rcases (builds_step (A := A) hoverrun e).calls with hcalls | ⟨ns₁, junk, -, -, hchanges, hcalls⟩
    · rw [calls_saved] at hcalls
      simp only [hcalls, List.drop_length, List.map_nil, List.append_nil]
      exact hc
    · rw [calls_saved] at hcalls
      have hkeep : ∀ s s', Change A s s' → WaitsFor ((requested l.ns e).or l.last) s →
          WaitsFor ((requested l.ns e).or l.last) s' := fun _ _ h hw => waitsFor_change h hw
      simp only [hcalls, List.drop_left, List.map_singleton]
      intro b hb
      rcases List.mem_append.mp hb with hold | hnew
      · exact hc b hold
      · rw [List.mem_singleton.mp hnew]
        intro hcarries
        exact (keeps_of_change hkeep hchanges hwaits).2 (FRMPayloadLen_pos_of_carries hcarries)

structure PathInv (p : Path) : Prop where
  good : Good A p.ledger.ns
  ledger : LedgerInv A p.ledger
  carried : ∀ b ∈ p.ledger.built, Carried b
  last : ∀ r, p.ledger.last = some r → ∃ e ∈ p.app.log, Comes A e r
  built : ∀ b ∈ p.ledger.built, ∀ r, b.2 = some r → ∃ e ∈ p.app.log, Comes A e r

theorem requested_comes {p : Path} {ev : Event S} {e : NetworkServer.Event}
    (hready : Ready E A p ev) (he : ev.atNS E A = some e) {r : AppRequest}
    (hr : requested p.ledger.ns e = some r) : ∃ x ∈ p.app.log, Comes A x r := by
  obtain ⟨-, hready⟩ := hready
  cases ev with
  | app => cases he
  | net e' =>
    cases he
    cases e with
    | downlink env md payload => cases hready
    | _ => cases hr
  | deliver env junk route tid msg x =>
    obtain ⟨md, payload, rfl, hcomes⟩ := comes_of_deliver E A hready.2 he
    rw [requested] at hr
    split at hr
    · cases hr
    · obtain ⟨_, -, rfl⟩ := Option.map_eq_some_iff.mp hr
      exact ⟨x, hready.1, hcomes⟩

theorem pathInv_step {p : Path} {ev : Event S} (h : PathInv A p) (hready : Ready E A p ev) :
    PathInv A (p.step E A W cfg ev) := by
  have hlog : ∀ x ∈ p.app.log, x ∈ (p.step E A W cfg ev).app.log := by
    intro x hx
    cases ev with
    | app e => exact mem_log_step A W cfg hx e
    | net e => exact hx
    | deliver env junk route tid msg e => exact hx
  have hkept : ∀ r, (∃ e ∈ p.app.log, Comes A e r) →
      ∃ e ∈ (p.step E A W cfg ev).app.log, Comes A e r := by
    rintro r ⟨e, he, hcomes⟩
    exact ⟨e, hlog e he, hcomes⟩
  cases he : ev.atNS E A with
  | none =>
    have hsame : (p.step E A W cfg ev).ledger = p.ledger := by
      simp only [Path.step, he]
    refine ⟨hsame ▸ h.good, hsame ▸ h.ledger, hsame ▸ h.carried, ?_, ?_⟩
    · rw [hsame]
      exact fun r hr => hkept r (h.last r hr)
    · rw [hsame]
      exact fun b hb r hr => hkept r (h.built b hb r hr)
  | some e =>
    have hledger : (p.step E A W cfg ev).ledger = p.ledger.step A e := by
      simp only [Path.step, he]
    have hns : (p.ledger.step A e).ns = NetworkServer.step A p.ledger.ns e :=
      ledger_ns p.ledger [e]
    have hlast : ∀ r, (requested p.ledger.ns e).or p.ledger.last = some r →
        ∃ x ∈ (p.step E A W cfg ev).app.log, Comes A x r := by
      intro r hr
      rcases Option.or_eq_some_iff.mp hr with hnew | ⟨-, hold⟩
      · exact hkept r (requested_comes E A hready he hnew)
      · exact hkept r (h.last r hold)
    refine ⟨?_, hledger ▸ ledgerInv_step h.ledger e, hledger ▸ carried_step A h.ledger h.carried e,
      ?_, ?_⟩
    · rw [hledger, hns]
      exact good_step h.good (hready.1 e he)
    · rw [hledger, Ledger.step, if_neg (by rw [h.good.overrun]; exact Bool.false_ne_true)]
      exact hlast
    · rw [hledger, Ledger.step, if_neg (by rw [h.good.overrun]; exact Bool.false_ne_true)]
      intro b hb r hr
      rcases List.mem_append.mp hb with hold | hnew
      · exact hkept r (h.built b hold r hr)
      · obtain ⟨c, -, rfl⟩ := List.mem_map.mp hnew
        exact hlast r hr

/-! ### The device -/

theorem readsPayload_of_laidOut {m m' : Mote} {e : AppServer.Encryption} (hlaid : LaidOut A m m')
    (hcarries : carriesPayload m = true) (hcomes : Comes A e (m.s.md, m.s.accepted)) :
    ReadsPayload A m m' e := by
  obtain ⟨hcount, hport, hpayload⟩ := hcomes
  dsimp only at hcount hport hpayload
  obtain ⟨f, hsplit, -, hFCnt, -, hFPort, hFRM, hMIC⟩ := hlaid.split
  rw [frameFCntDown_of_carries hcarries, hcount] at hFCnt hMIC
  rw [if_pos hcarries] at hFPort hFRM
  refine ⟨f, hsplit, ?_, hMIC, ⟨_, hFPort, hport⟩, ?_⟩
  · rw [hFCnt]
    omega
  · rw [hFRM, hpayload, frmPayload_frmPayload]

/-- However messages are lost, repeated and overtaken, by whichever way they come and whatever
happens in between: every frame that is built with a payload is read by the device of an encryption
of the application server as the payload that was encrypted. -/
theorem payload_reaches_device (activemotes : List AppServer.ActiveMote) (next_req_tid : ℕ)
    (rows : List SessionRow) (nextSerial ID devAddr : ℕ) (es : List (Event S))
    (h : Machine.Along (Path.step E A W cfg) (Ready E A)
      (.init activemotes next_req_tid rows nextSerial ID devAddr) es) :
    let p := Machine.run (Path.step E A W cfg)
      (.init activemotes next_req_tid rows nextSerial ID devAddr) es
    ∀ b ∈ p.ledger.built, carriesPayload b.1.before = true →
      ∃ e ∈ p.app.log, ∃ m', b.1.after = some m' ∧ ReadsPayload A b.1.before m' e := by
  intro p b hb hcarries
  have hinit : PathInv A (.init activemotes next_req_tid rows nextSerial ID devAddr) := by
    refine ⟨⟨rfl, NetworkServer.S.zero_wf, ?_⟩, ⟨⟨NetworkServer.S.zero_wf, ?_⟩, rfl, ?_⟩,
      ?_, ?_, ?_⟩
    · intro c hc
      cases hc
    · exact fun h => absurd h (Nat.lt_irrefl 0)
    · intro b hb
      cases hb
    · intro b hb
      cases hb
    · intro r hr
      cases hr
    · intro b hb
      cases hb
  have hinv := Machine.run_invariant (Path.step E A W cfg)
    (fun _ _ hinv hready => pathInv_step E A W cfg hinv hready) hinit h
  have hrequest := hinv.carried b hb hcarries
  obtain ⟨e, he, hcomes⟩ := hinv.built b hb _ hrequest
  have hcall : b.1 ∈ p.ledger.ns.calls := by
    rw [← hinv.ledger.calls]
    exact List.mem_map_of_mem hb
  obtain ⟨m', hafter, hlaid⟩ := hinv.good.calls b.1 hcall
  exact ⟨e, he, m', hafter, readsPayload_of_laidOut A hlaid hcarries hcomes⟩

/-! ### A payload of one octet -/

/-- The application server's row of the device. -/
def sampleMote : AppServer.ActiveMote :=
  { AppServer.soleMote with DevAddr := some sampleDevAddr }

def sampleEncryption : AppServer.Encryption :=
  ⟨0, 0x1122334455667788, List.replicate 16 0x2b, sampleDevAddr, 0, [0x61]⟩

def samplePath : Path := .init [sampleMote] 1 [sampleRow] 1 1 sampleDevAddr

/-- The request is made, arrives by the home server, and the device is heard. -/
def sampleWay : List (Event ℚ) :=
  .app (AppServer.sendOctet 0x61) ::
    .deliver plainDownlink 0 (.viaHome ⟨868, 0, 0, 0⟩) 1
      ⟨0x1122334455667788, Backend.NONE_DEVADDR, 1, false, [0x61]⟩ sampleEncryption ::
    (hears .MTYPE_CONF_UP 0 1).map .net

theorem one_octet_reaches_device :
    ∃ b ∈ (Machine.run (Path.step plainEnv .xorKey noWrap ⟨⟨none, []⟩, 0⟩) samplePath
        sampleWay).ledger.built, ∃ m', b.1.after = some m' ∧
      ReadsPayload .xorKey b.1.before m' sampleEncryption := by
  have hcarries : ∃ b ∈ (Machine.run (Path.step plainEnv .xorKey noWrap ⟨⟨none, []⟩, 0⟩)
      samplePath sampleWay).ledger.built, carriesPayload b.1.before = true := by
    decide +kernel
  have hlog : (Machine.run (Path.step plainEnv .xorKey noWrap ⟨⟨none, []⟩, 0⟩) samplePath
      sampleWay).app.log = [sampleEncryption] := by
    decide +kernel
  obtain ⟨b, hb, hb'⟩ := hcarries
  obtain ⟨e, he, m', hafter, hreads⟩ := payload_reaches_device plainEnv .xorKey noWrap
    ⟨⟨none, []⟩, 0⟩ [sampleMote] 1 [sampleRow] 1 1 sampleDevAddr sampleWay (by decide +kernel) b hb
    hb'
  have hsole : e = sampleEncryption := List.mem_singleton.mp (hlog ▸ he)
  exact ⟨b, hb, m', hafter, hsole ▸ hreads⟩

end Lorawan.EndToEnd

import Lorawan.NetworkServer.AppDownlink
import Lorawan.NetworkServer.TokenRouting

/-!
# Downlinks that wait for the beacon (fNS.c:139-160, 1269-1308, sNS.c:1685-1750)

A class B downlink whose ping slot is past the beacon period is kept in `mote->f`, which holds one
packet. `fNS_beacon_service` sends it and answers: by the roam state it finds then, the requester
that `f` names, or the application of the local sNS.
-/

namespace Lorawan.NetworkServer
open Lorawan Lorawan.Backend

/-! ### The code -/

/-- `f->clientID`, which is freed and not cleared. -/
inductive ClientID
  | null
  | text (str : List Char)
  | freed
deriving DecidableEq

structure f_t where
  beaconDeferred : Bool
  PingPeriod : UInt32
  gw : UInt64
  tx_pkt : lgw_pkt_tx_s
  clientID : ClientID
  reqTid : ℕ
deriving DecidableEq

/-- What `fNS_downlink` writes into `f` when it returns without a result. -/
def f_t.defer (d : Deferral) (f : f_t) : f_t where
  beaconDeferred := true
  PingPeriod := d.PingPeriod
  gw := d.gw
  tx_pkt := d.tx_pkt
  clientID := d.clientID.elim f.clientID .text
  reqTid := if d.clientID.isSome then d.reqTid else f.reqTid

/-- The members of `s->downlink` that name who asked for the application's downlink. -/
structure AppRequester where
  isAnsDestAS : Bool
  /-- `none` for a null pointer. -/
  ansDest_ : Option (List Char)
  reqTid : ℕ
deriving DecidableEq

/-- The server that the text names. -/
def AppRequester.peer (r : AppRequester) : Option Peer :=
  r.ansDest_.bind fun str =>
    if r.isAnsDestAS then some (.AS str) else (Text.scan 16 32 str).map .NS

/-- An answer that is posted: by `fNS_beacon_service` itself, or by `answer_app_downlink`. -/
inductive BeaconAnswer
  | XmitDataAns (clientID : List Char) (reqTid : ℕ) (result : Option Result)
  | app (dest : Peer) (reqTid : ℕ) (result : Option Result)
deriving DecidableEq

/-- A packet given to `gateway_id_write_downlink`. -/
structure Xmit where
  gw : UInt64
  tx_pkt : lgw_pkt_tx_s
deriving DecidableEq

/-- What surrounds a beacon. -/
structure BeaconEnv where
  /-- The roam state that the query gives: none when it fails. -/
  roamState : Option RoamState
  /-- Roam state and partner that `answer_app_downlink` has from a query of its own. -/
  sql : RoamState × ℕ
  /-- `cli_netID` before `sscanf`. -/
  junk : ℕ
  slotCount : gateway_t → UInt16 → UInt32
  wlen : ℤ

structure BeaconOut where
  xmits : List Xmit
  answers : List BeaconAnswer

/-- `sendXmitDataAns` to the text of `clientID`. -/
def answerClient (f : f_t) (result : Option Result) : Except Fault (f_t × List BeaconAnswer) :=
  match f.clientID with
  | .text str => .ok ({ f with clientID := .freed }, [.XmitDataAns str f.reqTid result])
  | _ => .error .undefined

/-- `answer_app_downlink` with what `mote->s` names now. -/
def answerApp (env : BeaconEnv) (s : Option AppRequester) (result : Option Result) :
    Except Fault BeaconAnswer := do
  let r ← deref s
  match env.sql.1 with
  | .sHANDOVER => pure (.app (.NS env.sql.2) r.reqTid result)
  | _ => do
    let ansDest_ ← deref r.ansDest_
    pure (.app (peerOf env.junk r.isAnsDestAS ansDest_) r.reqTid result)

variable (A : BlockCipher) (devAddr : UInt32)

def fNS_beacon_service (env : BeaconEnv) (gateway_list : List gateway_t) (s : Option AppRequester)
    (f : f_t) : Except Fault (f_t × BeaconOut) :=
  if f.beaconDeferred then do
    let f := { f with beaconDeferred := false }
    let gw ← deref (gateway_list.find? fun gw => gw.eui = f.gw)
    let ping_offset ←
      LoRaMacBeaconComputePingOffset A gw.seconds_at_beacon devAddr f.PingPeriod.toUInt16
    let f := { f with tx_pkt := { f.tx_pkt with count_us := env.slotCount gw ping_offset } }
    let result := (sendDeferred gateway_list env.wlen gw.eui f.tx_pkt).result
    let xmits := [⟨gw.eui, f.tx_pkt⟩]
    match env.roamState with
    | none => pure (f, ⟨xmits, []⟩)
    | some .fPASSIVE => do
      let (f, answers) ← answerClient f result
      pure (f, ⟨xmits, answers⟩)
    | some _ => do
      let answer ← answerApp env s result
      pure (f, ⟨xmits, [answer]⟩)
  else .ok (f, ⟨[], []⟩)

/-! ### Runs -/

variable {S : Type}

/-- A downlink that waits; `asked` is what `mote->s` named when the local sNS gave it to the
fNS. -/
structure WaitingDownlink where
  d : Deferral
  asked : Option AppRequester
deriving DecidableEq

/-- `s` is `mote->s`, none for a null pointer. History: `pending` are the downlinks that wait since
the last beacon. -/
structure Deferring where
  gateway_list : List gateway_t
  s : Option AppRequester
  f : f_t
  pending : List WaitingDownlink

def f_t.zero : f_t := ⟨false, 0, 0, ⟨0, 0, 0, 0, 0, 0, 0, 0, false, 0, 0, false, false, [], 0⟩, .null, 0⟩

def Deferring.init : Deferring := ⟨[], none, f_t.zero, []⟩

inductive DeferringEvent (S : Type)
  | message (eui : UInt64) (fd : Descriptor) (content : Content)
  | endOfFile (fd : Descriptor)
  /-- `mote->s` is made, or `hNS_to_sNS_downlink` writes into it who asks. -/
  | request (r : AppRequester)
  /-- `ofSNS`: the call is that of `sNS_phy_downlink_local`. -/
  | downlink (c : Call_fNS S) (ofSNS : Bool)
  | beacon (env : BeaconEnv)

def Call_fNS.deferring (c : Call_fNS S) (s : Deferring) : Except Fault Outcome :=
  fNS_downlink A c.env s.gateway_list c.region_list c.dlmd c.reqTid c.clientID c.txBuf c.txLen

/-- The deferral of a call, when it is for the device. -/
def Call_fNS.deferral (c : Call_fNS S) (s : Deferring) : Option Deferral :=
  match c.deferring A s with
  | .ok o => o.deferred.bind fun d => if d.1 = devAddr then some d.2 else none
  | .error _ => none

def Deferring.step (s : Deferring) : DeferringEvent S → Deferring
  | .message eui fd content =>
    { s with gateway_list := parseMessage eui fd content s.gateway_list }
  | .endOfFile fd => { s with gateway_list := NetworkServer.endOfFile fd s.gateway_list }
  | .request r => { s with s := some r }
  | .downlink c ofSNS =>
    match c.deferral A devAddr s with
    | some d =>
      { s with
        f := s.f.defer d
        pending := s.pending ++ [⟨d, if ofSNS then s.s else none⟩] }
    | none => s
  | .beacon env =>
    match fNS_beacon_service A devAddr env s.gateway_list s.s s.f with
    | .ok (f, _) => { s with f := f, pending := [] }
    | .error _ => { s with pending := [] }

/-! ### What is claimed of a beacon -/

/-- A packet but for the time at which it is sent. -/
def lgw_pkt_tx_s.untimed (p : lgw_pkt_tx_s) : lgw_pkt_tx_s := { p with count_us := 0 }

/-- The answer goes to the one who asked for the downlink, with the TransactionID of the request. -/
def WaitingDownlink.Answers (w : WaitingDownlink) : BeaconAnswer → Prop
  | .XmitDataAns clientID reqTid _ => w.d.clientID = some clientID ∧ w.d.reqTid = reqTid
  | .app dest reqTid _ =>
    w.d.clientID = none ∧ ∃ r, w.asked = some r ∧ r.peer = some dest ∧ r.reqTid = reqTid

/-- Each downlink that waits is sent once, with its packet, and answered once. -/
structure BeaconOut.Serves (out : BeaconOut) (pending : List WaitingDownlink) : Prop where
  xmits : out.xmits.map (fun x => (x.gw, x.tx_pkt.untimed)) =
    pending.map fun w => (w.d.gw, w.d.tx_pkt.untimed)
  answers : List.Forall₂ WaitingDownlink.Answers pending out.answers

def ServedAtBeacon (s : Deferring) : DeferringEvent S → Prop
  | .beacon env =>
    ∃ f out, fNS_beacon_service A devAddr env s.gateway_list s.s s.f = .ok (f, out) ∧
      out.Serves s.pending
  | _ => True

/-- The downlink is for the device, and its ping slot is past the beacon period. -/
def PastPeriod (c : Call_fNS S) (s : Deferring) : Prop :=
  c.dlmd.ClassMode = 'B' ∧ frameDevAddr (c.txBuf.getD []) = devAddr ∧
    ∃ gw region token slot,
      admission c.env s.gateway_list c.region_list c.dlmd c.txBuf c.txLen =
        .ok (some (gw, region, token)) ∧
      pingSlot A c.env gw c.dlmd (frameDevAddr (c.txBuf.getD [])) = .ok slot ∧
      BEACON_WINDOW_SLOTS ≤ slot.toNat

/-- The application's request names a server, which in sHANDOVER is the roaming partner. -/
def BeaconEnv.Reaches (env : BeaconEnv) (r : AppRequester) : Prop :=
  r.peer.isSome ∧ (env.sql.1 = .sHANDOVER → r.peer = some (.NS env.sql.2))

/-- A downlink that has to wait finds nothing waiting, and the application asks for nothing while
one of the local sNS waits. At the beacon the query succeeds, and the roam state is fPASSIVE exactly
when the one that waits came from another server. -/
def OneAtATime (s : Deferring) : DeferringEvent S → Prop
  | .downlink c _ => PastPeriod A devAddr c s → s.f.beaconDeferred = false
  | .request _ => ∀ w ∈ s.pending, w.d.clientID.isSome
  | .beacon env =>
    ∀ w ∈ s.pending, ∃ roamState, env.roamState = some roamState ∧
      (roamState = .fPASSIVE ↔ w.d.clientID.isSome) ∧
        (w.d.clientID = none → ∃ r, w.asked = some r ∧ env.Reaches r)
  | _ => True

/-! ### One downlink that waits -/

theorem mem_euis_parseMessage {eui : UInt64} {fd : Descriptor} {content : Content}
    {gateways : List gateway_t} {e : UInt64} (h : ∃ gw ∈ gateways, gw.eui = e) :
    ∃ gw ∈ parseMessage eui fd content gateways, gw.eui = e := by
  induction gateways with
  | nil =>
    obtain ⟨gw, hgw, -⟩ := h
    cases hgw
  | cons g gateways ih =>
    obtain ⟨gw, hgw, heui⟩ := h
    rw [parseMessage]
    split
    · rcases List.mem_cons.mp hgw with rfl | hmem
      · exact ⟨_, List.mem_cons_self .., (content.apply_eui _).trans heui⟩
      · exact ⟨gw, List.mem_cons_of_mem _ hmem, heui⟩
    · rcases List.mem_cons.mp hgw with rfl | hmem
      · exact ⟨gw, List.mem_cons_self .., heui⟩
      · obtain ⟨gw', hgw', heui'⟩ := ih ⟨gw, hmem, heui⟩
        exact ⟨gw', List.mem_cons_of_mem _ hgw', heui'⟩

theorem mem_euis_endOfFile {fd : Descriptor} {gateways : List gateway_t} {e : UInt64}
    (h : ∃ gw ∈ gateways, gw.eui = e) : ∃ gw ∈ endOfFile fd gateways, gw.eui = e := by
  induction gateways with
  | nil =>
    obtain ⟨gw, hgw, -⟩ := h
    cases hgw
  | cons g gateways ih =>
    obtain ⟨gw, hgw, heui⟩ := h
    rw [endOfFile]
    split
    · rcases List.mem_cons.mp hgw with rfl | hmem
      · exact ⟨_, List.mem_cons_self .., heui⟩
      · exact ⟨gw, List.mem_cons_of_mem _ hmem, heui⟩
    · rcases List.mem_cons.mp hgw with rfl | hmem
      · exact ⟨gw, List.mem_cons_self .., heui⟩
      · obtain ⟨gw', hgw', heui'⟩ := ih ⟨gw, hmem, heui⟩
        exact ⟨gw', List.mem_cons_of_mem _ hgw', heui'⟩

/-- `f` holds what the only downlink that waits brought, and `s` who asked for it. -/
structure Waits (s : Deferring) (w : WaitingDownlink) : Prop where
  pending : s.pending = [w]
  beaconDeferred : s.f.beaconDeferred = true
  PingPeriod : s.f.PingPeriod = w.d.PingPeriod
  gw : s.f.gw = w.d.gw
  tx_pkt : s.f.tx_pkt = w.d.tx_pkt
  clientID : ∀ str, w.d.clientID = some str → s.f.clientID = .text str ∧ s.f.reqTid = w.d.reqTid
  asked : w.d.clientID = none → ∀ r, w.asked = some r → s.s = some r
  divides : w.d.PingPeriod.toUInt16 ≠ 0
  listed : ∃ gw ∈ s.gateway_list, gw.eui = w.d.gw

def AtMostOneWaits (s : Deferring) : Prop :=
  s.f.beaconDeferred = false ∧ s.pending = [] ∨ ∃ w, Waits s w

variable {A} {devAddr}

theorem divides_of_pingSlot {E : RadioEnv S} {gw : gateway_t} {dlmd : DLMetaData_t S}
    {DevAddr : UInt32} {slot : UInt16} (h : pingSlot A E gw dlmd DevAddr = .ok slot) :
    dlmd.PingPeriod.toUInt16 ≠ 0 := by
  intro hzero
  obtain ⟨ping_offset, hoffset, -⟩ := bind_ok_iff.mp h
  rw [LoRaMacBeaconComputePingOffset, if_pos hzero] at hoffset
  cases hoffset

theorem deferral_some {c : Call_fNS S} {s : Deferring} {d : Deferral}
    (h : c.deferral A devAddr s = some d) :
    PastPeriod A devAddr c s ∧ d.PingPeriod.toUInt16 ≠ 0 ∧
      ∃ gw ∈ s.gateway_list, gw.eui = d.gw := by
  rw [Call_fNS.deferral] at h
  split at h
  · rename_i o ho
    obtain ⟨⟨addr, d'⟩, hdef, haddr⟩ := Option.bind_eq_some_iff.mp h
    rw [Option.ite_none_right_eq_some, Option.some.injEq] at haddr
    obtain ⟨haddr, rfl⟩ := haddr
    obtain ⟨found, hadmission, hrest⟩ := bind_ok_iff.mp ho
    cases found with
    | none =>
      rw [← pure_ok_iff.mp hrest] at hdef
      cases hdef
    | some found =>
      obtain ⟨gw, region, token⟩ := found
      obtain ⟨hgw, bs, hbs⟩ := admission_some hadmission
      simp only [hbs, deref_some, ok_bind] at hrest
      split at hrest
      · rename_i hB
        rcases sendPing_cases hrest with ⟨-, rfl⟩ | ⟨-, slot, hslot, hcase⟩
        · cases hdef
        · rcases hcase with ⟨-, rfl⟩ | ⟨hlate, q, rfl⟩ | ⟨-, r, -, rfl⟩
          · cases hdef
          · cases hdef
            refine ⟨⟨hB, ?_, gw, region, token, slot, hadmission, ?_, hlate⟩, ?_, gw, hgw, rfl⟩
            · rw [hbs]
              exact haddr
            · rw [hbs]
              exact hslot
            · exact divides_of_pingSlot hslot
          · cases hdef
      · split at hrest
        · have hsize : (basePacket c.env region (bs.take c.txLen.toNat)).payload.length ≤ 256 :=
            payloadSize_le (some bs) c.txLen
          rw [(sendTX1_ok hgw hsize hrest).1] at hdef
          cases hdef
        · rw [← pure_ok_iff.mp hrest] at hdef
          cases hdef
  · cases h

theorem answerApp_reaches {env : BeaconEnv} {r : AppRequester} (h : env.Reaches r) :
    ∃ dest, r.peer = some dest ∧
      ∀ result, answerApp env (some r) result = .ok (.app dest r.reqTid result) := by
  obtain ⟨hsome, hpartner⟩ := h
  obtain ⟨dest, hdest⟩ := Option.isSome_iff_exists.mp hsome
  unfold answerApp
  simp only [deref_some, ok_bind]
  split
  · rename_i hroam
    exact ⟨_, hpartner hroam, fun _ => rfl⟩
  · obtain ⟨str, hstr, hpeer⟩ := Option.bind_eq_some_iff.mp hdest
    rw [hstr]
    refine ⟨_, hdest.trans ?_, fun _ => rfl⟩
    cases hAS : r.isAnsDestAS with
    | true =>
      rw [hAS, if_pos rfl] at hpeer
      exact hpeer.symm
    | false =>
      rw [hAS, if_neg Bool.false_ne_true] at hpeer
      obtain ⟨NetID, hscan, rfl⟩ := Option.map_eq_some_iff.mp hpeer
      rw [peerOf, if_neg Bool.false_ne_true, hscan]
      rfl

theorem serves_of_waits {s : Deferring} {w : WaitingDownlink} {env : BeaconEnv} (h : Waits s w)
    (hc : OneAtATime A devAddr s (.beacon env : DeferringEvent S)) :
    ∃ f out, fNS_beacon_service A devAddr env s.gateway_list s.s s.f = .ok (f, out) ∧
      f.beaconDeferred = false ∧ out.Serves s.pending := by
  obtain ⟨gw, hmem, heui⟩ := h.listed
  obtain ⟨found, hfind⟩ : ∃ found, s.gateway_list.find? (fun gw => gw.eui = s.f.gw) = some found := by
    apply Option.isSome_iff_exists.mp
    rw [List.find?_isSome]
    exact ⟨gw, hmem, decide_eq_true (heui.trans h.gw.symm)⟩
  have hfound : found.eui = w.d.gw := by
    have hf : found.eui = s.f.gw := by simpa using List.find?_some hfind
    exact hf.trans h.gw
  have hdivides : ¬ s.f.PingPeriod.toUInt16 = 0 := by
    rw [h.PingPeriod]
    exact h.divides
  obtain ⟨roamState, hroam, hpassive, hasked⟩ :=
    hc w (by rw [h.pending]; exact List.mem_singleton_self w)
  rw [fNS_beacon_service, if_pos h.beaconDeferred]
  simp only [hfind, deref_some, ok_bind, LoRaMacBeaconComputePingOffset, if_neg hdivides, hroam,
    h.pending]
  cases hclient : w.d.clientID with
  | none =>
    obtain ⟨r, hr, hreaches⟩ := hasked hclient
    have hhome : roamState ≠ .fPASSIVE := by
      intro hfNS
      have hother := hpassive.mp hfNS
      rw [hclient] at hother
      cases hother
    obtain ⟨dest, hdest, hanswer⟩ := answerApp_reaches hreaches
    rw [h.asked hclient r hr]
    split
    · rename_i hnone
      cases hnone
    · rename_i hfNS
      exact absurd (Option.some.inj hfNS) hhome
    · simp only [hanswer, ok_bind]
      refine ⟨_, _, rfl, rfl, ?_, ?_⟩
      · simp [hfound, h.tx_pkt, lgw_pkt_tx_s.untimed]
      · exact List.Forall₂.cons ⟨hclient, r, hr, hdest, rfl⟩ List.Forall₂.nil
  | some str =>
    obtain ⟨htext, htid⟩ := h.clientID str hclient
    obtain rfl : roamState = .fPASSIVE := hpassive.mpr (by rw [hclient]; rfl)
    simp only [answerClient, htext, ok_bind]
    refine ⟨_, _, rfl, rfl, ?_, ?_⟩
    · simp [hfound, h.tx_pkt, lgw_pkt_tx_s.untimed]
    · exact List.Forall₂.cons ⟨hclient, htid.symm⟩ List.Forall₂.nil

theorem waits_step {s : Deferring} {e : DeferringEvent S} (h : AtMostOneWaits s)
    (hc : OneAtATime A devAddr s e) :
    AtMostOneWaits (s.step A devAddr e) ∧ ServedAtBeacon A devAddr s e := by
  cases e with
  | message eui fd content =>
    refine ⟨h.imp id ?_, trivial⟩
    rintro ⟨w, hw⟩
    exact ⟨w, { hw with listed := mem_euis_parseMessage hw.listed }⟩
  | endOfFile fd =>
    refine ⟨h.imp id ?_, trivial⟩
    rintro ⟨w, hw⟩
    exact ⟨w, { hw with listed := mem_euis_endOfFile hw.listed }⟩
  | request r =>
    refine ⟨h.imp id ?_, trivial⟩
    rintro ⟨w, hw⟩
    have hother := hc w (by rw [hw.pending]; exact List.mem_singleton_self w)
    refine ⟨w, { hw with asked := fun hnone => ?_ }⟩
    rw [hnone] at hother
    cases hother
  | downlink c ofSNS =>
    refine ⟨?_, trivial⟩
    rw [Deferring.step]
    cases hdef : c.deferral A devAddr s with
    | none => exact h
    | some d =>
      obtain ⟨hpast, hdivides, hlisted⟩ := deferral_some hdef
      have hfree := hc hpast
      rcases h with ⟨-, hnil⟩ | ⟨w, hw⟩
      · refine Or.inr ⟨⟨d, if ofSNS then s.s else none⟩, ?_⟩
        exact
          { pending := by simp [hnil]
            beaconDeferred := rfl
            PingPeriod := rfl
            gw := rfl
            tx_pkt := rfl
            clientID := fun str hstr => by
              dsimp only at hstr
              simp [f_t.defer, hstr]
            asked := fun _ r hr => (Option.ite_none_right_eq_some.mp hr).2
            divides := hdivides
            listed := hlisted }
      · rw [hw.beaconDeferred] at hfree
        cases hfree
  | beacon env =>
    rcases h with ⟨hidle, hnil⟩ | ⟨w, hw⟩
    · have hservice : fNS_beacon_service A devAddr env s.gateway_list s.s s.f =
          .ok (s.f, ⟨[], []⟩) := by
        rw [fNS_beacon_service, hidle]
        rfl
      constructor
      · rw [Deferring.step, hservice]
        exact Or.inl ⟨hidle, rfl⟩
      · refine ⟨s.f, ⟨[], []⟩, hservice, ?_, ?_⟩
        · simp [hnil]
        · rw [hnil]
          exact List.Forall₂.nil
    · obtain ⟨f, out, hservice, hidle, hserves⟩ := serves_of_waits hw hc
      constructor
      · rw [Deferring.step, hservice]
        exact Or.inl ⟨hidle, rfl⟩
      · exact ⟨f, out, hservice, hserves⟩

/-- A class B downlink of another server, late in the beacon period. -/
def pingRequest (clientID : List Char) (reqTid : ℕ) : Call_fNS ℕ where
  env := { sampleRadio 42 with now_pingslot := fun _ => 4100 }
  region_list := [sampleRegion]
  dlmd := { sampleDownlink with ClassMode := 'B', PingPeriod := 128 }
  reqTid := reqTid
  clientID := some clientID
  txBuf := some sampleFrame
  txLen := 12

def passiveBeacon : BeaconEnv :=
  ⟨some .fPASSIVE, (.NONE, 0), 0, fun _ slot => slot.toUInt32, 42⟩

/-- The gateway is there, and the requests come in this order. -/
def pingRequests (cs : List (Call_fNS ℕ)) : List (DeferringEvent ℕ) :=
  .message 1 sampleDescriptor (.region (some .EU868)) :: cs.map (.downlink · false)

def afterRequests (cs : List (Call_fNS ℕ)) : Deferring :=
  Machine.run (Deferring.step BlockCipher.xorKey 0) Deferring.init (pingRequests cs)

def answersAt (env : BeaconEnv) (s : Deferring) : Except Fault (List BeaconAnswer) :=
  (fNS_beacon_service BlockCipher.xorKey 0 env s.gateway_list s.s s.f).map fun r => r.2.answers

def twoRequests : List (Call_fNS ℕ) := [pingRequest ['6'] 7, pingRequest ['8'] 9]

/-- An application server that asked before. -/
def appRequester : AppRequester := ⟨true, some ['h'], 3⟩

end Lorawan.NetworkServer

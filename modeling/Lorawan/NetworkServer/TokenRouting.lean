import Lorawan.Lib.Machine
import Lorawan.NetworkServer.GatewayDownlink

/-!
# The gateway that a token names (fNS.c:43-77, 468-504, gateway.c:907-943, 1098-1113)

The token of an uplink is the descriptor of the connection that brought it, and some of what its
gateway holds, in hexadecimal. A downlink with the token goes to the last listed gateway that has
the descriptor at that time. The operating system gives a descriptor again once it is closed; when a
connection ends otherwise than by its end of file, the gateway keeps it in the list.
-/

namespace Lorawan.NetworkServer
open Lorawan Lorawan.Backend

/-! ### The list of gateways -/

/-- A descriptor of an open connection. -/
abbrev Descriptor := { fd : Int32 // 0 ≤ fd }

/-- What a message brings for the token: the region when the gateway is configured, the time of a
beacon. -/
inductive Content
  | region (r : Option Region)
  | beacon (seconds tstamp trigcnt : UInt32) (ch : UInt8)
  | other

def Content.apply : Content → gateway_t → gateway_t
  | region r, gw => { gw with RFRegion := r }
  | beacon seconds tstamp trigcnt ch, gw =>
    { gw with
      seconds_at_beacon := seconds
      tstamp_at_beacon := tstamp
      lgw_trigcnt_at_next_beacon := trigcnt
      beacon_ch := ch }
  | other, gw => gw

def create_gateway (eui : UInt64) (fd : Int32) : gateway_t := ⟨eui, fd, none, 0, 0, 0, 0⟩

/-- The gateway is looked for, or added at the end; it has the descriptor then. -/
def parseMessage (eui : UInt64) (fd : Descriptor) (content : Content) :
    List gateway_t → List gateway_t
  | [] => [content.apply (create_gateway eui fd)]
  | gw :: gateways =>
    if gw.eui = eui then content.apply { gw with fd := fd } :: gateways
    else gw :: parseMessage eui fd content gateways

/-- The end of file: the first gateway with the descriptor. -/
def endOfFile (fd : Descriptor) : List gateway_t → List gateway_t
  | [] => []
  | gw :: gateways =>
    if gw.fd = fd then { gw with fd := -1 } :: gateways else gw :: endOfFile fd gateways

/-! ### Tokens -/

/-- `ult` of an uplink that the gateway received. -/
def ultOctets (gw : gateway_t) (count_us : UInt32) : Octets :=
  le32 gw.fd.toUInt32 ++ le32 count_us ++ le32 gw.seconds_at_beacon ++ le32 gw.tstamp_at_beacon ++
    le32 gw.lgw_trigcnt_at_next_beacon ++ [gw.beacon_ch]

/-- History: an uplink, and whether another gateway came through its descriptor since. -/
structure Issued where
  /-- The gateway as it was. -/
  gateway : gateway_t
  count_us : UInt32
  reused : Bool

def Issued.ultstr (i : Issued) : List Char := Text.printOctets (ultOctets i.gateway i.count_us)

structure Routing where
  gateway_list : List gateway_t
  issued : List Issued

/-- What the server has when it starts. -/
def Routing.init : Routing := ⟨[], []⟩

variable {S : Type}

/-- A call of `fNS_downlink`. -/
structure Call_fNS (S : Type) where
  env : RadioEnv S
  region_list : List region_t
  dlmd : DLMetaData_t S
  reqTid : ℕ
  clientID : Option (List Char)
  txBuf : Option Octets
  txLen : UInt8

inductive RoutingEvent (S : Type)
  | message (eui : UInt64) (fd : Descriptor) (content : Content)
  | uplink (eui : UInt64) (fd : Descriptor) (count_us : UInt32)
  | endOfFile (fd : Descriptor)
  /-- A connection that is closed and stays in the list. -/
  | dropped (fd : Descriptor)
  | downlink (c : Call_fNS S)

def Issued.mark (eui : UInt64) (fd : Descriptor) (i : Issued) : Issued :=
  { i with reused := i.reused || decide (i.gateway.fd = fd ∧ i.gateway.eui ≠ eui) }

def Routing.receive (eui : UInt64) (fd : Descriptor) (content : Content) (r : Routing) : Routing :=
  ⟨parseMessage eui fd content r.gateway_list, r.issued.map (Issued.mark eui fd)⟩

def Routing.step (r : Routing) : RoutingEvent S → Routing
  | .message eui fd content => r.receive eui fd content
  | .uplink eui fd count_us =>
    let r := r.receive eui fd .other
    match r.gateway_list.find? fun gw => gw.eui = eui with
    | some gw => { r with issued := r.issued ++ [⟨gw, count_us, false⟩] }
    | none => r
  | .endOfFile fd => { r with gateway_list := NetworkServer.endOfFile fd r.gateway_list }
  | .dropped _ => r
  | .downlink _ => r

def Call_fNS.outcome (A : BlockCipher) (c : Call_fNS S) (r : Routing) : Except Fault Outcome :=
  fNS_downlink A c.env r.gateway_list c.region_list c.dlmd c.reqTid c.clientID c.txBuf c.txLen

/-! ### What is claimed of a downlink -/

/-- The gateways that get a packet now or at the beacon. -/
def Outcome.sentTo (o : Outcome) : List UInt64 :=
  o.writes.map Write.eui ++ (o.deferred.map fun d => d.2.gw).toList

/-- All is sent to the gateway, or the downlink is refused. -/
def Outcome.RoutedTo (o : Outcome) (eui : UInt64) (packets : ℕ) : Prop :=
  (∀ e ∈ o.sentTo, e = eui) ∧ (o.result = some .XmitFailed ∨ packets ≤ o.sentTo.length)

/-- Nothing is sent, and nothing behind the end of the token is read. -/
def Refuses (x : Except Fault Outcome) : Prop :=
  ∃ o, x = .ok o ∧ o.result = some .XmitFailed ∧ o.sentTo = []

/-- A token of an uplink leads to its gateway; another is refused. -/
def Routed (A : BlockCipher) (r : Routing) : RoutingEvent S → Prop
  | .downlink c => ∀ str, c.dlmd.FNSULToken = some str →
    (∀ i ∈ r.issued, i.ultstr = str → ∀ o, c.outcome A r = .ok o →
      o.RoutedTo i.gateway.eui (planned c.env c.dlmd)) ∧
    ((∀ i ∈ r.issued, i.ultstr ≠ str) → Refuses (c.outcome A r))
  | _ => True

/-- An uplink comes through a descriptor that no other gateway has in the list. A downlink presents
the token of an uplink whose descriptor no other gateway used since, or one of 40 characters at
least that names a descriptor which no gateway has. -/
def DescriptorsApart (r : Routing) : RoutingEvent S → Prop
  | .uplink eui fd _ => ∀ gw ∈ r.gateway_list, gw.fd = fd → gw.eui = eui
  | .downlink c => ∀ str, c.dlmd.FNSULToken = some str →
    (∀ i ∈ r.issued, i.ultstr = str → i.reused = false) ∧
    ((∀ i ∈ r.issued, i.ultstr ≠ str) → 40 ≤ str.length ∧
      ∀ octets, readTokenOctets c.env.junk str = .ok octets →
        ∀ gw ∈ r.gateway_list, gw.fd ≠ (ULToken_t.ofOctets octets).fd)
  | _ => True

/-! ### Reading a token -/

theorem mapM_ok {α β : Type} {f : α → Except Fault β} {g : α → β} {l : List α}
    (h : ∀ a ∈ l, f a = .ok (g a)) : l.mapM f = .ok (l.map g) := by
  induction l with
  | nil => rfl
  | cons a l ih =>
    have hrest := ih fun b hb => h b (List.mem_cons_of_mem a hb)
    rw [List.mapM_cons, h a (List.mem_cons_self ..), ok_bind, hrest, ok_bind, List.map_cons]
    rfl

/-- Forty characters are enough: the last pair may be missing. -/
theorem readTokenOctets_ok (junk : ℕ → UInt8) {str : List Char} (h : 40 ≤ str.length) :
    ∃ octets, readTokenOctets junk str = .ok octets := by
  refine ⟨_, mapM_ok (g := fun i => ((Text.scan2 (str.drop (2 * i))).map UInt8.ofNat).getD (junk i))
    fun i hi => ?_⟩
  have hlt := List.mem_range.mp hi
  rw [readTokenOctet, if_pos (by omega)]

theorem readTokenOctets_print (junk : ℕ → UInt8) {bs : Octets} (h : bs.length = 21) :
    readTokenOctets junk (Text.printOctets bs) = .ok bs := by
  have hoctet : ∀ i ∈ List.range 21,
      readTokenOctet junk (Text.printOctets bs) i = .ok (bs.getD i 0) := by
    intro i hi
    have hlt := List.mem_range.mp hi
    have hsize := Text.printOctets_length bs
    rw [readTokenOctet, if_pos (by omega), Text.drop_printOctets,
      List.drop_eq_getElem_cons (by omega : i < bs.length)]
    have hscan := Text.scan2_print2 bs[i] (Text.printOctets (bs.drop (i + 1)))
    rw [Text.printOctets, List.flatMap_cons, ← Text.printOctets, hscan, Option.getD_some,
      List.getD_eq_getElem?_getD, List.getElem?_eq_getElem (by omega), Option.getD_some]
  rw [readTokenOctets, mapM_ok hoctet]
  congr 1
  apply List.ext_getElem
  · simp [h]
  · intro i hi hi'
    simp [List.getD_eq_getElem?_getD, List.getElem?_eq_getElem hi']

theorem ultOctets_length (gw : gateway_t) (count_us : UInt32) :
    (ultOctets gw count_us).length = 21 := by
  simp [ultOctets]

theorem fd_ofOctets (gw : gateway_t) (count_us : UInt32) :
    (ULToken_t.ofOctets (ultOctets gw count_us)).fd = gw.fd := by
  have hslice : Octets.slice (ultOctets gw count_us) 0 4 = le32 gw.fd.toUInt32 := by
    rw [Octets.slice, List.drop_zero, ultOctets, List.append_assoc, List.append_assoc,
      List.append_assoc, List.append_assoc]
    exact List.take_left' (le32_length _)
  have hnat : Octets.toNat (le32 gw.fd.toUInt32) = gw.fd.toUInt32.toNat := by
    rw [le32, Octets.toNat_ofNat]
    exact Nat.mod_eq_of_lt gw.fd.toUInt32.toNat_lt
  rw [ULToken_t.ofOctets, hslice, hnat, UInt32.ofNat_toNat, Int32.toInt32_toUInt32]

theorem readTokenOctets_ultstr (junk : ℕ → UInt8) (i : Issued) :
    readTokenOctets junk i.ultstr = .ok (ultOctets i.gateway i.count_us) :=
  readTokenOctets_print junk (ultOctets_length ..)

/-! ### Where packets go -/

theorem to_gateway_id (gateway_list : List gateway_t) (wlen : ℤ) (eui : UInt64)
    (p : lgw_pkt_tx_s) : ∀ w ∈ (gateway_id_write_downlink gateway_list wlen eui p).2, w.eui = eui := by
  intro w hw
  rw [gateway_id_write_downlink] at hw
  split at hw
  · rename_i found hfound
    have heui : found.eui = eui := by simpa using List.find?_some hfound
    rw [gateway_write_downlink] at hw
    dsimp only at hw
    split at hw
    · cases hw
    · have hone : w = ⟨found.eui, found.fd, userBuf p, wlen⟩ := by
        split at hw
        · exact List.mem_singleton.mp hw
        · split at hw <;> exact List.mem_singleton.mp hw
      rw [hone]
      exact heui
  · cases hw

theorem RoutedTo.of_writes {result : Option Result} {writes : List Write} {eui : UInt64}
    {packets : ℕ} (hto : ∀ w ∈ writes, w.eui = eui)
    (hlen : result = some .XmitFailed ∨ packets ≤ writes.length) :
    Outcome.RoutedTo ⟨result, writes, none⟩ eui packets := by
  constructor
  · intro e he
    simp only [Outcome.sentTo, Option.map_none, Option.toList_none, List.append_nil,
      List.mem_map] at he
    obtain ⟨w, hw, rfl⟩ := he
    exact hto w hw
  · simpa [Outcome.sentTo] using hlen

section

variable {E : RadioEnv S} {gateway_list : List gateway_t} {gw : gateway_t} {region : region_t}
  {dlmd : DLMetaData_t S} {token : ULToken_t} {o : Outcome}

theorem sendTX2_routed (hgw : gw ∈ gateway_list) {writes : List Write} {p : lgw_pkt_tx_s}
    (hsize : p.payload.length ≤ 256) (hto : ∀ w ∈ writes, w.eui = gw.eui)
    (h : sendTX2 E gateway_list gw region dlmd token writes p = .ok o) :
    o.RoutedTo gw.eui (writes.length + (E.given dlmd.DLFreq2).toNat) := by
  rcases sendTX2_cases h with ⟨-, -, rfl⟩ | ⟨hgiven, -, r, hsame, rfl⟩ | ⟨hgiven, rfl⟩
  · exact RoutedTo.of_writes hto (Or.inl rfl)
  · have hone := (complete_write ⟨gw, hgw, rfl⟩ (E.wlen writes.length) (hsame ▸ hsize)).1
    apply RoutedTo.of_writes
    · intro w hw
      rcases List.mem_append.mp hw with hw | hw
      · exact hto w hw
      · exact to_gateway_id _ _ _ _ w hw
    · rw [List.length_append, hone, hgiven]
      exact Or.inr (le_refl _)
  · apply RoutedTo.of_writes hto
    rw [hgiven]
    exact Or.inr (le_refl _)

theorem sendTX1_routed (hgw : gw ∈ gateway_list) {p : lgw_pkt_tx_s}
    (hsize : p.payload.length ≤ 256)
    (h : sendTX1 E gateway_list gw region dlmd token p = .ok o) :
    o.RoutedTo gw.eui ((E.given dlmd.DLFreq1).toNat + (E.given dlmd.DLFreq2).toNat) := by
  rcases sendTX1_cases hgw h with ⟨-, -, rfl⟩ | ⟨hgiven, -, r, hsame, h2⟩ | ⟨hgiven, h2⟩
  · exact RoutedTo.of_writes (by simp) (Or.inl rfl)
  · have hone := (complete_write ⟨gw, hgw, rfl⟩ (E.wlen 0) (hsame ▸ hsize)).1
    have hto := to_gateway_id gateway_list (E.wlen 0) gw.eui r
    have hrouted := sendTX2_routed hgw (hsame ▸ hsize) hto h2
    rw [hgiven]
    rwa [hone] at hrouted
  · have hrouted := sendTX2_routed hgw hsize (by simp) h2
    rwa [hgiven]

variable {A : BlockCipher} {reqTid : ℕ} {clientID : Option (List Char)}

theorem sendPing_routed (hgw : gw ∈ gateway_list) {txBuf : Octets} {p : lgw_pkt_tx_s}
    (hsize : p.payload.length ≤ 256)
    (h : sendPing A E gateway_list gw region dlmd reqTid clientID txBuf p = .ok o) :
    o.RoutedTo gw.eui 1 := by
  rcases sendPing_cases h with ⟨-, rfl⟩ | ⟨-, slot, -, hcase⟩
  · exact RoutedTo.of_writes (by simp) (Or.inl rfl)
  · rcases hcase with ⟨-, rfl⟩ | ⟨-, q, rfl⟩ | ⟨-, r, hsame, rfl⟩
    · exact RoutedTo.of_writes (by simp) (Or.inl rfl)
    · constructor
      · simp [Outcome.sentTo]
      · exact Or.inr (by simp [Outcome.sentTo])
    · have hone := (complete_write ⟨gw, hgw, rfl⟩ (E.wlen 0) (hsame ▸ hsize)).1
      exact RoutedTo.of_writes (to_gateway_id _ _ _ _) (Or.inr (le_of_eq hone.symm))

variable {region_list : List region_t} {txBuf : Option Octets} {txLen : UInt8}

theorem routedTo_of_admission
    (hadmission : admission E gateway_list region_list dlmd txBuf txLen = .ok (some (gw, region, token)))
    (h : fNS_downlink A E gateway_list region_list dlmd reqTid clientID txBuf txLen = .ok o) :
    o.RoutedTo gw.eui (planned E dlmd) := by
  obtain ⟨hgw, bs, rfl⟩ := admission_some hadmission
  have hsize : (basePacket E region (bs.take txLen.toNat)).payload.length ≤ 256 :=
    payloadSize_le (some bs) txLen
  rw [fNS_downlink, hadmission] at h
  simp only [ok_bind, deref_some] at h
  rw [planned]
  split at h
  · rename_i hB
    rw [if_pos hB]
    exact sendPing_routed hgw hsize h
  · rename_i hB
    rw [if_neg hB]
    split at h
    · exact sendTX1_routed hgw hsize h
    · rw [← pure_ok_iff.mp h]
      exact RoutedTo.of_writes (by simp) (Or.inl rfl)

theorem failed_of_admission (hadmission : admission E gateway_list region_list dlmd txBuf txLen = .ok none) :
    fNS_downlink A E gateway_list region_list dlmd reqTid clientID txBuf txLen =
      .ok (.failed []) := by
  rw [fNS_downlink, hadmission]
  rfl

theorem admission_token {str : List Char} {octets : Octets} (hstr : dlmd.FNSULToken = some str)
    (hread : readTokenOctets E.junk str = .ok octets) :
    admission E gateway_list region_list dlmd txBuf txLen = .ok none ∨
      ∃ gw region, admission E gateway_list region_list dlmd txBuf txLen =
          .ok (some (gw, region, ULToken_t.ofOctets octets)) ∧
        gw ∈ gateway_list ∧ gw.fd = (ULToken_t.ofOctets octets).fd := by
  rw [admission, hstr]
  split
  · exact Or.inl rfl
  · split
    · exact Or.inl rfl
    · simp only [hread, ok_bind]
      split
      · exact Or.inl rfl
      · rename_i gw hgw
        obtain ⟨hmem, hfd⟩ := lastMatch_some hgw
        split
        · exact Or.inl rfl
        · split
          · exact Or.inl rfl
          · exact Or.inr ⟨gw, _, rfl, hmem, of_decide_eq_true hfd⟩

end

/-! ### Tokens whose descriptor no other gateway used -/

@[simp] theorem Content.apply_eui (content : Content) (gw : gateway_t) :
    (content.apply gw).eui = gw.eui := by
  cases content <;> rfl

@[simp] theorem Content.apply_fd (content : Content) (gw : gateway_t) :
    (content.apply gw).fd = gw.fd := by
  cases content <;> rfl

theorem mem_parseMessage {eui : UInt64} {fd : Descriptor} {content : Content}
    {gateways : List gateway_t} {gw : gateway_t} (h : gw ∈ parseMessage eui fd content gateways) :
    gw.eui = eui ∧ gw.fd = fd ∨ gw ∈ gateways := by
  induction gateways with
  | nil =>
    rw [parseMessage, List.mem_singleton] at h
    rw [h]
    exact Or.inl ⟨content.apply_eui _, content.apply_fd _⟩
  | cons g gateways ih =>
    rw [parseMessage] at h
    split at h
    · rename_i heui
      rcases List.mem_cons.mp h with rfl | hmem
      · exact Or.inl ⟨(content.apply_eui _).trans heui, content.apply_fd _⟩
      · exact Or.inr (List.mem_cons_of_mem g hmem)
    · rcases List.mem_cons.mp h with rfl | hmem
      · exact Or.inr (List.mem_cons_self ..)
      · exact (ih hmem).imp id (List.mem_cons_of_mem g)

theorem find_parseMessage (eui : UInt64) (fd : Descriptor) (content : Content)
    (gateways : List gateway_t) :
    ∃ gw, (parseMessage eui fd content gateways).find? (fun gw => gw.eui = eui) = some gw ∧
      gw.eui = eui ∧ gw.fd = fd := by
  induction gateways with
  | nil =>
    refine ⟨content.apply (create_gateway eui fd), ?_, content.apply_eui _, content.apply_fd _⟩
    exact List.find?_cons_of_pos (decide_eq_true (content.apply_eui (create_gateway eui fd)))
  | cons g gateways ih =>
    rw [parseMessage]
    split
    · rename_i heui
      have hsame := (content.apply_eui { g with fd := fd }).trans heui
      exact ⟨_, List.find?_cons_of_pos (decide_eq_true hsame), hsame, content.apply_fd _⟩
    · rename_i hne
      obtain ⟨gw, hfind, hgw⟩ := ih
      exact ⟨gw, by simp [hne, hfind], hgw⟩

theorem mem_endOfFile {fd : Descriptor} {gateways : List gateway_t} {gw : gateway_t}
    (h : gw ∈ endOfFile fd gateways) : gw.fd = -1 ∨ gw ∈ gateways := by
  induction gateways with
  | nil => cases h
  | cons g gateways ih =>
    rw [endOfFile] at h
    split at h
    · rcases List.mem_cons.mp h with rfl | hmem
      · exact Or.inl rfl
      · exact Or.inr (List.mem_cons_of_mem g hmem)
    · rcases List.mem_cons.mp h with rfl | hmem
      · exact Or.inr (List.mem_cons_self ..)
      · exact (ih hmem).imp id (List.mem_cons_of_mem g)

/-- The descriptor of a token is its gateway's, or nobody's. -/
def TokensLead (r : Routing) : Prop :=
  ∀ i ∈ r.issued, 0 ≤ i.gateway.fd ∧
    (i.reused = false → ∀ gw ∈ r.gateway_list, gw.fd = i.gateway.fd → gw.eui = i.gateway.eui)

theorem tokensLead_receive {r : Routing} (h : TokensLead r) (eui : UInt64) (fd : Descriptor)
    (content : Content) : TokensLead (r.receive eui fd content) := by
  intro i hi
  obtain ⟨j, hj, rfl⟩ := List.mem_map.mp hi
  obtain ⟨hpos, hlead⟩ := h j hj
  refine ⟨hpos, fun hreused gw hgw hfd => ?_⟩
  simp only [Issued.mark, Bool.or_eq_false_iff, decide_eq_false_iff_not, not_and, not_not] at hreused hfd ⊢
  rcases mem_parseMessage hgw with ⟨hgweui, hgwfd⟩ | hmem
  · exact hgweui.trans (hreused.2 (hfd.symm.trans hgwfd)).symm
  · exact hlead hreused.1 gw hmem hfd

theorem tokensLead_step {r : Routing} {e : RoutingEvent S} (h : TokensLead r)
    (hc : DescriptorsApart r e) : TokensLead (r.step e) := by
  cases e with
  | message eui fd content => exact tokensLead_receive h eui fd content
  | uplink eui fd count_us =>
    have hreceive := tokensLead_receive h eui fd .other
    obtain ⟨gw, hfind, heui, hfd⟩ := find_parseMessage eui fd .other r.gateway_list
    have hstep : r.step (.uplink eui fd count_us : RoutingEvent S) =
        { r.receive eui fd .other with
          issued := (r.receive eui fd .other).issued ++ [⟨gw, count_us, false⟩] } := by
      rw [Routing.step]
      simp only [Routing.receive, hfind]
    rw [hstep]
    intro i hi
    rcases List.mem_append.mp hi with hi | hi
    · exact hreceive i hi
    · rw [List.mem_singleton.mp hi]
      refine ⟨by rw [hfd]; exact fd.property, fun _ g hg hgfd => ?_⟩
      rcases mem_parseMessage hg with ⟨hgeui, -⟩ | hmem
      · exact hgeui.trans heui.symm
      · exact (hc g hmem (hgfd.trans hfd)).trans heui.symm
  | endOfFile fd =>
    intro i hi
    obtain ⟨hpos, hlead⟩ := h i hi
    refine ⟨hpos, fun hreused gw hgw hfd => ?_⟩
    rcases mem_endOfFile hgw with hnone | hmem
    · rw [← hfd, hnone] at hpos
      exact absurd hpos (by decide)
    · exact hlead hreused gw hmem hfd
  | dropped fd => exact h
  | downlink c => exact h

theorem routed_of_tokensLead (A : BlockCipher) {r : Routing} {e : RoutingEvent S}
    (h : TokensLead r) (hc : DescriptorsApart r e) : Routed A r e := by
  cases e with
  | downlink c =>
    intro str hstr
    obtain ⟨hissued, hother⟩ := hc str hstr
    constructor
    · intro i hi hultstr o ho
      have hread : readTokenOctets c.env.junk str = .ok (ultOctets i.gateway i.count_us) := by
        rw [← hultstr]
        exact readTokenOctets_ultstr c.env.junk i
      have hadmission := @admission_token _ c.env r.gateway_list c.dlmd c.region_list c.txBuf c.txLen _ _
        hstr hread
      rcases hadmission with hnone | ⟨gw, region, hadmission, hmem, hfd⟩
      · rw [Call_fNS.outcome, failed_of_admission hnone] at ho
        cases ho
        exact RoutedTo.of_writes (by simp) (Or.inl rfl)
      · have heui := (h i hi).2 (hissued i hi hultstr) gw hmem (hfd.trans (fd_ofOctets ..))
        rw [← heui]
        exact routedTo_of_admission hadmission ho
    · intro hne
      obtain ⟨hlen, hunlisted⟩ := hother hne
      obtain ⟨octets, hread⟩ := readTokenOctets_ok c.env.junk hlen
      have hnone : admission c.env r.gateway_list c.region_list c.dlmd c.txBuf c.txLen = .ok none := by
        rcases admission_token hstr hread with hnone | ⟨gw, region, -, hmem, hfd⟩
        · exact hnone
        · exact absurd hfd (hunlisted octets hread gw hmem)
      exact ⟨_, failed_of_admission hnone, rfl, rfl⟩
  | message eui fd content => trivial
  | uplink eui fd count_us => trivial
  | endOfFile fd => trivial
  | dropped fd => trivial

/-- As long as no gateway takes over a descriptor whose tokens are still presented, and no other
token names a descriptor in use, each downlink goes to the gateway of its uplink or is refused. -/
theorem routed_of_descriptorsApart (A : BlockCipher) (es : List (RoutingEvent S))
    (h : Machine.Along Routing.step DescriptorsApart Routing.init es) :
    Machine.Along Routing.step (Routed A) Routing.init es := by
  have hinit : TokensLead Routing.init := by
    intro i hi
    cases hi
  have hstep : ∀ (r : Routing) (e : RoutingEvent S), TokensLead r → DescriptorsApart r e →
      TokensLead (r.step e) ∧ Routed A r e :=
    fun r e hlead hc => ⟨tokensLead_step hlead hc, routed_of_tokensLead A hlead hc⟩
  exact Machine.along_of_invariant Routing.step hstep hinit h

/-! ### A descriptor that is given again -/

def sampleDescriptor : Descriptor := ⟨5, by decide⟩

/-- The downlink of the sample, with some token. -/
def presents (str : List Char) : Call_fNS ℕ where
  env := sampleRadio 42
  region_list := [sampleRegion]
  dlmd := { sampleDownlink with FNSULToken := some str }
  reqTid := 0
  clientID := none
  txBuf := some sampleFrame
  txLen := 12

/-- An uplink of gateway 1 through the descriptor. -/
def firstUplink : List (RoutingEvent ℕ) :=
  [.message 1 sampleDescriptor (.region (some .EU868)), .uplink 1 sampleDescriptor 0]

/-- The connection ends, and gateway 2 gets the descriptor. -/
def takenOver : List (RoutingEvent ℕ) :=
  firstUplink ++ [.endOfFile sampleDescriptor,
    .message 2 sampleDescriptor (.region (some .EU868))]

/-- The downlink that presents the token of gateway 1 is sent to gateway 2, with Success; a token of
two characters is read behind its end. -/
theorem token_leads_to_other_gateway :
    ((Machine.run Routing.step Routing.init takenOver).issued.map fun i =>
        (i.ultstr, i.gateway.eui)) = [(sampleToken, 1)] ∧
      (∃ o, (presents sampleToken).outcome BlockCipher.xorKey
          (Machine.run Routing.step Routing.init takenOver) = .ok o ∧
        o.sentTo = [2] ∧ o.result = some .Success) ∧
      (presents ['0', '5']).outcome BlockCipher.xorKey
          (Machine.run Routing.step Routing.init takenOver) = .error .undefined ∧
      ¬ Machine.Along Routing.step (Routed BlockCipher.xorKey) Routing.init
          (takenOver ++ [.downlink (presents sampleToken)]) := by
  have hissued : ((Machine.run Routing.step Routing.init takenOver).issued.map fun i =>
      (i.ultstr, i.gateway.eui)) = [(sampleToken, 1)] := by decide
  have hsent : ∃ o, (presents sampleToken).outcome BlockCipher.xorKey
      (Machine.run Routing.step Routing.init takenOver) = .ok o ∧
        o.sentTo = [2] ∧ o.result = some .Success := ⟨_, rfl, rfl, rfl⟩
  refine ⟨hissued, hsent, rfl, fun h => ?_⟩
  obtain ⟨o, ho, hto, -⟩ := hsent
  have hrouted := ((Machine.along_append _ _ _ _ _).mp h).2.1 sampleToken rfl
  generalize hi : (Machine.run Routing.step Routing.init takenOver).issued = is at hissued hrouted
  obtain ⟨i, rfl, hpair⟩ := List.map_eq_singleton_iff.mp hissued
  obtain ⟨hstr, heui⟩ := Prod.mk.inj hpair
  have hone := (hrouted.1 i (List.mem_singleton_self i) hstr o ho).1 2 (by simp [hto])
  rw [heui] at hone
  exact absurd hone (by decide)

theorem token_leads_back :
    Machine.Along Routing.step (Routed BlockCipher.xorKey) Routing.init
      (firstUplink ++ [.downlink (presents sampleToken)]) := by
  apply routed_of_descriptorsApart
  refine ⟨trivial, ?_, ?_, trivial⟩
  · intro gw hgw _
    rw [List.mem_singleton.mp hgw]
    rfl
  · intro str hstr
    cases hstr
    constructor
    · intro i hi _
      rw [List.mem_singleton.mp hi]
    · intro hne
      exact absurd rfl (hne _ (List.mem_singleton_self _))

end Lorawan.NetworkServer

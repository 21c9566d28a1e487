import Lorawan.JoinServer.Device

/-!
# Join accept agreement

From the network server's request, through the join server, to the device: the
device gets back what the network server put in, and derives the keys that the
join server hands out. The receive delay is the exception: the network server
writes it as a JSON number, the join server reads that number's decimal text as
hexadecimal (hNS.c:194, main.c:460).
-/

namespace Lorawan.JoinServer
open Lorawan Lorawan.Backend Lorawan.NetworkServer mtype_e

variable (A : BlockCipher) (W : KeyWrap)

/-! ### The device's frame at the join server -/

theorem RxFrame.bytes_eq {rx : RxFrame} {at_ n : ℕ} (h : at_ + n ≤ rx.octets.length) :
    rx.bytes at_ n = Octets.slice rx.octets at_ n := by
  apply List.ext_getElem
  · rw [Octets.slice_length h]
    simp only [RxFrame.bytes, List.length_map, List.length_range]
  · intro i hi _
    simp only [RxFrame.bytes, List.length_map, List.length_range] at hi
    simp only [RxFrame.bytes, RxFrame.byte, Octets.slice, List.getElem_map, List.getElem_range,
      List.getElem_take, List.getElem_drop]
    rw [List.getD_eq_getElem?_getD, List.getElem?_eq_getElem (by omega), Option.getD_some]

theorem slice_bytes {rx : RxFrame} {a b c : Octets} {at_ n : ℕ} (h : rx.octets = a ++ b ++ c)
    (ha : a.length = at_) (hb : b.length = n) : rx.bytes at_ n = b := by
  rw [RxFrame.bytes_eq (by simp only [h, List.length_append]; omega)]
  exact Octets.slice_of_eq h ha hb

theorem receivePHYPayload_frame {dev : Device} {u : Device.Uplink} {env : Env}
    {inJobj : JoinReqJson} {rx : RxFrame}
    (hphy : inJobj.PHYPayload = some (.string (Text.printOctets (dev.frame u))))
    (h : receivePHYPayload env inJobj = .ok rx) : rx.octets = dev.frame u := by
  obtain ⟨v, hv, rfl⟩ := receivePHYPayload_ok h
  rw [hphy] at hv
  rw [← Option.some.inj hv]
  exact Text.scanOctets_printOctets env.junkByte (dev.frame u)

theorem dispatch_frame {dev : Device} {u : Device.Uplink} {devEui64 : ℕ} {env : Env} {t : Tables}
    {rx : RxFrame} {d : Dispatch} (hrx : rx.octets = dev.frame u)
    (h : dispatch dev.JoinEUI env t devEui64 rx = .ok d) :
    d.JoinReqType = u.type ∧ d.rxNonce = u.nonce ∧ d.rfJoinEUI = Octets.ofNat 8 dev.JoinEUI := by
  have hbyte0 : rx.byte 0 = (dev.frame u).headD 0 := by
    cases u <;> simp [RxFrame.byte, hrx, Device.frame]
  rcases dispatch_ok h with ⟨hmt, -, key, rfl⟩ | ⟨hmt, htype, rfl⟩
  · cases u with
    | join DevNonce mic =>
      have hnonce : rx.bytes 17 2 = Octets.ofNat 2 DevNonce :=
        @slice_bytes rx
          ([mhdr MTYPE_JOIN_REQ] ++ Octets.ofNat 8 dev.JoinEUI ++ Octets.ofNat 8 dev.DevEUI)
          (Octets.ofNat 2 DevNonce) (Octets.ofNat 4 mic) 17 2 (by rw [hrx]; rfl) (by simp) (by simp)
      have hjoin : rx.bytes 1 8 = Octets.ofNat 8 dev.JoinEUI :=
        @slice_bytes rx [mhdr MTYPE_JOIN_REQ] (Octets.ofNat 8 dev.JoinEUI)
          (Octets.ofNat 8 dev.DevEUI ++ Octets.ofNat 2 DevNonce ++ Octets.ofNat 4 mic) 1 8
          (by simp [hrx, Device.frame]) (by simp) (by simp)
      refine ⟨rfl, ?_, hjoin⟩
      simp only [hnonce, Octets.toNat_ofNat, Device.Uplink.nonce]
      norm_num
    | rejoin02 type NetID RJcount0 mic =>
      rw [hbyte0] at hmt
      exact absurd hmt (by simp [Device.frame])
    | rejoin1 RJcount1 mic =>
      rw [hbyte0] at hmt
      exact absurd hmt (by simp [Device.frame])
  · cases u with
    | join DevNonce mic =>
      rw [hbyte0] at hmt
      exact absurd hmt (by simp [Device.frame])
    | rejoin02 type NetID RJcount0 mic =>
      have hbyte1 : rx.byte 1 = type := by simp [RxFrame.byte, hrx, Device.frame]
      have hnonce : rx.bytes 13 2 = Octets.ofNat 2 RJcount0 :=
        @slice_bytes rx
          ([mhdr MTYPE_REJOIN_REQ, type] ++ Octets.ofNat 3 NetID ++ Octets.ofNat 8 dev.DevEUI)
          (Octets.ofNat 2 RJcount0) (Octets.ofNat 4 mic) 13 2 (by rw [hrx]; rfl) (by simp) (by simp)
      refine ⟨hbyte1, ?_, rfl⟩
      simp only [hnonce, Octets.toNat_ofNat, Device.Uplink.nonce]
      norm_num
    | rejoin1 RJcount1 mic =>
      have hbyte1 : rx.byte 1 = 1 := by simp [RxFrame.byte, hrx, Device.frame]
      rw [hbyte1] at htype
      exact absurd htype (by decide)

/-! ### The accept, from the join server to the device -/

theorem joinAccept_t_length (joinNonce NetID devAddr : ℕ) (DLSettings RxDelay : UInt8) :
    (joinAccept_t joinNonce NetID devAddr DLSettings RxDelay).length = 13 := by
  simp [joinAccept_t]

/-- An accept of one or of two blocks after MHDR is sent as those blocks, decrypted. The
second block that `CryptJoinServer` makes of a one-block accept is not sent. -/
theorem acceptPHYPayload_eq (env : Env) (key uncyphered : Octets)
    (hlen : uncyphered.length = 17 ∨ uncyphered.length = 33) :
    acceptPHYPayload A env key uncyphered = mhdr MTYPE_JOIN_ACC ::
      BlockCipher.ecb (A.decrypt key) ((uncyphered.length - 1) / 16) (uncyphered.drop 1) := by
  have hdrop : (uncyphered.drop 1).length = uncyphered.length - 1 := List.length_drop
  have hblock (b : Octets) (hb : b.length = 16) := A.decrypt_length key b hb
  rcases hlen with hlen | hlen
  · have hfirst : (uncyphered.drop 1 ++ (List.range 16).map env.stack).take 16 =
        uncyphered.drop 1 := List.take_left' (by omega)
    have htake : (uncyphered.drop 1).take 16 = uncyphered.drop 1 :=
      List.take_of_length_le (by omega)
    have hn : (17 - 1) / 16 = 1 := rfl
    simp only [acceptPHYPayload, CryptJoinServer, hfirst, hlen, hn, BlockCipher.ecb, htake,
      List.append_nil, List.take_succ_cons]
    rw [List.take_left' (hblock _ (by omega))]
  · have hfirst : (uncyphered.drop 1 ++ (List.range 16).map env.stack).take 16 =
        (uncyphered.drop 1).take 16 := List.take_append_of_le_length (by omega)
    have hsecond : ((uncyphered.drop 1 ++ (List.range 16).map env.stack).drop 16).take 16 =
        ((uncyphered.drop 1).drop 16).take 16 := by
      rw [List.drop_append_of_le_length (by omega),
        List.take_append_of_le_length (by simp only [List.length_drop]; omega)]
    have h1 := hblock ((uncyphered.drop 1).take 16) (by simp only [List.length_take]; omega)
    have h2 := hblock (((uncyphered.drop 1).drop 16).take 16)
      (by simp only [List.length_take, List.length_drop]; omega)
    have hn : (uncyphered.length - 1) / 16 = 2 := by omega
    have hsend : 16 ≤ uncyphered.length - 1 := by omega
    simp only [acceptPHYPayload, CryptJoinServer, hfirst, hsecond, hn, hsend, if_true,
      BlockCipher.ecb, List.append_nil]
    rw [hlen, List.take_succ_cons,
      List.take_of_length_le (by simp only [List.length_append, h1, h2]; omega)]

/-- Who has the key recovers the accept as it was before the join server decrypted it. -/
theorem ecb_acceptPHYPayload (env : Env) (key uncyphered : Octets)
    (hlen : uncyphered.length = 17 ∨ uncyphered.length = 33) :
    (acceptPHYPayload A env key uncyphered).length = uncyphered.length ∧
      BlockCipher.ecb (A.encrypt key) ((uncyphered.length - 1) / 16)
        ((acceptPHYPayload A env key uncyphered).drop 1) = uncyphered.drop 1 := by
  have hblocks : (uncyphered.drop 1).length = 16 * ((uncyphered.length - 1) / 16) := by
    simp only [List.length_drop]
    omega
  have hecb := BlockCipher.ecb_length (f := A.decrypt key) (A.decrypt_length key)
    ((uncyphered.length - 1) / 16) (uncyphered.drop 1) (le_of_eq hblocks.symm)
  rw [acceptPHYPayload_eq A env _ _ hlen]
  refine ⟨?_, BlockCipher.ecb_encrypt_decrypt A key _ _ hblocks⟩
  rw [List.length_cons, hecb]
  omega

theorem plain_acceptPHYPayload (dev : Device) (u : Device.Uplink) (env : Env)
    (uncyphered : Octets) (hlen : uncyphered.length = 17 ∨ uncyphered.length = 33) :
    dev.plain A u (acceptPHYPayload A env (dev.acceptKey A u) uncyphered) = uncyphered.drop 1 := by
  obtain ⟨hlength, hecb⟩ := ecb_acceptPHYPayload A env (dev.acceptKey A u) uncyphered hlen
  rw [Device.plain, hlength]
  exact hecb

theorem parse_joinAccept (joinNonce NetID devAddr : ℕ) (DLSettings RxDelay MHDR : UInt8)
    (cfl mic : Octets) (hmic : mic.length = 4) :
    Device.parse MHDR
      ((joinAccept_t joinNonce NetID devAddr DLSettings RxDelay ++ cfl ++ mic).drop 1) =
    { MHDR := MHDR
      JoinNonce := joinNonce % 2 ^ 24
      NetID := NetID % 2 ^ 24
      DevAddr := devAddr % 2 ^ 32
      DLSettings := DLSettings
      RxDelay := RxDelay
      CFList := cfl
      MIC := mic } := by
  have hplain : (joinAccept_t joinNonce NetID devAddr DLSettings RxDelay ++ cfl ++ mic).drop 1 =
      Octets.ofNat 3 joinNonce ++ Octets.ofNat 3 NetID ++ Octets.ofNat 4 devAddr ++
        [DLSettings] ++ [RxDelay] ++ cfl ++ mic := by
    simp [joinAccept_t]
  rw [hplain]
  let J := Octets.ofNat 3 joinNonce
  let N := Octets.ofNat 3 NetID
  let D := Octets.ofNat 4 devAddr
  have hJ : J.length = 3 := Octets.length_ofNat 3 joinNonce
  have hN : N.length = 3 := Octets.length_ofNat 3 NetID
  have hD : D.length = 4 := Octets.length_ofNat 4 devAddr
  have hlen : (J ++ N ++ D ++ [DLSettings] ++ [RxDelay] ++ cfl ++ mic).length =
      16 + cfl.length := by
    simp only [List.length_append, hJ, hN, hD, hmic, List.length_cons, List.length_nil]
    omega
  change Device.parse MHDR (J ++ N ++ D ++ [DLSettings] ++ [RxDelay] ++ cfl ++ mic) = _
  have s0 : Octets.slice (J ++ N ++ D ++ [DLSettings] ++ [RxDelay] ++ cfl ++ mic) 0 3 = J :=
    Octets.slice_of_eq (a := []) (c := N ++ D ++ [DLSettings] ++ [RxDelay] ++ cfl ++ mic)
      (by simp) rfl hJ
  have s3 : Octets.slice (J ++ N ++ D ++ [DLSettings] ++ [RxDelay] ++ cfl ++ mic) 3 3 = N :=
    Octets.slice_of_eq (a := J) (c := D ++ [DLSettings] ++ [RxDelay] ++ cfl ++ mic)
      (by simp) hJ hN
  have s6 : Octets.slice (J ++ N ++ D ++ [DLSettings] ++ [RxDelay] ++ cfl ++ mic) 6 4 = D :=
    Octets.slice_of_eq (a := J ++ N) (c := [DLSettings] ++ [RxDelay] ++ cfl ++ mic)
      (by simp) (by simp [hJ, hN]) hD
  have s10 : Octets.slice (J ++ N ++ D ++ [DLSettings] ++ [RxDelay] ++ cfl ++ mic) 10 1 =
      [DLSettings] :=
    Octets.slice_of_eq (a := J ++ N ++ D) (c := [RxDelay] ++ cfl ++ mic)
      (by simp) (by simp [hJ, hN, hD]) rfl
  have s11 : Octets.slice (J ++ N ++ D ++ [DLSettings] ++ [RxDelay] ++ cfl ++ mic) 11 1 =
      [RxDelay] :=
    Octets.slice_of_eq (a := J ++ N ++ D ++ [DLSettings]) (c := cfl ++ mic)
      (by simp) (by simp [hJ, hN, hD]) rfl
  have s12 : Octets.slice (J ++ N ++ D ++ [DLSettings] ++ [RxDelay] ++ cfl ++ mic) 12
      cfl.length = cfl :=
    Octets.slice_of_eq (a := J ++ N ++ D ++ [DLSettings] ++ [RxDelay]) (c := mic)
      rfl (by simp [hJ, hN, hD]) rfl
  have sMic : Octets.slice (J ++ N ++ D ++ [DLSettings] ++ [RxDelay] ++ cfl ++ mic)
      (12 + cfl.length) 4 = mic :=
    Octets.slice_of_eq (a := J ++ N ++ D ++ [DLSettings] ++ [RxDelay] ++ cfl) (c := [])
      (by simp) (by simp [hJ, hN, hD]; omega) hmic
  simp only [Device.parse, hlen, show 16 + cfl.length - 16 = cfl.length by omega,
    show 16 + cfl.length - 4 = 12 + cfl.length by omega, s0, s3, s6, s10, s11, s12, sMic,
    List.headD_cons, J, N, D, Octets.toNat_ofNat]
  norm_num

theorem joinAccept_t_eq (joinNonce NetID devAddr : ℕ) (DLSettings RxDelay : UInt8)
    (cfl : Octets) :
    joinAccept_t joinNonce NetID devAddr DLSettings RxDelay ++ cfl = mhdr MTYPE_JOIN_ACC ::
      (joinAccept_t joinNonce NetID devAddr DLSettings RxDelay ++ cfl).drop 1 := by
  simp [joinAccept_t]

/-- The MIC the device expects is computed over what the join server authenticated. -/
theorem expectedMic_eq (dev : Device) (u : Device.Uplink) (env : Env) (auth mic : Octets)
    (hhead : auth = mhdr MTYPE_JOIN_ACC :: auth.drop 1)
    (hlen : auth.length = 13 ∨ auth.length = 29) (hmic : mic.length = 4) :
    dev.expectedMic A u (acceptPHYPayload A env (dev.acceptKey A u) (auth ++ mic)) =
      if dev.AppKey.isSome then
        LoRa_GenerateJoinFrameIntegrityCode A (dev.JSIntKey A)
          ([u.type] ++ Octets.ofNat 8 dev.JoinEUI ++ Octets.ofNat 2 u.nonce ++ auth)
      else LoRa_GenerateJoinFrameIntegrityCode A dev.NwkKey auth := by
  have hlen' : (auth ++ mic).length = 17 ∨ (auth ++ mic).length = 33 := by
    simp only [List.length_append, hmic]
    omega
  have hplain := plain_acceptPHYPayload A dev u env (auth ++ mic) hlen'
  have hdrop : (auth ++ mic).drop 1 = auth.drop 1 ++ mic :=
    List.drop_append_of_le_length (by omega)
  have htake : (auth.drop 1 ++ mic).take ((auth.drop 1 ++ mic).length - 4) = auth.drop 1 := by
    apply List.take_left'
    simp only [List.length_append, hmic]
    omega
  have hphy := acceptPHYPayload_eq A env (dev.acceptKey A u) _ hlen'
  have haccept : (acceptPHYPayload A env (dev.acceptKey A u) (auth ++ mic)).headD 0 ::
      auth.drop 1 = auth := by
    rw [hphy, List.headD_cons]
    exact hhead.symm
  simp only [Device.expectedMic, hplain, hdrop, htake, haccept]

/-! ### What the network server means -/

/-- The values the network server puts into its request. -/
structure Meant where
  NetID : ℕ
  DevAddr : ℕ
  DLSettings : UInt8
  RxDelay : ℕ
  CFList : Octets

def meant (myNetwork_id32 : ℕ) (mote : JoiningMote) (r : Regional) : Meant where
  NetID := myNetwork_id32
  DevAddr := mote.devAddr
  DLSettings := dlSettings ((deviceProfileNumber mote.profile.RXDataRate2).getD 0)
    ((deviceProfileNumber mote.profile.RXDROffset1).getD 0)
  RxDelay := rxDelay ((deviceProfileNumber mote.profile.RXDelay1).getD 0)
  CFList := r.CFListBin

/-- The JoinNonce of the join server: counted for a 1.1 device, `rand()` otherwise. -/
def serverJoinNonce (env : Env) (t : Tables) (devEui64 : ℕ) : ℕ :=
  match t.row devEui64 with
  | none => 0
  | some m => if m.AppKey.isSome then m.joinNonce.getD 0 else env.rand % 2 ^ 24

/-- The accept a device has to receive: what was meant, the OptNeg bit telling whether the
device has an AppKey, and a MIC that verifies. -/
def expectedAccept (dev : Device) (meant : Meant) (joinNonce : ℕ) (mic : Octets) :
    Device.Accept where
  MHDR := mhdr MTYPE_JOIN_ACC
  JoinNonce := joinNonce
  NetID := meant.NetID
  DevAddr := meant.DevAddr
  DLSettings := (meant.DLSettings &&& 0x7f) ||| (if dev.AppKey.isSome then 0x80 else 0)
  RxDelay := UInt8.ofNat meant.RxDelay
  CFList := meant.CFList
  MIC := mic

/-- The envelopes of the answer hold the keys the device derives from the accept. -/
def HoldsSessionKeys (cfg : Config) (dev : Device) (u : Device.Uplink) (accept : Device.Accept)
    (junk : UInt8) (ans : JoinAnsJson) : Prop :=
  let nwk (obj : KeyEnvelopeJson) := parse_key_envelope W junk obj cfg.key_envelope_nwk
  let app (obj : KeyEnvelopeJson) := parse_key_envelope W junk obj cfg.key_envelope_app
  match dev.AppKey with
  | some AppKey => ∃ s f n, ans.SNwkSIntKey = some s ∧ ans.FNwkSIntKey = some f ∧
      ans.NwkSEncKey = some n ∧
      nwk s = some (dev.sessionKey1v1 A 0x03 dev.NwkKey u accept) ∧
      nwk f = some (dev.sessionKey1v1 A 0x01 dev.NwkKey u accept) ∧
      nwk n = some (dev.sessionKey1v1 A 0x04 dev.NwkKey u accept) ∧
      app ans.AppSKey = some (dev.sessionKey1v1 A 0x02 AppKey u accept)
  | none => ∃ f, ans.NwkSKey = some f ∧
      nwk f = some (dev.sessionKey1v0 A 0x01 u accept) ∧
      app ans.AppSKey = some (dev.sessionKey1v0 A 0x02 u accept)

/-- The device recovers what was meant, its MIC verifies, and the join server's answer holds
the session keys the device derives. -/
structure JoinAgreement (cfg : Config) (dev : Device) (u : Device.Uplink) (meant : Meant)
    (joinNonce : ℕ) (junk : UInt8) (ans : JoinAnsJson) : Prop where
  accept : dev.receiveAccept A u (Text.scanOctets junk ans.PHYPayload) =
    expectedAccept dev meant joinNonce
      (dev.expectedMic A u (Text.scanOctets junk ans.PHYPayload))
  keys : HoldsSessionKeys A W cfg dev u
    (dev.receiveAccept A u (Text.scanOctets junk ans.PHYPayload)) junk ans

/-! ### Text -/

theorem scan_decimal_as_hex {n : ℕ} (h : n ≤ 15) :
    Text.scan 16 32 (Text.print 10 n) = some (if n ≤ 9 then n else n + 6) := by
  have hall : ∀ k < 16, Text.scan 16 32 (Text.print 10 k) =
      some (if k ≤ 9 then k else k + 6) := by decide
  exact hall n (by omega)

theorem scan_print2 (b : UInt8) : Text.scan 16 32 (Text.print2 b) = some b.toNat := by
  have hlt : b.toNat < 256 := b.toNat_lt
  have hds : ∀ d ∈ [b.toNat / 16, b.toNat % 16], d < 16 := by
    intro d hd
    simp only [List.mem_cons, List.not_mem_nil, or_false] at hd
    omega
  have hval : [b.toNat / 16, b.toNat % 16].foldl (fun a d => a * 16 + d) 0 = b.toNat := by
    simp only [List.foldl_cons, List.foldl_nil]
    omega
  have h := Text.scan_of_digits 32 [b.toNat / 16, b.toNat % 16] (le_refl 16) (by omega) hds
    (by simp) (by rw [hval]; omega)
  rw [hval] at h
  exact h

theorem optNegDLSettings_eq (OptNeg : Bool) (b : UInt8) :
    optNegDLSettings OptNeg b.toNat = (b &&& 0x7f) ||| (if OptNeg then 0x80 else 0) := by
  have hall : ∀ n < 256, UInt8.ofNat n ||| 0x80 = (UInt8.ofNat n &&& 0x7f) ||| 0x80 := by
    decide +kernel
  have hset := hall b.toNat b.toNat_lt
  rw [UInt8.ofNat_toNat] at hset
  cases OptNeg with
  | false => simp [optNegDLSettings]
  | true => simpa [optNegDLSettings] using hset

theorem receiveCFList_get_cflist (env : Env) (r : Regional) :
    receiveCFList env (if get_cflist r = [] then none else some (.string (get_cflist r))) =
      .ok r.CFListBin := by
  have hlen := Text.printOctets_length r.CFListBin
  rcases CFListBin_length r with h | h
  · have hnil : r.CFListBin = [] := List.length_eq_zero_iff.mp h
    have hstr : get_cflist r = [] := by rw [get_cflist, hnil]; rfl
    simp only [hstr, if_true, receiveCFList, hnil]
  · have hstr : get_cflist r ≠ [] := by
      intro hnil
      rw [get_cflist] at hnil
      rw [hnil, h] at hlen
      exact absurd hlen (by simp)
    have hshort : ¬32 < (JsonValue.string (get_cflist r)).get_string.length := by
      change ¬32 < (Text.printOctets r.CFListBin).length
      omega
    simp only [hstr, if_false, receiveCFList, hshort]
    exact congrArg Except.ok (Text.scanOctets_printOctets env.junkByte r.CFListBin)

/-! ### Agreement -/

theorem requireHex_print (env : Env) (n : ℕ) (h : n < 2 ^ 32) :
    requireHex env (some (.string (Text.print 16 n))) = .ok n := by
  have hscan := @Text.scan_print 16 32 n (by omega) (le_refl 16) (by omega) h
  simp only [requireHex, JsonValue.get_string, hscan, Option.getD_some]

theorem requireHex_print2 (env : Env) (b : UInt8) :
    requireHex env (some (.string (Text.print2 b))) = .ok b.toNat := by
  simp only [requireHex, JsonValue.get_string, scan_print2, Option.getD_some]

theorem requireHex_int (env : Env) (n : ℕ) (h : n ≤ 15) :
    requireHex env (some (.int n)) = .ok (if n ≤ 9 then n else n + 6) := by
  simp only [requireHex, JsonValue.get_string, scan_decimal_as_hex h, Option.getD_some]

theorem generate_sessionKey1v1 (dev : Device) (u : Device.Uplink) (type : keyType_e)
    (root : Octets) (accept : Device.Accept) (network_id : ℕ) :
    GenerateSessionKey A true type root accept.JoinNonce (Octets.ofNat 8 dev.JoinEUI) u.nonce
      network_id = dev.sessionKey1v1 A type.octet root u accept := by
  simp [GenerateSessionKey, sessionKeyInput, Device.sessionKey1v1]

theorem generate_sessionKey1v0 (dev : Device) (u : Device.Uplink) (type : keyType_e)
    (accept : Device.Accept) (rxJoinEUI : Octets) :
    GenerateSessionKey A false type dev.NwkKey accept.JoinNonce rxJoinEUI u.nonce accept.NetID =
      dev.sessionKey1v0 A type.octet u accept := by
  simp [GenerateSessionKey, sessionKeyInput, Device.sessionKey1v0]

theorem GenerateSessionKey_length (OptNeg : Bool) (type : keyType_e) (root : Octets)
    (joinNonce : ℕ) (rxJoinEUI : Octets) (nonce network_id : ℕ) (h : rxJoinEUI.length = 8) :
    (GenerateSessionKey A OptNeg type root joinNonce rxJoinEUI nonce network_id).length = 16 := by
  apply A.encrypt_length
  cases OptNeg with
  | false => simp [sessionKeyInput]
  | true => simp [sessionKeyInput, h]

theorem admit_device {dev : Device} {env : Env} {t t' : Tables} {d : Dispatch} {a : Admission}
    (hprov : Provisioned A dev t) (h : admitNonce env t dev.DevEUI d = (t', .ok a)) :
    a.OptNeg = dev.AppKey.isSome ∧ (∀ k, dev.AppKey = some k → a.AppKey = k) ∧
      a.joinNonce = serverJoinNonce env t dev.DevEUI := by
  obtain ⟨m, hrow, -, hAppKey, -⟩ := hprov
  rcases admit_ok h with ⟨m', AppKey, hrow', hkey, -, hn, hopt, happ, -⟩ | ⟨m', hrow', hkey, -, rfl, -⟩
  · obtain rfl := Option.some.inj (hrow.symm.trans hrow')
    rw [hkey] at hAppKey
    refine ⟨by rw [hopt, ← hAppKey]; rfl, fun k hk => ?_, ?_⟩
    · rw [← hAppKey] at hk
      rw [happ, Option.some.inj hk]
    · simp only [serverJoinNonce, hrow, hkey, Option.isSome_some, if_true, hn, Option.getD_some]
  · obtain rfl := Option.some.inj (hrow.symm.trans hrow')
    rw [hkey] at hAppKey
    refine ⟨by rw [← hAppKey]; rfl, fun k hk => ?_, ?_⟩
    · rw [← hAppKey] at hk
      exact absurd hk (by simp)
    · simp only [serverJoinNonce, hrow, hkey, Option.isSome_none, Bool.false_eq_true, if_false]

theorem provisioned_admit {dev : Device} {env : Env} {t t' : Tables} {d : Dispatch}
    {a : Admission} (hprov : Provisioned A dev t) (h : admitNonce env t dev.DevEUI d = (t', .ok a)) :
    Provisioned A dev t' := by
  obtain ⟨m, hrow, hNwk, hApp, hJS⟩ := hprov
  obtain ⟨m', hrow', hkeys⟩ := admit_keys h hrow
  refine ⟨m', hrow', (hkeys .NwkKey).trans hNwk, (hkeys .AppKey).trans hApp, fun hsome => ?_⟩
  obtain ⟨hint, henc⟩ := hJS hsome
  exact ⟨(hkeys .JSIntKey).trans hint, (hkeys .JSEncKey).trans henc⟩

/-- The delay the device receives: the decimal text of what was meant, read as hexadecimal. -/
def receivedDelay (RxDelay : ℕ) : ℕ := if RxDelay ≤ 9 then RxDelay else RxDelay + 6

/-- The key that encrypts an accept, and its MIC, are those of the device. -/
theorem buildAccept_device {dev : Device} {u : Device.Uplink} {network_id : ℕ} {d : Dispatch}
    {a : Admission} {env : Env} {t : Tables} {inJobj : JoinReqJson} {NwkKey key frame : Octets}
    (hprov : Provisioned A dev t) (hopt : a.OptNeg = dev.AppKey.isSome)
    (hNwk : requireKey env t .NwkKey dev.DevEUI = .ok NwkKey)
    (htype : d.JoinReqType = u.type) (hrxNonce : d.rxNonce = u.nonce)
    (hrfEUI : d.rfJoinEUI = Octets.ofNat 8 dev.JoinEUI)
    (h : buildAccept A network_id env t dev.DevEUI d a NwkKey inJobj = .ok (key, frame)) :
    ∃ devAddr DLsettings rx_delay cfl auth mic,
      requireHex env inJobj.DevAddr = .ok devAddr ∧
      requireHex env inJobj.DLSettings = .ok DLsettings ∧
      requireHex env inJobj.RxDelay = .ok rx_delay ∧
      receiveCFList env inJobj.CFList = .ok cfl ∧
      auth = joinAccept_t a.joinNonce network_id devAddr (optNegDLSettings a.OptNeg DLsettings)
        (UInt8.ofNat rx_delay) ++ cfl ∧
      key = dev.acceptKey A u ∧ frame = auth ++ mic ∧ mic.length = 4 ∧
      mic = if dev.AppKey.isSome then
          LoRa_GenerateJoinFrameIntegrityCode A (dev.JSIntKey A)
            ([u.type] ++ Octets.ofNat 8 dev.JoinEUI ++ Octets.ofNat 2 u.nonce ++ auth)
        else LoRa_GenerateJoinFrameIntegrityCode A dev.NwkKey auth := by
  obtain ⟨m, hrow, hm, -, hJS⟩ := hprov
  have hNwkKey : NwkKey = dev.NwkKey := requireKey_ok hNwk hrow hm
  obtain ⟨devAddr, DLsettings, rx_delay, cfl, auth, haddr, hdl, hrx, hcfl, hauth, hmic⟩ :=
    buildAccept_ok A h
  refine ⟨devAddr, DLsettings, rx_delay, cfl, auth, ?_⟩
  rcases hmic with ⟨hon, JSIntKey, hint, hframe, hkey⟩ | ⟨hoff, hkey, hframe⟩
  · have hsome : dev.AppKey.isSome := by rw [← hopt, hon]
    obtain ⟨hmi, hme⟩ := hJS hsome
    have hJSInt : JSIntKey = dev.JSIntKey A := requireKey_ok hint hrow hmi
    refine ⟨_, haddr, hdl, hrx, hcfl, hauth, ?_, hframe,
      LoRa_GenerateJoinFrameIntegrityCode_length A .., ?_⟩
    · rcases hkey with ⟨hjoin, rfl⟩ | ⟨hrejoin, henc⟩
      · rw [htype] at hjoin
        simp only [Device.acceptKey, hjoin, ne_eq, not_true_eq_false, and_false, if_false,
          hNwkKey]
      · rw [htype] at hrejoin
        rw [requireKey_ok henc hrow hme]
        simp only [Device.acceptKey, hsome, ne_eq, hrejoin, not_false_eq_true, and_self,
          if_true]
    · simp only [acceptMic, hsome, if_true, hJSInt, htype, hrxNonce, hrfEUI]
  · have hnone : dev.AppKey.isSome = false := by rw [← hopt, hoff]
    refine ⟨_, haddr, hdl, hrx, hcfl, hauth, ?_, hframe,
      LoRa_GenerateJoinFrameIntegrityCode_length A .., ?_⟩
    · simp only [Device.acceptKey, hnone, Bool.false_eq_true, false_and, if_false, hkey, hNwkKey]
    · simp only [acceptMic, hnone, Bool.false_eq_true, if_false, hNwkKey]

/-- The frame part: what the device reads out of the encrypted accept. -/
theorem receiveAccept_build {dev : Device} {u : Device.Uplink} {d : Dispatch} {a : Admission}
    {env : Env} {t : Tables} {inJobj : JoinReqJson} {NwkKey key frame : Octets} {meant : Meant}
    (hprov : Provisioned A dev t) (hopt : a.OptNeg = dev.AppKey.isSome)
    (hNwk : requireKey env t .NwkKey dev.DevEUI = .ok NwkKey)
    (htype : d.JoinReqType = u.type) (hrxNonce : d.rxNonce = u.nonce)
    (hrfEUI : d.rfJoinEUI = Octets.ofNat 8 dev.JoinEUI)
    (hnonce : a.joinNonce < 2 ^ 24) (hnet : meant.NetID < 2 ^ 24)
    (haddr : meant.DevAddr < 2 ^ 32)
    (hAddrJ : requireHex env inJobj.DevAddr = .ok meant.DevAddr)
    (hDLJ : requireHex env inJobj.DLSettings = .ok meant.DLSettings.toNat)
    (hRxJ : requireHex env inJobj.RxDelay = .ok (receivedDelay meant.RxDelay))
    (hCfJ : receiveCFList env inJobj.CFList = .ok meant.CFList)
    (hcfl : meant.CFList.length = 0 ∨ meant.CFList.length = 16)
    (h : buildAccept A meant.NetID env t dev.DevEUI d a NwkKey inJobj = .ok (key, frame)) :
    dev.receiveAccept A u (acceptPHYPayload A env key frame) =
      { expectedAccept dev meant a.joinNonce
          (dev.expectedMic A u (acceptPHYPayload A env key frame)) with
        RxDelay := UInt8.ofNat (receivedDelay meant.RxDelay) } := by
  obtain ⟨devAddr, DLsettings, rx_delay, cfl, auth, mic, h1, h2, h3, h4, hauth, rfl, rfl, hlen4,
    hmicEq⟩ := buildAccept_device A hprov hopt hNwk htype hrxNonce hrfEUI h
  obtain rfl := Except.ok.inj (h1.symm.trans hAddrJ)
  obtain rfl := Except.ok.inj (h2.symm.trans hDLJ)
  obtain rfl := Except.ok.inj (h3.symm.trans hRxJ)
  obtain rfl := Except.ok.inj (h4.symm.trans hCfJ)
  rw [optNegDLSettings_eq] at hauth
  have hlen : auth.length = 13 ∨ auth.length = 29 := by
    rw [hauth, List.length_append, joinAccept_t_length]
    omega
  have hlen' : (auth ++ mic).length = 17 ∨ (auth ++ mic).length = 33 := by
    simp only [List.length_append, hlen4]
    omega
  have hhead : auth = mhdr MTYPE_JOIN_ACC :: auth.drop 1 := by
    rw [hauth]
    exact joinAccept_t_eq ..
  have hMIC := expectedMic_eq A dev u env auth mic hhead hlen hlen4
  rw [← hmicEq] at hMIC
  have hfirst : (acceptPHYPayload A env (dev.acceptKey A u) (auth ++ mic)).headD 0 =
      mhdr MTYPE_JOIN_ACC := by
    rw [acceptPHYPayload_eq A env _ _ hlen', List.headD_cons]
  rw [Device.receiveAccept, hfirst, plain_acceptPHYPayload A dev u env _ hlen', hMIC, hauth,
    parse_joinAccept _ _ _ _ _ _ _ _ hlen4]
  simp only [expectedAccept, Nat.mod_eq_of_lt hnonce, Nat.mod_eq_of_lt hnet,
    Nat.mod_eq_of_lt haddr, hopt]

/-- The key part: the envelopes of the answer hold what the device derives. -/
theorem holdsSessionKeys_build {cfg : Config} {dev : Device} {u : Device.Uplink} {d : Dispatch}
    {a : Admission} {txBuf : Octets} {lifetime : ℕ} {ans : JoinAnsJson}
    {accept : Device.Accept} {junk : UInt8} (hopt : a.OptNeg = dev.AppKey.isSome)
    (happ : ∀ k, dev.AppKey = some k → a.AppKey = k) (hrxNonce : d.rxNonce = u.nonce)
    (hrfEUI : d.rfJoinEUI = Octets.ofNat 8 dev.JoinEUI) (hnonce : accept.JoinNonce = a.joinNonce)
    (h : buildAnswer A W cfg accept.NetID d a dev.NwkKey lifetime txBuf = .ok ans) :
    HoldsSessionKeys A W cfg dev u accept junk ans := by
  obtain ⟨-, h1v1, h1v0⟩ := buildAnswer_ok A W h
  have hlen (OptNeg : Bool) (type : keyType_e) (root : Octets) :
      (GenerateSessionKey A OptNeg type root accept.JoinNonce (Octets.ofNat 8 dev.JoinEUI) u.nonce
        accept.NetID).length = 16 :=
    GenerateSessionKey_length A OptNeg type root _ _ _ _ (Octets.length_ofNat 8 dev.JoinEUI)
  unfold HoldsSessionKeys
  cases hdev : dev.AppKey with
  | some AppKey =>
    obtain ⟨s, f, n, hs, hf, hn, es, ef, en, ea⟩ := h1v1 (by rw [hopt, hdev]; rfl)
    rw [hrxNonce, hrfEUI, ← hnonce] at es ef en ea
    rw [happ AppKey hdev] at ea
    refine ⟨s, f, n, hs, hf, hn, ?_, ?_, ?_, ?_⟩
    · exact (parse_create_KeyEnvelope W junk _ (hlen ..) _ es).trans
        (congrArg some (generate_sessionKey1v1 A dev u .keyType_SNwkSIntKey dev.NwkKey accept _))
    · exact (parse_create_KeyEnvelope W junk _ (hlen ..) _ ef).trans
        (congrArg some (generate_sessionKey1v1 A dev u .keyType_FNwkSIntKey dev.NwkKey accept _))
    · exact (parse_create_KeyEnvelope W junk _ (hlen ..) _ en).trans
        (congrArg some (generate_sessionKey1v1 A dev u .keyType_NwkSEncKey dev.NwkKey accept _))
    · exact (parse_create_KeyEnvelope W junk _ (hlen ..) _ ea).trans
        (congrArg some (generate_sessionKey1v1 A dev u .keyType_AppSKey AppKey accept _))
  | none =>
    obtain ⟨f, hf, ef, ea⟩ := h1v0 (by rw [hopt, hdev]; rfl)
    rw [hrxNonce, hrfEUI, ← hnonce] at ef ea
    refine ⟨f, hf, ?_, ?_⟩
    · exact (parse_create_KeyEnvelope W junk _ (hlen ..) _ ef).trans
        (congrArg some (generate_sessionKey1v0 A dev u .keyType_FNwkSIntKey accept _))
    · exact (parse_create_KeyEnvelope W junk _ (hlen ..) _ ea).trans
        (congrArg some (generate_sessionKey1v0 A dev u .keyType_AppSKey accept _))

/-- A join of a device through both servers: the device sent `u`, the network server passed it
on as `msg`, and the join server answered it with success. -/
structure AnsweredJoin (cfg : Config) (dev : Device) (u : Device.Uplink) (myNetwork_id32 : ℕ)
    (mote : JoiningMote) (r : Regional) (env : Env) (t : Tables) (ans : JoinAnsJson) : Prop where
  provisioned : Provisioned A dev t
  joinNonce_lt : ∀ m n, t.row dev.DevEUI = some m → m.joinNonce = some n → n < 2 ^ 24
  joinEui : cfg.myJoinEui64 = dev.JoinEUI
  frame : mote.ULPayloadBin = dev.frame u
  devEui : mote.devEui = dev.DevEUI
  devAddr_lt : mote.devAddr < 2 ^ 32
  netId_lt : myNetwork_id32 < 2 ^ 24
  answered : ∃ msg t', hNS_toJS myNetwork_id32 mote (get_cflist r) = some msg ∧
    parse_rf_join_req A W cfg (senderNetId msg) env msg.members t = (t', .ok ans)

theorem serverJoinNonce_lt {dev : Device} {env : Env} {t : Tables}
    (h : ∀ m n, t.row dev.DevEUI = some m → m.joinNonce = some n → n < 2 ^ 24) :
    serverJoinNonce env t dev.DevEUI < 2 ^ 24 := by
  unfold serverJoinNonce
  cases hrow : t.row dev.DevEUI with
  | none => exact Nat.two_pow_pos 24
  | some m =>
    by_cases hkey : m.AppKey.isSome
    · cases hn : m.joinNonce with
      | none => simp [hkey, hn]
      | some n =>
        simp only [hkey, if_true, hn, Option.getD_some]
        exact h m n hrow hn
    · simp only [hkey]
      exact Nat.mod_lt _ (Nat.two_pow_pos 24)

/-- What the device receives, whatever the delay that was meant. -/
theorem device_receives {cfg : Config} {dev : Device} {u : Device.Uplink} {myNetwork_id32 : ℕ}
    {mote : JoiningMote} {r : Regional} {env : Env} {t : Tables} {ans : JoinAnsJson}
    (h : AnsweredJoin A W cfg dev u myNetwork_id32 mote r env t ans)
    (hdelay : (meant myNetwork_id32 mote r).RxDelay ≤ 15) (junk : UInt8) :
    dev.receiveAccept A u (Text.scanOctets junk ans.PHYPayload) =
      { expectedAccept dev (meant myNetwork_id32 mote r) (serverJoinNonce env t dev.DevEUI)
          (dev.expectedMic A u (Text.scanOctets junk ans.PHYPayload)) with
        RxDelay := UInt8.ofNat (receivedDelay (meant myNetwork_id32 mote r).RxDelay) } ∧
    HoldsSessionKeys A W cfg dev u
      (dev.receiveAccept A u (Text.scanOctets junk ans.PHYPayload)) junk ans := by
  obtain ⟨msg, t', hmsg, hparse⟩ := h.answered
  obtain ⟨dr2, off, delay, hdr2, hoff, hdelay1, -, hmembers⟩ := hNS_toJS_some hmsg
  rw [senderNetId_hNS_toJS hmsg (lt_trans h.netId_lt (by omega))] at hparse
  obtain ⟨devEui64, d, a, hrx, hadm, hacc⟩ := parse_rf_join_req_ok A W hparse
  obtain ⟨rx, hphy, heui, hdisp, -⟩ := receive_ok hrx
  -- the device and its frame
  have hdevEui : devEui64 = dev.DevEUI := by
    have hscan := @Text.scan_print 16 64 dev.DevEUI (by omega) (le_refl 16) (le_refl 64)
      dev.DevEUI_lt
    simp only [receiveDevEUI, hmembers, JsonValue.get_string, h.devEui, hscan, Option.getD_some,
      Except.ok.injEq] at heui
    exact heui.symm
  subst hdevEui
  rw [h.joinEui] at hdisp
  have hoctets : rx.octets = dev.frame u :=
    receivePHYPayload_frame (by rw [hmembers, ← h.frame]) hphy
  obtain ⟨htype, hrxNonce, hrfEUI⟩ := dispatch_frame hoctets hdisp
  -- the admission
  obtain ⟨hopt, happ, hjoinNonce⟩ := admit_device A h.provisioned hadm
  have hprov' := provisioned_admit A h.provisioned hadm
  have hnonce : a.joinNonce < 2 ^ 24 := by
    rw [hjoinNonce]
    exact serverJoinNonce_lt h.joinNonce_lt
  -- the members of the request
  have hmeant : meant myNetwork_id32 mote r =
      ⟨myNetwork_id32, mote.devAddr, dlSettings dr2 off, rxDelay delay, r.CFListBin⟩ := by
    simp only [meant, hdr2, hoff, hdelay1, Option.getD_some]
  rw [hmeant] at hdelay ⊢
  obtain ⟨NwkKey, key, frame, lifetime, hNwk, hbuild, hanswer⟩ := joinAccept_ok A W hacc
  have haccept := @receiveAccept_build A dev u d a env t' msg.members NwkKey key frame
    ⟨myNetwork_id32, mote.devAddr, dlSettings dr2 off, rxDelay delay, r.CFListBin⟩
    hprov' hopt hNwk htype hrxNonce hrfEUI hnonce h.netId_lt h.devAddr_lt
    (by rw [hmembers]; exact requireHex_print env _ h.devAddr_lt)
    (by rw [hmembers]; exact requireHex_print2 env _)
    (by rw [hmembers]; exact requireHex_int env _ hdelay)
    (by rw [hmembers]; exact receiveCFList_get_cflist env r)
    (CFListBin_length r) hbuild
  have hphyAns : Text.scanOctets junk ans.PHYPayload = acceptPHYPayload A env key frame := by
    rw [(buildAnswer_ok A W hanswer).1]
    exact Text.scanOctets_printOctets junk _
  rw [hphyAns, ← hjoinNonce]
  refine ⟨haccept, ?_⟩
  rw [haccept]
  obtain ⟨m, hrow, hm, -⟩ := hprov'
  rw [requireKey_ok hNwk hrow hm] at hanswer
  exact holdsSessionKeys_build A W hopt happ hrxNonce hrfEUI rfl hanswer

/-- The device gets back exactly what the network server meant if and only if the receive
delay is a single decimal digit. -/
theorem join_agreement_iff (cfg : Config) (dev : Device) (u : Device.Uplink)
    (myNetwork_id32 : ℕ) (mote : JoiningMote) (r : Regional) (env : Env) (t : Tables)
    (ans : JoinAnsJson) (junk : UInt8)
    (h : AnsweredJoin A W cfg dev u myNetwork_id32 mote r env t ans)
    (hdelay : (meant myNetwork_id32 mote r).RxDelay ≤ 15) :
    JoinAgreement A W cfg dev u (meant myNetwork_id32 mote r)
        (serverJoinNonce env t dev.DevEUI) junk ans ↔
      (meant myNetwork_id32 mote r).RxDelay ≤ 9 := by
  obtain ⟨haccept, hkeys⟩ := device_receives A W h hdelay junk
  constructor
  · intro hagree
    have hrx := congrArg Device.Accept.RxDelay (haccept.symm.trans hagree.accept)
    simp only [expectedAccept, receivedDelay] at hrx
    by_contra hbig
    rw [if_neg hbig] at hrx
    have hval := congrArg UInt8.toNat hrx
    simp only [UInt8.toNat_ofNat'] at hval
    omega
  · intro hsmall
    refine ⟨?_, hkeys⟩
    rw [haccept]
    simp only [receivedDelay, hsmall, if_true, expectedAccept]

/-! ### A delay of ten seconds -/

def sampleDevice : Device where
  DevEUI := 2
  JoinEUI := 1
  NwkKey := List.replicate 16 0x11
  AppKey := some (List.replicate 16 0x22)
  DevEUI_lt := by decide
  JoinEUI_lt := by decide

def sampleTables : Tables where
  joinmotes := [{
    eui := 2
    NwkKey := some sampleDevice.NwkKey
    AppKey := sampleDevice.AppKey
    RJcount1_last := some 0
    DevNonce_last := some 0
    JSIntKey := some (sampleDevice.JSIntKey BlockCipher.xorKey)
    JSEncKey := some (sampleDevice.JSEncKey BlockCipher.xorKey)
    Lifetime := 3600
    joinNonce := some 0 }]
  nonces := []

/-- DevNonce 1, with the MIC that the join server checks. -/
def sampleJoin : Device.Uplink :=
  let msg := (sampleDevice.frame (.join 1 0)).take 19
  .join 1 (Octets.toNat
    (LoRa_GenerateJoinFrameIntegrityCode BlockCipher.xorKey sampleDevice.NwkKey msg))

def sampleMote (RXDelay1 : ℕ) : JoiningMote where
  ULPayloadBin := sampleDevice.frame sampleJoin
  devEui := 2
  devAddr := 0x26000001
  savedJoinEUI := none
  tidFree := true
  profile := ⟨some 2, some 0, some RXDelay1⟩

theorem sampleTables_provisioned : Provisioned BlockCipher.xorKey sampleDevice sampleTables :=
  ⟨_, rfl, rfl, rfl, fun _ => ⟨rfl, rfl⟩⟩

/-- The sample join is answered when the handler says so on its message. -/
theorem sampleJoin_answered {RXDelay1 : ℕ} {msg : JoinMessage}
    (hmsg : hNS_toJS 0x13 (sampleMote RXDelay1) (get_cflist .plain) = some msg)
    (hok : (parse_rf_join_req BlockCipher.xorKey noWrap plainConfig (senderNetId msg) quietEnv
      msg.members sampleTables).2.isOk = true) :
    ∃ ans, AnsweredJoin BlockCipher.xorKey noWrap plainConfig sampleDevice sampleJoin 0x13
      (sampleMote RXDelay1) .plain quietEnv sampleTables ans := by
  rcases hp : parse_rf_join_req BlockCipher.xorKey noWrap plainConfig (senderNetId msg) quietEnv
    msg.members sampleTables with ⟨t', s | ans⟩
  · rw [hp] at hok
    exact absurd hok (by simp [Except.isOk, Except.toBool])
  · refine ⟨ans, sampleTables_provisioned, ?_, rfl, rfl, rfl,
      (show 0x26000001 < 2 ^ 32 by decide), by decide, msg, t', hmsg, hp⟩
    intro m n hrow hn
    obtain rfl := Option.some.inj hrow
    obtain rfl := Option.some.inj hn
    decide

/-- Ten seconds travel as the text `10` and arrive as sixteen. -/
theorem delay_ten_disagrees :
    ∃ ans, AnsweredJoin BlockCipher.xorKey noWrap plainConfig sampleDevice sampleJoin 0x13
        (sampleMote 10) .plain quietEnv sampleTables ans ∧
      (meant 0x13 (sampleMote 10) .plain).RxDelay = 10 ∧
      ¬JoinAgreement BlockCipher.xorKey noWrap plainConfig sampleDevice sampleJoin
        (meant 0x13 (sampleMote 10) .plain)
        (serverJoinNonce quietEnv sampleTables sampleDevice.DevEUI) 0 ans := by
  have hdelay : (meant 0x13 (sampleMote 10) .plain).RxDelay = 10 := by decide
  obtain ⟨ans, h⟩ := @sampleJoin_answered 10 _ rfl (by decide +kernel)
  refine ⟨ans, h, hdelay, fun hagree => ?_⟩
  obtain ⟨haccept, -⟩ := device_receives BlockCipher.xorKey noWrap h (by rw [hdelay]; omega) 0
  have hrx := congrArg Device.Accept.RxDelay (haccept.symm.trans hagree.accept)
  simp only [expectedAccept, hdelay] at hrx
  exact absurd hrx (by decide)

/-- Five seconds arrive as five. -/
theorem delay_five_agrees :
    ∃ ans, JoinAgreement BlockCipher.xorKey noWrap plainConfig sampleDevice sampleJoin
        (meant 0x13 (sampleMote 5) .plain)
        (serverJoinNonce quietEnv sampleTables sampleDevice.DevEUI) 0 ans := by
  have hdelay : (meant 0x13 (sampleMote 5) .plain).RxDelay = 5 := by decide
  obtain ⟨ans, h⟩ := @sampleJoin_answered 5 _ rfl (by decide +kernel)
  exact ⟨ans, (join_agreement_iff BlockCipher.xorKey noWrap plainConfig sampleDevice sampleJoin
    0x13 (sampleMote 5) .plain quietEnv sampleTables ans 0 h (by rw [hdelay]; omega)).mpr
    (by rw [hdelay]; omega)⟩

end Lorawan.JoinServer

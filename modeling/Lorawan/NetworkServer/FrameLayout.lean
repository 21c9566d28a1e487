import Lorawan.NetworkServer.Schedule

/-!
# Layout of a scheduled frame

What a receiver reads from the octets that `sNS_schedule_downlink` built. The
frame is laid out as LoRaWAN says exactly when nothing was left in
`PHYPayloadLen` and everything fits into 255 octets.
-/

namespace Lorawan.NetworkServer
open Lorawan Lorawan.Backend Backend.mtype_e

variable (A : BlockCipher)

/-! ### The receiver -/

structure DownlinkFrame where
  MHDR : UInt8
  DevAddr : ℕ
  FCtrl : UInt8
  FCnt : ℕ
  FOpts : Octets
  FPort : Option UInt8
  FRMPayload : Octets
  MIC : Octets
deriving DecidableEq

/-- MHDR, DevAddr, FCtrl, FCnt, FOpts, then FPort and FRMPayload or nothing, and the MIC. -/
def splitDownlink (frame : Octets) : Option DownlinkFrame :=
  let L := FOptsLen frame
  if frame.length < 12 + L then none
  else
    let rest := Octets.slice frame (8 + L) (frame.length - (12 + L))
    some
      { MHDR := frame.headD 0
        DevAddr := Octets.toNat (Octets.slice frame 1 4)
        FCtrl := frame.getD 5 0
        FCnt := Octets.toNat (Octets.slice frame 6 2)
        FOpts := Octets.slice frame 8 L
        FPort := rest.head?
        FRMPayload := rest.tail
        MIC := frame.drop (frame.length - 4) }

/-- FOpts as the device understands it: in LoRaWAN 1.1 it is encrypted. -/
def receivedFOpts (m : Mote) (f : DownlinkFrame) : Octets :=
  if m.session.OptNeg then
    Octets.xor
      (A.encrypt m.session.NwkSEncKeyBin (encryptBlock 0 m.devAddr false m.session.NFCntDown)) f.FOpts
  else f.FOpts

/-- The MAC commands that wait and fit into a frame. -/
def queuedFOpts (m : Mote) : Octets := (takeMacCmds 15 m.s.mac_cmd_queue).1

/-- The length of the part behind FOpts. -/
def payloadLen (m : Mote) : ℕ := if carriesPayload m then 1 + m.s.FRMPayloadLen else 0

/-- The counter the frame is sent under. -/
def frameFCntDown (m : Mote) : ℕ :=
  if carriesPayload m ∧ m.session.OptNeg then m.s.md.FCntDown else m.session.NFCntDown

/-- The frame in `m'` is the one that was to be built from `m`. -/
structure LaidOut (m m' : Mote) : Prop where
  length : m'.s.PHYPayloadLen = 1 + 7 + (queuedFOpts m).length + payloadLen m + 4
  fits : m'.s.PHYPayloadLen < 256
  mtype : MType (m'.s.PHYPayloadBin.headD 0) =
    if carriesPayload m ∧ m.s.md.Confirmed then MTYPE_CONF_DN else MTYPE_UNCONF_DN
  split : ∃ f, splitDownlink (m'.s.PHYPayloadBin.take m'.s.PHYPayloadLen) = some f ∧
    f.DevAddr = m.devAddr % 2 ^ 32 ∧ f.FCnt = frameFCntDown m % 2 ^ 16 ∧
    receivedFOpts A m f = queuedFOpts m ∧
    f.FPort = (if carriesPayload m then some m.s.md.FPort else none) ∧
    f.FRMPayload = (if carriesPayload m then m.s.accepted else []) ∧
    f.MIC = LoRa_GenerateDataFrameIntegrityCode A
      (downlinkBlock (ackedFCnt m m.s) m.devAddr (frameFCntDown m) (m'.s.PHYPayloadLen - 4))
      m.session.SNwkSIntKeyBin
      ((m'.s.PHYPayloadBin.take m'.s.PHYPayloadLen).take (m'.s.PHYPayloadLen - 4))

/-- No write left an array, and the frame is laid out. -/
def FrameOk (m : Mote) (out : Option Mote) : Prop := ∃ m', out = some m' ∧ LaidOut A m m'

/-- A frame with payload has at most 255 octets; before one without, no length was left, and a
payload that is refused finds an unconfirmed frame's type. -/
def Fits (m : Mote) : Prop :=
  if carriesPayload m then 1 + 7 + (queuedFOpts m).length + payloadLen m + 4 ≤ 255
  else m.s.PHYPayloadLen = 0 ∧
    (wantsPayload m.s → MType (m.s.PHYPayloadBin.headD 0) = MTYPE_UNCONF_DN)

instance (m : Mote) : Decidable (Fits m) := by unfold Fits; infer_instance

/-! ### Well-formed states -/

/-- The arrays have their lengths, and the payload kept is the accepted one. -/
structure S.Wf (s : S) : Prop where
  bin : s.PHYPayloadBin.length = 256
  conf : s.confDLPHYPayloadBin.length = 256
  frm : s.FRMPayloadBin.length = 244
  len : s.PHYPayloadLen < 256
  confLen : s.confDLPHYPayloadLen < 256
  frmLen : s.FRMPayloadLen ≤ 244
  accepted : 0 < s.FRMPayloadLen → s.FRMPayloadBin.take s.FRMPayloadLen = s.accepted

/-! ### Single octets -/

theorem MType_set (b : UInt8) (t : mtype_e) : MType ((b &&& 0x1f) ||| mhdr t) = t := by
  have h : ∀ n < 256, MType ((UInt8.ofNat n &&& 0x1f) ||| mhdr t) = t := by
    cases t <;> decide +kernel
  have hb := h b.toNat b.toNat_lt
  rwa [UInt8.ofNat_toNat] at hb

theorem setACK_toNat {n : ℕ} (h : n < 16) (ACK : Bool) :
    (setACK (UInt8.ofNat n) ACK).toNat % 16 = n := by
  have hall : ∀ n < 16, ∀ ACK : Bool, (setACK (UInt8.ofNat n) ACK).toNat % 16 = n := by
    decide +kernel
  exact hall n h ACK

theorem queuedFOpts_length (m : Mote) : (queuedFOpts m).length ≤ 15 :=
  takeMacCmds_length 15 m.s.mac_cmd_queue

/-! ### FOpts -/

theorem CountBlocks_one {n : ℕ} (hpos : n ≠ 0) (hle : n ≤ 15) : CountBlocks n = 1 := by
  have hover : FindBlockOverhang n = n := by
    unfold FindBlockOverhang
    omega
  unfold CountBlocks
  rw [hover, if_pos (by omega)]
  omega

/-- The first octets that the encryption of FOpts writes. -/
theorem sentFOpts_take (junk NwkSEncKey fopts : Octets) (devAddr FCnt : ℕ)
    (hlen : fopts.length ≤ 15) (OptNeg : Bool) :
    (sentFOpts A junk NwkSEncKey fopts devAddr FCnt OptNeg).take fopts.length =
      if OptNeg then
        Octets.xor (A.encrypt NwkSEncKey (encryptBlock 0 devAddr false FCnt)) fopts
      else fopts := by
  unfold sentFOpts
  cases OptNeg with
  | false => simp
  | true =>
    simp only [if_true]
    by_cases hnil : fopts.length = 0
    · have : fopts = [] := List.length_eq_zero_iff.mp hnil
      simp [this, Octets.xor]
    · have hblocks := CountBlocks_one hnil hlen
      have hwhole : bytesToExOr 0 fopts.length = 16 := by
        unfold bytesToExOr
        rw [hblocks, if_pos (Or.inl (by omega))]
      have hE := A.encrypt_length NwkSEncKey _ (encryptBlock_length 0 devAddr false FCnt)
      rw [LoRa_Encrypt, if_neg hnil, hblocks]
      simp only [encryptLoop, keystream, hwhole]
      rw [List.take_of_length_le (le_of_eq hE), List.append_assoc, List.take_append_of_le_length]
      · simp only [Octets.xor, List.take_zipWith]
        rw [List.take_left' rfl]
        apply List.ext_getElem?
        intro i
        simp only [List.getElem?_zipWith, List.getElem?_take]
        by_cases hi : i < fopts.length
        · simp [hi]
        · simp [hi]
      · simp only [Octets.length_xor, hE, List.length_append, List.length_replicate]
        omega

theorem sentFOpts_length (junk NwkSEncKey fopts : Octets) (devAddr FCnt : ℕ)
    (hlen : fopts.length ≤ 15) (OptNeg : Bool) :
    (sentFOpts A junk NwkSEncKey fopts devAddr FCnt OptNeg).length ≤ 32 := by
  have hblock : ∀ i input, (Octets.xor
      (keystream A NwkSEncKey devAddr false FCnt fopts.length i) input).length ≤ 16 := by
    intro i input
    have hE := A.encrypt_length NwkSEncKey _ (encryptBlock_length i devAddr false FCnt)
    simp only [keystream, Octets.length_xor, List.length_take, hE]
    omega
  unfold sentFOpts
  cases OptNeg with
  | false =>
    simp only [Bool.false_eq_true, if_false]
    omega
  | true =>
    simp only [if_true, LoRa_Encrypt]
    split
    · exact Nat.zero_le _
    · rename_i hpos
      rw [CountBlocks_one hpos hlen]
      simp only [encryptLoop, List.append_nil, List.length_append]
      have h0 := hblock 0 (fopts ++ List.replicate (16 - fopts.length) 0 ++ junk)
      have h1 := hblock (0 + 1) ((fopts ++ List.replicate (16 - fopts.length) 0 ++ junk).drop 16)
      omega

/-! ### What the parts of the function write -/

theorem get_queued_mac_cmds_some {junk NwkSEncKey : Octets} {devAddr FCnt : ℕ} {OptNeg : Bool}
    {s s' : S}
    (h : get_queued_mac_cmds A junk NwkSEncKey devAddr FCnt OptNeg s = some s') :
    let fopts := (takeMacCmds 15 s.mac_cmd_queue).1
    s' = { s with
      mac_cmd_queue := (takeMacCmds 15 s.mac_cmd_queue).2
      PHYPayloadBin := s'.PHYPayloadBin } ∧
    s'.PHYPayloadBin.length = s.PHYPayloadBin.length ∧
    s'.PHYPayloadBin.getD 5 0 = UInt8.ofNat fopts.length ∧
    s'.PHYPayloadBin.headD 0 = s.PHYPayloadBin.headD 0 ∧
    Octets.slice s'.PHYPayloadBin 8 fopts.length =
      (sentFOpts A junk NwkSEncKey fopts devAddr FCnt OptNeg).take fopts.length := by
  simp only [get_queued_mac_cmds, bind, Option.bind_eq_some_iff] at h
  obtain ⟨b0, h0, b, hb, hs⟩ := h
  obtain rfl := Option.some.inj hs
  refine ⟨rfl, ?_⟩
  by_cases hnil : (takeMacCmds 15 s.mac_cmd_queue).1 = []
  · rw [writeFOpts, if_pos hnil] at hb
    obtain rfl := Option.some.inj hb
    refine ⟨Octets.write_length h0, ?_, ?_, ?_⟩
    · rw [hnil]
      exact Octets.getD_write_self h0
    · rw [Octets.headD_eq_getD, Octets.headD_eq_getD, Octets.getD_write_of_ne h0 (by omega)]
    · simp [hnil, Octets.slice]
  · rw [writeFOpts, if_neg hnil] at hb
    obtain ⟨b1, h1, h2⟩ := Option.bind_eq_some_iff.mp hb
    refine ⟨?_, ?_, ?_, ?_⟩
    · rw [Octets.write_length h2, Octets.write_length h1, Octets.write_length h0]
    · rw [Octets.getD_write_of_ne h2 (by omega), Octets.getD_write_self h1]
    · rw [Octets.headD_eq_getD, Octets.headD_eq_getD, Octets.getD_write_of_ne h2 (by omega),
        Octets.getD_write_of_ne h1 (by omega), Octets.getD_write_of_ne h0 (by omega)]
    · have hself := Octets.slice_write_self h2
      have hle : (takeMacCmds 15 s.mac_cmd_queue).1.length ≤
          (sentFOpts A junk NwkSEncKey (takeMacCmds 15 s.mac_cmd_queue).1 devAddr FCnt
            OptNeg).length := by
        have htake := congrArg List.length (sentFOpts_take A junk NwkSEncKey
          (takeMacCmds 15 s.mac_cmd_queue).1 devAddr FCnt (takeMacCmds_length 15 _) OptNeg)
        have hE := A.encrypt_length NwkSEncKey _ (encryptBlock_length 0 devAddr false FCnt)
        have h15 := takeMacCmds_length 15 s.mac_cmd_queue
        rw [List.length_take] at htake
        cases OptNeg <;>
          simp only [Bool.false_eq_true, if_false, if_true, Octets.length_xor, hE] at htake <;> omega
      rw [← hself, Octets.slice, Octets.slice, List.take_take, Nat.min_eq_left hle]

theorem get_queued_mac_cmds_isSome (junk NwkSEncKey : Octets) (devAddr FCnt : ℕ) (OptNeg : Bool)
    {s : S} (hbin : s.PHYPayloadBin.length = 256) :
    ∃ s', get_queued_mac_cmds A junk NwkSEncKey devAddr FCnt OptNeg s = some s' := by
  have hsent := sentFOpts_length A junk NwkSEncKey (takeMacCmds 15 s.mac_cmd_queue).1 devAddr FCnt
    (takeMacCmds_length 15 _) OptNeg
  obtain ⟨b0, h0⟩ := Octets.exists_write s.PHYPayloadBin 5 [0] (by simp; omega)
  have hb0 := Octets.write_length h0
  obtain ⟨b, hb⟩ : ∃ b, writeFOpts (takeMacCmds 15 s.mac_cmd_queue).1
      (sentFOpts A junk NwkSEncKey (takeMacCmds 15 s.mac_cmd_queue).1 devAddr FCnt OptNeg) b0 =
        some b := by
    unfold writeFOpts
    split
    · exact ⟨b0, rfl⟩
    · obtain ⟨b1, h1⟩ := Octets.exists_write b0 5
        [UInt8.ofNat (takeMacCmds 15 s.mac_cmd_queue).1.length] (by simp; omega)
      have hb1 := Octets.write_length h1
      rw [h1, Option.bind_some]
      exact Option.isSome_iff_exists.mp (Octets.write_isSome.mpr (by omega))
  simp only [get_queued_mac_cmds, h0, hb, bind, Option.bind_some, pure]
  exact ⟨_, rfl⟩

theorem FOptsLen_of_taken {bin : Octets} {queue : List MacCmd}
    (h : bin.getD 5 0 = UInt8.ofNat (takeMacCmds 15 queue).1.length) :
    FOptsLen bin = (takeMacCmds 15 queue).1.length := by
  have := takeMacCmds_length 15 queue
  rw [FOptsLen, h, UInt8.toNat_ofNat']
  omega

theorem addPayload_some {m : Mote} {s s' : S} {using_AFCntDwn : Bool}
    (h : addPayload m s = some (s', using_AFCntDwn)) :
    s' = { s with
      AFCntDown := s'.AFCntDown
      PHYPayloadBin := s'.PHYPayloadBin
      PHYPayloadLen :=
        if carriesPayload m then (s.FRMPayloadLen + 1) % 256 else s.PHYPayloadLen } ∧
    using_AFCntDwn = (carriesPayload m && m.session.OptNeg) ∧
    (using_AFCntDwn = true → s'.AFCntDown = s.md.FCntDown) ∧
    s'.PHYPayloadBin.length = s.PHYPayloadBin.length ∧
    s'.PHYPayloadBin.getD 5 0 = s.PHYPayloadBin.getD 5 0 ∧
    Octets.slice s'.PHYPayloadBin 8 (FOptsLen s.PHYPayloadBin) =
      Octets.slice s.PHYPayloadBin 8 (FOptsLen s.PHYPayloadBin) ∧
    (carriesPayload m = true → Octets.slice s'.PHYPayloadBin (8 + FOptsLen s.PHYPayloadBin)
      (1 + (s.FRMPayloadBin.take s.FRMPayloadLen).length) =
        s.md.FPort :: s.FRMPayloadBin.take s.FRMPayloadLen) ∧
    MType (s'.PHYPayloadBin.headD 0) =
      if carriesPayload m then (if s.md.Confirmed then MTYPE_CONF_DN else MTYPE_UNCONF_DN)
      else if wantsPayload m.s then MType (s.PHYPayloadBin.headD 0) else MTYPE_UNCONF_DN := by
  unfold addPayload at h
  by_cases hw : wantsPayload m.s = true
  · rw [if_pos hw] at h
    by_cases hr : rightFCntDown m = true
    · have hc : carriesPayload m = true := by simp [carriesPayload, hw, hr]
      rw [if_pos hr] at h
      simp only [bind, Option.bind_eq_some_iff] at h
      obtain ⟨b1, h1, b2, h2, b3, h3, hs⟩ := h
      obtain ⟨rfl, rfl⟩ := Prod.mk.inj (Option.some.inj hs)
      simp only [hc, if_true, Bool.true_and]
      refine ⟨trivial, trivial, fun hopt => by simp [hopt], ?_, ?_, ?_, ?_, ?_⟩
      · rw [Octets.write_length h3, Octets.write_length h2, Octets.write_length h1]
      · rw [Octets.getD_write_of_ne h3 (by simp), Octets.getD_write_of_ne h2 (by omega),
          Octets.getD_write_of_ne h1 (by omega)]
      · rw [Octets.slice_write_after h3 (by simp), Octets.slice_write_before h2 (by omega),
          Octets.slice_write_before h1 (by omega)]
      · intro _
        have hport := Octets.slice_write_self h1
        have hfrm := Octets.slice_write_self h2
        rw [Octets.slice_write_after h3 (by simp; omega), ← Octets.slice_append_slice, hfrm,
          Octets.slice_write_before h2 (by omega)]
        rw [List.length_singleton] at hport
        rw [hport]
        rfl
      · rw [Octets.headD_eq_getD, Octets.getD_write_self h3, MType_set]
    · have hc : carriesPayload m = false := by simp [carriesPayload, hr]
      rw [if_neg hr] at h
      obtain ⟨rfl, rfl⟩ := Prod.mk.inj (Option.some.inj h)
      simp [hc, hw]
  · have hc : carriesPayload m = false := by simp [carriesPayload, hw]
    rw [if_neg hw] at h
    simp only [bind, Option.bind_eq_some_iff] at h
    obtain ⟨b1, h1, hs⟩ := h
    obtain ⟨rfl, rfl⟩ := Prod.mk.inj (Option.some.inj hs)
    simp only [hc, hw, Bool.false_eq_true, if_false, Bool.false_and]
    refine ⟨trivial, trivial, fun hopt => hopt.elim, Octets.write_length h1, ?_, ?_, fun hopt => hopt.elim, ?_⟩
    · rw [Octets.getD_write_of_ne h1 (by simp)]
    · rw [Octets.slice_write_after h1 (by simp)]
    · rw [Octets.headD_eq_getD, Octets.getD_write_self h1, MType_set]

theorem write_one_isSome {bin : Octets} {i : ℕ} (b : UInt8) (h : i + 1 ≤ bin.length) :
    ∃ out, Octets.write bin i [b] = some out :=
  Option.isSome_iff_exists.mp (Octets.write_isSome.mpr h)

theorem addPayload_isSome {m : Mote} {s : S} (hbin : s.PHYPayloadBin.length = 256)
    (hfit : carriesPayload m = true →
      8 + FOptsLen s.PHYPayloadBin + 1 + (s.FRMPayloadBin.take s.FRMPayloadLen).length ≤ 256) :
    ∃ p, addPayload m s = some p := by
  unfold addPayload
  by_cases hw : wantsPayload m.s = true
  · rw [if_pos hw]
    by_cases hr : rightFCntDown m = true
    · rw [if_pos hr]
      have hle := hfit (by simp [carriesPayload, hw, hr])
      obtain ⟨b1, h1⟩ := Octets.exists_write s.PHYPayloadBin (8 + FOptsLen s.PHYPayloadBin)
        [s.md.FPort] (by simp; omega)
      have e1 := Octets.write_length h1
      obtain ⟨b2, h2⟩ := Octets.exists_write b1 (8 + FOptsLen s.PHYPayloadBin + 1)
        (s.FRMPayloadBin.take s.FRMPayloadLen) (by omega)
      have e2 := Octets.write_length h2
      obtain ⟨b3, h3⟩ : ∃ b3, setMType b2
          (if s.md.Confirmed then MTYPE_CONF_DN else MTYPE_UNCONF_DN) = some b3 :=
        write_one_isSome _ (by omega)
      simp only [bind, h1, h2, h3, Option.bind_some, pure]
      exact ⟨_, rfl⟩
    · rw [if_neg hr]
      exact ⟨_, rfl⟩
  · rw [if_neg hw]
    obtain ⟨b1, h1⟩ : ∃ b1, setMType s.PHYPayloadBin MTYPE_UNCONF_DN = some b1 :=
      write_one_isSome _ (by omega)
    simp only [bind, h1, Option.bind_some, pure]
    exact ⟨_, rfl⟩

theorem dataMic_take (block : block_t) (key bin : Octets) (h : block.lenMsg < 256) :
    LoRa_GenerateDataFrameIntegrityCode A block key bin =
      LoRa_GenerateDataFrameIntegrityCode A block key (bin.take block.lenMsg) := by
  simp only [LoRa_GenerateDataFrameIntegrityCode, Nat.mod_eq_of_lt h, List.take_take, Nat.min_self]

theorem writeHeader_some {m : Mote} {FCntDown : ℕ} {bin out : Octets}
    (h : writeHeader m FCntDown bin = some out) :
    out.length = bin.length ∧ out.headD 0 = bin.headD 0 ∧
    out.getD 5 0 = setACK (bin.getD 5 0) (decide (rxMType m = MTYPE_CONF_UP)) ∧
    Octets.slice out 1 4 = Octets.ofNat 4 m.devAddr ∧
    Octets.slice out 6 2 = Octets.ofNat 2 FCntDown ∧
    ∀ i n, 8 ≤ i → Octets.slice out i n = Octets.slice bin i n := by
  simp only [writeHeader, bind, Option.bind_eq_some_iff] at h
  obtain ⟨b1, h1, b2, h2, h3⟩ := h
  have l1 : (Octets.ofNat 2 FCntDown).length = 2 := Octets.length_ofNat 2 _
  have l2 : (Octets.ofNat 4 m.devAddr).length = 4 := Octets.length_ofNat 4 _
  refine ⟨?_, ?_, Octets.getD_write_self h3, ?_, ?_, ?_⟩
  · rw [Octets.write_length h3, Octets.write_length h2, Octets.write_length h1]
  · rw [Octets.headD_eq_getD, Octets.headD_eq_getD, Octets.getD_write_of_ne h3 (by omega),
      Octets.getD_write_of_ne h2 (by omega), Octets.getD_write_of_ne h1 (by omega)]
  · have hself := Octets.slice_write_self h2
    rw [l2] at hself
    rw [Octets.slice_write_before h3 (by omega), hself]
  · have hself := Octets.slice_write_self h1
    rw [l1] at hself
    rw [Octets.slice_write_after h3 (by simp), Octets.slice_write_after h2 (by omega), hself]
  · intro i n hi
    rw [Octets.slice_write_after h3 (by simp; omega), Octets.slice_write_after h2 (by omega),
      Octets.slice_write_after h1 (by omega)]

theorem writeHeader_isSome {m : Mote} {FCntDown : ℕ} {bin : Octets} (hbin : bin.length = 256) :
    ∃ out, writeHeader m FCntDown bin = some out := by
  have l1 : (Octets.ofNat 2 FCntDown).length = 2 := Octets.length_ofNat 2 _
  have l2 : (Octets.ofNat 4 m.devAddr).length = 4 := Octets.length_ofNat 4 _
  obtain ⟨b1, h1⟩ := Octets.exists_write bin 6 (Octets.ofNat 2 FCntDown) (by omega)
  have e1 := Octets.write_length h1
  obtain ⟨b2, h2⟩ := Octets.exists_write b1 1 (Octets.ofNat 4 m.devAddr) (by omega)
  have e2 := Octets.write_length h2
  simp only [writeHeader, bind, h1, h2, Option.bind_some]
  exact Option.isSome_iff_exists.mp (Octets.write_isSome.mpr (by simp; omega))

theorem sealFrame_some {m : Mote} {s s' : S} {using_AFCntDwn : Bool}
    (h : sealFrame A m s using_AFCntDwn = some s') :
    s' = { s with
      incrNFCntDown := !using_AFCntDwn
      newFCntUp := s.newFCntUp && !(m.session.OptNeg && decide (rxMType m = MTYPE_CONF_UP))
      PHYPayloadBin := s'.PHYPayloadBin
      PHYPayloadLen := (lenBeforeMic s + 4) % 256
      frame := some ⟨m.session.row, if using_AFCntDwn then none else some m.session.NFCntDown⟩ } ∧
    lenBeforeMic s + 4 ≤ s.PHYPayloadBin.length ∧
    s'.PHYPayloadBin.length = s.PHYPayloadBin.length ∧
    (8 ≤ lenBeforeMic s →
      s'.PHYPayloadBin.headD 0 = s.PHYPayloadBin.headD 0 ∧
      s'.PHYPayloadBin.getD 5 0 =
        setACK (s.PHYPayloadBin.getD 5 0) (decide (rxMType m = MTYPE_CONF_UP)) ∧
      Octets.slice s'.PHYPayloadBin 1 4 = Octets.ofNat 4 m.devAddr ∧
      Octets.slice s'.PHYPayloadBin 6 2 = Octets.ofNat 2 (txFCntDown m s using_AFCntDwn) ∧
      (∀ i n, 8 ≤ i → i + n ≤ lenBeforeMic s →
        Octets.slice s'.PHYPayloadBin i n = Octets.slice s.PHYPayloadBin i n) ∧
      Octets.slice s'.PHYPayloadBin (lenBeforeMic s) 4 =
        LoRa_GenerateDataFrameIntegrityCode A
          (downlinkBlock (ackedFCnt m s) m.devAddr (txFCntDown m s using_AFCntDwn) (lenBeforeMic s))
          m.session.SNwkSIntKeyBin (s'.PHYPayloadBin.take (lenBeforeMic s))) := by
  simp only [sealFrame, bind, Option.bind_eq_some_iff] at h
  obtain ⟨b1, h1, b2, h2, hs⟩ := h
  obtain rfl := Option.some.inj hs
  obtain ⟨hlen, hhead, hctrl, haddr, hcnt, hrest⟩ := writeHeader_some h1
  have hmic := LoRa_GenerateDataFrameIntegrityCode_length A
    (downlinkBlock (ackedFCnt m s) m.devAddr (txFCntDown m s using_AFCntDwn) (lenBeforeMic s))
    m.session.SNwkSIntKeyBin b1
  obtain ⟨hle, -⟩ := Octets.write_eq_some.mp h2
  refine ⟨rfl, by omega, by rw [Octets.write_length h2, hlen], ?_⟩
  intro h8
  refine ⟨?_, ?_, ?_, ?_, ?_, ?_⟩
  · rw [Octets.headD_eq_getD, Octets.getD_write_of_ne h2 (by omega), ← Octets.headD_eq_getD, hhead]
  · rw [Octets.getD_write_of_ne h2 (by omega), hctrl]
  · rw [Octets.slice_write_before h2 (by omega), haddr]
  · rw [Octets.slice_write_before h2 (by omega), hcnt]
  · intro i n hi hin
    rw [Octets.slice_write_before h2 hin, hrest i n hi]
  · have hself := Octets.slice_write_self h2
    have htake : b2.take (lenBeforeMic s) = b1.take (lenBeforeMic s) :=
      Octets.slice_write_before h2 (i := 0) (n := lenBeforeMic s) (by omega)
    have hlt : lenBeforeMic s < 256 := Nat.mod_lt _ (by omega)
    rw [hmic] at hself
    rw [hself, htake]
    exact dataMic_take A _ _ _ hlt

theorem sealFrame_isSome {m : Mote} {s : S} (using_AFCntDwn : Bool)
    (hbin : s.PHYPayloadBin.length = 256) (hle : lenBeforeMic s + 4 ≤ 256) :
    ∃ s', sealFrame A m s using_AFCntDwn = some s' := by
  obtain ⟨b1, h1⟩ : ∃ b1, writeHeader m (txFCntDown m s using_AFCntDwn) s.PHYPayloadBin = some b1 :=
    writeHeader_isSome hbin
  have e1 := (writeHeader_some h1).1
  have hmic := LoRa_GenerateDataFrameIntegrityCode_length A
    (downlinkBlock (ackedFCnt m s) m.devAddr (txFCntDown m s using_AFCntDwn) (lenBeforeMic s))
    m.session.SNwkSIntKeyBin b1
  obtain ⟨b2, h2⟩ := Option.isSome_iff_exists.mp (Octets.write_isSome.mpr
    (show lenBeforeMic s + _ ≤ b1.length by rw [hmic, e1, hbin]; exact hle))
  simp only [sealFrame, bind, h1, h2, Option.bind_some, pure]
  exact ⟨_, rfl⟩

theorem keepConfirmed_some {FCntDown : ℕ} {s s' : S} (h : keepConfirmed FCntDown s = some s') :
    s' = { s with
      ConfFCntDown := s'.ConfFCntDown
      confDLPHYPayloadBin := s'.confDLPHYPayloadBin
      confDLPHYPayloadLen := s'.confDLPHYPayloadLen
      confFrame := s'.confFrame } ∧
    s'.confDLPHYPayloadBin.length = s.confDLPHYPayloadBin.length ∧
    (s'.confDLPHYPayloadLen = 0 ∨
      (s'.confDLPHYPayloadLen = s.PHYPayloadLen ∧ s'.confFrame = s.frame ∧
        s'.confDLPHYPayloadBin.take (s.PHYPayloadBin.take s.PHYPayloadLen).length =
          s.PHYPayloadBin.take s.PHYPayloadLen) ∨
      (s'.confDLPHYPayloadLen = s.confDLPHYPayloadLen ∧ s'.confFrame = s.confFrame ∧
        s'.confDLPHYPayloadBin = s.confDLPHYPayloadBin)) := by
  unfold keepConfirmed at h
  split at h
  · obtain rfl := Option.some.inj h
    exact ⟨rfl, rfl, Or.inl rfl⟩
  · obtain ⟨conf, hconf, rfl⟩ := Option.map_eq_some_iff.mp h
    refine ⟨rfl, Octets.write_length hconf, Or.inr (Or.inl ⟨rfl, rfl, ?_⟩)⟩
    exact Octets.slice_write_self hconf
  · obtain rfl := Option.some.inj h
    exact ⟨rfl, rfl, Or.inr (Or.inr ⟨rfl, rfl, rfl⟩)⟩

theorem keepConfirmed_isSome (FCntDown : ℕ) {s : S} (hconf : s.confDLPHYPayloadBin.length = 256)
    (hlen : s.PHYPayloadLen < 256) : ∃ s', keepConfirmed FCntDown s = some s' := by
  unfold keepConfirmed
  split
  · exact ⟨_, rfl⟩
  · obtain ⟨conf, hc⟩ := Octets.exists_write s.confDLPHYPayloadBin 0
      (s.PHYPayloadBin.take s.PHYPayloadLen) (by rw [List.length_take]; omega)
    rw [hc]
    exact ⟨_, rfl⟩
  · exact ⟨_, rfl⟩

/-! ### The frame as a whole -/

/-- The length before the header, FOpts and the MIC are counted: what was left over counts when
there is no payload. -/
def bodyLen (m : Mote) : ℕ :=
  if carriesPayload m then (m.s.FRMPayloadLen + 1) % 256 else m.s.PHYPayloadLen

/-- Whether the frame uses AFCntDown. -/
def usesAFCntDown (m : Mote) : Bool := carriesPayload m && m.session.OptNeg

/-- The type the frame gets: a refused payload leaves the one that was there. -/
def frameMType (m : Mote) : mtype_e :=
  if carriesPayload m then (if m.s.md.Confirmed then MTYPE_CONF_DN else MTYPE_UNCONF_DN)
  else if wantsPayload m.s then MType (m.s.PHYPayloadBin.headD 0) else MTYPE_UNCONF_DN

/-- The place of the MIC. -/
def micOffset (m : Mote) : ℕ := (bodyLen m + 8 + (queuedFOpts m).length) % 256

/-- What a built frame is, and what is left of the state it was built from. -/
structure Built (junk : Octets) (m m' : Mote) : Prop where
  mote : m' = { m with s := m'.s }
  state : m'.s = { m.s with
    mac_cmd_queue := (takeMacCmds 15 m.s.mac_cmd_queue).2
    AFCntDown := m'.s.AFCntDown
    ConfFCntDown := m'.s.ConfFCntDown
    confDLPHYPayloadBin := m'.s.confDLPHYPayloadBin
    confDLPHYPayloadLen := m'.s.confDLPHYPayloadLen
    PHYPayloadBin := m'.s.PHYPayloadBin
    PHYPayloadLen := (micOffset m + 4) % 256
    incrNFCntDown := !usesAFCntDown m
    newFCntUp := m'.s.newFCntUp
    frame := some ⟨m.session.row, if usesAFCntDown m then none else some m.session.NFCntDown⟩
    confFrame := m'.s.confFrame }
  inside : micOffset m + 4 ≤ 256
  bin : m'.s.PHYPayloadBin.length = 256
  conf : m'.s.confDLPHYPayloadBin.length = m.s.confDLPHYPayloadBin.length
  kept : m'.s.confDLPHYPayloadLen = 0 ∨
    (m'.s.confDLPHYPayloadLen = m'.s.PHYPayloadLen ∧ m'.s.confFrame = m'.s.frame ∧
      m'.s.confDLPHYPayloadBin.take (m'.s.PHYPayloadBin.take m'.s.PHYPayloadLen).length =
        m'.s.PHYPayloadBin.take m'.s.PHYPayloadLen) ∨
    (m'.s.confDLPHYPayloadLen = m.s.confDLPHYPayloadLen ∧ m'.s.confFrame = m.s.confFrame ∧
      m'.s.confDLPHYPayloadBin = m.s.confDLPHYPayloadBin)
  layout : 8 + (queuedFOpts m).length ≤ micOffset m →
    MType (m'.s.PHYPayloadBin.headD 0) = frameMType m ∧
    FOptsLen m'.s.PHYPayloadBin = (queuedFOpts m).length ∧
    Octets.slice m'.s.PHYPayloadBin 1 4 = Octets.ofNat 4 m.devAddr ∧
    Octets.slice m'.s.PHYPayloadBin 6 2 = Octets.ofNat 2 (frameFCntDown m) ∧
    Octets.slice m'.s.PHYPayloadBin 8 (queuedFOpts m).length =
      (sentFOpts A junk m.session.NwkSEncKeyBin (queuedFOpts m) m.devAddr m.session.NFCntDown
        m.session.OptNeg).take (queuedFOpts m).length ∧
    (carriesPayload m = true →
      8 + (queuedFOpts m).length + 1 + (m.s.FRMPayloadBin.take m.s.FRMPayloadLen).length ≤
        micOffset m →
      Octets.slice m'.s.PHYPayloadBin (8 + (queuedFOpts m).length)
        (1 + (m.s.FRMPayloadBin.take m.s.FRMPayloadLen).length) =
          m.s.md.FPort :: m.s.FRMPayloadBin.take m.s.FRMPayloadLen) ∧
    Octets.slice m'.s.PHYPayloadBin (micOffset m) 4 =
      LoRa_GenerateDataFrameIntegrityCode A
        (downlinkBlock (ackedFCnt m m.s) m.devAddr (frameFCntDown m) (micOffset m))
        m.session.SNwkSIntKeyBin (m'.s.PHYPayloadBin.take (micOffset m))

theorem buildFrame_some {junk : Octets} {m m' : Mote} (hbin : m.s.PHYPayloadBin.length = 256)
    (h : buildFrame A junk m = some m') : Built A junk m m' := by
  simp only [buildFrame, bind, Option.bind_eq_some_iff, Prod.exists] at h
  obtain ⟨s1, h1, s2, using_AFCntDwn, h2, s3, h3, s4, h4, hm⟩ := h
  obtain rfl := Option.some.inj hm
  obtain ⟨e1, len1, ctrl1, head1, fopts1⟩ := get_queued_mac_cmds_some A h1
  obtain ⟨e2, husing, hcnt, len2, ctrl2, fopts2, body2, type2⟩ := addPayload_some h2
  obtain ⟨e3, hin, len3, hlay⟩ := sealFrame_some A h3
  obtain ⟨e4, conf4, kept4⟩ := keepConfirmed_some h4
  have hL : (queuedFOpts m).length < 16 := Nat.lt_succ_of_le (queuedFOpts_length m)
  have hF1 : FOptsLen s1.PHYPayloadBin = (queuedFOpts m).length := FOptsLen_of_taken ctrl1
  have hF2 : FOptsLen s2.PHYPayloadBin = (queuedFOpts m).length := by
    rw [FOptsLen, ctrl2, ← FOptsLen, hF1]
  have hmic : lenBeforeMic s2 = micOffset m := by
    rw [lenBeforeMic, hF2, micOffset, bodyLen, e2, e1]
  have hbin4 : s4.PHYPayloadBin = s3.PHYPayloadBin := by rw [e4]
  have hcnt2 : txFCntDown m s2 using_AFCntDwn = frameFCntDown m := by
    have hmd : s1.md = m.s.md := by rw [e1]
    unfold txFCntDown frameFCntDown
    rw [husing] at hcnt ⊢
    by_cases hu : (carriesPayload m && m.session.OptNeg) = true
    · rw [if_pos hu, if_pos (by simpa using hu), hcnt hu, hmd]
    · rw [if_neg hu, if_neg (by simpa using hu)]
  have hack : ackedFCnt m s2 = ackedFCnt m m.s := by
    have : s2.newFCntUp = m.s.newFCntUp := by rw [e2, e1]
    rw [ackedFCnt, ackedFCnt, this]
  rw [hmic, hcnt2, hack] at hlay
  refine
    { mote := rfl
      state := ?_
      inside := by rw [hmic, len2, len1, hbin] at hin; exact hin
      bin := by rw [hbin4, len3, len2, len1, hbin]
      conf := by rw [conf4, e3, e2, e1]
      kept := ?_
      layout := ?_ }
  · have husing' : using_AFCntDwn = usesAFCntDown m := husing
    rw [hmic, husing'] at e3
    rw [e4, e3, e2, e1]
  · rcases kept4 with hzero | ⟨hl, hf, hb⟩ | ⟨hl, hf, hb⟩
    · exact Or.inl hzero
    · refine Or.inr (Or.inl ⟨?_, ?_, ?_⟩)
      · rw [hl, e4]
      · rw [hf, e4]
      · rw [e4]
        exact hb
    · refine Or.inr (Or.inr ⟨?_, ?_, ?_⟩)
      · rw [hl, e3, e2, e1]
      · rw [hf, e3, e2, e1]
      · rw [hb, e3, e2, e1]
  · intro hle
    obtain ⟨head3, ctrl3, addr3, cnt3, rest3, mic3⟩ := hlay (by omega)
    simp only [hbin4]
    refine ⟨?_, ?_, addr3, cnt3, ?_, ?_, mic3⟩
    · have hmd : s1.md = m.s.md := by rw [e1]
      rw [head3, type2, head1, hmd]
      rfl
    · rw [FOptsLen, ctrl3, ctrl2, ctrl1]
      exact setACK_toNat hL _
    · rw [rest3 _ _ (by omega) hle, ← hF1, fopts2, hF1]
      exact fopts1
    · intro hc hle'
      have hfrm : s1.FRMPayloadBin.take s1.FRMPayloadLen = m.s.FRMPayloadBin.take m.s.FRMPayloadLen := by
        rw [e1]
      have hmd : s1.md = m.s.md := by rw [e1]
      have hbody := body2 hc
      rw [hF1, hfrm, hmd] at hbody
      rw [rest3 _ _ (by omega) (by omega), hbody]

/-! ### Exactly the frames that fit are laid out -/

theorem frm_take_length {s : S} (h : s.Wf) :
    (s.FRMPayloadBin.take s.FRMPayloadLen).length = s.FRMPayloadLen := by
  have h1 := h.frm
  have h2 := h.frmLen
  rw [List.length_take]
  omega

theorem FRMPayloadLen_pos_of_carries {m : Mote} (h : carriesPayload m = true) :
    0 < m.s.FRMPayloadLen := by
  simp only [carriesPayload, wantsPayload, Bool.and_eq_true, decide_eq_true_eq] at h
  exact h.1.2

theorem micOffset_of_fits {m : Mote} (hfits : Fits m) :
    micOffset m = 8 + (queuedFOpts m).length + payloadLen m ∧ micOffset m + 4 < 256 := by
  have h15 := queuedFOpts_length m
  unfold Fits at hfits
  unfold micOffset bodyLen payloadLen at *
  by_cases hc : carriesPayload m = true
  · simp only [hc, if_true] at hfits ⊢
    omega
  · simp only [hc, Bool.false_eq_true, if_false] at hfits ⊢
    rw [hfits.1]
    omega

theorem splitDownlink_of_slices {bin : Octets} {L n : ℕ} (hbin : bin.length = 256)
    (hn : n ≤ 256) (hL : FOptsLen bin = L) (hle : 12 + L ≤ n) :
    splitDownlink (bin.take n) = some
      { MHDR := bin.headD 0
        DevAddr := Octets.toNat (Octets.slice bin 1 4)
        FCtrl := bin.getD 5 0
        FCnt := Octets.toNat (Octets.slice bin 6 2)
        FOpts := Octets.slice bin 8 L
        FPort := (Octets.slice bin (8 + L) (n - (12 + L))).head?
        FRMPayload := (Octets.slice bin (8 + L) (n - (12 + L))).tail
        MIC := Octets.slice bin (n - 4) 4 } := by
  have hlen : (bin.take n).length = n := by
    rw [List.length_take]
    omega
  have hF : FOptsLen (bin.take n) = L := by
    rw [FOptsLen, Octets.getD_take (by omega), ← FOptsLen, hL]
  unfold splitDownlink
  simp only [hF, hlen]
  rw [if_neg (by omega)]
  have hmic : (bin.take n).drop (n - 4) = Octets.slice bin (n - 4) 4 := by
    rw [List.drop_take, Octets.slice]
    congr 1
    omega
  rw [hmic, Octets.headD_eq_getD, Octets.getD_take (by omega), ← Octets.headD_eq_getD,
    Octets.getD_take (by omega), Octets.slice_take (by omega), Octets.slice_take (by omega),
    Octets.slice_take (by omega), Octets.slice_take (by omega)]

theorem laidOut_of_fits {junk : Octets} {m m' : Mote} (hwf : m.s.Wf) (hfits : Fits m)
    (hb : Built A junk m m') : LaidOut A m m' := by
  obtain ⟨hmic, hlt⟩ := micOffset_of_fits hfits
  have hlen : m'.s.PHYPayloadLen = micOffset m + 4 := by
    rw [hb.state]
    exact Nat.mod_eq_of_lt hlt
  obtain ⟨htype, hF, haddr, hcnt, hfopts, hbody, hMIC⟩ := hb.layout (by omega)
  have hfrm := frm_take_length hwf
  refine ⟨by omega, by omega, ?_, ?_⟩
  · rw [htype]
    unfold frameMType
    unfold Fits at hfits
    by_cases hc : carriesPayload m = true
    · simp only [hc, if_true, true_and]
    · simp only [hc, Bool.false_eq_true, if_false, false_and] at hfits ⊢
      split
      · rename_i hw
        exact hfits.2 hw
      · rfl
  · have hsplit := splitDownlink_of_slices hb.bin (n := m'.s.PHYPayloadLen) (by omega) hF (by omega)
    refine ⟨_, hsplit, ?_, ?_, ?_, ?_, ?_, ?_⟩
    · simp only [haddr, Octets.toNat_ofNat]
      norm_num
    · simp only [hcnt, Octets.toNat_ofNat]
      norm_num
    · unfold receivedFOpts
      simp only [hfopts, sentFOpts_take A junk _ _ _ _ (queuedFOpts_length m)]
      split
      · apply Octets.xor_xor_cancel
        have := queuedFOpts_length m
        rw [A.encrypt_length _ _ (encryptBlock_length 0 m.devAddr false m.session.NFCntDown)]
        omega
      · rfl
    · have hn : m'.s.PHYPayloadLen - (12 + (queuedFOpts m).length) = payloadLen m := by omega
      simp only [hn]
      by_cases hc : carriesPayload m = true
      · have hp : payloadLen m = 1 + m.s.FRMPayloadLen := by simp [payloadLen, hc]
        have := hbody hc (by omega)
        rw [hfrm] at this
        simp only [hc, if_true, hp, this]
        rfl
      · have hp : payloadLen m = 0 := by simp [payloadLen, hc]
        simp [hc, hp, Octets.slice]
    · have hn : m'.s.PHYPayloadLen - (12 + (queuedFOpts m).length) = payloadLen m := by omega
      simp only [hn]
      by_cases hc : carriesPayload m = true
      · have hp : payloadLen m = 1 + m.s.FRMPayloadLen := by simp [payloadLen, hc]
        have := hbody hc (by omega)
        rw [hfrm] at this
        simp only [hc, if_true, hp, this, List.tail_cons]
        exact hwf.accepted (FRMPayloadLen_pos_of_carries hc)
      · have hp : payloadLen m = 0 := by simp [payloadLen, hc]
        simp [hc, hp, Octets.slice]
    · have hoff : m'.s.PHYPayloadLen - 4 = micOffset m := by omega
      simp only [hoff]
      rw [hMIC, List.take_take, Nat.min_eq_left (by omega)]

theorem fits_of_laidOut {junk : Octets} {m m' : Mote} (hwf : m.s.Wf) (hb : Built A junk m m')
    (h : LaidOut A m m') : Fits m := by
  have hlen : m'.s.PHYPayloadLen = (micOffset m + 4) % 256 := by rw [hb.state]
  have h15 := queuedFOpts_length m
  have hlt := h.fits
  have hsum := h.length
  have hP := hwf.len
  have hF := hwf.frmLen
  unfold Fits
  by_cases hc : carriesPayload m = true
  · simp only [hc, if_true]
    omega
  · simp only [hc, Bool.false_eq_true, if_false]
    have hp : payloadLen m = 0 := by simp [payloadLen, hc]
    have hbody : bodyLen m = m.s.PHYPayloadLen := by simp [bodyLen, hc]
    have hzero : m.s.PHYPayloadLen = 0 := by
      unfold micOffset at hlen
      omega
    refine ⟨hzero, fun hw => ?_⟩
    have hmic : micOffset m = 8 + (queuedFOpts m).length := by
      unfold micOffset
      omega
    have htype := (hb.layout (by omega)).1
    rw [h.mtype] at htype
    simpa [frameMType, hc, hw] using htype.symm

theorem buildFrame_isSome_of_fits (junk : Octets) {m : Mote} (hwf : m.s.Wf) (hfits : Fits m) :
    ∃ m', buildFrame A junk m = some m' := by
  obtain ⟨hmic, hlt⟩ := micOffset_of_fits hfits
  obtain ⟨s1, h1⟩ := get_queued_mac_cmds_isSome A junk m.session.NwkSEncKeyBin m.devAddr
    m.session.NFCntDown m.session.OptNeg hwf.bin
  obtain ⟨e1, len1, ctrl1, head1, fopts1⟩ := get_queued_mac_cmds_some A h1
  have hF1 : FOptsLen s1.PHYPayloadBin = (queuedFOpts m).length := FOptsLen_of_taken ctrl1
  have hfrm : (s1.FRMPayloadBin.take s1.FRMPayloadLen).length = m.s.FRMPayloadLen := by
    have := frm_take_length hwf
    rw [e1]
    exact this
  obtain ⟨⟨s2, using_AFCntDwn⟩, h2⟩ := addPayload_isSome (m := m) (s := s1)
    (by rw [len1, hwf.bin]) fun hc => by
      have hp : payloadLen m = 1 + m.s.FRMPayloadLen := by simp [payloadLen, hc]
      omega
  obtain ⟨e2, husing, hcnt, len2, ctrl2, fopts2, body2, type2⟩ := addPayload_some h2
  have hbefore : lenBeforeMic s2 = micOffset m := by
    rw [lenBeforeMic, FOptsLen, ctrl2, ← FOptsLen, hF1, micOffset, bodyLen, e2, e1]
  obtain ⟨s3, h3⟩ := sealFrame_isSome A (m := m) (s := s2) using_AFCntDwn
    (by rw [len2, len1, hwf.bin]) (by omega)
  obtain ⟨e3, -, len3, -⟩ := sealFrame_some A h3
  obtain ⟨s4, h4⟩ := keepConfirmed_isSome (txFCntDown m s2 using_AFCntDwn) (s := s3)
    (by rw [e3, e2, e1]; exact hwf.conf) (by rw [e3]; exact Nat.mod_lt _ (by omega))
  simp only [buildFrame, bind, h1, h2, h3, h4, Option.bind_some, pure]
  exact ⟨_, rfl⟩

/-- The call stays inside the arrays and builds the frame as laid out if and only if it fits. -/
theorem frameOk_iff_fits (junk : Octets) {m : Mote} (hwf : m.s.Wf) :
    FrameOk A m (buildFrame A junk m) ↔ Fits m := by
  constructor
  · rintro ⟨m', hm', hlaid⟩
    exact fits_of_laidOut A hwf (buildFrame_some A hwf.bin hm') hlaid
  · intro hfits
    obtain ⟨m', hm'⟩ := buildFrame_isSome_of_fits A junk hwf hfits
    exact ⟨m', hm', laidOut_of_fits A hwf hfits (buildFrame_some A hwf.bin hm')⟩

end Lorawan.NetworkServer

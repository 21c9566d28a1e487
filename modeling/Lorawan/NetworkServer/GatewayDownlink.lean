import Mathlib.Data.List.Induction
import Lorawan.Lib.Cipher
import Lorawan.NetworkServer.MetaData
import Lorawan.NetworkServer.Serving

/-!
# Downlinks through a gateway (fNS.c:14-234, 1269-1308, gateway.c:418-535)

`fNS_downlink` finds the gateway that the token names and writes the packets of the windows to its
connection. A class B packet whose ping slot is past the beacon period is kept for
`fNS_beacon_service`. The writer returns 1 when it fails, and its callers look for less than zero.
-/

namespace Lorawan.NetworkServer
open Lorawan Lorawan.Backend

/-! ### Data -/

def TIMESTAMPED : UInt8 := 1
def IMMEDIATE : UInt8 := 0
def MOD_LORA : UInt8 := 0x10
def MOD_FSK : UInt8 := 0x20
def CR_LORA_4_5 : UInt8 := 0x01
def STD_LORA_PREAMB : UInt16 := 8
def DOWNLINK_TX : UInt8 := 3
def BEACON_WINDOW_SLOTS : ℕ := 4096

/-- An entry of `gateway_list`. -/
structure gateway_t where
  eui : UInt64
  fd : Int32
  RFRegion : Option Region
  seconds_at_beacon : UInt32
  tstamp_at_beacon : UInt32
  lgw_trigcnt_at_next_beacon : UInt32
  beacon_ch : UInt8
deriving DecidableEq

structure dr_t where
  lgw_bw : UInt8
  lgw_sf_bps : UInt8
  /-- Zero for LoRa. -/
  fdev_khz : UInt8
deriving DecidableEq

/-- An entry of `region_list`. -/
structure region_t where
  RFRegion : Option Region
  dl_tx_dbm : Int8
  datarates : List dr_t
  num_datarates : UInt8
deriving DecidableEq

/-- The size is that of the payload. -/
structure lgw_pkt_tx_s where
  freq_hz : UInt32
  tx_mode : UInt8
  count_us : UInt32
  rf_power : Int8
  modulation : UInt8
  bandwidth : UInt8
  datarate : UInt32
  coderate : UInt8
  invert_pol : Bool
  f_dev : UInt8
  preamble : UInt16
  no_crc : Bool
  no_header : Bool
  payload : Octets
  modem_idx : UInt8
deriving DecidableEq

/-- `ULToken_t`, as far as a downlink reads it. -/
structure ULToken_t where
  fd : Int32
  count_us : UInt32
deriving DecidableEq

/-- A `write` to the connection of a gateway, and what it returned. -/
structure Write where
  eui : UInt64
  fd : Int32
  octets : Octets
  wlen : ℤ
deriving DecidableEq

def Write.Complete (w : Write) : Prop := w.wlen = w.octets.length

instance (w : Write) : Decidable w.Complete := inferInstanceAs (Decidable (_ = _))

/-- What `f_t` gets for a packet that waits for the beacon. -/
structure Deferral where
  PingPeriod : UInt32
  /-- The gateway that `gw` points to; entries are not removed, and differ in the EUI. -/
  gw : UInt64
  tx_pkt : lgw_pkt_tx_s
  clientID : Option (List Char)
  reqTid : ℕ
deriving DecidableEq

/-- What a call of `fNS_downlink` leaves: no result when it comes later. -/
structure Outcome where
  result : Option Result
  writes : List Write
  /-- For the device of the address. -/
  deferred : Option (UInt32 × Deferral)
deriving DecidableEq

def Outcome.failed (writes : List Write) : Outcome := ⟨some .XmitFailed, writes, none⟩

variable {S : Type}

/-- What the clock, floating point, the stack and the operating system bring. -/
structure RadioEnv (S : Type) where
  /-- `DLFreq > 1.0` -/
  given : S → Bool
  /-- `DLFreq * 1000000` -/
  hz : S → UInt32
  /-- The uplink is too long ago for `RXDelay1`. -/
  late : gateway_t → UInt8 → Bool
  now_pingslot : gateway_t → Int16
  /-- The counter of the gateway in a ping slot. -/
  slotCount : gateway_t → UInt16 → UInt32
  /-- What `oct` holds when a pair is not scanned. -/
  junk : ℕ → UInt8
  junkPkt : lgw_pkt_tx_s
  /-- Whether `getMote` finds a device of the address. -/
  getMote : UInt32 → Bool
  /-- What the writes of a call return, in order. -/
  wlen : ℕ → ℤ

/-! ### Writing to a gateway -/

/-- An `int`, least significant octet first. -/
def le32 (n : UInt32) : Octets := Octets.ofNat 4 n.toNat

def le16 (n : UInt16) : Octets := Octets.ofNat 2 n.toNat

def boolOctet (b : Bool) : UInt8 := if b then 1 else 0

/-- What follows the length in `user_buf`. -/
def txOctets (p : lgw_pkt_tx_s) : Octets :=
  le32 p.freq_hz ++ [p.tx_mode] ++ le32 p.count_us ++
    [0xff, p.rf_power.toUInt8, p.modulation, p.bandwidth] ++ le32 p.datarate ++
    [p.coderate, boolOctet p.invert_pol, p.f_dev] ++ le16 p.preamble ++
    [boolOctet p.no_crc, boolOctet p.no_header] ++ Octets.ofNat 2 p.payload.length ++
    p.payload ++ [p.modem_idx]

/-- `user_buf`, with the length of the whole. -/
def userBuf (p : lgw_pkt_tx_s) : Octets :=
  DOWNLINK_TX :: Octets.ofNat 2 ((txOctets p).length + 3) ++ txOctets p

/-- 0 for ok, 1 for failure. -/
def gateway_write_downlink (wlen : ℤ) (gw : gateway_t) (p : lgw_pkt_tx_s) : ℤ × List Write :=
  if 256 < p.payload.length then (1, [])
  else
    let writes := [⟨gw.eui, gw.fd, userBuf p, wlen⟩]
    if wlen < 0 then (1, writes)
    else if wlen ≠ (userBuf p).length then (1, writes)
    else (0, writes)

def gateway_id_write_downlink (gateway_list : List gateway_t) (wlen : ℤ) (eui : UInt64)
    (p : lgw_pkt_tx_s) : ℤ × List Write :=
  match gateway_list.find? fun gw => gw.eui = eui with
  | some gw => gateway_write_downlink wlen gw p
  | none => (-1, [])

/-- The result that each caller makes of it. -/
def xmitResult (ret : ℤ) : Result := if ret < 0 then .XmitFailed else .Success

/-! ### The gateway of the token -/

/-- `sscanf` of one octet of the token, which reads from `str` on even behind its end. -/
def readTokenOctet (junk : ℕ → UInt8) (str : List Char) (i : ℕ) : Except Fault UInt8 :=
  if 2 * i ≤ str.length then
    .ok (((Text.scan2 (str.drop (2 * i))).map UInt8.ofNat).getD (junk i))
  else .error .undefined

def readTokenOctets (junk : ℕ → UInt8) (str : List Char) : Except Fault Octets :=
  (List.range 21).mapM (readTokenOctet junk str)

/-- The union's view of the octets. -/
def ULToken_t.ofOctets (octets : Octets) : ULToken_t where
  fd := (UInt32.ofNat (Octets.toNat (octets.slice 0 4))).toInt32
  count_us := UInt32.ofNat (Octets.toNat (octets.slice 4 4))

/-- The loop keeps the last entry that matches. -/
def lastMatch {α : Type} (p : α → Bool) (l : List α) : Option α :=
  l.foldl (fun found a => if p a then some a else found) none

/-- The checks before the packet is made. -/
def admission (E : RadioEnv S) (gateway_list : List gateway_t) (region_list : List region_t)
    (dlmd : DLMetaData_t S) (txBuf : Option Octets) (txLen : UInt8) :
    Except Fault (Option (gateway_t × region_t × ULToken_t)) :=
  if txBuf = none then .ok none
  else if txLen = 0 then .ok none
  else
    match dlmd.FNSULToken with
    | none => .ok none
    | some str => do
      let octets ← readTokenOctets E.junk str
      let bestULToken := ULToken_t.ofOctets octets
      match lastMatch (fun gw => gw.fd = bestULToken.fd) gateway_list with
      | none => pure none
      | some gw =>
        if dlmd.ClassMode = 'A' ∧ E.late gw dlmd.RXDelay1 then pure none
        else
          match lastMatch (fun r => r.RFRegion = gw.RFRegion) region_list with
          | none => pure none
          | some region => pure (some (gw, region, bestULToken))

/-! ### fNS_downlink -/

/-- Each window's data rate; what another window wrote stays. -/
def setDatarate (region : region_t) (rate : UInt8) (p : lgw_pkt_tx_s) :
    Except Fault lgw_pkt_tx_s := do
  let dr ← deref region.datarates[rate.toNat]?
  pure (if dr.fdev_khz = 0 then
      { p with datarate := dr.lgw_sf_bps.toUInt32, bandwidth := dr.lgw_bw }
    else
      { p with modulation := MOD_FSK, f_dev := dr.fdev_khz, datarate := dr.lgw_sf_bps.toUInt32 })

/-- The packet before its windows are looked at. -/
def basePacket (E : RadioEnv S) (region : region_t) (payload : Octets) : lgw_pkt_tx_s :=
  { E.junkPkt with
    tx_mode := TIMESTAMPED
    rf_power := region.dl_tx_dbm
    invert_pol := true
    preamble := STD_LORA_PREAMB
    no_crc := true
    no_header := false
    payload := payload
    modem_idx := 0
    coderate := CR_LORA_4_5
    modulation := MOD_LORA }

variable (A : BlockCipher)

/-- `pingPeriod` becomes 16 bits wide, and divides. -/
def LoRaMacBeaconComputePingOffset (beaconTime address : UInt32) (pingPeriod : UInt16) :
    Except Fault UInt16 :=
  if pingPeriod = 0 then .error .undefined
  else
    let cipher := A.encrypt (List.replicate 16 0)
      (le32 beaconTime ++ le32 address ++ List.replicate 8 0)
    .ok (UInt16.ofNat (Octets.toNat (cipher.take 2) % pingPeriod.toNat))

/-- `while (_use_pingslot < (now_pingslot+5)) _use_pingslot += PingPeriod;` -/
def usePingslot (now_pingslot : Int16) (PingPeriod : UInt32) : ℕ → UInt16 → Option UInt16
  | 0, _ => none
  | fuel + 1, slot =>
    if (slot.toNat : ℤ) < now_pingslot.toInt + 5 then
      usePingslot now_pingslot PingPeriod fuel (slot + PingPeriod.toUInt16)
    else some slot

/-- The next ping slot that can be met. A loop of more turns than there are slots does not end. -/
def pingSlot (E : RadioEnv S) (gw : gateway_t) (dlmd : DLMetaData_t S) (DevAddr : UInt32) :
    Except Fault UInt16 := do
  let ping_offset ←
    LoRaMacBeaconComputePingOffset A gw.seconds_at_beacon DevAddr dlmd.PingPeriod.toUInt16
  deref (usePingslot (E.now_pingslot gw) dlmd.PingPeriod (2 ^ 16) ping_offset)

/-- The address in the header of a frame. -/
def frameDevAddr (txBuf : Octets) : UInt32 := UInt32.ofNat (Octets.toNat (txBuf.slice 1 4))

section

variable (E : RadioEnv S) (gateway_list : List gateway_t) (gw : gateway_t) (region : region_t)
  (dlmd : DLMetaData_t S)

/-- The ping of class B, or its deferral. -/
def sendPing (reqTid : ℕ) (clientID : Option (List Char)) (txBuf : Octets) (p : lgw_pkt_tx_s) :
    Except Fault Outcome := do
  let p ← setDatarate region dlmd.DataRate1 { p with freq_hz := E.hz dlmd.DLFreq1 }
  if dlmd.PingPeriod = 0 then pure (.failed [])
  else
    let slot ← pingSlot A E gw dlmd (frameDevAddr txBuf)
    let p := { p with count_us := E.slotCount gw slot }
    if BEACON_WINDOW_SLOTS ≤ slot.toNat then
      if E.getMote (frameDevAddr txBuf) then
        pure ⟨none, [], some (frameDevAddr txBuf, ⟨dlmd.PingPeriod, gw.eui, p, clientID, reqTid⟩)⟩
      else pure (.failed [])
    else
      let sent := gateway_id_write_downlink gateway_list (E.wlen 0) gw.eui p
      pure ⟨some (xmitResult sent.1), sent.2, none⟩

/-- The second window, after the writes of the first. -/
def sendTX2 (token : ULToken_t) (writes : List Write) (p : lgw_pkt_tx_s) :
    Except Fault Outcome :=
  if E.given dlmd.DLFreq2 then
    if region.num_datarates ≤ dlmd.DataRate2 then .ok (.failed writes)
    else do
      let p ← setDatarate region dlmd.DataRate2 p
      let p :=
        if dlmd.ClassMode = 'C' then { p with tx_mode := IMMEDIATE }
        else { p with count_us := token.count_us + (dlmd.RXDelay1.toUInt32 + 1) * 1000000 }
      let sent := gateway_id_write_downlink gateway_list (E.wlen writes.length) gw.eui
        { p with freq_hz := E.hz dlmd.DLFreq2 }
      pure ⟨some (xmitResult sent.1), writes ++ sent.2, none⟩
  else .ok ⟨some .Success, writes, none⟩

def sendTX1 (token : ULToken_t) (p : lgw_pkt_tx_s) : Except Fault Outcome :=
  if E.given dlmd.DLFreq1 then
    if region.num_datarates ≤ dlmd.DataRate1 then .ok (.failed [])
    else do
      let p ← setDatarate region dlmd.DataRate1 p
      let p := { p with
        freq_hz := E.hz dlmd.DLFreq1
        count_us := token.count_us + dlmd.RXDelay1.toUInt32 * 1000000 }
      let sent := gateway_id_write_downlink gateway_list (E.wlen 0) gw.eui p
      if sent.1 < 0 then pure (.failed sent.2)
      else sendTX2 E gateway_list gw region dlmd token sent.2 p
  else sendTX2 E gateway_list gw region dlmd token [] p

end

def fNS_downlink (E : RadioEnv S) (gateway_list : List gateway_t) (region_list : List region_t)
    (dlmd : DLMetaData_t S) (reqTid : ℕ) (clientID : Option (List Char)) (txBuf : Option Octets)
    (txLen : UInt8) : Except Fault Outcome := do
  match ← admission E gateway_list region_list dlmd txBuf txLen with
  | none => pure (.failed [])
  | some (gw, region, token) =>
    let txBuf ← deref txBuf
    let p := basePacket E region (txBuf.take txLen.toNat)
    if dlmd.ClassMode = 'B' then
      sendPing A E gateway_list gw region dlmd reqTid clientID txBuf p
    else if dlmd.ClassMode = 'C' ∨ dlmd.ClassMode = 'A' then
      sendTX1 E gateway_list gw region dlmd token p
    else pure (.failed [])

/-- What `fNS_beacon_service` does with the packet. -/
def sendDeferred (gateway_list : List gateway_t) (wlen : ℤ) (eui : UInt64) (p : lgw_pkt_tx_s) :
    Outcome :=
  let sent := gateway_id_write_downlink gateway_list wlen eui p
  ⟨some (xmitResult sent.1), sent.2, none⟩

/-! ### What the writer returns -/

@[simp] theorem le32_length (n : UInt32) : (le32 n).length = 4 := Octets.length_ofNat ..

@[simp] theorem le16_length (n : UInt16) : (le16 n).length = 2 := Octets.length_ofNat ..

theorem userBuf_length (p : lgw_pkt_tx_s) : (userBuf p).length = p.payload.length + 30 := by
  simp only [userBuf, txOctets, List.length_cons, List.length_append, List.length_nil, le32_length,
    le16_length, Octets.length_ofNat]
  omega

theorem gateway_write_downlink_nonneg (wlen : ℤ) (gw : gateway_t) (p : lgw_pkt_tx_s) :
    0 ≤ (gateway_write_downlink wlen gw p).1 := by
  rw [gateway_write_downlink]
  split
  · exact Int.one_nonneg
  · dsimp only
    split
    · exact Int.one_nonneg
    · split
      · exact Int.one_nonneg
      · exact le_refl _

theorem xmitResult_of_listed {gateway_list : List gateway_t} {eui : UInt64}
    (h : ∃ gw ∈ gateway_list, gw.eui = eui) (wlen : ℤ) (p : lgw_pkt_tx_s) :
    xmitResult (gateway_id_write_downlink gateway_list wlen eui p).1 = .Success := by
  obtain ⟨gw, hmem, heui⟩ := h
  have hnonneg : 0 ≤ (gateway_id_write_downlink gateway_list wlen eui p).1 := by
    rw [gateway_id_write_downlink]
    split
    · exact gateway_write_downlink_nonneg ..
    · rename_i hnone
      have hne := List.find?_eq_none.mp hnone gw hmem
      simp [heui] at hne
  rw [xmitResult, if_neg (Int.not_lt.mpr hnonneg)]

def complete (writes : List Write) : ℕ := writes.countP fun w => decide w.Complete

/-- A packet that fits the buffer is written once, and whole when `write` takes all of it. -/
theorem complete_write {gateway_list : List gateway_t} {eui : UInt64}
    (h : ∃ gw ∈ gateway_list, gw.eui = eui) (wlen : ℤ) {p : lgw_pkt_tx_s}
    (hsize : p.payload.length ≤ 256) :
    (gateway_id_write_downlink gateway_list wlen eui p).2.length = 1 ∧
      (complete (gateway_id_write_downlink gateway_list wlen eui p).2 =
        if wlen = p.payload.length + 30 then 1 else 0) := by
  obtain ⟨gw, hmem, heui⟩ := h
  rw [gateway_id_write_downlink]
  split
  · rename_i found hfound
    have hwrites : (gateway_write_downlink wlen found p).2 = [⟨found.eui, found.fd, userBuf p, wlen⟩] := by
      rw [gateway_write_downlink, if_neg (Nat.not_lt.mpr hsize)]
      dsimp only
      split
      · rfl
      · split <;> rfl
    rw [hwrites]
    refine ⟨rfl, ?_⟩
    have hlen : ((userBuf p).length : ℤ) = p.payload.length + 30 := by
      rw [userBuf_length]
      rfl
    simp [complete, Write.Complete, hlen, List.countP_cons]
  · rename_i hnone
    have hne := List.find?_eq_none.mp hnone gw hmem
    simp [heui] at hne

theorem lastMatch_eq {α : Type} (p : α → Bool) (l : List α) :
    lastMatch p l = (l.filter p).getLast? := by
  induction l using List.reverseRecOn with
  | nil => rfl
  | append_singleton l a ih =>
    rw [lastMatch, List.foldl_append, List.foldl_cons, List.foldl_nil, List.filter_append]
    cases hp : p a with
    | true => simp [hp]
    | false =>
      simp only [hp, Bool.false_eq_true, if_false, List.filter_cons, List.filter_nil,
        List.append_nil]
      exact ih

theorem lastMatch_some {α : Type} {p : α → Bool} {l : List α} {a : α}
    (h : lastMatch p l = some a) : a ∈ l ∧ p a = true := by
  rw [lastMatch_eq] at h
  exact List.mem_filter.mp (List.mem_of_getLast? h)

/-! ### What is reported and what was written -/

/-- The packets that a downlink is to transmit. -/
def planned (E : RadioEnv S) (dlmd : DLMetaData_t S) : ℕ :=
  if dlmd.ClassMode = 'B' then 1
  else (E.given dlmd.DLFreq1).toNat + (E.given dlmd.DLFreq2).toNat

/-- Success is the report when all packets were written whole, and only then. -/
def Outcome.Reports (o : Outcome) (packets : ℕ) : Prop :=
  o.result = some .Success ↔ complete o.writes = packets

def RatesOk (E : RadioEnv S) (region : region_t) (dlmd : DLMetaData_t S) : Prop :=
  (E.given dlmd.DLFreq1 = true → dlmd.DataRate1 < region.num_datarates) ∧
    (E.given dlmd.DLFreq2 = true → dlmd.DataRate2 < region.num_datarates)

/-- The ping is sent in this beacon period. -/
def PingPasses (E : RadioEnv S) (gw : gateway_t) (dlmd : DLMetaData_t S) (DevAddr : UInt32) :
    Prop :=
  dlmd.PingPeriod ≠ 0 ∧
    ∃ slot, pingSlot A E gw dlmd DevAddr = .ok slot ∧ slot.toNat < BEACON_WINDOW_SLOTS

/-- No check refuses the downlink, and it does not wait for the beacon. -/
def Admitted (E : RadioEnv S) (gateway_list : List gateway_t) (region_list : List region_t)
    (dlmd : DLMetaData_t S) (txBuf : Option Octets) (txLen : UInt8) : Prop :=
  ∃ gw region token, admission E gateway_list region_list dlmd txBuf txLen =
      .ok (some (gw, region, token)) ∧
    if dlmd.ClassMode = 'B' then PingPasses A E gw dlmd (frameDevAddr (txBuf.getD []))
    else (dlmd.ClassMode = 'C' ∨ dlmd.ClassMode = 'A') ∧ RatesOk E region dlmd

/-- The operating system takes the whole of each packet. -/
def TakenWhole (E : RadioEnv S) (packets size : ℕ) : Prop :=
  ∀ i < packets, E.wlen i = size + 30

theorem admission_some {E : RadioEnv S} {gateway_list : List gateway_t} {region_list : List region_t}
    {dlmd : DLMetaData_t S} {txBuf : Option Octets} {txLen : UInt8} {gw : gateway_t}
    {region : region_t} {token : ULToken_t}
    (h : admission E gateway_list region_list dlmd txBuf txLen = .ok (some (gw, region, token))) :
    gw ∈ gateway_list ∧ ∃ bs, txBuf = some bs := by
  rw [admission] at h
  split at h
  · cases h
  · rename_i hbuf
    split at h
    · cases h
    · split at h
      · cases h
      · obtain ⟨octets, -, h⟩ := bind_ok_iff.mp h
        dsimp only at h
        split at h
        · cases h
        · rename_i found hfound
          split at h
          · cases h
          · split at h
            · cases h
            · cases h
              exact ⟨(lastMatch_some hfound).1, Option.ne_none_iff_exists'.mp hbuf⟩

theorem setDatarate_payload {region : region_t} {rate : UInt8} {p q : lgw_pkt_tx_s}
    (h : setDatarate region rate p = .ok q) : q.payload = p.payload := by
  obtain ⟨dr, -, h⟩ := bind_ok_iff.mp h
  rw [← pure_ok_iff.mp h]
  split <;> rfl

/-- Whether the `i`-th write of a call takes the packet whole. -/
def whole (E : RadioEnv S) (i size : ℕ) : ℕ := if E.wlen i = size + 30 then 1 else 0

theorem complete_append (ws ws' : List Write) : complete (ws ++ ws') = complete ws + complete ws' :=
  List.countP_append

section

variable {E : RadioEnv S} {gateway_list : List gateway_t} {gw : gateway_t} {region : region_t}
  {dlmd : DLMetaData_t S} {token : ULToken_t} {o : Outcome}

/-- The second window: refused for its data rate, written, or not given. -/
theorem sendTX2_cases {writes : List Write} {p : lgw_pkt_tx_s}
    (h : sendTX2 E gateway_list gw region dlmd token writes p = .ok o) :
    (E.given dlmd.DLFreq2 = true ∧ region.num_datarates ≤ dlmd.DataRate2 ∧ o = .failed writes) ∨
    (E.given dlmd.DLFreq2 = true ∧ dlmd.DataRate2 < region.num_datarates ∧
      ∃ r : lgw_pkt_tx_s, r.payload = p.payload ∧
        let sent := gateway_id_write_downlink gateway_list (E.wlen writes.length) gw.eui r
        o = ⟨some (xmitResult sent.1), writes ++ sent.2, none⟩) ∨
    E.given dlmd.DLFreq2 = false ∧ o = ⟨some .Success, writes, none⟩ := by
  rw [sendTX2] at h
  split at h
  · rename_i hgiven
    split at h
    · rename_i hrate
      cases h
      exact Or.inl ⟨hgiven, hrate, rfl⟩
    · rename_i hrate
      obtain ⟨q, hq, h⟩ := bind_ok_iff.mp h
      refine Or.inr (Or.inl ⟨hgiven, UInt8.not_le.mp hrate, _, ?_, (pure_ok_iff.mp h).symm⟩)
      rw [← setDatarate_payload hq]
      dsimp only
      split <;> rfl
  · rename_i hgiven
    cases h
    exact Or.inr (Or.inr ⟨Bool.eq_false_iff.mpr hgiven, rfl⟩)

theorem sendTX2_ok (hgw : gw ∈ gateway_list) {writes : List Write} {p : lgw_pkt_tx_s}
    (hsize : p.payload.length ≤ 256)
    (h : sendTX2 E gateway_list gw region dlmd token writes p = .ok o) :
    o.deferred = none ∧
      (o = .failed writes ∧ E.given dlmd.DLFreq2 = true ∧ region.num_datarates ≤ dlmd.DataRate2 ∨
        o.result = some .Success ∧
          (E.given dlmd.DLFreq2 = true → dlmd.DataRate2 < region.num_datarates) ∧
          complete o.writes = complete writes +
            if E.given dlmd.DLFreq2 then whole E writes.length p.payload.length else 0) := by
  have hlisted : ∃ g ∈ gateway_list, g.eui = gw.eui := ⟨gw, hgw, rfl⟩
  rcases sendTX2_cases h with ⟨hgiven, hrate, rfl⟩ | ⟨hgiven, hrate, r, hsame, rfl⟩ | ⟨hgiven, rfl⟩
  · exact ⟨rfl, Or.inl ⟨rfl, hgiven, hrate⟩⟩
  · have hone := (complete_write hlisted (E.wlen writes.length) (hsame ▸ hsize)).2
    refine ⟨rfl, Or.inr ⟨congrArg some (xmitResult_of_listed hlisted _ _), fun _ => hrate, ?_⟩⟩
    rw [complete_append, hone, hsame, if_pos hgiven, whole]
  · refine ⟨rfl, Or.inr ⟨rfl, fun hg => absurd (hgiven.symm.trans hg) Bool.false_ne_true, ?_⟩⟩
    rw [hgiven, if_neg Bool.false_ne_true, Nat.add_zero]

theorem whole_le (E : RadioEnv S) (i size : ℕ) : whole E i size ≤ 1 := by
  rw [whole]
  split <;> decide

/-- The first window: refused for its data rate, written before the second, or not given. -/
theorem sendTX1_cases (hgw : gw ∈ gateway_list) {p : lgw_pkt_tx_s}
    (h : sendTX1 E gateway_list gw region dlmd token p = .ok o) :
    (E.given dlmd.DLFreq1 = true ∧ region.num_datarates ≤ dlmd.DataRate1 ∧ o = .failed []) ∨
    (E.given dlmd.DLFreq1 = true ∧ dlmd.DataRate1 < region.num_datarates ∧
      ∃ r : lgw_pkt_tx_s, r.payload = p.payload ∧
        sendTX2 E gateway_list gw region dlmd token
          (gateway_id_write_downlink gateway_list (E.wlen 0) gw.eui r).2 r = .ok o) ∨
    E.given dlmd.DLFreq1 = false ∧ sendTX2 E gateway_list gw region dlmd token [] p = .ok o := by
  rw [sendTX1] at h
  split at h
  · rename_i hgiven
    split at h
    · rename_i hrate
      cases h
      exact Or.inl ⟨hgiven, hrate, rfl⟩
    · rename_i hrate
      obtain ⟨q, hq, h⟩ := bind_ok_iff.mp h
      have hpayload := setDatarate_payload hq
      refine Or.inr (Or.inl ⟨hgiven, UInt8.not_le.mp hrate, { q with
        freq_hz := E.hz dlmd.DLFreq1
        count_us := token.count_us + dlmd.RXDelay1.toUInt32 * 1000000 }, hpayload, ?_⟩)
      dsimp only at h
      split at h
      · rename_i hneg
        -- the gateway is in the list, so the writer returns no error
        have hsuccess := xmitResult_of_listed ⟨gw, hgw, rfl⟩ (E.wlen 0) { q with
          freq_hz := E.hz dlmd.DLFreq1
          count_us := token.count_us + dlmd.RXDelay1.toUInt32 * 1000000 }
        rw [xmitResult, if_pos hneg] at hsuccess
        cases hsuccess
      · exact h
  · rename_i hgiven
    exact Or.inr (Or.inr ⟨Bool.eq_false_iff.mpr hgiven, h⟩)

theorem sendTX1_ok (hgw : gw ∈ gateway_list) {p : lgw_pkt_tx_s} (hsize : p.payload.length ≤ 256)
    (h : sendTX1 E gateway_list gw region dlmd token p = .ok o) :
    o.deferred = none ∧
      (o.result = some .XmitFailed ∧ ¬ RatesOk E region dlmd ∧
          complete o.writes < (E.given dlmd.DLFreq1).toNat + (E.given dlmd.DLFreq2).toNat ∨
        o.result = some .Success ∧ RatesOk E region dlmd ∧
          complete o.writes = (if E.given dlmd.DLFreq1 then whole E 0 p.payload.length else 0) +
            if E.given dlmd.DLFreq2 then
              whole E (E.given dlmd.DLFreq1).toNat p.payload.length
            else 0) := by
  rcases sendTX1_cases hgw h with ⟨hgiven, hrate, rfl⟩ | ⟨hgiven, hrate, r, hsame, h2⟩ |
    ⟨hgiven, h2⟩
  · refine ⟨rfl, Or.inl ⟨rfl, fun hok => UInt8.not_le.mpr (hok.1 hgiven) hrate, ?_⟩⟩
    rw [Outcome.failed, complete, List.countP_nil, hgiven, Bool.toNat_true]
    omega
  · obtain ⟨hone, hwhole⟩ := complete_write ⟨gw, hgw, rfl⟩ (E.wlen 0) (hsame ▸ hsize)
    rw [hsame] at hwhole
    obtain ⟨hnone, h2⟩ := sendTX2_ok hgw (hsame ▸ hsize) h2
    refine ⟨hnone, ?_⟩
    have hle := whole_le E 0 p.payload.length
    rw [whole] at hle
    rw [hgiven, if_pos rfl]
    rcases h2 with ⟨rfl, hgiven2, hrate2⟩ | ⟨hres, hrate2, hcount⟩
    · refine Or.inl ⟨rfl, fun hok => UInt8.not_le.mpr (hok.2 hgiven2) hrate2, ?_⟩
      rw [Outcome.failed, hwhole, hgiven2, Bool.toNat_true]
      omega
    · refine Or.inr ⟨hres, ⟨fun _ => hrate, hrate2⟩, ?_⟩
      rw [hcount, hwhole, hone, hsame, Bool.toNat_true]
      rfl
  · obtain ⟨hnone, h2⟩ := sendTX2_ok hgw hsize h2
    refine ⟨hnone, ?_⟩
    rw [hgiven, if_neg Bool.false_ne_true, Bool.toNat_false, Nat.zero_add, Nat.zero_add]
    rcases h2 with ⟨rfl, hgiven2, hrate2⟩ | ⟨hres, hrate2, hcount⟩
    · refine Or.inl ⟨rfl, fun hok => UInt8.not_le.mpr (hok.2 hgiven2) hrate2, ?_⟩
      rw [Outcome.failed, complete, List.countP_nil, hgiven2, Bool.toNat_true]
      exact Nat.one_pos
    · refine Or.inr ⟨hres, ⟨fun h1 => absurd (hgiven.symm.trans h1) Bool.false_ne_true, hrate2⟩, ?_⟩
      rw [hcount, complete, List.countP_nil, Nat.zero_add, List.length_nil]

variable {A} {reqTid : ℕ} {clientID : Option (List Char)} {txBuf : Octets}

/-- The ping: refused, kept for the beacon, or written. -/
theorem sendPing_cases {p : lgw_pkt_tx_s}
    (h : sendPing A E gateway_list gw region dlmd reqTid clientID txBuf p = .ok o) :
    (dlmd.PingPeriod = 0 ∧ o = .failed []) ∨
    dlmd.PingPeriod ≠ 0 ∧ ∃ slot, pingSlot A E gw dlmd (frameDevAddr txBuf) = .ok slot ∧
      (BEACON_WINDOW_SLOTS ≤ slot.toNat ∧ o = .failed [] ∨
        BEACON_WINDOW_SLOTS ≤ slot.toNat ∧ (∃ q, o = ⟨none, [],
          some (frameDevAddr txBuf, ⟨dlmd.PingPeriod, gw.eui, q, clientID, reqTid⟩)⟩) ∨
        slot.toNat < BEACON_WINDOW_SLOTS ∧ ∃ r : lgw_pkt_tx_s, r.payload = p.payload ∧
          let sent := gateway_id_write_downlink gateway_list (E.wlen 0) gw.eui r
          o = ⟨some (xmitResult sent.1), sent.2, none⟩) := by
  obtain ⟨q, hq, h⟩ := bind_ok_iff.mp h
  have hpayload := setDatarate_payload hq
  split at h
  · rename_i hzero
    exact Or.inl ⟨hzero, (pure_ok_iff.mp h).symm⟩
  · rename_i hpos
    obtain ⟨slot, hslot, h⟩ := bind_ok_iff.mp h
    refine Or.inr ⟨hpos, slot, hslot, ?_⟩
    dsimp only at h
    split at h
    · rename_i hlate
      split at h
      · exact Or.inr (Or.inl ⟨hlate, _, (pure_ok_iff.mp h).symm⟩)
      · exact Or.inl ⟨hlate, (pure_ok_iff.mp h).symm⟩
    · rename_i hearly
      exact Or.inr (Or.inr ⟨Nat.lt_of_not_le hearly, { q with count_us := E.slotCount gw slot },
        hpayload, (pure_ok_iff.mp h).symm⟩)

theorem sendPing_ok (hgw : gw ∈ gateway_list) {p : lgw_pkt_tx_s} (hsize : p.payload.length ≤ 256)
    (h : sendPing A E gateway_list gw region dlmd reqTid clientID txBuf p = .ok o)
    (hnone : o.deferred = none) :
    o.result = some .XmitFailed ∧ ¬ PingPasses A E gw dlmd (frameDevAddr txBuf) ∧ o.writes = [] ∨
      o.result = some .Success ∧ PingPasses A E gw dlmd (frameDevAddr txBuf) ∧
        complete o.writes = whole E 0 p.payload.length := by
  have hlisted : ∃ g ∈ gateway_list, g.eui = gw.eui := ⟨gw, hgw, rfl⟩
  rcases sendPing_cases h with ⟨hzero, rfl⟩ | ⟨hpos, slot, hslot, hcase⟩
  · exact Or.inl ⟨rfl, fun hpass => hpass.1 hzero, rfl⟩
  · rcases hcase with ⟨hlate, rfl⟩ | ⟨-, q, rfl⟩ | ⟨hearly, r, hsame, rfl⟩
    · refine Or.inl ⟨rfl, ?_, rfl⟩
      intro hpass
      obtain ⟨-, slot', hslot', hlt⟩ := hpass
      cases hslot.symm.trans hslot'
      omega
    · cases hnone
    · refine Or.inr ⟨congrArg some (xmitResult_of_listed hlisted _ _),
        ⟨hpos, slot, hslot, hearly⟩, ?_⟩
      rw [(complete_write hlisted (E.wlen 0) (hsame ▸ hsize)).2, hsame, whole]

end

section

variable {A} {E : RadioEnv S} {gateway_list : List gateway_t} {region_list : List region_t}
  {dlmd : DLMetaData_t S} {reqTid : ℕ} {clientID : Option (List Char)} {txBuf : Option Octets}
  {txLen : UInt8} {o : Outcome}

/-- The size of the packet's payload. -/
def payloadSize (txBuf : Option Octets) (txLen : UInt8) : ℕ :=
  ((txBuf.getD []).take txLen.toNat).length

theorem payloadSize_le (txBuf : Option Octets) (txLen : UInt8) : payloadSize txBuf txLen ≤ 256 := by
  have hlt : txLen.toNat < 256 := txLen.toNat_lt
  rw [payloadSize, List.length_take]
  omega

theorem whole_eq_one_iff (E : RadioEnv S) (i size : ℕ) :
    whole E i size = 1 ↔ E.wlen i = size + 30 := by
  rw [whole]
  split <;> simp_all

theorem takenWhole_one (E : RadioEnv S) (size : ℕ) : TakenWhole E 1 size ↔ E.wlen 0 = size + 30 := by
  constructor
  · exact fun h => h 0 Nat.one_pos
  · intro h i hi
    rw [Nat.lt_one_iff.mp hi]
    exact h

theorem windows_whole (E : RadioEnv S) (size : ℕ) (given1 given2 : Bool) :
    (if given1 then whole E 0 size else 0) + (if given2 then whole E given1.toNat size else 0) =
        given1.toNat + given2.toNat ↔ TakenWhole E (given1.toNat + given2.toNat) size := by
  have hone := whole_eq_one_iff E 0 size
  cases given1 <;> cases given2
  · simp [TakenWhole]
  · simpa [takenWhole_one] using hone
  · simpa [takenWhole_one] using hone
  · have h0 := whole_le E 0 size
    have h1 := whole_le E 1 size
    simp only [if_true, Bool.toNat_true, TakenWhole, Nat.forall_lt_succ_right, Nat.not_lt_zero,
      IsEmpty.forall_iff, implies_true, true_and, ← whole_eq_one_iff]
    omega

/-- A downlink that is not kept for the beacon is refused by a check, or Success is reported. -/
theorem fNS_downlink_ok
    (h : fNS_downlink A E gateway_list region_list dlmd reqTid clientID txBuf txLen = .ok o)
    (hnone : o.deferred = none) :
    o.result = some .XmitFailed ∧ ¬ Admitted A E gateway_list region_list dlmd txBuf txLen ∧
        (complete o.writes < planned E dlmd ∨ o.writes = []) ∨
      o.result = some .Success ∧ Admitted A E gateway_list region_list dlmd txBuf txLen ∧
        (complete o.writes = planned E dlmd ↔
          TakenWhole E (planned E dlmd) (payloadSize txBuf txLen)) := by
  obtain ⟨found, hadmission, h⟩ := bind_ok_iff.mp h
  cases found with
  | none =>
    rw [← pure_ok_iff.mp h]
    refine Or.inl ⟨rfl, ?_, Or.inr rfl⟩
    rintro ⟨gw, region, token, hsome, -⟩
    cases hadmission.symm.trans hsome
  | some found =>
    obtain ⟨gw, region, token⟩ := found
    obtain ⟨hgw, bs, rfl⟩ := admission_some hadmission
    simp only [deref_some, ok_bind] at h
    have hsize : (basePacket E region (bs.take txLen.toNat)).payload.length ≤ 256 :=
      payloadSize_le (some bs) txLen
    have hunique : ∀ {gw' region' token'}, admission E gateway_list region_list dlmd (some bs) txLen =
        .ok (some (gw', region', token')) → gw' = gw ∧ region' = region := by
      intro gw' region' token' hsome
      cases hadmission.symm.trans hsome
      exact ⟨rfl, rfl⟩
    by_cases hB : dlmd.ClassMode = 'B'
    · rw [if_pos hB] at h
      have hplan : planned E dlmd = 1 := by rw [planned, if_pos hB]
      rw [hplan]
      rcases sendPing_ok hgw hsize h hnone with ⟨hres, hpass, hw⟩ | ⟨hres, hpass, hcount⟩
      · refine Or.inl ⟨hres, ?_, Or.inr hw⟩
        rintro ⟨gw', region', token', hsome, hping⟩
        rw [if_pos hB, (hunique hsome).1] at hping
        exact hpass hping
      · refine Or.inr ⟨hres, ⟨gw, region, token, hadmission, by rw [if_pos hB]; exact hpass⟩, ?_⟩
        rw [hcount, whole_eq_one_iff, takenWhole_one]
        exact Iff.rfl
    · rw [if_neg hB] at h
      have hplan : planned E dlmd = (E.given dlmd.DLFreq1).toNat + (E.given dlmd.DLFreq2).toNat := by
        rw [planned, if_neg hB]
      split at h
      · rename_i hclass
        rw [hplan]
        obtain ⟨-, ⟨hres, hrates, hlt⟩ | ⟨hres, hrates, hcount⟩⟩ := sendTX1_ok hgw hsize h
        · refine Or.inl ⟨hres, ?_, Or.inl hlt⟩
          rintro ⟨gw', region', token', hsome, hwin⟩
          rw [if_neg hB, (hunique hsome).2] at hwin
          exact hrates hwin.2
        · refine Or.inr ⟨hres, ⟨gw, region, token, hadmission, by rw [if_neg hB]; exact ⟨hclass, hrates⟩⟩, ?_⟩
          rw [hcount]
          exact windows_whole E (payloadSize (some bs) txLen) _ _
      · rename_i hclass
        rw [← pure_ok_iff.mp h]
        refine Or.inl ⟨rfl, ?_, Or.inr rfl⟩
        rintro ⟨gw', region', token', -, hwin⟩
        rw [if_neg hB] at hwin
        exact hclass hwin.1

theorem reports_iff
    (h : fNS_downlink A E gateway_list region_list dlmd reqTid clientID txBuf txLen = .ok o)
    (hnone : o.deferred = none) :
    o.Reports (planned E dlmd) ↔
      (Admitted A E gateway_list region_list dlmd txBuf txLen →
          TakenWhole E (planned E dlmd) (payloadSize txBuf txLen)) ∧
        (Admitted A E gateway_list region_list dlmd txBuf txLen ∨ 0 < planned E dlmd) := by
  rw [Outcome.Reports]
  rcases fNS_downlink_ok h hnone with ⟨hres, hpass, hcount⟩ | ⟨hres, hpass, hcount⟩
  · have hne : complete o.writes ≠ planned E dlmd ↔ 0 < planned E dlmd := by
      rcases hcount with hlt | hnil
      · omega
      · rw [hnil, complete, List.countP_nil]
        omega
    simp only [hres, hpass, Option.some.injEq, reduceCtorEq, false_iff, false_imp_iff, true_and,
      false_or]
    exact hne
  · simp only [hres, hpass, true_iff, forall_const, true_or, and_true]
    exact hcount

theorem deferred_reports_iff (wlen : ℤ) (eui : UInt64) (p : lgw_pkt_tx_s) :
    (sendDeferred gateway_list wlen eui p).Reports 1 ↔
      ((∃ gw ∈ gateway_list, gw.eui = eui) →
        p.payload.length ≤ 256 ∧ wlen = p.payload.length + 30) := by
  rw [Outcome.Reports, sendDeferred]
  by_cases hlisted : ∃ gw ∈ gateway_list, gw.eui = eui
  · simp only [xmitResult_of_listed hlisted, true_iff, hlisted, forall_const]
    rcases Nat.lt_or_ge 256 p.payload.length with hlarge | hsize
    · have hnil : (gateway_id_write_downlink gateway_list wlen eui p).2 = [] := by
        rw [gateway_id_write_downlink]
        split
        · rw [gateway_write_downlink, if_pos hlarge]
        · rfl
      rw [hnil]
      simp only [complete, List.countP_nil]
      omega
    · rw [(complete_write hlisted wlen hsize).2]
      split <;> simp_all
  · have hnone : gateway_id_write_downlink gateway_list wlen eui p = (-1, []) := by
      have hfind : gateway_list.find? (fun gw => gw.eui = eui) = none := by
        rw [List.find?_eq_none]
        exact fun gw hmem heui => hlisted ⟨gw, hmem, of_decide_eq_true heui⟩
      rw [gateway_id_write_downlink, hfind]
    simp [hlisted, hnone, xmitResult, complete]

end

/-! ### What the sNS makes of the report -/

/-- A local downlink, as `sNS_finish_phy_downlink` sees it. -/
def Outcome.sendEnv (o : Outcome) (mqOk answerOk : Bool) : SendEnv where
  isLocal := true
  aborted := false
  result := o.result.map fun r => decide (r = .Success)
  air := decide (0 < complete o.writes)
  mqOk := mqOk
  answerOk := answerOk

theorem countNFCntDown_NFCntDown (mqOk : Bool) (ns : NS) :
    (countNFCntDown mqOk ns).mote.session.NFCntDown = (ns.mote.session.NFCntDown + 1) % 2 ^ 32 := by
  cases mqOk <;> rfl

theorem answer_app_downlink_session (answerOk : Bool) (ns : NS) :
    (answer_app_downlink answerOk ns).mote.session = ns.mote.session := by
  cases answerOk <;> rfl

theorem answerPending_session (env : SendEnv) (ns : NS) :
    (answerPending env ns).mote.session = ns.mote.session := by
  rw [answerPending]
  split
  · rw [answer_app_downlink_session]
    rfl
  · rfl

theorem answerUnconfirmed_session (env : SendEnv) (ns : NS) :
    (answerUnconfirmed env ns).mote.session = ns.mote.session := by
  rw [answerUnconfirmed]
  split
  · rw [mapS]
    exact answer_app_downlink_session env.answerOk ns
  · rfl

theorem transmit_kept (env : SendEnv) (ns : NS) :
    (transmit env ns).mote.session = ns.mote.session ∧
      (transmit env ns).mote.s.PHYPayloadBin = ns.mote.s.PHYPayloadBin ∧
        (transmit env ns).mote.s.incrNFCntDown = ns.mote.s.incrNFCntDown := by
  rw [transmit]
  split <;> split <;> exact ⟨rfl, rfl, rfl⟩

/-- An unconfirmed frame that was counted moves the counter on exactly when Success is reported. -/
theorem counter_moves_iff (o : Outcome) (mqOk answerOk : Bool) {ns : NS}
    (hlen : ns.mote.s.PHYPayloadLen ≠ 0)
    (htype : MType (ns.mote.s.PHYPayloadBin.headD 0) = .MTYPE_UNCONF_DN)
    (hincr : ns.mote.s.incrNFCntDown = true) :
    (sNS_finish_phy_downlink (o.sendEnv mqOk answerOk) ns).mote.session.NFCntDown ≠
        ns.mote.session.NFCntDown ↔ o.result = some .Success := by
  obtain ⟨hsession, hbin, hflag⟩ := transmit_kept (o.sendEnv mqOk answerOk) ns
  have hmoved : ∀ n : ℕ, (n + 1) % 2 ^ 32 ≠ n := by
    intro n
    omega
  rw [sNS_finish_phy_downlink, if_neg hlen, if_neg (by simp [Outcome.sendEnv])]
  dsimp only
  rw [answerPending_session]
  cases hres : o.result with
  | none =>
    simp only [Outcome.sendEnv, hres, Option.map_none] at hsession ⊢
    simp [hsession]
  | some r =>
    have hresult : (o.sendEnv mqOk answerOk).result = some (decide (r = .Success)) := by
      simp [Outcome.sendEnv, hres]
    rw [hresult]
    dsimp only
    rw [sNSDownlinkSent, answerUnconfirmed_session]
    by_cases hs : r = .Success
    · rw [if_pos (decide_eq_true hs), frameSent, if_pos ⟨by rw [hbin]; exact htype, hflag.trans hincr⟩,
        mapS, countNFCntDown_NFCntDown, hsession]
      simp only [hs, ne_eq, hmoved, not_false_eq_true]
    · rw [if_neg (by simpa using hs), hsession]
      simp [hs]

/-- What the fNS reports of a downlink is true exactly when each packet that passes the checks is
taken whole by the gateway's connection, and a downlink that does not pass had a packet. It is what
moves the counter of the sNS. -/
theorem reported_iff_taken_whole :
    (∀ (A : BlockCipher) (E : RadioEnv S) (gateway_list : List gateway_t)
        (region_list : List region_t) (dlmd : DLMetaData_t S) (reqTid : ℕ)
        (clientID : Option (List Char)) (txBuf : Option Octets) (txLen : UInt8) (o : Outcome),
        fNS_downlink A E gateway_list region_list dlmd reqTid clientID txBuf txLen = .ok o →
        o.deferred = none →
        (o.Reports (planned E dlmd) ↔
          (Admitted A E gateway_list region_list dlmd txBuf txLen →
              TakenWhole E (planned E dlmd) (payloadSize txBuf txLen)) ∧
            (Admitted A E gateway_list region_list dlmd txBuf txLen ∨ 0 < planned E dlmd))) ∧
      (∀ (gateway_list : List gateway_t) (wlen : ℤ) (eui : UInt64) (p : lgw_pkt_tx_s),
        (sendDeferred gateway_list wlen eui p).Reports 1 ↔
          ((∃ gw ∈ gateway_list, gw.eui = eui) →
            p.payload.length ≤ 256 ∧ wlen = p.payload.length + 30)) ∧
      ∀ (o : Outcome) (mqOk answerOk : Bool) (ns : NS), ns.mote.s.PHYPayloadLen ≠ 0 →
        MType (ns.mote.s.PHYPayloadBin.headD 0) = .MTYPE_UNCONF_DN →
        ns.mote.s.incrNFCntDown = true →
        ((sNS_finish_phy_downlink (o.sendEnv mqOk answerOk) ns).mote.session.NFCntDown ≠
          ns.mote.session.NFCntDown ↔ o.result = some .Success) := by
  refine ⟨?_, ?_, ?_⟩
  · intro A E gateway_list region_list dlmd reqTid clientID txBuf txLen o h hnone
    exact reports_iff h hnone
  · intro gateway_list wlen eui p
    exact deferred_reports_iff wlen eui p
  · intro o mqOk answerOk ns hlen htype hincr
    exact counter_moves_iff o mqOk answerOk hlen htype hincr

/-! ### A write that fails -/

def samplePacket : lgw_pkt_tx_s :=
  { freq_hz := 0, tx_mode := 0, count_us := 0, rf_power := 0, modulation := 0, bandwidth := 0,
    datarate := 0, coderate := 0, invert_pol := false, f_dev := 0, preamble := 0, no_crc := false,
    no_header := false, payload := [], modem_idx := 0 }

/-- Frequencies in MHz; the gateway's clock stands still, and each write returns `wlen`. -/
def sampleRadio (wlen : ℤ) : RadioEnv ℕ where
  given := fun freq => decide (1 < freq)
  hz := fun freq => UInt32.ofNat (freq * 1000000)
  late := fun _ _ => false
  now_pingslot := fun _ => 0
  slotCount := fun _ slot => slot.toUInt32
  junk := fun _ => 0
  junkPkt := samplePacket
  getMote := fun _ => true
  wlen := fun _ => wlen

def sampleGateway : gateway_t := ⟨1, 5, some .EU868, 0, 0, 0, 0⟩

def sampleRegion : region_t := ⟨some .EU868, 14, [⟨3, 0x10, 0⟩], 1⟩

/-- The token of an uplink that came through descriptor 5. -/
def sampleToken : List Char := '0' :: '5' :: List.replicate 40 '0'

/-- Class A, in the first window. -/
def sampleDownlink : DLMetaData_t ℕ :=
  { DevEUI := 0, DevAddr := 0, FPort := 0, FCntDown := 0, Confirmed := false, DLFreq1 := 868,
    DLFreq2 := 0, RXDelay1 := 1, DataRate1 := 0, DataRate2 := 0, ClassMode := 'A',
    FNSULToken := some sampleToken, ultList := [], HiPriorityFlag := false, PingPeriod := 0 }

/-- An unconfirmed frame of 12 octets. -/
def sampleFrame : Octets := 0x60 :: List.replicate 11 0

def sampleSend (wlen : ℤ) : Except Fault Outcome :=
  fNS_downlink BlockCipher.xorKey (sampleRadio wlen) [sampleGateway] [sampleRegion] sampleDownlink 0 none
    (some sampleFrame) 12

def framePacket : lgw_pkt_tx_s := { samplePacket with payload := sampleFrame }

/-- A server that has the frame ready. -/
def readyServer : NS :=
  mapS (fun s => { s with
      PHYPayloadBin := sampleFrame ++ List.replicate 244 0
      PHYPayloadLen := 12
      incrNFCntDown := true }) (NS.init [] 0 (Mote.init 1 0xd1))

/-- The write fails, and Success is reported: at once, and at the beacon. -/
theorem failed_write_reported :
    (∃ o, sampleSend (-1) = .ok o ∧ o.deferred = none ∧ o.result = some .Success ∧
        ¬ o.Reports (planned (sampleRadio (-1)) sampleDownlink)) ∧
      ¬ (sendDeferred [sampleGateway] (-1) 1 framePacket).Reports 1 := by
  have hnone : ∀ o : Outcome, o.result = some .Success → complete o.writes = 0 → ∀ n, 0 < n →
      ¬ o.Reports n := by
    intro o hres hcount n hn h
    have heq := h.mp hres
    omega
  refine ⟨⟨_, rfl, rfl, rfl, ?_⟩, ?_⟩
  · exact hnone _ rfl rfl _ (by decide)
  · exact hnone _ rfl rfl _ (by decide)

theorem whole_write_reported :
    (∃ o, sampleSend 42 = .ok o ∧ o.Reports 1) ∧
      (sendDeferred [sampleGateway] 42 1 framePacket).Reports 1 ∧
      ∃ o, sampleSend 42 = .ok o ∧
        (sNS_finish_phy_downlink (o.sendEnv true true) readyServer).mote.session.NFCntDown ≠
          readyServer.mote.session.NFCntDown := by
  obtain ⟨hdownlink, hdeferred, hcounter⟩ := @reported_iff_taken_whole ℕ
  refine ⟨⟨_, rfl, ?_⟩, ?_, ⟨_, rfl, ?_⟩⟩
  · refine (hdownlink _ _ _ _ _ _ _ _ _ _ (rfl : sampleSend 42 = .ok _) rfl).mpr ⟨?_, ?_⟩
    · exact fun _ _ _ => rfl
    · exact Or.inr (by decide)
  · exact (hdeferred _ _ _ _).mpr fun _ => ⟨by decide, rfl⟩
  · exact (hcounter _ _ _ _ (by decide) (by decide) rfl).mpr rfl

end Lorawan.NetworkServer

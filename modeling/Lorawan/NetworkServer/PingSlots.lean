import Mathlib.Order.Bounds.Defs
import Lorawan.NetworkServer.GatewayDownlink

/-!
# Ping slots (fNS.c:97-166, sNS.c:1136-1175)

A class B downlink goes into the first ping slot of the device that the gateway can still meet. The
period is 32 bits wide where it comes from the metadata, and 16 where the slots are counted.
-/

namespace Lorawan.NetworkServer
open Lorawan Lorawan.Backend

variable {S : Type}

/-- The slots of a device that come five slots after `now`, for the network's latency, or later. -/
def slotsFrom (now : ℤ) (offset period : ℕ) : Set ℕ :=
  {n | now + 5 ≤ n ∧ n % period = offset % period}

/-- The turns of the loop if nothing is cut off. -/
def slotTurns (now : ℤ) (offset period : ℕ) : ℕ :=
  ((now + 5 - offset).toNat + period - 1) / period

def leastSlot (now : ℤ) (offset period : ℕ) : ℕ := offset + period * slotTurns now offset period

section

variable {now : ℤ} {offset period : ℕ}

theorem slotTurns_le_iff (hperiod : 0 < period) (q : ℕ) :
    slotTurns now offset period ≤ q ↔ now + 5 ≤ (offset + period * q : ℕ) := by
  unfold slotTurns
  rw [← Nat.lt_succ_iff, Nat.div_lt_iff_lt_mul hperiod, Nat.succ_mul, Nat.mul_comm q period]
  push_cast
  omega

theorem leastSlot_lt (h : offset < period) (hperiod : period ≤ BEACON_WINDOW_SLOTS)
    (hnow : now ≤ 4197) : leastSlot now offset period < 2 ^ 16 := by
  have hmul := Nat.mul_div_le ((now + 5 - offset).toNat + period - 1) period
  unfold leastSlot slotTurns
  unfold BEACON_WINDOW_SLOTS at hperiod
  omega

theorem leastSlot_isLeast (h : offset < period) :
    IsLeast (slotsFrom now offset period) (leastSlot now offset period) := by
  have hperiod : 0 < period := by omega
  constructor
  · constructor
    · exact (slotTurns_le_iff hperiod _).mp (le_refl _)
    · unfold leastSlot
      rw [Nat.add_mul_mod_self_left]
  · rintro n ⟨hle, hmod⟩
    rw [Nat.mod_eq_of_lt h] at hmod
    have hn : n = offset + period * (n / period) := by
      have hdiv := Nat.mod_add_div n period
      omega
    rw [hn] at hle
    have hturns := Nat.mul_le_mul_left period ((slotTurns_le_iff hperiod _).mpr hle)
    unfold leastSlot
    omega

end

theorem usePingslot_eq {now : Int16} {P : UInt32} (k fuel : ℕ) (slot : UInt16) (hfuel : k < fuel)
    (hfits : slot.toNat + P.toNat * k < 2 ^ 16)
    (hstop : now.toInt + 5 ≤ (slot.toNat + P.toNat * k : ℕ))
    (hgoes : ∀ j < k, (slot.toNat + P.toNat * j : ℕ) < now.toInt + 5) :
    ∃ s, usePingslot now P fuel slot = some s ∧ s.toNat = slot.toNat + P.toNat * k := by
  induction k generalizing fuel slot with
  | zero =>
    obtain ⟨fuel, rfl⟩ : ∃ f, fuel = f + 1 := ⟨fuel - 1, by omega⟩
    refine ⟨slot, ?_, by omega⟩
    rw [usePingslot, if_neg (by push_cast at hstop; omega)]
  | succ k ih =>
    obtain ⟨fuel, rfl⟩ : ∃ f, fuel = f + 1 := ⟨fuel - 1, by omega⟩
    have hmul : ∀ j, P.toNat * (j + 1) = P.toNat * j + P.toNat := fun j => Nat.mul_succ ..
    have hfits' := hfits
    rw [hmul] at hfits' hstop
    have hadd : (slot + P.toUInt16).toNat = slot.toNat + P.toNat := by
      rw [UInt16.toNat_add, UInt32.toNat_toUInt16]
      omega
    have hturn : (slot.toNat : ℤ) < now.toInt + 5 := by
      have h := hgoes 0 (Nat.succ_pos k)
      rw [Nat.mul_zero, Nat.add_zero] at h
      exact h
    obtain ⟨s, hrun, hs⟩ := ih fuel (slot + P.toUInt16) (by omega) (by rw [hadd]; omega)
      (by rw [hadd]; push_cast at hstop ⊢; omega) (by
        intro j hj
        have h := hgoes (j + 1) (by omega)
        rw [hmul] at h
        rw [hadd]
        push_cast at h ⊢
        omega)
    refine ⟨s, ?_, ?_⟩
    · rw [usePingslot, if_pos hturn]
      exact hrun
    · rw [hs, hadd, hmul]
      omega

theorem usePingslot_least {now : Int16} {P : UInt32} {offset : UInt16} (hP : offset.toNat < P.toNat)
    (hfits : leastSlot now.toInt offset.toNat P.toNat < 2 ^ 16) :
    ∃ s, usePingslot now P (2 ^ 16) offset = some s ∧
      s.toNat = leastSlot now.toInt offset.toNat P.toNat := by
  have hperiod : 0 < P.toNat := by omega
  have hturns : ∀ q, slotTurns now.toInt offset.toNat P.toNat ≤ q ↔ _ := slotTurns_le_iff hperiod
  refine usePingslot_eq _ _ offset ?_ hfits ((hturns _).mp (le_refl _)) ?_
  · have hle := Nat.le_mul_of_pos_left (slotTurns now.toInt offset.toNat P.toNat) hperiod
    unfold leastSlot at hfits
    omega
  · intro j hj
    have hnot := (hturns j).not.mp (by omega)
    omega

variable (A : BlockCipher) (E : RadioEnv S)

/-- The period divides after it lost its upper half; then the offset is below it. -/
theorem pingOffset_ok_iff {beaconTime address : UInt32} {P : UInt16} :
    (∃ offset, LoRaMacBeaconComputePingOffset A beaconTime address P = .ok offset) ↔ P ≠ 0 := by
  unfold LoRaMacBeaconComputePingOffset
  split
  · rename_i hzero
    simp [hzero]
  · rename_i hne
    exact iff_of_true ⟨_, rfl⟩ hne

theorem pingOffset_lt {beaconTime address : UInt32} {P offset : UInt16}
    (h : LoRaMacBeaconComputePingOffset A beaconTime address P = .ok offset) :
    offset.toNat < P.toNat := by
  unfold LoRaMacBeaconComputePingOffset at h
  split at h
  · cases h
  · rename_i hne
    cases h
    have hpos : 0 < P.toNat := by
      rw [Nat.pos_iff_ne_zero]
      intro hzero
      exact hne (UInt16.toNat_inj.mp hzero)
    have hlt := Nat.mod_lt (Octets.toNat ((A.encrypt (List.replicate 16 0)
      (le32 beaconTime ++ le32 address ++ List.replicate 8 0)).take 2)) hpos
    have hP := P.toNat_lt
    rw [UInt16.toNat_ofNat_of_lt' (by show _ < 65536; omega)]
    exact hlt

/-! ### The downlink -/

section

variable (gateway_list : List gateway_t) (gw : gateway_t) (region : region_t)
  (dlmd : DLMetaData_t S) (reqTid : ℕ) (clientID : Option (List Char)) (txBuf : Octets)

/-- The packet goes out in its slot, or is kept for the device past the beacon period. -/
structure InSlot (slot : UInt16) (p : lgw_pkt_tx_s) (o : Outcome) : Prop where
  sent : slot.toNat < BEACON_WINDOW_SLOTS →
    o = ⟨some (xmitResult (gateway_id_write_downlink gateway_list (E.wlen 0) gw.eui p).1),
      (gateway_id_write_downlink gateway_list (E.wlen 0) gw.eui p).2, none⟩
  kept : BEACON_WINDOW_SLOTS ≤ slot.toNat → E.getMote (frameDevAddr txBuf) = true →
    o = ⟨none, [], some (frameDevAddr txBuf, ⟨dlmd.PingPeriod, gw.eui, p, clientID, reqTid⟩)⟩

/-- The least slot is computed, and the packet goes with it. -/
structure PingSent (txLen : UInt8) (o : Outcome) (offset slot : UInt16) (p : lgw_pkt_tx_s) :
    Prop where
  computed : LoRaMacBeaconComputePingOffset A gw.seconds_at_beacon (frameDevAddr txBuf)
    dlmd.PingPeriod.toUInt16 = .ok offset
  offset_lt : offset.toNat < dlmd.PingPeriod.toNat
  found : pingSlot A E gw dlmd (frameDevAddr txBuf) = .ok slot
  least : IsLeast (slotsFrom (E.now_pingslot gw).toInt offset.toNat dlmd.PingPeriod.toNat)
    slot.toNat
  packet : setDatarate region dlmd.DataRate1
    { basePacket E region (txBuf.take txLen.toNat) with freq_hz := E.hz dlmd.DLFreq1 } = .ok p
  result : InSlot E gateway_list gw dlmd reqTid clientID txBuf slot
    { p with count_us := E.slotCount gw slot } o

/-- The data rate is one of the region; what is left of the period is not zero, and the slot is a
number of 16 bits. -/
structure PingFits : Prop where
  datarate : dlmd.DataRate1.toNat < region.datarates.length
  period : dlmd.PingPeriod.toUInt16 ≠ 0
  slot : ∀ offset, LoRaMacBeaconComputePingOffset A gw.seconds_at_beacon (frameDevAddr txBuf)
      dlmd.PingPeriod.toUInt16 = .ok offset →
    leastSlot (E.now_pingslot gw).toInt offset.toNat dlmd.PingPeriod.toNat < 2 ^ 16

end

variable {A E}
variable {gateway_list : List gateway_t} {gw : gateway_t} {region : region_t}
  {dlmd : DLMetaData_t S} {reqTid : ℕ} {clientID : Option (List Char)} {txBuf : Octets}

theorem setDatarate_ok_iff {rate : UInt8} {p : lgw_pkt_tx_s} :
    (∃ p', setDatarate region rate p = .ok p') ↔ rate.toNat < region.datarates.length := by
  unfold setDatarate
  constructor
  · rintro ⟨p', h⟩
    obtain ⟨dr, hdr, -⟩ := bind_ok_iff.mp h
    exact (List.getElem?_eq_some_iff.mp (deref_ok_iff.mp hdr)).1
  · intro h
    rw [List.getElem?_eq_getElem h]
    exact ⟨_, rfl⟩

theorem sendPing_inSlot {slot : UInt16} {p p' : lgw_pkt_tx_s} (hP : dlmd.PingPeriod ≠ 0)
    (hrate : setDatarate region dlmd.DataRate1 { p with freq_hz := E.hz dlmd.DLFreq1 } = .ok p')
    (hslot : pingSlot A E gw dlmd (frameDevAddr txBuf) = .ok slot) :
    ∃ o, sendPing A E gateway_list gw region dlmd reqTid clientID txBuf p = .ok o ∧
      InSlot E gateway_list gw dlmd reqTid clientID txBuf slot
        { p' with count_us := E.slotCount gw slot } o := by
  unfold sendPing
  rw [hrate]
  simp only [bind, Except.bind, if_neg hP, hslot]
  by_cases hwindow : BEACON_WINDOW_SLOTS ≤ slot.toNat
  · rw [if_pos hwindow]
    split
    · exact ⟨_, rfl, fun h => absurd hwindow (Nat.not_le.mpr h), fun _ _ => rfl⟩
    · rename_i hmote
      exact ⟨_, rfl, fun h => absurd hwindow (Nat.not_le.mpr h), fun _ h => absurd h hmote⟩
  · rw [if_neg hwindow]
    exact ⟨_, rfl, fun _ => rfl, fun h => absurd h hwindow⟩

/-- The branch of class B sends in the least slot that can be met if and only if that slot, and the
period, are not cut off. -/
theorem fNS_downlink_ping_iff {region_list : List region_t} {token : ULToken_t} {txLen : UInt8}
    (hadmitted : admission E gateway_list region_list dlmd (some txBuf) txLen =
      .ok (some (gw, region, token)))
    (hclass : dlmd.ClassMode = 'B') (hP : dlmd.PingPeriod ≠ 0) :
    (∃ o offset slot p, fNS_downlink A E gateway_list region_list dlmd reqTid clientID (some txBuf)
        txLen = .ok o ∧
      PingSent A E gateway_list gw region dlmd reqTid clientID txBuf txLen o offset slot p) ↔
      PingFits A E gw region dlmd txBuf := by
  have hrun : fNS_downlink A E gateway_list region_list dlmd reqTid clientID (some txBuf) txLen =
      sendPing A E gateway_list gw region dlmd reqTid clientID txBuf
        (basePacket E region (txBuf.take txLen.toNat)) := by
    unfold fNS_downlink
    rw [hadmitted]
    simp only [bind, Except.bind, deref_some, if_pos hclass]
  have htrunc : dlmd.PingPeriod.toUInt16.toNat ≤ dlmd.PingPeriod.toNat := by
    rw [UInt32.toNat_toUInt16]
    exact Nat.mod_le ..
  rw [hrun]
  constructor
  · rintro ⟨o, offset, slot, p, -, h⟩
    refine ⟨setDatarate_ok_iff.mp ⟨p, h.packet⟩, (pingOffset_ok_iff A).mp ⟨offset, h.computed⟩, ?_⟩
    intro offset' hoffset
    rw [h.computed] at hoffset
    cases hoffset
    rw [(leastSlot_isLeast h.offset_lt).unique h.least]
    exact slot.toNat_lt
  · rintro ⟨hrate, hperiod, hfits⟩
    obtain ⟨offset, hoffset⟩ := (pingOffset_ok_iff A).mpr hperiod
    have hlt : offset.toNat < dlmd.PingPeriod.toNat := by
      have h := pingOffset_lt A hoffset
      omega
    obtain ⟨slot, huse, hslot⟩ := usePingslot_least hlt (hfits offset hoffset)
    obtain ⟨p, hp⟩ := setDatarate_ok_iff.mpr hrate
    have hping : pingSlot A E gw dlmd (frameDevAddr txBuf) = .ok slot := by
      unfold pingSlot
      rw [hoffset]
      simp only [bind, Except.bind, huse, deref_some]
    obtain ⟨o, hsend, hin⟩ := sendPing_inSlot hP hp hping
    refine ⟨o, offset, slot, p, hsend, hoffset, hlt, hping, ?_, hp, hin⟩
    rw [hslot]
    exact leastSlot_isLeast hlt

/-- Class B, with this period. -/
def pingDownlink (PingPeriod : UInt32) : DLMetaData_t ℕ :=
  { sampleDownlink with ClassMode := 'B', PingPeriod := PingPeriod }

theorem ping_of_128 :
    ∃ o offset slot p, fNS_downlink BlockCipher.xorKey (sampleRadio 42) [sampleGateway]
        [sampleRegion] (pingDownlink 128) 0 none (some sampleFrame) 12 = .ok o ∧
      PingSent BlockCipher.xorKey (sampleRadio 42) [sampleGateway] sampleGateway sampleRegion
        (pingDownlink 128) 0 none sampleFrame 12 o offset slot p := by
  refine (fNS_downlink_ping_iff rfl rfl (by decide)).mpr ⟨by decide, by decide, ?_⟩
  intro offset hoffset
  have hlt := pingOffset_lt _ hoffset
  exact leastSlot_lt hlt (by decide) (by decide)

/-- The period is a multiple of 2 ^ 16: it passes the test for zero, and then divides as zero. -/
theorem ping_of_65536 :
    fNS_downlink BlockCipher.xorKey (sampleRadio 42) [sampleGateway] [sampleRegion]
      (pingDownlink 65536) 0 none (some sampleFrame) 12 = .error .undefined := rfl

end Lorawan.NetworkServer

import Lorawan.NetworkServer.SessionFallback

/-!
# Frame counters (sNS.c:1862-1879, 2011-2044, fNS.c:663-735, 1223-1226, ns.h:328)

A frame carries sixteen bits of its counter. Three functions complete them from the
stored counter, in 32-bit arithmetic with two signed differences; the value goes into
the MIC, into the keystream of the MAC commands and into the table.
-/

namespace Lorawan.NetworkServer
open Lorawan Lorawan.Backend Backend.mtype_e

variable (A : BlockCipher)

/-! ### The arithmetic of the code -/

/-- `(FCntUp & 0xffff0000) | FCnt`. -/
def rxFCnt32 (FCntUp : UInt32) (FCnt : UInt16) : UInt32 :=
  (FCntUp &&& 0xffff0000) ||| FCnt.toUInt32

/-- The tests on the differences `int A, B`. -/
def replay (FCntUp rx : UInt32) : Bool :=
  let a : Int32 := (rx - FCntUp).toInt32
  let b : Int32 := ((rx + 0x10000) - FCntUp).toInt32
  (decide (a < 0) && decide (b > 0x4000)) || (decide (a > 0x4000) && decide (b > 0x4000))

/-- `ulmd->FCntUp` of `sNS_uplink` (sNS.c:1866-1878); `none` is refused as a replay. -/
def sNS_uplink_FCntUp (FCntUp : UInt32) (FCnt : UInt16) : Option UInt32 :=
  let rx := rxFCnt32 FCntUp FCnt
  if replay FCntUp rx then none else some rx

/-- `rxFCnt32` of `fNS_XmitDataReq_uplink` (fNS.c:675-687). -/
def fNS_XmitDataReq_uplink_rxFCnt32 (FCntUp : UInt32) (FCnt : UInt16) : Option UInt32 :=
  let rx := rxFCnt32 FCntUp FCnt
  if replay FCntUp rx then none else some rx

/-- `fCntUp` of `fNS_uplink_finish` (fNS.c:1225); it makes no test. -/
def fNS_uplink_finish_fCntUp (FCntUp : UInt32) (FCnt : UInt16) : UInt32 := rxFCnt32 FCntUp FCnt

/-! ### What the functions do with the value -/

/-- `sNS_uplink` after the test: the MIC, and the table. -/
def takeWithCounter (env : UplinkEnv) (FCntUp : ℕ) (ns : NS) : Result × NS :=
  let ns := mapS (fun s => { s with newFCntUp := true }) ns
  let (ok, s) := checkMic A env ns.mote FCntUp
  let ns := mapS (fun _ => s) ns
  if ok then (.Success, takeUplink env FCntUp ns) else (.MICFailed, refuseUplink env ns)

/-- `rx_fhdr->FCtrl.ulBits.FOptsLen`. -/
def rxFOptsLen (m : Mote) : ℕ := (rxFCtrl m).toNat % 16

/-- The FRMPayload of an uplink and its port (sNS.c:2015-2022). -/
def rxFRMPayload (m : Mote) : Option (UInt8 × Octets) :=
  let rxofs := 8 + rxFOptsLen m
  if rxofs < m.ULPHYPayloadLen - 4 then
    some (m.ULPayloadBin.getD rxofs 0,
      Octets.slice m.ULPayloadBin (rxofs + 1) (m.ULPHYPayloadLen - 4 - (rxofs + 1)))
  else none

/-- The MAC commands of an uplink (sNS.c:2027-2044), decrypted under the counter. -/
def rxMacCommands (OptNeg : Bool) (m : Mote) (FCntUp : ℕ) : Octets :=
  let FOpts :=
    if OptNeg then
      (LoRa_Encrypt A 0 m.session.NwkSEncKeyBin (m.ULPayloadBin.drop 8) (rxFOptsLen m)
        (rxDevAddr m) true FCntUp).take (rxFOptsLen m)
    else Octets.slice m.ULPayloadBin 8 (rxFOptsLen m)
  match rxFRMPayload m with
  | some (0, frm) =>
    LoRa_Encrypt A 1 m.session.NwkSEncKeyBin frm frm.length (rxDevAddr m) true FCntUp
  | _ => FOpts

/-- What `sNS_uplink` hands to `parse_mac_command`, of a frame that passes. -/
def sNS_uplink_macCommands (OptNeg : Bool) (m : Mote) : Option Octets :=
  (sNS_uplink_FCntUp (UInt32.ofNat m.session.FCntUp) (UInt16.ofNat (rxFCnt m))).map fun rx =>
    rxMacCommands A OptNeg m rx.toNat

/-- `fNS_XmitDataReq_uplink`; `ULMetaData` and `sent` are the results of `generateULMetaData`
and `sendXmitDataReq`. -/
def fNS_XmitDataReq_uplink (enable_fNS_MIC OptNeg : Bool) (m : Mote) (ULMetaData : Bool)
    (sent : Result) : Result :=
  let finish := if ULMetaData then sent else .Other
  if (rxMType m = MTYPE_UNCONF_UP ∨ rxMType m = MTYPE_CONF_UP) ∧ enable_fNS_MIC then
    match fNS_XmitDataReq_uplink_rxFCnt32 (UInt32.ofNat m.session.FCntUp)
      (UInt16.ofNat (rxFCnt m)) with
    | none => .Other
    | some rx => if !OptNeg && !checkMic1v0 A m rx.toNat then .MICFailed else finish
  else finish

/-! ### The arithmetic in the integers -/

theorem toNat_rxFCnt32 (FCntUp : UInt32) (FCnt : UInt16) :
    (rxFCnt32 FCntUp FCnt).toNat = FCntUp32 FCntUp.toNat FCnt.toNat := by
  have hS := FCntUp.toNat_lt
  have hf := FCnt.toNat_lt
  have hmask : FCntUp.toNat &&& 0xffff0000 = (FCntUp.toNat / 0x10000) <<< 16 := by
    apply Nat.eq_of_testBit_eq
    intro i
    have hbits : (0xffff0000 : ℕ) = (2 ^ 16 - 1) <<< 16 := by decide
    rw [hbits, Nat.testBit_and, Nat.testBit_shiftLeft, Nat.testBit_two_pow_sub_one,
      Nat.testBit_shiftLeft, show (0x10000 : ℕ) = 2 ^ 16 from rfl, Nat.testBit_div_two_pow]
    by_cases hi : 16 ≤ i
    · simp only [hi, decide_true, Bool.true_and, Nat.sub_add_cancel hi]
      by_cases hlt : i - 16 < 16
      · simp [hlt]
      · have hbig : FCntUp.toNat < 2 ^ i :=
          Nat.lt_of_lt_of_le hS (Nat.pow_le_pow_right (by decide) (by omega))
        simp [hlt, Nat.testBit_lt_two_pow hbig]
    · simp [hi]
  unfold rxFCnt32 FCntUp32
  simp only [UInt32.toNat_or, UInt32.toNat_and, UInt16.toNat_toUInt32]
  rw [show (0xffff0000 : UInt32).toNat = 0xffff0000 from rfl, hmask,
    ← Nat.shiftLeft_add_eq_or_of_lt hf, Nat.shiftLeft_eq]

theorem toInt_sub_toInt32 {a b : UInt32} {d : ℤ} (hlo : -(2 ^ 31) ≤ d) (hhi : d < 2 ^ 31)
    (h : (a.toNat : ℤ) - b.toNat = d ∨ (a.toNat : ℤ) - b.toNat = d + 2 ^ 32 ∨
      (a.toNat : ℤ) - b.toNat = d - 2 ^ 32) : (a - b).toInt32.toInt = d := by
  have ha := a.toNat_lt
  have hb := b.toNat_lt
  have hsub : (a - b).toNat = (2 ^ 32 - b.toNat + a.toNat) % 2 ^ 32 := UInt32.toNat_sub a b
  have hint : (a - b).toInt32.toInt = if 2 * (a - b).toNat < 2 ^ 32 then ((a - b).toNat : ℤ)
      else ((a - b).toNat : ℤ) - 2 ^ 32 := BitVec.toInt_eq_toNat_cond _
  rw [hint]
  omega

/-- The signed tests are those on the integers: neither difference leaves the range of `int`. -/
theorem replay_rxFCnt32 (FCntUp : UInt32) (FCnt : UInt16) :
    replay FCntUp (rxFCnt32 FCntUp FCnt) = isReplay FCntUp.toNat FCnt.toNat := by
  have hS := FCntUp.toNat_lt
  have hf := FCnt.toNat_lt
  have hrx := toNat_rxFCnt32 FCntUp FCnt
  have hsplit := Nat.div_add_mod FCntUp.toNat 0x10000
  have hadd : (rxFCnt32 FCntUp FCnt + 0x10000).toNat =
      ((rxFCnt32 FCntUp FCnt).toNat + 0x10000) % 2 ^ 32 := UInt32.toNat_add _ _
  unfold FCntUp32 at hrx
  have ha : (rxFCnt32 FCntUp FCnt - FCntUp).toInt32.toInt =
      (FCntUp32 FCntUp.toNat FCnt.toNat : ℤ) - FCntUp.toNat := by
    unfold FCntUp32
    exact toInt_sub_toInt32 (by omega) (by omega) (by omega)
  have hb : ((rxFCnt32 FCntUp FCnt + 0x10000) - FCntUp).toInt32.toInt =
      (FCntUp32 FCntUp.toNat FCnt.toNat : ℤ) - FCntUp.toNat + 0x10000 := by
    unfold FCntUp32
    exact toInt_sub_toInt32 (by omega) (by omega) (by omega)
  unfold replay isReplay MAX_FCNT_GAP
  simp only [gt_iff_lt, Int32.lt_iff_toInt_lt, ha, hb]
  rfl

theorem sNS_uplink_FCntUp_eq (FCntUp : UInt32) (FCnt : UInt16) :
    sNS_uplink_FCntUp FCntUp FCnt =
      if isReplay FCntUp.toNat FCnt.toNat then none else some (rxFCnt32 FCntUp FCnt) := by
  simp only [sNS_uplink_FCntUp, replay_rxFCnt32]

/-- `sNS_uplink` takes an uplink under this counter. -/
theorem receiveUplink_counter (env : UplinkEnv) (ns : NS) {FCntUp : UInt32} {FCnt : UInt16}
    (hS : (expire env ns).mote.session.FCntUp = FCntUp.toNat)
    (hf : rxFCnt (expire env ns).mote = FCnt.toNat) :
    receiveUplink A env ns =
      if ns.mote.session.until_ = .none then (.Other, ns)
      else
        match sNS_uplink_FCntUp FCntUp FCnt with
        | none => (.Other, expire env ns)
        | some rx => takeWithCounter A env rx.toNat (expire env ns) := by
  unfold receiveUplink
  by_cases hnone : ns.mote.session.until_ = .none
  · rw [if_pos hnone, if_pos hnone]
  · rw [if_neg hnone, if_neg hnone, sNS_uplink_FCntUp_eq]
    dsimp only
    rw [hS, hf]
    cases isReplay FCntUp.toNat FCnt.toNat with
    | true => rfl
    | false =>
      rw [← toNat_rxFCnt32]
      rfl

theorem verifies_counter (u : Fallback.Uplink) (key : Octets) {FCntUp : UInt32} {FCnt : UInt16}
    (hloop : u.loop = .ftry) (hf : u.rxFCnt = FCnt.toNat) :
    u.verifies A key FCntUp.toNat = Fallback.check_cmacF A u.ULPayloadBin u.ULPHYPayloadLen
      (fNS_uplink_finish_fCntUp FCntUp FCnt).toNat u.rxDevAddr key := by
  unfold Fallback.Uplink.verifies fNS_uplink_finish_fCntUp
  rw [hloop, hf, toNat_rxFCnt32]

/-- A data frame of a 1.0 device that the fNS passes on was checked under the counter with which the
sNS reads its commands. -/
theorem forwarded_counter {m : Mote} {ULMetaData : Bool} {sent : Result}
    (hdata : rxMType m = MTYPE_UNCONF_UP ∨ rxMType m = MTYPE_CONF_UP)
    (h : fNS_XmitDataReq_uplink A true false m ULMetaData sent = .Success) :
    ∃ rx : UInt32, checkMic1v0 A m rx.toNat = true ∧
      sNS_uplink_macCommands A false m = some (rxMacCommands A false m rx.toNat) := by
  rw [fNS_XmitDataReq_uplink, if_pos ⟨hdata, rfl⟩] at h
  split at h
  · cases h
  · rename_i rx hrx
    refine ⟨rx, ?_, ?_⟩
    · by_contra hmic
      rw [Bool.not_false, Bool.true_and, Bool.eq_false_iff.mpr hmic] at h
      cases h
    · exact congrArg (Option.map fun rx : UInt32 => rxMacCommands A false m rx.toNat) hrx

/-! ### Reconstruction -/

/-- `(f - S) mod 2^16`. -/
def fcntGap (FCntUp : UInt32) (FCnt : UInt16) : ℕ := (FCnt - FCntUp.toUInt16).toNat

/-- A counter is accepted up to a gap, and is then the next one with these sixteen bits. -/
structure Reconstructs (FCntUp : UInt32) (FCnt : UInt16) : Prop where
  sNS_passes : (sNS_uplink_FCntUp FCntUp FCnt).isSome ↔ (fcntGap FCntUp FCnt : ℤ) ≤ MAX_FCNT_GAP
  sNS_counter : ∀ rx, sNS_uplink_FCntUp FCntUp FCnt = some rx →
    rx.toNat = FCntUp.toNat + fcntGap FCntUp FCnt
  fNS_passes : (fNS_XmitDataReq_uplink_rxFCnt32 FCntUp FCnt).isSome ↔
    (fcntGap FCntUp FCnt : ℤ) ≤ MAX_FCNT_GAP
  fNS_counter : ∀ rx, fNS_XmitDataReq_uplink_rxFCnt32 FCntUp FCnt = some rx →
    rx.toNat = FCntUp.toNat + fcntGap FCntUp FCnt
  cmacF_counter : (fcntGap FCntUp FCnt : ℤ) ≤ MAX_FCNT_GAP →
    (fNS_uplink_finish_fCntUp FCntUp FCnt).toNat = FCntUp.toNat + fcntGap FCntUp FCnt

theorem fcntGap_eq (FCntUp : UInt32) (FCnt : UInt16) :
    fcntGap FCntUp FCnt = (0x10000 - FCntUp.toNat % 0x10000 + FCnt.toNat) % 0x10000 := by
  unfold fcntGap
  rw [UInt16.toNat_sub, UInt32.toNat_toUInt16]

/-- The test itself is right, also across a roll-over. -/
theorem isReplay_iff (FCntUp : UInt32) (FCnt : UInt16) :
    isReplay FCntUp.toNat FCnt.toNat = false ↔ (fcntGap FCntUp FCnt : ℤ) ≤ MAX_FCNT_GAP := by
  have hf := FCnt.toNat_lt
  have hsplit := Nat.div_add_mod FCntUp.toNat 0x10000
  rw [fcntGap_eq]
  simp only [isReplay, Bool.or_eq_false_iff, Bool.and_eq_false_iff, decide_eq_false_iff_not]
  unfold FCntUp32 MAX_FCNT_GAP
  omega

/-- The sixteen bits have not rolled over, or what they have rolled over to is refused. -/
def NotRolledOver (FCntUp : UInt32) (FCnt : UInt16) : Prop :=
  FCntUp.toNat % 0x10000 ≤ FCnt.toNat ∨
    MAX_FCNT_GAP < (FCnt.toNat : ℤ) + 0x10000 - (FCntUp.toNat % 0x10000 : ℕ)

theorem rxFCnt32_eq_iff {FCntUp : UInt32} {FCnt : UInt16}
    (hgap : (fcntGap FCntUp FCnt : ℤ) ≤ MAX_FCNT_GAP) :
    (rxFCnt32 FCntUp FCnt).toNat = FCntUp.toNat + fcntGap FCntUp FCnt ↔
      NotRolledOver FCntUp FCnt := by
  have hf := FCnt.toNat_lt
  have hsplit := Nat.div_add_mod FCntUp.toNat 0x10000
  rw [toNat_rxFCnt32]
  unfold NotRolledOver
  rw [fcntGap_eq] at hgap ⊢
  unfold FCntUp32
  unfold MAX_FCNT_GAP at hgap ⊢
  omega

theorem reconstructs_iff (FCntUp : UInt32) (FCnt : UInt16) :
    Reconstructs FCntUp FCnt ↔ NotRolledOver FCntUp FCnt := by
  have htest := isReplay_iff FCntUp FCnt
  constructor
  · intro h
    by_cases hgap : (fcntGap FCntUp FCnt : ℤ) ≤ MAX_FCNT_GAP
    · exact (rxFCnt32_eq_iff hgap).mp (h.cmacF_counter hgap)
    · right
      have hf := FCnt.toNat_lt
      rw [fcntGap_eq] at hgap
      omega
  · intro h
    have hpass : (sNS_uplink_FCntUp FCntUp FCnt).isSome ↔
        (fcntGap FCntUp FCnt : ℤ) ≤ MAX_FCNT_GAP := by
      rw [sNS_uplink_FCntUp_eq, ← htest]
      cases isReplay FCntUp.toNat FCnt.toNat <;> simp
    have hcounter : ∀ rx, sNS_uplink_FCntUp FCntUp FCnt = some rx →
        rx.toNat = FCntUp.toNat + fcntGap FCntUp FCnt := by
      intro rx hrx
      have hgap := hpass.mp (Option.isSome_of_eq_some hrx)
      rw [sNS_uplink_FCntUp_eq, htest.mpr hgap, if_neg Bool.false_ne_true] at hrx
      rw [← Option.some.inj hrx]
      exact (rxFCnt32_eq_iff hgap).mpr h
    exact ⟨hpass, hcounter, hpass, hcounter, fun hgap => (rxFCnt32_eq_iff hgap).mpr h⟩

/-- The counter of a device goes on from 0x0000ffff to 0x00010000, whose header counter is zero:
it passes as 0x00000000. -/
theorem rolled_over_to_zero :
    ¬Reconstructs 0xffff 0 ∧ sNS_uplink_FCntUp 0xffff 0 = some 0 ∧
      fNS_XmitDataReq_uplink_rxFCnt32 0xffff 0 = some 0 ∧ fcntGap 0xffff 0 = 1 := by
  refine ⟨fun h => ?_, by decide, by decide, by decide⟩
  exact absurd (h.sNS_counter 0 (by decide)) (by decide)

end Lorawan.NetworkServer

import Lorawan.Lib.BitField
import Lorawan.Lib.Budget
import Lorawan.NetworkServer.MacParser
import Mathlib.Data.Rat.Floor

/-!
# Adaptive data rate (network_server/adr.c:56-126)

`network_controller_adr` spends the average quality of the last uplinks, first on faster
data rates and then on less power, and offers the outcome to the queue as a LinkADRReq. The
power index of the session is advanced before the queue has its say.

The qualities are signed octets. `float` rounds their average by less than a thousandth,
while the quantities compared are multiples of a sixth, so it decides as the rationals do.
-/

namespace Lorawan.NetworkServer
open Lorawan

/-! ### The qualities -/

/-- `max_snr`, `min_snr` and `snr` of the first loop. -/
structure Readings where
  max_snr : ℤ
  min_snr : ℤ
  snr : ℤ

def Readings.read (r : Readings) (value : Int8) : Readings where
  max_snr := if value.toInt > r.max_snr then value.toInt else r.max_snr
  min_snr := if value.toInt < r.min_snr then value.toInt else r.min_snr
  snr := r.snr + value.toInt

/-- `if (hist_idx == 0) hist_idx = SNR_HISTORY_SIZE - 1; else hist_idx--;` -/
def prevIdx (hist_idx : Fin SNR_HISTORY_SIZE) : Fin SNR_HISTORY_SIZE :=
  if hist_idx.val = 0 then ⟨SNR_HISTORY_SIZE - 1, by decide⟩ else ⟨hist_idx.val - 1, by omega⟩

/-- `for (i = 0; i < SNR_HISTORY_SIZE; i++)` -/
def scan (snr_history : Fin SNR_HISTORY_SIZE → Int8) :
    ℕ → Fin SNR_HISTORY_SIZE → Readings → Readings
  | 0, _, r => r
  | n + 1, hist_idx, r => scan snr_history n (prevIdx hist_idx) (r.read (snr_history hist_idx))

/-! ### The controller -/

def MAX_DATARATES : ℕ := 24

/-- `max_snr - min_snr < 4.0 && DataRate != MAX_DATARATES` -/
def Readings.Stable (r : Readings) (DataRate : UInt8) : Prop :=
  r.max_snr - r.min_snr < 4 ∧ DataRate.toNat ≠ MAX_DATARATES

instance (r : Readings) (DataRate : UInt8) : Decidable (r.Stable DataRate) :=
  inferInstanceAs (Decidable (_ ∧ _))

/-- `snr /= SNR_HISTORY_SIZE` -/
def Readings.average (r : Readings) : ℚ := r.snr / SNR_HISTORY_SIZE

/-- The two loops: the data rate and the power index that they end with. -/
def adapt (fuel : ℕ) (region : RegionalControl) (r : Readings) (DataRate txpwr_idx : UInt8) :
    Option (ℕ × ℕ) :=
  if r.Stable DataRate then
    match Budget.spend 0 (5 / 2) region.uplink_dr_max.toNat fuel DataRate.toNat r.average with
    | none => none
    | some (rate, snr) =>
      match Budget.spend 3 3 region.max_txpwr_idx.toNat fuel txpwr_idx.toNat snr with
      | none => none
      | some (power, _) => some (rate, power)
  else some (DataRate.toNat, txpwr_idx.toNat)

/-- The payload of the LinkADRReq. -/
def linkAdr (rate power : ℕ) (ChMask : UInt16) : Octets :=
  [UInt8.ofNat (rate <<< 4 ||| power), (ChMask &&& 0xff).toUInt8, (ChMask >>> 8).toUInt8, 0x00]

/-- The session afterwards, and the command that was offered to its queue. -/
structure Adapted where
  s : MacState
  request : Option Octets

/-- The end of `network_controller_adr`. -/
def MacState.ask (s : MacState) (DataRate : UInt8) (rate power : ℕ) : Adapted :=
  let adapted := { s with txpwr_idx := UInt8.ofNat power }
  if s.force_adr ∨ DataRate.toNat ≠ rate ∨ s.txpwr_idx.toNat ≠ power then
    let payload := linkAdr rate power (s.ChMask.headD 0)
    ⟨adapted.put .LINK_ADR_REQ payload true, some (SrvCmd.LINK_ADR_REQ.opcode :: payload)⟩
  else ⟨adapted, none⟩

/-- `region` is the entry of the list for the region of the uplink. -/
def network_controller_adr (fuel : ℕ) (region : Option RegionalControl) (DataRate : UInt8)
    (s : MacState) : Option Adapted :=
  match region with
  | none => some ⟨s, none⟩
  | some region =>
    (adapt fuel region (scan s.snr_history SNR_HISTORY_SIZE s.snr_history_idx ⟨-40, 40, 0⟩)
      DataRate s.txpwr_idx).map fun p => s.ask DataRate p.1 p.2

/-! ### The property -/

/-- The upper half of the octet after the opcode. -/
def rateField (cmd_buf : Octets) : ℕ := BitField.field 4 4 (cmd_buf.getD 1 0).toNat

/-- The lower half. -/
def powerField (cmd_buf : Octets) : ℕ := BitField.field 0 4 (cmd_buf.getD 1 0).toNat

/-- A LinkADRReq with this power index waits in the queue. -/
def MacQueue.CarriesPower (q : MacQueue) (power : ℕ) : Prop :=
  ∃ c ∈ q.live, c.opcode = SrvCmd.LINK_ADR_REQ.opcode ∧ powerField c.buf = power

/-- What is asked for is within the limits of the region, and a power index that differs is one
that is sent to the device. -/
structure Adapted.Sound (a : Adapted) (region : Option RegionalControl) (DataRate : UInt8)
    (s : MacState) : Prop where
  rate : ∀ g, region = some g → ∀ cmd_buf, a.request = some cmd_buf →
    DataRate ≤ g.uplink_dr_max → rateField cmd_buf ≤ g.uplink_dr_max.toNat
  power : ∀ g, region = some g → ∀ cmd_buf, a.request = some cmd_buf →
    powerField cmd_buf ≤ g.max_txpwr_idx.toNat
  sent : a.s.txpwr_idx ≠ s.txpwr_idx → a.s.mac_cmd_queue.CarriesPower a.s.txpwr_idx.toNat

/-! ### The condition -/

/-- What the last uplinks were like, in the order of the table. -/
def MacState.heard (s : MacState) : Readings :=
  (List.ofFn s.snr_history).foldl Readings.read ⟨-40, 40, 0⟩

/-- How many data rates the average pays for, 2.5 dB each. -/
def rateSteps (region : RegionalControl) (DataRate : UInt8) (s : MacState) : ℕ :=
  if s.heard.Stable DataRate then
    Budget.steps 0 (5 / 2) region.uplink_dr_max.toNat DataRate.toNat s.heard.average
  else 0

/-- How many power indices the rest above 3 dB pays for, 3 dB each. -/
def powerSteps (region : RegionalControl) (DataRate : UInt8) (s : MacState) : ℕ :=
  if s.heard.Stable DataRate then
    Budget.steps 3 3 region.max_txpwr_idx.toNat s.txpwr_idx.toNat
      (s.heard.average - rateSteps region DataRate s * (5 / 2))
  else 0

/-- The two numbers fit into their halves of the octet, or spill over without harm. -/
def FieldsFit (region : RegionalControl) (DataRate : UInt8) (rate power : ℕ) : Prop :=
  (DataRate ≤ region.uplink_dr_max → rate % 16 ||| power / 16 ≤ region.uplink_dr_max.toNat) ∧
    power % 16 ≤ region.max_txpwr_idx.toNat

/-- The queue has room and no LinkADRReq, or the one that it has says the same. -/
def MacQueue.TakesPower (q : MacQueue) (power : ℕ) : Prop :=
  q.Accepts [SrvCmd.LINK_ADR_REQ.opcode] ∧ power < 16 ∨ q.CarriesPower power

/-! ### The first loop -/

theorem read_comm (r : Readings) (v w : Int8) : (r.read v).read w = (r.read w).read v := by
  simp only [Readings.read, Readings.mk.injEq]
  refine ⟨?_, ?_, by omega⟩
  · split_ifs <;> omega
  · split_ifs <;> omega

/-- The places that the loop visits. -/
def visited : ℕ → Fin SNR_HISTORY_SIZE → List (Fin SNR_HISTORY_SIZE)
  | 0, _ => []
  | n + 1, hist_idx => hist_idx :: visited n (prevIdx hist_idx)

theorem scan_eq_foldl (snr_history : Fin SNR_HISTORY_SIZE → Int8) (n : ℕ)
    (hist_idx : Fin SNR_HISTORY_SIZE) (r : Readings) :
    scan snr_history n hist_idx r =
      ((visited n hist_idx).map snr_history).foldl Readings.read r := by
  induction n generalizing hist_idx r with
  | zero => rfl
  | succ n ih => rw [scan, ih, visited, List.map_cons, List.foldl_cons]

theorem visited_perm (hist_idx : Fin SNR_HISTORY_SIZE) :
    (visited SNR_HISTORY_SIZE hist_idx).Perm (List.finRange SNR_HISTORY_SIZE) := by
  revert hist_idx
  decide

theorem scan_eq (s : MacState) :
    scan s.snr_history SNR_HISTORY_SIZE s.snr_history_idx ⟨-40, 40, 0⟩ = s.heard := by
  have hperm := (visited_perm s.snr_history_idx).map s.snr_history
  rw [scan_eq_foldl, MacState.heard, List.ofFn_eq_map]
  exact hperm.foldl_eq' (fun v _ w _ r => read_comm r v w) _

/-! ### The table of qualities -/

theorem snr_history_uplinks (s : MacState) (snrs : List Int8) :
    (snrs.foldl MacState.network_controller_uplink s).snr_history =
      Circular.pushes s.snr_history s.snr_history_idx snrs := by
  induction snrs generalizing s with
  | nil => rfl
  | cons snr snrs ih => exact ih (s.network_controller_uplink snr)

/-- After as many uplinks as the table has places, their qualities are those that are averaged,
whatever was in the table before. -/
theorem heard_uplinks (s : MacState) {snrs : List Int8} (h : snrs.length = SNR_HISTORY_SIZE) :
    (snrs.foldl MacState.network_controller_uplink s).heard =
      snrs.foldl Readings.read ⟨-40, 40, 0⟩ := by
  have hround : (Circular.walk SNR_HISTORY_SIZE s.snr_history_idx).map
      (snrs.foldl MacState.network_controller_uplink s).snr_history = snrs := by
    have hwalk := Circular.map_walk_pushes s.snr_history s.snr_history_idx h.le
    rw [h] at hwalk
    rw [snr_history_uplinks, hwalk]
  have hperm := (Circular.walk_perm s.snr_history_idx).map
    (snrs.foldl MacState.network_controller_uplink s).snr_history
  rw [hround] at hperm
  rw [MacState.heard, List.ofFn_eq_map]
  exact (hperm.foldl_eq' (fun v _ w _ r => read_comm r v w) _).symm

/-! ### The loops on the budget -/

theorem spend_some {floor cost : ℚ} (hcost : 0 < cost) {limit fuel n : ℕ} {budget : ℚ}
    {p : ℕ × ℚ} (h : Budget.spend floor cost limit fuel n budget = some p) :
    p = (n + Budget.steps floor cost limit n budget,
      budget - Budget.steps floor cost limit n budget * cost) := by
  rw [Budget.spend_eq hcost] at h
  split at h
  · exact (Option.some.inj h).symm
  · cases h

theorem adapt_some {fuel : ℕ} {region : RegionalControl} {DataRate : UInt8} {s : MacState}
    {p : ℕ × ℕ} (h : adapt fuel region s.heard DataRate s.txpwr_idx = some p) :
    p = (DataRate.toNat + rateSteps region DataRate s,
      s.txpwr_idx.toNat + powerSteps region DataRate s) := by
  unfold adapt at h
  unfold powerSteps rateSteps
  by_cases hstable : s.heard.Stable DataRate
  · simp only [if_pos hstable] at h ⊢
    split at h
    · cases h
    · rename_i rate snr hrate
      have hspent := spend_some (by norm_num) hrate
      split at h
      · cases h
      · rename_i power left hpower
        have hleft := spend_some (by norm_num) hpower
        rw [Prod.mk.injEq] at hspent hleft
        rw [← Option.some.inj h, hleft.1, hspent.1, hspent.2]
  · simp only [if_neg hstable] at h ⊢
    exact (Option.some.inj h).symm

theorem steps_lt_fuel (floor cost : ℚ) (limit : UInt8) (n : ℕ) (budget : ℚ) :
    Budget.steps floor cost limit.toNat n budget < 256 := by
  have hle : Budget.steps floor cost limit.toNat n budget ≤ limit.toNat - n :=
    Budget.steps_le limit.toNat n budget
  have hlimit := limit.toNat_lt
  omega

theorem adapt_returns (region : RegionalControl) (r : Readings) (DataRate txpwr_idx : UInt8) :
    ∃ p, adapt 256 region r DataRate txpwr_idx = some p := by
  unfold adapt
  by_cases hstable : r.Stable DataRate
  · rw [if_pos hstable, Budget.spend_eq (by norm_num), if_pos (steps_lt_fuel ..)]
    dsimp only
    rw [Budget.spend_eq (by norm_num), if_pos (steps_lt_fuel ..)]
    exact ⟨_, rfl⟩
  · rw [if_neg hstable]
    exact ⟨_, rfl⟩

theorem add_powerSteps_lt (region : RegionalControl) (DataRate : UInt8) (s : MacState) :
    s.txpwr_idx.toNat + powerSteps region DataRate s < 256 := by
  have hidx := s.txpwr_idx.toNat_lt
  have hmax := region.max_txpwr_idx.toNat_lt
  unfold powerSteps
  split
  · have hle := @Budget.steps_le ℚ _ _ _ 3 3 region.max_txpwr_idx.toNat s.txpwr_idx.toNat
      (s.heard.average - rateSteps region DataRate s * (5 / 2))
    omega
  · omega

/-! ### The request -/

theorem linkAdr_toNat (rate power : ℕ) (ChMask : UInt16) :
    ((SrvCmd.LINK_ADR_REQ.opcode :: linkAdr rate power ChMask).getD 1 0).toNat =
      (rate <<< 4 ||| power) % 2 ^ 8 := by
  show (UInt8.ofNat (rate <<< 4 ||| power)).toNat = _
  rw [UInt8.toNat_ofNat']

/-- A power index of 16 or more spills into the data rate. -/
theorem rateField_linkAdr (rate : ℕ) {power : ℕ} (hpower : power < 256) (ChMask : UInt16) :
    rateField (SrvCmd.LINK_ADR_REQ.opcode :: linkAdr rate power ChMask) =
      rate % 16 ||| power / 16 := by
  have hspill : BitField.field 4 4 power = power / 16 := by
    unfold BitField.field
    omega
  rw [rateField, linkAdr_toNat, BitField.field_mod _ (by omega), BitField.field_or,
    BitField.field_shiftLeft, hspill]
  rfl

theorem powerField_linkAdr (rate power : ℕ) (ChMask : UInt16) :
    powerField (SrvCmd.LINK_ADR_REQ.opcode :: linkAdr rate power ChMask) = power % 16 := by
  have hlow : BitField.field 0 4 power = power % 16 := by
    unfold BitField.field
    omega
  rw [powerField, linkAdr_toNat, BitField.field_mod _ (by omega), BitField.field_or,
    BitField.field_shiftLeft_above rate (by omega), hlow, Nat.zero_or]

theorem MacQueue.accepts_linkAdr (q : MacQueue) (rate power : ℕ) (ChMask : UInt16) :
    q.Accepts (SrvCmd.LINK_ADR_REQ.opcode :: linkAdr rate power ChMask) ↔
      q.Accepts [SrvCmd.LINK_ADR_REQ.opcode] := by
  simp [MacQueue.Accepts, Admits, linkAdr]

theorem MacQueue.carriesPower_put (q : MacQueue) (rate power : ℕ) (ChMask : UInt16) :
    (q.put .LINK_ADR_REQ (linkAdr rate power ChMask) true).CarriesPower power ↔
      q.TakesPower power := by
  unfold TakesPower CarriesPower
  by_cases haccepts : q.Accepts [SrvCmd.LINK_ADR_REQ.opcode]
  · have hput := (q.accepts_linkAdr rate power ChMask).mpr haccepts
    rw [q.live_put_of_accepts .LINK_ADR_REQ hput true]
    constructor
    · rintro ⟨c, hc, hop, hfield⟩
      cases List.mem_append.mp hc with
      | inl hlive => exact .inr ⟨c, hlive, hop, hfield⟩
      | inr hnew =>
        rw [List.mem_singleton.mp hnew, powerField_linkAdr] at hfield
        exact .inl ⟨haccepts, by omega⟩
    · rintro (⟨-, hfit⟩ | ⟨c, hlive, hop, hfield⟩)
      · have hfield := powerField_linkAdr rate power ChMask
        rw [Nat.mod_eq_of_lt hfit] at hfield
        exact ⟨_, List.mem_append_right _ (List.mem_singleton_self _), rfl, hfield⟩
      · exact ⟨c, List.mem_append_left _ hlive, hop, hfield⟩
  · have hput := (q.accepts_linkAdr rate power ChMask).not.mpr haccepts
    rw [q.live_put_of_not_accepts .LINK_ADR_REQ hput true]
    constructor
    · exact .inr
    · rintro (⟨h, -⟩ | h)
      · exact absurd h haccepts
      · exact h

/-! ### The controller as a whole -/

theorem adr_some {fuel : ℕ} {region : RegionalControl} {DataRate : UInt8} {s : MacState}
    {a : Adapted} (h : network_controller_adr fuel (some region) DataRate s = some a) :
    a = s.ask DataRate (DataRate.toNat + rateSteps region DataRate s)
      (s.txpwr_idx.toNat + powerSteps region DataRate s) := by
  obtain ⟨p, hadapt, hask⟩ := Option.map_eq_some_iff.mp h
  rw [scan_eq] at hadapt
  have hp := adapt_some hadapt
  rw [← hask, hp]

theorem adr_returns (region : Option RegionalControl) (DataRate : UInt8) (s : MacState) :
    ∃ a, network_controller_adr 256 region DataRate s = some a := by
  cases region with
  | none => exact ⟨_, rfl⟩
  | some region =>
    obtain ⟨p, hadapt⟩ := adapt_returns region
      (scan s.snr_history SNR_HISTORY_SIZE s.snr_history_idx ⟨-40, 40, 0⟩) DataRate s.txpwr_idx
    exact ⟨_, by rw [network_controller_adr, hadapt, Option.map_some]⟩

section Ask

variable (s : MacState) (DataRate : UInt8)

theorem ask_of_asks {rate power : ℕ}
    (h : s.force_adr = true ∨ DataRate.toNat ≠ rate ∨ s.txpwr_idx.toNat ≠ power) :
    s.ask DataRate rate power =
      ⟨{ s with
          txpwr_idx := UInt8.ofNat power
          mac_cmd_queue := s.mac_cmd_queue.put .LINK_ADR_REQ
            (linkAdr rate power (s.ChMask.headD 0)) true },
        some (SrvCmd.LINK_ADR_REQ.opcode :: linkAdr rate power (s.ChMask.headD 0))⟩ := by
  unfold MacState.ask
  rw [if_pos h]
  rfl

theorem ask_of_not_asks {rate power : ℕ}
    (h : ¬(s.force_adr = true ∨ DataRate.toNat ≠ rate ∨ s.txpwr_idx.toNat ≠ power)) :
    s.ask DataRate rate power = ⟨{ s with txpwr_idx := UInt8.ofNat power }, none⟩ := by
  unfold MacState.ask
  rw [if_neg h]

theorem asks_iff (k j : ℕ) :
    (s.force_adr = true ∨ DataRate.toNat ≠ DataRate.toNat + k ∨
      s.txpwr_idx.toNat ≠ s.txpwr_idx.toNat + j) ↔ s.force_adr = true ∨ 0 < k ∨ 0 < j := by
  have hk : DataRate.toNat ≠ DataRate.toNat + k ↔ 0 < k := by omega
  have hj : s.txpwr_idx.toNat ≠ s.txpwr_idx.toNat + j ↔ 0 < j := by omega
  rw [hk, hj]

theorem ofNat_add_ne {j : ℕ} (hlt : s.txpwr_idx.toNat + j < 256) :
    UInt8.ofNat (s.txpwr_idx.toNat + j) ≠ s.txpwr_idx ↔ 0 < j := by
  have hval : (UInt8.ofNat (s.txpwr_idx.toNat + j)).toNat = s.txpwr_idx.toNat + j := by
    rw [UInt8.toNat_ofNat', Nat.mod_eq_of_lt hlt]
  rw [ne_eq, ← UInt8.toNat_inj, hval]
  omega

theorem sound_ask_iff (region : RegionalControl) (k : ℕ) {j : ℕ}
    (hlt : s.txpwr_idx.toNat + j < 256) :
    (s.ask DataRate (DataRate.toNat + k) (s.txpwr_idx.toNat + j)).Sound (some region) DataRate s ↔
      ((s.force_adr = true ∨ 0 < k ∨ 0 < j) →
        FieldsFit region DataRate (DataRate.toNat + k) (s.txpwr_idx.toNat + j)) ∧
      (0 < j → s.mac_cmd_queue.TakesPower (s.txpwr_idx.toNat + j)) := by
  have hval : (UInt8.ofNat (s.txpwr_idx.toNat + j)).toNat = s.txpwr_idx.toNat + j := by
    rw [UInt8.toNat_ofNat', Nat.mod_eq_of_lt hlt]
  by_cases hasks : s.force_adr = true ∨ 0 < k ∨ 0 < j
  · rw [ask_of_asks s DataRate ((asks_iff s DataRate k j).mpr hasks)]
    constructor
    · intro hsound
      constructor
      · intro _
        constructor
        · have hrate := hsound.rate region rfl _ rfl
          rw [rateField_linkAdr _ hlt] at hrate
          exact hrate
        · have hpower := hsound.power region rfl _ rfl
          rw [powerField_linkAdr] at hpower
          exact hpower
      · intro hj
        have hsent := hsound.sent ((ofNat_add_ne s hlt).mpr hj)
        dsimp only at hsent
        rw [hval, MacQueue.carriesPower_put] at hsent
        exact hsent
    · intro h
      obtain ⟨hrate, hpower⟩ := h.1 hasks
      constructor
      · intro g hg cmd_buf hbuf
        cases hg
        cases hbuf
        rw [rateField_linkAdr _ hlt]
        exact hrate
      · intro g hg cmd_buf hbuf
        cases hg
        cases hbuf
        rw [powerField_linkAdr]
        exact hpower
      · intro hne
        dsimp only
        rw [hval, MacQueue.carriesPower_put]
        exact h.2 ((ofNat_add_ne s hlt).mp hne)
  · rw [ask_of_not_asks s DataRate (mt (asks_iff s DataRate k j).mp hasks)]
    constructor
    · intro _
      exact ⟨fun h => absurd h hasks, fun hj => absurd (.inr (.inr hj)) hasks⟩
    · intro _
      constructor
      · intro g _ cmd_buf hbuf
        cases hbuf
      · intro g _ cmd_buf hbuf
        cases hbuf
      · intro hne
        exact absurd (.inr (.inr ((ofNat_add_ne s hlt).mp hne))) hasks

end Ask

/-- The request stays within its fields, and a power that is lowered is one that the queue
takes. -/
structure AdrCondition (region : RegionalControl) (DataRate : UInt8) (s : MacState) : Prop where
  fields : (s.force_adr = true ∨ 0 < rateSteps region DataRate s ∨
      0 < powerSteps region DataRate s) →
    FieldsFit region DataRate (DataRate.toNat + rateSteps region DataRate s)
      (s.txpwr_idx.toNat + powerSteps region DataRate s)
  queue : 0 < powerSteps region DataRate s →
    s.mac_cmd_queue.TakesPower (s.txpwr_idx.toNat + powerSteps region DataRate s)

/-- The controller returns within its limits and with a power index that is sent, exactly under
the condition. -/
theorem adr_iff (region : Option RegionalControl) (DataRate : UInt8) (s : MacState) :
    (∃ fuel a, network_controller_adr fuel region DataRate s = some a ∧
      a.Sound region DataRate s) ↔
      ∀ g, region = some g → AdrCondition g DataRate s := by
  cases region with
  | none =>
    constructor
    · intro _ g hg
      cases hg
    · intro _
      refine ⟨0, _, rfl, ⟨?_, ?_, fun hne => absurd rfl hne⟩⟩
      · intro g hg
        cases hg
      · intro g hg
        cases hg
  | some region =>
    have hsound := sound_ask_iff s DataRate region (rateSteps region DataRate s)
      (add_powerSteps_lt region DataRate s)
    constructor
    · rintro ⟨fuel, a, hadr, ha⟩ g hg
      cases hg
      rw [adr_some hadr] at ha
      obtain ⟨hfields, hqueue⟩ := hsound.mp ha
      exact ⟨hfields, hqueue⟩
    · intro h
      obtain ⟨a, hadr⟩ := adr_returns (some region) DataRate s
      obtain ⟨hfields, hqueue⟩ := h region rfl
      refine ⟨256, a, hadr, ?_⟩
      rw [adr_some hadr]
      exact hsound.mpr ⟨hfields, hqueue⟩

/-- Where the indices of the region and of the session fit into four bits, a queue that takes
the request is all that is needed. -/
theorem condition_of_accepts {region : RegionalControl} {DataRate : UInt8} {s : MacState}
    (hmax : region.max_txpwr_idx < 16) (hidx : s.txpwr_idx ≤ region.max_txpwr_idx)
    (haccepts : s.mac_cmd_queue.Accepts [SrvCmd.LINK_ADR_REQ.opcode]) :
    AdrCondition region DataRate s := by
  have hpower : s.txpwr_idx.toNat + powerSteps region DataRate s ≤ region.max_txpwr_idx.toNat := by
    unfold powerSteps
    split
    · exact Budget.add_steps_le _ _ _ (UInt8.le_iff_toNat_le.mp hidx)
    · exact UInt8.le_iff_toNat_le.mp hidx
  have hrate : DataRate ≤ region.uplink_dr_max →
      DataRate.toNat + rateSteps region DataRate s ≤ region.uplink_dr_max.toNat := by
    intro hle
    unfold rateSteps
    split
    · exact Budget.add_steps_le _ _ _ (UInt8.le_iff_toNat_le.mp hle)
    · exact UInt8.le_iff_toNat_le.mp hle
  have hfit : s.txpwr_idx.toNat + powerSteps region DataRate s < 16 :=
    Nat.lt_of_le_of_lt hpower (UInt8.lt_iff_toNat_lt.mp hmax)
  constructor
  · intro _
    constructor
    · intro hle
      rw [Nat.div_eq_of_lt hfit, Nat.or_zero]
      exact Nat.le_trans (Nat.mod_le _ _) (hrate hle)
    · exact Nat.le_trans (Nat.mod_le _ _) hpower
  · intro _
    exact .inl ⟨haccepts, hfit⟩

def sampleAdrRegion : RegionalControl := ⟨5, 0, 7, [7]⟩

/-- The session is heard well, and waits for the answer to a LinkADRReq of index 0. -/
def sampleAdrState : MacState :=
  { sampleMacState with
    snr_history := fun _ => 10
    snr_history_idx := ⟨1, by decide⟩ }

/-- The session goes on to index 3, the queue stays with index 0. -/
theorem power_runs_ahead :
    (network_controller_adr 256 (some sampleAdrRegion) 5 sampleAdrState).map
        (fun a => (a.s.txpwr_idx, a.s.mac_cmd_queue.live.map (·.buf))) =
        some (3, [[0x03, 0x50, 7, 0, 0]]) ∧
      ¬∃ fuel a, network_controller_adr fuel (some sampleAdrRegion) 5 sampleAdrState = some a ∧
        a.Sound (some sampleAdrRegion) 5 sampleAdrState := by
  have hrun : (network_controller_adr 256 (some sampleAdrRegion) 5 sampleAdrState).map
      (fun a => (a.s.txpwr_idx, a.s.mac_cmd_queue.live.map (·.buf))) =
      some (3, [[0x03, 0x50, 7, 0, 0]]) := by
    decide +kernel
  refine ⟨hrun, ?_⟩
  rintro ⟨fuel, a, hadr, hsound⟩
  obtain ⟨a', hadr', hvalue⟩ := Option.map_eq_some_iff.mp hrun
  rw [Prod.mk.injEq] at hvalue
  obtain ⟨hpower, hlive⟩ := hvalue
  have hsame : a = a' := (adr_some hadr).trans (adr_some hadr').symm
  rw [hsame] at hsound
  have hne : a'.s.txpwr_idx ≠ sampleAdrState.txpwr_idx := by
    rw [hpower]
    decide
  obtain ⟨c, hc, -, hfield⟩ := hsound.sent hne
  have hbuf : c.buf ∈ a'.s.mac_cmd_queue.live.map (·.buf) := List.mem_map_of_mem hc
  rw [hlive] at hbuf
  rw [List.mem_singleton.mp hbuf, hpower] at hfield
  exact absurd hfield (by decide)

end Lorawan.NetworkServer

import Lorawan.Lib.BitField
import Lorawan.NetworkServer.MacParser
import Lorawan.NetworkServer.RefusedUplinks

/-!
# Forced rejoins (network_server/sNS.c:1074-1106)

`sNS_force_rejoin` on the ring of commands, and what the device makes of the command.
-/

namespace Lorawan.NetworkServer
open Lorawan BitField

/-! ### The function on the ring -/

/-- The end of `sNS_force_rejoin`, once the service profile is read. -/
def MacState.forceRejoin (DRMin : UInt32) (type : UInt8) (s : MacState) : MacState :=
  let s := { s with mac_cmd_queue := s.mac_cmd_queue.wipe }
  let s := s.put .FORCE_REJOIN_REQ (forceRejoinReq type.toNat DRMin.toNat).tail false
  { s with
    type2_rejoin_count := if type = 2 then UInt8.ofNat max_retries else s.type2_rejoin_count }

/-- The result, and `mote->s`. `readServiceProfileFromSql` gives 0 and `DRMin`, or -1. -/
def MacState.sNS_force_rejoin (profile : Option UInt32) (type : UInt8) (s : Option MacState) :
    ℤ × Option MacState :=
  match profile, s with
  | none, s => (-1, s)
  | some _, none => (0, none)
  | some DRMin, some s => (0, some (s.forceRejoin DRMin type))

/-! ### The property -/

/-- The payload of a ForceRejoinReq as the device reads it. -/
structure RejoinFields where
  DR : ℕ
  RejoinType : ℕ
  Max_Retries : ℕ
  Period : ℕ
deriving DecidableEq

/-- LoRaWAN has the period in bits 13 to 11, the retries in 10 to 8, the type in 6 to 4 and the
data rate in 3 to 0. -/
def RejoinFields.ofWord (word : ℕ) : RejoinFields where
  DR := field 0 4 word
  RejoinType := field 4 3 word
  Max_Retries := field 8 3 word
  Period := field 11 3 word

/-- The queue holds one command, with a payload of two octets that reads as `fields`. -/
def MacQueue.HoldsRejoin (q : MacQueue) (fields : RejoinFields) : Prop :=
  ∃ lo hi needs_answer, q.live = [⟨[SrvCmd.FORCE_REJOIN_REQ.opcode, lo, hi], needs_answer⟩] ∧
    RejoinFields.ofWord (lo.toNat + 256 * hi.toNat) = fields

/-- What a forced rejoin is for. -/
structure Forced (DRMin : UInt32) (type : UInt8) (s : MacState) : Prop where
  command : s.mac_cmd_queue.HoldsRejoin ⟨DRMin.toNat % 16, type.toNat, max_retries, 1⟩
  count : type = 2 → s.type2_rejoin_count.toNat = max_retries

/-- A call that succeeds does it. -/
def RejoinWorks (profile : Option UInt32) (type : UInt8) (s : Option MacState) : Prop :=
  0 ≤ (MacState.sNS_force_rejoin profile type s).1 →
    ∃ DRMin s', profile = some DRMin ∧
      (MacState.sNS_force_rejoin profile type s).2 = some s' ∧ Forced DRMin type s'

/-! ### The payload -/

variable (type DRMin : ℕ)

/-- `cmd_payload` -/
def rejoinWord : ℕ :=
  (DRMin &&& 0x0f) ||| (max_retries &&& 7) <<< 8 ||| (type &&& 7) <<< 4 ||| (1 &&& 7) <<< 11

theorem rejoinWord_eq :
    rejoinWord type DRMin =
      put 0 4 DRMin ||| put 8 3 max_retries ||| put 4 3 type ||| put 11 3 1 := by
  have hmask : ∀ n, n &&& 7 = n % 2 ^ 3 := fun n => Nat.and_two_pow_sub_one_eq_mod n 3
  have hnibble : DRMin &&& 0x0f = DRMin % 2 ^ 4 := Nat.and_two_pow_sub_one_eq_mod DRMin 4
  unfold rejoinWord
  rw [hnibble, hmask, hmask, hmask]
  rfl

/-- The word has its fields where they belong; it is the octets that are not cut from it well. -/
theorem ofWord_rejoinWord :
    RejoinFields.ofWord (rejoinWord type DRMin) = ⟨DRMin % 16, type % 8, max_retries, 1⟩ := by
  rw [rejoinWord_eq, RejoinFields.ofWord]
  simp (disch := omega) only [field_or, field_put, field_put_of_disjoint, Nat.or_zero,
    Nat.zero_or]
  rfl

theorem forceRejoinReq_eq :
    forceRejoinReq type DRMin =
      [SrvCmd.FORCE_REJOIN_REQ.opcode, UInt8.ofNat (rejoinWord type DRMin % 2 ^ 8), 0] := by
  have hlow : rejoinWord type DRMin &&& 0xff = rejoinWord type DRMin % 2 ^ 8 :=
    Nat.and_two_pow_sub_one_eq_mod _ 8
  have hhigh : rejoinWord type DRMin <<< 8 &&& 0xff = 0 := by
    have hmod : rejoinWord type DRMin <<< 8 &&& 0xff = rejoinWord type DRMin <<< 8 % 2 ^ 8 :=
      Nat.and_two_pow_sub_one_eq_mod _ 8
    rw [hmod, Nat.shiftLeft_eq, Nat.mul_mod_left]
  show [_, UInt8.ofNat (rejoinWord type DRMin &&& 0xff),
    UInt8.ofNat (rejoinWord type DRMin <<< 8 &&& 0xff)] = _
  rw [hlow, hhigh]
  rfl

theorem ofWord_octets :
    RejoinFields.ofWord ((UInt8.ofNat (rejoinWord type DRMin % 2 ^ 8)).toNat +
      256 * (0 : UInt8).toNat) = ⟨DRMin % 16, type % 8, 0, 0⟩ := by
  have hword := ofWord_rejoinWord type DRMin
  have hlow : (UInt8.ofNat (rejoinWord type DRMin % 2 ^ 8)).toNat + 256 * (0 : UInt8).toNat =
      rejoinWord type DRMin % 2 ^ 8 := by
    rw [UInt8.toNat_ofNat', Nat.mod_mod]
    rfl
  have hlt : rejoinWord type DRMin % 2 ^ 8 < 2 ^ 8 := Nat.mod_lt _ (Nat.two_pow_pos 8)
  have hlt' : rejoinWord type DRMin % 2 ^ 8 < 2 ^ 11 := by omega
  simp only [RejoinFields.ofWord, RejoinFields.mk.injEq] at hword
  rw [hlow, RejoinFields.ofWord, field_mod _ (by omega), field_mod _ (by omega),
    field_of_lt hlt, field_of_lt hlt', hword.1, hword.2.1]

/-! ### The queue -/

variable (s : MacState)

theorem live_forceRejoin (DRMin : UInt32) (type : UInt8) :
    (s.forceRejoin DRMin type).mac_cmd_queue.live =
      [⟨[SrvCmd.FORCE_REJOIN_REQ.opcode,
        UInt8.ofNat (rejoinWord type.toNat DRMin.toNat % 2 ^ 8), 0], false⟩] := by
  have haccepts : s.mac_cmd_queue.wipe.Accepts (SrvCmd.FORCE_REJOIN_REQ.opcode ::
      (forceRejoinReq type.toNat DRMin.toNat).tail) := by
    apply MacQueue.accepts_wipe
    rw [forceRejoinReq_eq]
    show 3 < 8
    omega
  show (s.mac_cmd_queue.wipe.put .FORCE_REJOIN_REQ _ false).live = _
  rw [MacQueue.live_put_of_accepts _ _ haccepts, MacQueue.live_wipe, forceRejoinReq_eq]
  rfl

theorem commands_forceRejoin (DRMin : UInt32) (type : UInt8) :
    (s.forceRejoin DRMin type).mac_cmd_queue.ring.commands =
      (forceRejoinOps type.toNat (some DRMin.toNat)).foldl MacOp.apply
        s.mac_cmd_queue.ring.commands := by
  have hwiped : s.mac_cmd_queue.wipe.ring.commands =
      wipe_queued_mac_cmds s.mac_cmd_queue.ring.commands :=
    (MacRing.wipe_spec s.mac_cmd_queue.inv).2
  show (s.mac_cmd_queue.wipe.put .FORCE_REJOIN_REQ _ false).ring.commands = _
  rw [MacQueue.commands_put, hwiped]
  rfl

theorem holdsRejoin_forceRejoin (DRMin : UInt32) (type : UInt8) :
    (s.forceRejoin DRMin type).mac_cmd_queue.HoldsRejoin
      ⟨DRMin.toNat % 16, type.toNat % 8, 0, 0⟩ :=
  ⟨_, _, _, live_forceRejoin s DRMin type, ofWord_octets type.toNat DRMin.toNat⟩

theorem MacQueue.HoldsRejoin.eq {q : MacQueue} {fields fields' : RejoinFields} (h : q.HoldsRejoin fields)
    (h' : q.HoldsRejoin fields') : fields = fields' := by
  obtain ⟨lo, hi, _, hlive, hfields⟩ := h
  obtain ⟨lo', hi', _, hlive', hfields'⟩ := h'
  rw [hlive] at hlive'
  injection hlive' with hcmd
  injection hcmd with hbuf
  injection hbuf with _ hpayload
  injection hpayload with hlo hhi
  injection hhi with hhi
  rw [← hfields, ← hfields', hlo, hhi]

theorem count_forceRejoin (DRMin : UInt32) (type : UInt8) (h : type = 2) :
    (s.forceRejoin DRMin type).type2_rejoin_count.toNat = max_retries := by
  unfold MacState.forceRejoin
  dsimp only
  rw [if_pos h]
  rfl

/-- The retries and the period are shifted out of the second octet. -/
theorem not_forced (DRMin : UInt32) (type : UInt8) :
    ¬Forced DRMin type (s.forceRejoin DRMin type) := by
  intro hforced
  have hsame := hforced.command.eq (holdsRejoin_forceRejoin s DRMin type)
  rw [RejoinFields.mk.injEq] at hsame
  exact absurd hsame.2.2.2 Nat.one_ne_zero

theorem rejoinWorks_iff (profile : Option UInt32) (type : UInt8) (s : Option MacState) :
    RejoinWorks profile type s ↔ profile = none := by
  constructor
  · intro hworks
    cases profile with
    | none => rfl
    | some DRMin =>
      cases s with
      | none =>
        obtain ⟨_, s', -, hs, -⟩ := hworks (Int.le_refl 0)
        cases hs
      | some s =>
        obtain ⟨_, s', hDRMin, hs, hforced⟩ := hworks (Int.le_refl 0)
        cases hDRMin
        cases hs
        exact absurd hforced (not_forced s DRMin type)
  · intro hprofile hok
    rw [hprofile] at hok
    have hfailed : ¬(0 : ℤ) ≤ -1 := by decide
    exact absurd hok hfailed

/-- A rejoin of type 2 at data rate 2, over a queue with a LinkADRReq. -/
theorem retries_shifted_out :
    (MacState.sNS_force_rejoin (some 2) 2 (some sampleMacState)).1 = 0 ∧
      (MacState.sNS_force_rejoin (some 2) 2 (some sampleMacState)).2.map
        (fun s => s.mac_cmd_queue.live.map (·.buf)) = some [[0x0e, 0x22, 0x00]] ∧
      RejoinFields.ofWord 0x0022 = ⟨2, 2, 0, 0⟩ ∧
      ¬RejoinWorks (some 2) 2 (some sampleMacState) := by
  refine ⟨rfl, by decide +kernel, rfl, ?_⟩
  intro hworks
  obtain ⟨_, s', hDRMin, hs, hforced⟩ := hworks (Int.le_refl 0)
  cases hDRMin
  cases hs
  exact not_forced sampleMacState 2 2 hforced

end Lorawan.NetworkServer

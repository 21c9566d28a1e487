import Lorawan.NetworkServer.MacCommands

/-!
# The state that MAC commands act on (network_server/sNS.h:18-83, adr.c:20-54, ns.h:108-144)

The members of `s_t` that the parsers of the device's commands, the rate control and the
forced rejoin read and write. The ring of commands carries its invariant.
-/

namespace Lorawan.NetworkServer
open Lorawan

/-! ### Commands of the server -/

/-- `LoRaMacSrvCmd_t` (lorawan.h:156-205) -/
inductive SrvCmd
  | RESET_CONF
  | LINK_CHECK_ANS
  | LINK_ADR_REQ
  | DUTY_CYCLE_REQ
  | RX_PARAM_SETUP_REQ
  | DEV_STATUS_REQ
  | NEW_CHANNEL_REQ
  | RX_TIMING_SETUP_REQ
  | TX_PARAM_SETUP_REQ
  | REKEY_CONF
  | DEVICE_TIME_ANS
  | FORCE_REJOIN_REQ
  | REJOIN_PARAM_REQ
  | PING_SLOT_INFO_ANS
  | PING_SLOT_CHANNEL_REQ
  | BEACON_TIMING_ANS
  | BEACON_FREQ_REQ
  | DEVICE_MODE_CONF
deriving DecidableEq

def SrvCmd.opcode : SrvCmd → UInt8
  | RESET_CONF => 0x01
  | LINK_CHECK_ANS => 0x02
  | LINK_ADR_REQ => 0x03
  | DUTY_CYCLE_REQ => 0x04
  | RX_PARAM_SETUP_REQ => 0x05
  | DEV_STATUS_REQ => 0x06
  | NEW_CHANNEL_REQ => 0x07
  | RX_TIMING_SETUP_REQ => 0x08
  | TX_PARAM_SETUP_REQ => 0x09
  | REKEY_CONF => 0x0b
  | DEVICE_TIME_ANS => 0x0d
  | FORCE_REJOIN_REQ => 0x0e
  | REJOIN_PARAM_REQ => 0x0f
  | PING_SLOT_INFO_ANS => 0x10
  | PING_SLOT_CHANNEL_REQ => 0x11
  | BEACON_TIMING_ANS => 0x12
  | BEACON_FREQ_REQ => 0x13
  | DEVICE_MODE_CONF => 0x20

theorem SrvCmd.opcode_ne_zero (cmd : SrvCmd) : cmd.opcode ≠ 0 := by
  cases cmd <;> decide

/-! ### The ring with its invariant -/

structure MacQueue where
  ring : MacRing
  inv : ring.Inv

namespace MacQueue

variable (q : MacQueue)

/-- `calloc` -/
def empty : MacQueue := ⟨MacRing.zero, MacRing.inv_zero⟩

/-- The slots between the indices that hold a command. -/
def live : List MacCmd := q.ring.live

/-- `put_queue_mac_cmds` puts the command into the ring. -/
def Accepts (cmd_buf : Octets) : Prop := Admits q.ring.commands cmd_buf

theorem exists_put (cmd : SrvCmd) (payload : Octets) (needs_answer : Bool) :
    ∃ r, q.ring.put_queue_mac_cmds (cmd.opcode :: payload) needs_answer = some r ∧ r.Inv ∧
      r.commands = put_queue_mac_cmds q.ring.commands (cmd.opcode :: payload) needs_answer := by
  have hcmd : (cmd.opcode :: payload).headD 0 ≠ 0 := cmd.opcode_ne_zero
  obtain ⟨r, heq, hinv, hcommands, -⟩ := MacRing.put_spec q.inv hcmd needs_answer
  exact ⟨r, heq, hinv, hcommands⟩

theorem put_isSome (cmd : SrvCmd) (payload : Octets) (needs_answer : Bool) :
    (q.ring.put_queue_mac_cmds (cmd.opcode :: payload) needs_answer).isSome := by
  obtain ⟨r, heq, -⟩ := q.exists_put cmd payload needs_answer
  rw [heq]
  rfl

theorem put_inv (cmd : SrvCmd) (payload : Octets) (needs_answer : Bool) :
    ((q.ring.put_queue_mac_cmds (cmd.opcode :: payload) needs_answer).get
      (q.put_isSome cmd payload needs_answer)).Inv := by
  obtain ⟨r, heq, hinv, -⟩ := q.exists_put cmd payload needs_answer
  simp only [heq, Option.get_some]
  exact hinv

/-- `put_queue_mac_cmds` of the command `cmd`. -/
def put (cmd : SrvCmd) (payload : Octets) (needs_answer : Bool) : MacQueue :=
  ⟨_, q.put_inv cmd payload needs_answer⟩

def clear (cmd : UInt8) : MacQueue := ⟨_, (MacRing.clear_spec q.inv cmd).1⟩

def wipe : MacQueue := ⟨_, (MacRing.wipe_spec q.inv).1⟩

theorem commands_put (cmd : SrvCmd) (payload : Octets) (needs_answer : Bool) :
    (q.put cmd payload needs_answer).ring.commands =
      put_queue_mac_cmds q.ring.commands (cmd.opcode :: payload) needs_answer := by
  obtain ⟨r, heq, -, hcommands⟩ := q.exists_put cmd payload needs_answer
  rw [← hcommands]
  simp only [put, heq, Option.get_some]

theorem live_put_of_accepts (cmd : SrvCmd) {payload : Octets}
    (hput : q.Accepts (cmd.opcode :: payload)) (needs_answer : Bool) :
    (q.put cmd payload needs_answer).live = q.live ++ [⟨cmd.opcode :: payload, needs_answer⟩] := by
  have hwaits := waits_of_inv q.inv
  show liveCmds (q.put cmd payload needs_answer).ring.commands = liveCmds q.ring.commands ++ _
  rw [commands_put, put_of_admits hwaits needs_answer hput, liveCmds_append,
    liveCmds_dropWhile hwaits]
  rfl

theorem live_put_of_not_accepts (cmd : SrvCmd) {payload : Octets}
    (hput : ¬q.Accepts (cmd.opcode :: payload)) (needs_answer : Bool) :
    (q.put cmd payload needs_answer).live = q.live := by
  have hwaits := waits_of_inv q.inv
  show liveCmds (q.put cmd payload needs_answer).ring.commands = liveCmds q.ring.commands
  rw [commands_put, put_of_not_admits hwaits needs_answer hput, liveCmds_dropWhile hwaits]

@[simp] theorem live_wipe : q.wipe.live = [] := by
  show liveCmds q.wipe.ring.commands = []
  rw [show q.wipe.ring.commands = wipe_queued_mac_cmds q.ring.commands from
    (MacRing.wipe_spec q.inv).2]
  exact liveCmds_wipe _

theorem accepts_wipe {cmd_buf : Octets} (h : cmd_buf.length < 8) : q.wipe.Accepts cmd_buf := by
  have hcommands : q.wipe.ring.commands = wipe_queued_mac_cmds q.ring.commands :=
    (MacRing.wipe_spec q.inv).2
  have hwiped : q.wipe.ring.commands.dropWhile (·.isFinished) = [] := by
    rw [hcommands, List.dropWhile_eq_nil_iff]
    intro c hc
    obtain ⟨_, -, rfl⟩ := List.mem_map.mp hc
    rfl
  refine ⟨h, ?_, ?_⟩
  · rw [hwiped]
    exact Nat.zero_lt_succ _
  · intro c hc
    have hnone : c ∈ q.wipe.live := hc
    rw [live_wipe] at hnone
    exact absurd hnone List.not_mem_nil

end MacQueue

/-! ### The session -/

def SNR_HISTORY_SIZE : ℕ := 3

def NULL_SNR : Int8 := -30

/-- What `regional_t` has for the commands. -/
structure RegionalControl where
  uplink_dr_max : UInt8
  default_txpwr_idx : UInt8
  max_txpwr_idx : UInt8
  init_ChMask : List UInt16
deriving DecidableEq

/-- Members of `s_t`. The qualities are stored as `float`, from a signed octet each. -/
structure MacState where
  ChMask : List UInt16
  mac_cmd_queue : MacQueue
  snr_history : Fin SNR_HISTORY_SIZE → Int8
  snr_history_idx : Fin SNR_HISTORY_SIZE
  txpwr_idx : UInt8
  ping_slot_info : UInt8
  ping_period : UInt16
  ping_offset : UInt16
  classModeInd : UInt8
  type2_rejoin_count : UInt8
  send_start_mac_cmds : Bool
  session_start_at_uplink : Bool
  force_adr : Bool
  checkOldSessions : Bool

namespace MacState

variable (s : MacState)

/-- `put_queue_mac_cmds` -/
def put (cmd : SrvCmd) (payload : Octets) (needs_answer : Bool) : MacState :=
  { s with mac_cmd_queue := s.mac_cmd_queue.put cmd payload needs_answer }

/-- `clear_queued_mac_cmd` -/
def clear (cmd : SrvCmd) : MacState :=
  { s with mac_cmd_queue := s.mac_cmd_queue.clear cmd.opcode }

def network_controller_uplink (snr : Int8) : MacState :=
  { s with
    snr_history := Function.update s.snr_history s.snr_history_idx snr
    snr_history_idx := Circular.next s.snr_history_idx }

/-- `network_controller_mote_init`; `none` is a region that is not in the list. -/
def network_controller_mote_init (region : Option RegionalControl) : MacState :=
  match region with
  | none => s
  | some region =>
    { s with
      snr_history := fun _ => NULL_SNR
      ChMask := region.init_ChMask
      txpwr_idx := region.default_txpwr_idx }

end MacState

end Lorawan.NetworkServer

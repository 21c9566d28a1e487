import Lorawan.Lib.Octets

/-!
# The queue of MAC commands (network_server/sNS.c:866-885, 1010-1072, 1112-1133, 1400-1484)

`mac_cmd_queue` is a ring of six slots between `mac_cmd_queue_out_idx` and
`mac_cmd_queue_in_idx`; the model keeps the slots between the two as a list. A
command that was sent or answered leaves an empty slot, which the next command
put into the queue removes when it stands at the front.
-/

namespace Lorawan.NetworkServer
open Lorawan

/-- A slot of the queue; `len` is the length of `buf`. -/
structure MacCmd where
  buf : Octets
  needs_answer : Bool
deriving DecidableEq

def MacCmd.cleared : MacCmd := ⟨[], false⟩

/-- `buf[0] == 0`. -/
def MacCmd.isFinished (c : MacCmd) : Bool := decide (c.buf.headD 0 = 0)

/-- `put_queue_mac_cmds`: a command of eight octets or more, one for which the ring has no room,
and one that waits already are not put. -/
def put_queue_mac_cmds (queue : List MacCmd) (cmd_buf : Octets) (needs_answer : Bool) :
    List MacCmd :=
  let queue := queue.dropWhile (·.isFinished)
  if 8 ≤ cmd_buf.length then queue
  else if 5 ≤ queue.length then queue
  else if queue.any fun c => decide (c.buf ≠ []) && decide (c.buf.headD 0 = cmd_buf.headD 0) then
    queue
  else queue ++ [⟨cmd_buf, needs_answer⟩]

/-- `clear_queued_mac_cmd`: the first slot with the command. -/
def clear_queued_mac_cmd (cmd : UInt8) : List MacCmd → List MacCmd
  | [] => []
  | c :: cs =>
    if c.buf ≠ [] ∧ c.buf.headD 0 = cmd then .cleared :: cs else c :: clear_queued_mac_cmd cmd cs

def wipe_queued_mac_cmds (queue : List MacCmd) : List MacCmd := queue.map fun _ => .cleared

def are_mac_cmds_queued (queue : List MacCmd) : Bool := queue.any fun c => decide (c.buf ≠ [])

/-- The loop of `get_queued_mac_cmds`: the octets of the commands that fit into `room`, and the
queue without those that need no answer. -/
def takeMacCmds : ℕ → List MacCmd → Octets × List MacCmd
  | _, [] => ([], [])
  | room, c :: cs =>
    if room < c.buf.length then ([], c :: cs)
    else
      let rest := takeMacCmds (room - c.buf.length) cs
      (c.buf ++ rest.1, (if c.needs_answer then c else .cleared) :: rest.2)

/-- What handling the MAC commands of an uplink, the rate control and the start of a session do
to the queue. -/
inductive MacOp
  | put (cmd_buf : Octets) (needs_answer : Bool)
  | clear (cmd : UInt8)
  | wipe
deriving DecidableEq

def MacOp.apply (queue : List MacCmd) : MacOp → List MacCmd
  | .put cmd_buf needs_answer => put_queue_mac_cmds queue cmd_buf needs_answer
  | .clear cmd => clear_queued_mac_cmd cmd queue
  | .wipe => wipe_queued_mac_cmds queue

theorem takeMacCmds_length (room : ℕ) (queue : List MacCmd) :
    (takeMacCmds room queue).1.length ≤ room := by
  induction queue generalizing room with
  | nil => exact Nat.zero_le room
  | cons c cs ih =>
    unfold takeMacCmds
    split
    · exact Nat.zero_le room
    · have := ih (room - c.buf.length)
      simp only [List.length_append]
      omega

end Lorawan.NetworkServer

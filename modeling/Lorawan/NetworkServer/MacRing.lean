import Lorawan.Lib.Circular
import Lorawan.Lib.Loop
import Lorawan.Lib.Machine
import Lorawan.NetworkServer.Schedule
import Mathlib.Data.List.TakeWhile

/-!
# The ring of MAC commands (network_server/sNS.h:11-28, sNS.c:866-885, 1010-1072, 1112-1133, 1400-1484)

The queue as `s_t` keeps it. A slot without a command has `len` 0. Its opcode is
0 until the next command put into the ring has passed it, and 0xff from then on;
memory is 0 before the first command.
-/

namespace Lorawan.NetworkServer
open Lorawan Lorawan.Circular

def MAC_CMD_SIZE : ℕ := 8

def MAC_CMD_QUEUE_SIZE : ℕ := 6

structure MacSlot where
  len : ℕ
  needs_answer : Bool
  buf : Octets
  size : buf.length = MAC_CMD_SIZE
deriving DecidableEq

namespace MacSlot

def zero : MacSlot := ⟨0, false, List.replicate MAC_CMD_SIZE 0, List.length_replicate⟩

/-- `buf[0]` -/
def opcode (c : MacSlot) : UInt8 := c.buf.headD 0

def setOpcode (opcode : UInt8) (c : MacSlot) : MacSlot :=
  { c with
    buf := opcode :: c.buf.tail
    size := by
      have := c.size
      unfold MAC_CMD_SIZE at this ⊢
      rw [List.length_cons, List.length_tail]
      omega }

/-- `len = 0; buf[0] = 0` -/
def clear (c : MacSlot) : MacSlot := { c.setOpcode 0 with len := 0 }

/-- The command is copied into the slot. -/
def store (cmd_buf : Octets) (needs_answer : Bool) (h : cmd_buf.length < MAC_CMD_SIZE)
    (c : MacSlot) : MacSlot where
  len := cmd_buf.length
  needs_answer := needs_answer
  buf := cmd_buf ++ c.buf.drop cmd_buf.length
  size := by
    have := c.size
    rw [List.length_append, List.length_drop]
    omega

end MacSlot

/-- The members of `s_t` that make up the ring. -/
structure MacRing where
  mac_cmd_queue : Fin MAC_CMD_QUEUE_SIZE → MacSlot
  mac_cmd_queue_in_idx : Fin MAC_CMD_QUEUE_SIZE
  mac_cmd_queue_out_idx : Fin MAC_CMD_QUEUE_SIZE

namespace MacRing

/-- Cleared memory. -/
def zero : MacRing := ⟨fun _ => MacSlot.zero, ⟨0, by decide⟩, ⟨0, by decide⟩⟩

/-- The slots that the walks from `mac_cmd_queue_out_idx` to `mac_cmd_queue_in_idx` visit. -/
def waiting (r : MacRing) : List (Fin MAC_CMD_QUEUE_SIZE) :=
  places r.mac_cmd_queue_out_idx r.mac_cmd_queue_in_idx

/-- The slot that the walks start at. -/
def front (r : MacRing) : MacSlot := r.mac_cmd_queue r.mac_cmd_queue_out_idx

/-- The first slot becomes unused. -/
def pass (r : MacRing) : MacRing :=
  { r with
    mac_cmd_queue :=
      Function.update r.mac_cmd_queue r.mac_cmd_queue_out_idx (r.front.setOpcode 0xff)
    mac_cmd_queue_out_idx := next r.mac_cmd_queue_out_idx }

/-- `while (mac_cmd_queue[out_idx].buf[0] == 0)`: the loop has no other bound. -/
def reclaim : ℕ → MacRing → Option MacRing
  | 0, _ => none
  | fuel + 1, r => if r.front.opcode = 0 then reclaim fuel r.pass else some r

/-- What `put_queue_mac_cmds` does after the cleanup. -/
def enqueue (cmd_buf : Octets) (needs_answer : Bool) (r : MacRing) : MacRing :=
  let test_in_idx := next r.mac_cmd_queue_in_idx
  if h : cmd_buf.length < MAC_CMD_SIZE then
    if test_in_idx = r.mac_cmd_queue_out_idx then r
    else if r.waiting.any fun i => decide ((r.mac_cmd_queue i).len ≠ 0) &&
        decide ((r.mac_cmd_queue i).opcode = cmd_buf.headD 0) then r
    else
      { r with
        mac_cmd_queue := Function.update r.mac_cmd_queue r.mac_cmd_queue_in_idx
          ((r.mac_cmd_queue r.mac_cmd_queue_in_idx).store cmd_buf needs_answer h)
        mac_cmd_queue_in_idx := test_in_idx }
  else r

def put_queue_mac_cmds (cmd_buf : Octets) (needs_answer : Bool) (r : MacRing) : Option MacRing :=
  (reclaim (MAC_CMD_QUEUE_SIZE + 1) r).map (enqueue cmd_buf needs_answer)

/-- Whether the end of the queue moves on. -/
def enqueues (cmd_buf : Octets) (needs_answer : Bool) (r : MacRing) : Bool :=
  (r.put_queue_mac_cmds cmd_buf needs_answer).any fun r' =>
    decide (r'.mac_cmd_queue_in_idx ≠ r.mac_cmd_queue_in_idx)

/-- The walk of `clear_queued_mac_cmd`; it ends at the first slot with the command. -/
def clearFrom (cmd : UInt8) (cells : Fin MAC_CMD_QUEUE_SIZE → MacSlot) :
    List (Fin MAC_CMD_QUEUE_SIZE) → Fin MAC_CMD_QUEUE_SIZE → MacSlot
  | [] => cells
  | i :: is =>
    if (cells i).len ≠ 0 ∧ (cells i).opcode = cmd then Function.update cells i (cells i).clear
    else clearFrom cmd cells is

def clear_queued_mac_cmd (cmd : UInt8) (r : MacRing) : MacRing :=
  { r with mac_cmd_queue := clearFrom cmd r.mac_cmd_queue r.waiting }

def wipe_queued_mac_cmds (r : MacRing) : MacRing :=
  { r with
    mac_cmd_queue := r.waiting.foldl (fun cells i => Function.update cells i (cells i).clear)
      r.mac_cmd_queue }

def are_mac_cmds_queued (r : MacRing) : Bool :=
  r.waiting.any fun i => decide (0 < (r.mac_cmd_queue i).len)

/-- The walk of `get_queued_mac_cmds`: the octets in `buf`, whether an answer is needed, and the
slots. -/
def takeFrom : Octets → Bool → (Fin MAC_CMD_QUEUE_SIZE → MacSlot) →
    List (Fin MAC_CMD_QUEUE_SIZE) → Octets × Bool × (Fin MAC_CMD_QUEUE_SIZE → MacSlot)
  | buf, ret, cells, [] => (buf, ret, cells)
  | buf, ret, cells, i :: is =>
    let c := cells i
    if c.len ≠ 0 then
      if 15 < buf.length + c.len then (buf, ret, cells)
      else if c.needs_answer then takeFrom (buf ++ c.buf.take c.len) true cells is
      else takeFrom (buf ++ c.buf.take c.len) ret (Function.update cells i c.clear) is
    else takeFrom buf ret cells is

/-- The ring and the frame after `get_queued_mac_cmds`, and what it returns. -/
def get_queued_mac_cmds (A : BlockCipher) (junk NwkSEncKey : Octets) (devAddr FCnt : ℕ)
    (OptNeg : Bool) (r : MacRing) (bin : Octets) : Option (MacRing × Octets × Bool) := do
  let bin ← Octets.write bin 5 [0]
  let (buf, ret, cells) := takeFrom [] false r.mac_cmd_queue r.waiting
  let bin ← writeFOpts buf (sentFOpts A junk NwkSEncKey buf devAddr FCnt OptNeg) bin
  return ({ r with mac_cmd_queue := cells }, bin, ret && decide (buf ≠ []))

end MacRing

/-! ### The slots as a list -/

/-- What the slot holds. -/
def MacSlot.cmd (c : MacSlot) : MacCmd :=
  if c.len = 0 then .cleared else ⟨c.buf.take c.len, c.needs_answer⟩

/-- A slot between the indices: it holds a command, or it was cleared. -/
def MacSlot.Ok (c : MacSlot) : Prop := c.len < MAC_CMD_SIZE ∧ (c.len = 0 ↔ c.opcode = 0)

@[simp] theorem MacSlot.opcode_setOpcode (b : UInt8) (c : MacSlot) :
    (c.setOpcode b).opcode = b := rfl

@[simp] theorem MacSlot.opcode_clear (c : MacSlot) : c.clear.opcode = 0 := rfl

@[simp] theorem MacSlot.len_clear (c : MacSlot) : c.clear.len = 0 := rfl

theorem MacSlot.cmd_of_len {c : MacSlot} (h : c.len = 0) : c.cmd = .cleared := if_pos h

theorem MacSlot.ok_clear (c : MacSlot) : c.clear.Ok := by
  refine ⟨?_, fun _ => rfl, fun _ => rfl⟩
  show 0 < MAC_CMD_SIZE
  decide

theorem MacSlot.take_eq_nil (c : MacSlot) : c.buf.take c.len = [] ↔ c.len = 0 := by
  have := c.size
  unfold MAC_CMD_SIZE at this
  rw [← List.length_eq_zero_iff, List.length_take]
  omega

theorem MacSlot.headD_take {c : MacSlot} (h : c.len ≠ 0) :
    (c.buf.take c.len).headD 0 = c.opcode := by
  unfold MacSlot.opcode
  cases hbuf : c.buf with
  | nil => rw [List.take_nil]
  | cons b bs =>
    obtain ⟨n, hn⟩ := Nat.exists_eq_succ_of_ne_zero h
    rw [hn, List.take_succ_cons]
    rfl

theorem MacSlot.buf_cmd (c : MacSlot) : c.cmd.buf = c.buf.take c.len := by
  unfold MacSlot.cmd
  split
  · rename_i hlen
    rw [hlen]
    rfl
  · rfl

theorem MacSlot.cmd_buf_eq_nil (c : MacSlot) : c.cmd.buf = [] ↔ c.len = 0 := by
  rw [c.buf_cmd, c.take_eq_nil]

theorem MacSlot.Ok.headD_cmd {c : MacSlot} (h : c.Ok) : c.cmd.buf.headD 0 = c.opcode := by
  rw [c.buf_cmd]
  by_cases hlen : c.len = 0
  · rw [hlen, h.2.mp hlen]
    rfl
  · exact c.headD_take hlen

theorem MacSlot.Ok.isFinished {c : MacSlot} (h : c.Ok) :
    c.cmd.isFinished = decide (c.opcode = 0) := by
  rw [MacCmd.isFinished, h.headD_cmd]

theorem MacSlot.opcode_store {cmd_buf : Octets} (hcmd : cmd_buf.headD 0 ≠ 0) (needs_answer : Bool)
    (h : cmd_buf.length < MAC_CMD_SIZE) (c : MacSlot) :
    (c.store cmd_buf needs_answer h).opcode = cmd_buf.headD 0 := by
  cases cmd_buf with
  | nil => exact absurd rfl hcmd
  | cons b bs => rfl

theorem MacSlot.ok_store {cmd_buf : Octets} (hcmd : cmd_buf.headD 0 ≠ 0) (needs_answer : Bool)
    (h : cmd_buf.length < MAC_CMD_SIZE) (c : MacSlot) : (c.store cmd_buf needs_answer h).Ok := by
  refine ⟨h, ?_⟩
  rw [MacSlot.opcode_store hcmd needs_answer h c]
  constructor
  · intro hlen
    rw [List.length_eq_zero_iff.mp hlen] at hcmd
    exact absurd rfl hcmd
  · exact fun h0 => absurd h0 hcmd

theorem MacSlot.cmd_store {cmd_buf : Octets} (hcmd : cmd_buf.headD 0 ≠ 0) (needs_answer : Bool)
    (h : cmd_buf.length < MAC_CMD_SIZE) (c : MacSlot) :
    (c.store cmd_buf needs_answer h).cmd = ⟨cmd_buf, needs_answer⟩ := by
  have hlen : (c.store cmd_buf needs_answer h).len ≠ 0 := by
    intro h0
    exact hcmd ((MacSlot.opcode_store hcmd needs_answer h c).symm.trans
      ((MacSlot.ok_store hcmd needs_answer h c).2.mp h0))
  rw [MacSlot.cmd, if_neg hlen]
  unfold MacSlot.store
  rw [List.take_left']
  rfl

namespace MacRing

/-- The slots between the indices, in order. -/
def commands (r : MacRing) : List MacCmd :=
  (contents r.mac_cmd_queue r.mac_cmd_queue_out_idx r.mac_cmd_queue_in_idx).map MacSlot.cmd

/-- All slots that are not between the indices were passed. -/
def Recycled (r : MacRing) : Prop := ∀ i, i ∉ r.waiting → (r.mac_cmd_queue i).opcode = 0xff

/-- No command was ever put into the ring. -/
def Untouched (r : MacRing) : Prop :=
  r.mac_cmd_queue_in_idx = r.mac_cmd_queue_out_idx ∧ ∀ i, (r.mac_cmd_queue i).len = 0 ∧
    (r.mac_cmd_queue i).opcode = 0

structure Inv (r : MacRing) : Prop where
  ok : ∀ i ∈ r.waiting, (r.mac_cmd_queue i).Ok
  free : r.Recycled ∨ r.Untouched

/-- The slot holds a command that waits. -/
def IsLive (r : MacRing) (i : Fin MAC_CMD_QUEUE_SIZE) : Prop :=
  i ∈ r.waiting ∧ (r.mac_cmd_queue i).len ≠ 0

/-- The slots that hold a command stay, and keep it. -/
def KeepsLive (r r' : MacRing) : Prop :=
  ∀ i, r.IsLive i → r'.IsLive i ∧ r'.mac_cmd_queue i = r.mac_cmd_queue i

theorem KeepsLive.trans {r r' r'' : MacRing} (h : r.KeepsLive r') (h' : r'.KeepsLive r'') :
    r.KeepsLive r'' := by
  intro i hi
  obtain ⟨hlive, heq⟩ := h i hi
  obtain ⟨hlive', heq'⟩ := h' i hlive
  exact ⟨hlive', heq'.trans heq⟩

theorem inv_zero : zero.Inv := by
  refine ⟨?_, Or.inr ⟨rfl, fun _ => ⟨rfl, rfl⟩⟩⟩
  intro i hi
  rw [waiting, show zero.mac_cmd_queue_out_idx = zero.mac_cmd_queue_in_idx from rfl,
    places_self] at hi
  exact absurd hi List.not_mem_nil

theorem waiting_pass (r : MacRing) :
    r.pass.waiting = places (next r.mac_cmd_queue_out_idx) r.mac_cmd_queue_in_idx := rfl

theorem waiting_of_ne {r : MacRing} (h : r.mac_cmd_queue_out_idx ≠ r.mac_cmd_queue_in_idx) :
    r.waiting = r.mac_cmd_queue_out_idx :: r.pass.waiting := places_of_ne h

theorem slot_pass {r : MacRing} {i : Fin MAC_CMD_QUEUE_SIZE} (h : i ≠ r.mac_cmd_queue_out_idx) :
    r.pass.mac_cmd_queue i = r.mac_cmd_queue i := Function.update_of_ne h _ _

theorem opcode_pass (r : MacRing) :
    (r.pass.mac_cmd_queue r.mac_cmd_queue_out_idx).opcode = 0xff := by
  unfold pass
  dsimp only
  rw [Function.update_self]
  rfl

theorem out_not_mem_pass (r : MacRing) : r.mac_cmd_queue_out_idx ∉ r.pass.waiting := by
  rw [waiting_pass, mem_places]
  have hback : span (next r.mac_cmd_queue_out_idx) r.mac_cmd_queue_out_idx + 1 =
      MAC_CMD_QUEUE_SIZE := next_eq_iff_span.mp rfl
  have := span_lt (next r.mac_cmd_queue_out_idx) r.mac_cmd_queue_in_idx
  omega

theorem ne_of_mem_pass {r : MacRing} {i : Fin MAC_CMD_QUEUE_SIZE} (h : i ∈ r.pass.waiting) :
    i ≠ r.mac_cmd_queue_out_idx := by
  intro heq
  rw [heq] at h
  exact out_not_mem_pass r h

theorem commands_pass {r : MacRing} (h : r.mac_cmd_queue_out_idx ≠ r.mac_cmd_queue_in_idx) :
    r.commands = r.front.cmd :: r.pass.commands := by
  have hrest := contents_update r.mac_cmd_queue (out_not_mem_pass r) (r.front.setOpcode 0xff)
  rw [commands, contents_of_ne _ h, List.map_cons]
  exact congrArg (fun l => r.front.cmd :: l.map MacSlot.cmd) hrest.symm

theorem commands_of_eq {r : MacRing} (h : r.mac_cmd_queue_out_idx = r.mac_cmd_queue_in_idx) :
    r.commands = [] := by
  rw [commands, h, contents_self, List.map_nil]

theorem commands_eq (r : MacRing) :
    r.commands = r.waiting.map fun i => (r.mac_cmd_queue i).cmd := List.map_map

theorem reclaim_spec {fuel : ℕ} {r : MacRing} (hok : ∀ i ∈ r.waiting, (r.mac_cmd_queue i).Ok)
    (hfree : r.Recycled) (hfuel : r.waiting.length < fuel) :
    ∃ r', reclaim fuel r = some r' ∧ (∀ i ∈ r'.waiting, (r'.mac_cmd_queue i).Ok) ∧ r'.Recycled ∧
      r'.commands = r.commands.dropWhile (·.isFinished) ∧ r.KeepsLive r' := by
  induction fuel generalizing r with
  | zero => omega
  | succ fuel ih =>
    unfold reclaim
    by_cases hempty : r.mac_cmd_queue_out_idx = r.mac_cmd_queue_in_idx
    · have hpassed : r.front.opcode = 0xff := by
        apply hfree
        rw [waiting, hempty, places_self]
        exact List.not_mem_nil
      rw [hpassed, if_neg (by decide)]
      refine ⟨r, rfl, hok, hfree, ?_, fun i hi => ⟨hi, rfl⟩⟩
      rw [commands_of_eq hempty]
      rfl
    · have hfirst := waiting_of_ne hempty
      have hout : r.front.Ok := by
        apply hok
        rw [hfirst]
        exact List.mem_cons_self
      split
      · rename_i hzero
        have hok₁ : ∀ i ∈ r.pass.waiting, (r.pass.mac_cmd_queue i).Ok := by
          intro i hi
          rw [slot_pass (ne_of_mem_pass hi)]
          apply hok
          rw [hfirst]
          exact List.mem_cons_of_mem _ hi
        have hfree₁ : r.pass.Recycled := by
          intro i hi
          by_cases h : i = r.mac_cmd_queue_out_idx
          · rw [h, opcode_pass]
          · rw [slot_pass h]
            apply hfree
            rw [hfirst, List.mem_cons, not_or]
            exact ⟨h, hi⟩
        have hfuel₁ : r.pass.waiting.length < fuel := by
          rw [hfirst, List.length_cons] at hfuel
          omega
        obtain ⟨r', heq, hok', hfree', hcmds, hkeep⟩ := ih hok₁ hfree₁ hfuel₁
        refine ⟨r', heq, hok', hfree', ?_, ?_⟩
        · rw [hcmds, commands_pass hempty, List.dropWhile_cons, hout.isFinished, hzero,
            if_pos (decide_eq_true rfl)]
        · intro i hi
          have hi' : i ≠ r.mac_cmd_queue_out_idx := by
            intro h
            rw [h] at hi
            exact hi.2 (hout.2.mpr hzero)
          have hmem : i ∈ r.pass.waiting := by
            have := hi.1
            rw [hfirst, List.mem_cons] at this
            exact this.resolve_left hi'
          have hlive := hkeep i ⟨hmem, by rw [slot_pass hi']; exact hi.2⟩
          exact ⟨hlive.1, hlive.2.trans (slot_pass hi')⟩
      · rename_i hzero
        refine ⟨r, rfl, hok, hfree, ?_, fun i hi => ⟨hi, rfl⟩⟩
        rw [commands_pass hempty, List.dropWhile_cons, hout.isFinished, decide_eq_false hzero,
          if_neg Bool.false_ne_true]

/-- The first command finds cleared memory: the loop goes around once. -/
theorem reclaim_untouched {r : MacRing} (h : r.Untouched) :
    ∃ r', reclaim (MAC_CMD_QUEUE_SIZE + 1) r = some r' ∧
      (∀ i ∈ r'.waiting, (r'.mac_cmd_queue i).Ok) ∧ r'.Recycled ∧ r'.commands = [] := by
  obtain ⟨hidx, hzero⟩ := h
  have hlast : span (next r.mac_cmd_queue_out_idx) r.mac_cmd_queue_in_idx + 1 =
      MAC_CMD_QUEUE_SIZE := by
    rw [hidx]
    exact next_eq_iff_span.mp rfl
  have hok₁ : ∀ i ∈ r.pass.waiting, (r.pass.mac_cmd_queue i).Ok := by
    intro i hi
    rw [slot_pass (ne_of_mem_pass hi)]
    refine ⟨?_, fun _ => (hzero i).2, fun _ => (hzero i).1⟩
    rw [(hzero i).1]
    decide
  have hfree₁ : r.pass.Recycled := by
    intro i hi
    by_cases hout : i = r.mac_cmd_queue_out_idx
    · rw [hout, opcode_pass]
    · -- every other slot lies on the way back
      refine absurd ?_ hi
      rw [waiting_pass, mem_places]
      have hback := span_lt (next r.mac_cmd_queue_out_idx) i
      have hne : span (next r.mac_cmd_queue_out_idx) i ≠
          span (next r.mac_cmd_queue_out_idx) r.mac_cmd_queue_in_idx := by
        intro heq
        rw [hidx] at heq
        exact hout (span_inj heq)
      omega
  have hfuel : r.pass.waiting.length < MAC_CMD_QUEUE_SIZE := by
    rw [waiting_pass, places_length]
    omega
  obtain ⟨r', heq, hok', hfree', hcmds, -⟩ := reclaim_spec hok₁ hfree₁ hfuel
  refine ⟨r', ?_, hok', hfree', ?_⟩
  · have hfront : r.front.opcode = 0 := (hzero _).2
    rw [reclaim, if_pos hfront, heq]
  · have hall : ∀ c ∈ r.pass.commands, c.isFinished = true := by
      intro c hc
      rw [commands_eq] at hc
      obtain ⟨i, hi, rfl⟩ := List.mem_map.mp hc
      rw [slot_pass (ne_of_mem_pass hi), MacSlot.cmd_of_len (hzero i).1]
      rfl
    rw [hcmds, List.dropWhile_eq_nil_iff]
    exact hall

theorem reclaim_ends {r : MacRing} (h : r.Inv) :
    ∃ r', reclaim (MAC_CMD_QUEUE_SIZE + 1) r = some r' ∧
      (∀ i ∈ r'.waiting, (r'.mac_cmd_queue i).Ok) ∧ r'.Recycled ∧
      r'.commands = r.commands.dropWhile (·.isFinished) ∧ r.KeepsLive r' := by
  rcases h.free with hfree | hzero
  · apply reclaim_spec h.ok hfree
    have := span_lt r.mac_cmd_queue_out_idx r.mac_cmd_queue_in_idx
    rw [waiting, places_length]
    omega
  · obtain ⟨r', heq, hok, hfree, hcmds⟩ := reclaim_untouched hzero
    refine ⟨r', heq, hok, hfree, ?_, ?_⟩
    · rw [hcmds, commands_of_eq hzero.1.symm]
      rfl
    · intro i hi
      exact absurd (hzero.2 i).1 hi.2

theorem any_waiting {r : MacRing} (hok : ∀ i ∈ r.waiting, (r.mac_cmd_queue i).Ok) (cmd : UInt8) :
    (r.waiting.any fun i => decide ((r.mac_cmd_queue i).len ≠ 0) &&
        decide ((r.mac_cmd_queue i).opcode = cmd)) =
      r.commands.any fun c => decide (c.buf ≠ []) && decide (c.buf.headD 0 = cmd) := by
  have hslot : ∀ i ∈ r.waiting,
      (decide ((r.mac_cmd_queue i).len ≠ 0) && decide ((r.mac_cmd_queue i).opcode = cmd)) =
        (decide ((r.mac_cmd_queue i).cmd.buf ≠ []) &&
          decide ((r.mac_cmd_queue i).cmd.buf.headD 0 = cmd)) := by
    intro i hi
    simp only [(hok i hi).headD_cmd, ne_eq, MacSlot.cmd_buf_eq_nil]
  rw [commands_eq, List.any_map, Bool.eq_iff_iff, List.any_eq_true, List.any_eq_true]
  constructor
  · rintro ⟨i, hi, h⟩
    exact ⟨i, hi, (hslot i hi).symm.trans h⟩
  · rintro ⟨i, hi, h⟩
    exact ⟨i, hi, (hslot i hi).trans h⟩

theorem full_iff {r : MacRing} :
    next r.mac_cmd_queue_in_idx = r.mac_cmd_queue_out_idx ↔ 5 ≤ r.commands.length := by
  have := span_lt r.mac_cmd_queue_out_idx r.mac_cmd_queue_in_idx
  rw [next_eq_iff_span, commands, List.length_map, contents_length]
  unfold MAC_CMD_QUEUE_SIZE at *
  omega

/-- A command goes behind the others, or the ring stays as it is. -/
theorem enqueue_spec {r : MacRing} (hok : ∀ i ∈ r.waiting, (r.mac_cmd_queue i).Ok)
    (hfree : r.Recycled) {cmd_buf : Octets} (hcmd : cmd_buf.headD 0 ≠ 0) (needs_answer : Bool) :
    (∀ i ∈ (r.enqueue cmd_buf needs_answer).waiting,
        ((r.enqueue cmd_buf needs_answer).mac_cmd_queue i).Ok) ∧
      (r.enqueue cmd_buf needs_answer).Recycled ∧
      (r.enqueue cmd_buf needs_answer).commands =
        (if 8 ≤ cmd_buf.length then r.commands
        else if 5 ≤ r.commands.length then r.commands
        else if r.commands.any fun c => decide (c.buf ≠ []) &&
            decide (c.buf.headD 0 = cmd_buf.headD 0) then r.commands
        else r.commands ++ [⟨cmd_buf, needs_answer⟩]) ∧
      r.KeepsLive (r.enqueue cmd_buf needs_answer) := by
  unfold enqueue
  simp only [any_waiting hok]
  split
  · rename_i hlen
    have hlen' : ¬ 8 ≤ cmd_buf.length := Nat.not_le.mpr hlen
    rw [if_neg hlen']
    split
    · rename_i hfull
      rw [if_pos (full_iff.mp hfull)]
      exact ⟨hok, hfree, rfl, fun i hi => ⟨hi, rfl⟩⟩
    · rename_i hroom
      rw [if_neg (fun h => hroom (full_iff.mpr h))]
      split
      · exact ⟨hok, hfree, rfl, fun i hi => ⟨hi, rfl⟩⟩
      · have hin := stop_not_mem_places r.mac_cmd_queue_out_idx r.mac_cmd_queue_in_idx
        have hplaces := places_next hroom
        have hne : ∀ i ∈ r.waiting, i ≠ r.mac_cmd_queue_in_idx := by
          intro i hi heq
          rw [heq] at hi
          exact hin hi
        refine ⟨?_, ?_, ?_, ?_⟩
        · intro i hi
          simp only [waiting, hplaces, List.mem_append, List.mem_singleton] at hi
          dsimp only
          rcases hi with hi | rfl
          · rw [Function.update_of_ne (hne i hi)]
            exact hok i hi
          · rw [Function.update_self]
            exact MacSlot.ok_store hcmd needs_answer hlen _
        · intro i hi
          simp only [waiting, hplaces, List.mem_append, List.mem_singleton, not_or] at hi
          dsimp only
          rw [Function.update_of_ne hi.2]
          exact hfree i hi.1
        · simp only [commands, contents_push _ hroom, List.map_append, List.map_singleton,
            MacSlot.cmd_store hcmd needs_answer hlen]
        · intro i hi
          refine ⟨⟨?_, ?_⟩, Function.update_of_ne (hne i hi.1) _ _⟩
          · simp only [waiting, hplaces]
            exact List.mem_append_left _ hi.1
          · dsimp only
            rw [Function.update_of_ne (hne i hi.1)]
            exact hi.2
  · rename_i hlen
    have hlen' : 8 ≤ cmd_buf.length := Nat.not_lt.mp hlen
    rw [if_pos hlen']
    exact ⟨hok, hfree, rfl, fun i hi => ⟨hi, rfl⟩⟩

theorem put_spec {r : MacRing} (h : r.Inv) {cmd_buf : Octets} (hcmd : cmd_buf.headD 0 ≠ 0)
    (needs_answer : Bool) :
    ∃ r', r.put_queue_mac_cmds cmd_buf needs_answer = some r' ∧ r'.Inv ∧
      r'.commands = NetworkServer.put_queue_mac_cmds r.commands cmd_buf needs_answer ∧
      r.KeepsLive r' := by
  obtain ⟨r₁, heq, hok, hfree, hcmds, hkeep⟩ := reclaim_ends h
  obtain ⟨hok', hfree', hcmds', hkeep'⟩ := enqueue_spec hok hfree hcmd needs_answer
  refine ⟨r₁.enqueue cmd_buf needs_answer, ?_, ⟨hok', Or.inl hfree'⟩, ?_, hkeep.trans hkeep'⟩
  · rw [put_queue_mac_cmds, heq, Option.map_some]
  · rw [hcmds', hcmds]
    rfl

theorem reclaim_eq (fuel : ℕ) (r : MacRing) :
    reclaim fuel r = Loop.run (fun r => r.front.opcode = 0) pass fuel r := by
  induction fuel generalizing r with
  | zero => rfl
  | succ fuel ih => rw [reclaim, Loop.run, ih]

theorem reclaim_in {fuel : ℕ} {r r' : MacRing} (h : reclaim fuel r = some r') :
    r'.mac_cmd_queue_in_idx = r.mac_cmd_queue_in_idx := by
  rw [reclaim_eq] at h
  have hturn : ∀ r₁ : MacRing, r₁.front.opcode = 0 →
      r₁.mac_cmd_queue_in_idx = r.mac_cmd_queue_in_idx →
        r₁.pass.mac_cmd_queue_in_idx = r.mac_cmd_queue_in_idx := fun _ _ hin => hin
  exact (Loop.run_invariant hturn h rfl).1

theorem enqueue_in_ne_iff {r : MacRing} (hok : ∀ i ∈ r.waiting, (r.mac_cmd_queue i).Ok)
    (cmd_buf : Octets) (needs_answer : Bool) :
    (r.enqueue cmd_buf needs_answer).mac_cmd_queue_in_idx ≠ r.mac_cmd_queue_in_idx ↔
      cmd_buf.length < 8 ∧ r.commands.length < 5 ∧ ¬ (r.commands.any fun c =>
        decide (c.buf ≠ []) && decide (c.buf.headD 0 = cmd_buf.headD 0)) = true := by
  have hmoves : next r.mac_cmd_queue_in_idx ≠ r.mac_cmd_queue_in_idx := by
    intro h
    rw [next_eq_iff_span, span_self] at h
    exact absurd h (by decide)
  unfold enqueue
  simp only [any_waiting hok]
  split
  · rename_i hlen
    have hlen' : cmd_buf.length < 8 := hlen
    split
    · rename_i hfull
      have := full_iff.mp hfull
      exact ⟨fun h => absurd rfl h, fun h => absurd h.2.1 (Nat.not_lt.mpr this)⟩
    · rename_i hroom
      have hroom' : r.commands.length < 5 := by
        by_contra hge
        exact hroom (full_iff.mpr (Nat.not_lt.mp hge))
      split
      · rename_i hany
        exact ⟨fun h => absurd rfl h, fun h => absurd hany h.2.2⟩
      · rename_i hany
        exact ⟨fun _ => ⟨hlen', hroom', hany⟩, fun _ => hmoves⟩
  · rename_i hlen
    exact ⟨fun h => absurd rfl h, fun h => absurd h.1 hlen⟩

theorem enqueues_iff {r : MacRing} (h : r.Inv) (cmd_buf : Octets) (needs_answer : Bool) :
    r.enqueues cmd_buf needs_answer = true ↔
      cmd_buf.length < 8 ∧ (r.commands.dropWhile (·.isFinished)).length < 5 ∧
        ¬ ((r.commands.dropWhile (·.isFinished)).any fun c =>
          decide (c.buf ≠ []) && decide (c.buf.headD 0 = cmd_buf.headD 0)) = true := by
  obtain ⟨r₁, heq, hok, -, hcmds, -⟩ := reclaim_ends h
  rw [enqueues, put_queue_mac_cmds, heq, Option.map_some, Option.any_some, decide_eq_true_iff,
    ← reclaim_in heq, enqueue_in_ne_iff hok, hcmds]

/-! ### Walks that change the slots -/

/-- A walk over the slots `is` leaves the commands `cmds` in them. -/
structure Walked (cells cells' : Fin MAC_CMD_QUEUE_SIZE → MacSlot)
    (is : List (Fin MAC_CMD_QUEUE_SIZE)) (cmds : List MacCmd) : Prop where
  other : ∀ i, i ∉ is → cells' i = cells i
  ok : ∀ i ∈ is, (cells' i).Ok
  cmds : (is.map fun i => (cells' i).cmd) = cmds

theorem Walked.stop {cells : Fin MAC_CMD_QUEUE_SIZE → MacSlot}
    {is : List (Fin MAC_CMD_QUEUE_SIZE)} (hok : ∀ i ∈ is, (cells i).Ok) :
    Walked cells cells is (is.map fun i => (cells i).cmd) :=
  ⟨fun _ _ => rfl, hok, rfl⟩

theorem Walked.cons {cells cells' : Fin MAC_CMD_QUEUE_SIZE → MacSlot}
    {i : Fin MAC_CMD_QUEUE_SIZE} {is : List (Fin MAC_CMD_QUEUE_SIZE)} {cmds : List MacCmd}
    (hi : i ∉ is) {c : MacSlot} (hc : c.Ok) (h : Walked (Function.update cells i c) cells' is cmds) :
    Walked cells cells' (i :: is) (c.cmd :: cmds) := by
  have hfirst : cells' i = c := by
    rw [h.other i hi, Function.update_self]
  constructor
  · intro j hj
    rw [List.mem_cons, not_or] at hj
    rw [h.other j hj.2, Function.update_of_ne hj.1]
  · intro j hj
    rcases List.mem_cons.mp hj with rfl | hj
    · rw [hfirst]
      exact hc
    · exact h.ok j hj
  · rw [List.map_cons, hfirst, h.cmds]

theorem Walked.skip {cells cells' : Fin MAC_CMD_QUEUE_SIZE → MacSlot}
    {i : Fin MAC_CMD_QUEUE_SIZE} {is : List (Fin MAC_CMD_QUEUE_SIZE)} {cmds : List MacCmd}
    (hi : i ∉ is) (hc : (cells i).Ok) (h : Walked cells cells' is cmds) :
    Walked cells cells' (i :: is) ((cells i).cmd :: cmds) := by
  apply Walked.cons hi hc
  rw [Function.update_eq_self]
  exact h

theorem ok_update {cells : Fin MAC_CMD_QUEUE_SIZE → MacSlot}
    {is : List (Fin MAC_CMD_QUEUE_SIZE)} (hok : ∀ i ∈ is, (cells i).Ok)
    {i : Fin MAC_CMD_QUEUE_SIZE} (hi : i ∉ is) (c : MacSlot) :
    ∀ j ∈ is, (Function.update cells i c j).Ok := by
  intro j hj
  have hne : j ≠ i := by
    intro heq
    rw [heq] at hj
    exact hi hj
  rw [Function.update_of_ne hne]
  exact hok j hj

theorem cmds_update (cells : Fin MAC_CMD_QUEUE_SIZE → MacSlot)
    {is : List (Fin MAC_CMD_QUEUE_SIZE)} {i : Fin MAC_CMD_QUEUE_SIZE} (hi : i ∉ is)
    (c : MacSlot) :
    (is.map fun j => (Function.update cells i c j).cmd) = is.map fun j => (cells j).cmd := by
  have hcells := map_update_of_not_mem cells hi c
  simpa only [List.map_map, Function.comp_def] using congrArg (List.map MacSlot.cmd) hcells

theorem clearFrom_walked (cmd : UInt8) {cells : Fin MAC_CMD_QUEUE_SIZE → MacSlot}
    {is : List (Fin MAC_CMD_QUEUE_SIZE)} (hnodup : is.Nodup) (hok : ∀ i ∈ is, (cells i).Ok) :
    Walked cells (clearFrom cmd cells is) is
      (NetworkServer.clear_queued_mac_cmd cmd (is.map fun i => (cells i).cmd)) := by
  induction is with
  | nil => exact Walked.stop hok
  | cons i is ih =>
    rw [List.nodup_cons] at hnodup
    have hi := hok i List.mem_cons_self
    have his : ∀ j ∈ is, (cells j).Ok := fun j hj => hok j (List.mem_cons_of_mem _ hj)
    have hhead : ((cells i).len ≠ 0 ∧ (cells i).opcode = cmd) ↔
        ((cells i).cmd.buf ≠ [] ∧ (cells i).cmd.buf.headD 0 = cmd) := by
      rw [hi.headD_cmd, ne_eq, ne_eq, MacSlot.cmd_buf_eq_nil]
    rw [List.map_cons, NetworkServer.clear_queued_mac_cmd]
    unfold clearFrom
    by_cases h : (cells i).len ≠ 0 ∧ (cells i).opcode = cmd
    · rw [if_pos h, if_pos (hhead.mp h)]
      have hrest := Walked.stop (ok_update his hnodup.1 (cells i).clear)
      rw [cmds_update cells hnodup.1] at hrest
      exact Walked.cons hnodup.1 (MacSlot.ok_clear _) hrest
    · rw [if_neg h, if_neg (fun h' => h (hhead.mpr h'))]
      exact Walked.skip hnodup.1 hi (ih hnodup.2 his)

theorem wipe_walked {cells : Fin MAC_CMD_QUEUE_SIZE → MacSlot}
    {is : List (Fin MAC_CMD_QUEUE_SIZE)} (hnodup : is.Nodup) :
    Walked cells (is.foldl (fun cells i => Function.update cells i (cells i).clear) cells) is
      (is.map fun _ => .cleared) := by
  induction is generalizing cells with
  | nil => exact Walked.stop fun i hi => absurd hi List.not_mem_nil
  | cons i is ih =>
    rw [List.nodup_cons] at hnodup
    exact Walked.cons hnodup.1 (MacSlot.ok_clear _) (ih hnodup.2)

theorem takeFrom_walked {buf : Octets} {ret : Bool} {cells : Fin MAC_CMD_QUEUE_SIZE → MacSlot}
    {is : List (Fin MAC_CMD_QUEUE_SIZE)} (hbuf : buf.length ≤ 15) (hnodup : is.Nodup)
    (hok : ∀ i ∈ is, (cells i).Ok) :
    (takeFrom buf ret cells is).1 =
        buf ++ (takeMacCmds (15 - buf.length) (is.map fun i => (cells i).cmd)).1 ∧
      Walked cells (takeFrom buf ret cells is).2.2 is
        (takeMacCmds (15 - buf.length) (is.map fun i => (cells i).cmd)).2 := by
  induction is generalizing buf ret cells with
  | nil => exact ⟨(List.append_nil buf).symm, Walked.stop hok⟩
  | cons i is ih =>
    rw [List.nodup_cons] at hnodup
    have hi := hok i List.mem_cons_self
    have his : ∀ j ∈ is, (cells j).Ok := fun j hj => hok j (List.mem_cons_of_mem _ hj)
    have hlen : (cells i).cmd.buf.length = (cells i).len := by
      rw [MacSlot.buf_cmd, List.length_take, (cells i).size]
      have := hi.1
      omega
    rw [List.map_cons, takeMacCmds, hlen]
    unfold takeFrom
    dsimp only
    by_cases hempty : (cells i).len = 0
    · have hcleared := MacSlot.cmd_of_len hempty
      obtain ⟨hcopied, hwalked⟩ := @ih buf ret cells hbuf hnodup.2 his
      have hskip := Walked.skip hnodup.1 hi hwalked
      rw [hcleared] at hskip
      rw [if_neg (not_not.mpr hempty), hempty, if_neg (Nat.not_lt_zero _), hcleared]
      exact ⟨hcopied, hskip⟩
    · have hcmd : (cells i).cmd = ⟨(cells i).buf.take (cells i).len, (cells i).needs_answer⟩ :=
        if_neg hempty
      rw [if_pos hempty]
      by_cases hroom : 15 < buf.length + (cells i).len
      · have hroom' : 15 - buf.length < (cells i).len := by omega
        rw [if_pos hroom, if_pos hroom']
        exact ⟨(List.append_nil buf).symm, Walked.stop hok⟩
      · have hroom' : ¬ 15 - buf.length < (cells i).len := by omega
        have hlen' : (buf ++ (cells i).buf.take (cells i).len).length =
            buf.length + (cells i).len := by
          rw [List.length_append, ← MacSlot.buf_cmd, hlen]
        have hbuf' : (buf ++ (cells i).buf.take (cells i).len).length ≤ 15 := by omega
        have hleft : 15 - (buf ++ (cells i).buf.take (cells i).len).length =
            15 - buf.length - (cells i).len := by omega
        rw [if_neg hroom, if_neg hroom']
        cases hneeds : (cells i).needs_answer with
        | true =>
          obtain ⟨hcopied, hwalked⟩ := @ih _ true cells hbuf' hnodup.2 his
          rw [hleft] at hcopied hwalked
          have hkept := Walked.skip hnodup.1 hi hwalked
          rw [hcmd, hneeds] at hkept ⊢
          rw [List.append_assoc] at hcopied
          exact ⟨hcopied, hkept⟩
        | false =>
          obtain ⟨hcopied, hwalked⟩ := @ih _ ret (Function.update cells i (cells i).clear) hbuf'
            hnodup.2 (ok_update his hnodup.1 _)
          rw [hleft, cmds_update cells hnodup.1] at hcopied hwalked
          have hcleared := Walked.cons hnodup.1 (MacSlot.ok_clear _) hwalked
          rw [hcmd, hneeds]
          rw [List.append_assoc] at hcopied
          exact ⟨hcopied, hcleared⟩

theorem waiting_nodup (r : MacRing) : r.waiting.Nodup := places_nodup _ _

theorem Walked.inv {r : MacRing} (h : r.Inv) {cells : Fin MAC_CMD_QUEUE_SIZE → MacSlot}
    {cmds : List MacCmd} (hw : Walked r.mac_cmd_queue cells r.waiting cmds) :
    Inv { r with mac_cmd_queue := cells } ∧
      commands { r with mac_cmd_queue := cells } = cmds := by
  refine ⟨⟨hw.ok, ?_⟩, (commands_eq _).trans hw.cmds⟩
  rcases h.free with hfree | ⟨hidx, hzero⟩
  · refine Or.inl fun i hi => ?_
    show (cells i).opcode = 0xff
    rw [hw.other i hi]
    exact hfree i hi
  · refine Or.inr ⟨hidx, fun i => ?_⟩
    have hi : i ∉ r.waiting := by
      rw [waiting, hidx, places_self]
      exact List.not_mem_nil
    show (cells i).len = 0 ∧ (cells i).opcode = 0
    rw [hw.other i hi]
    exact hzero i

theorem clear_spec {r : MacRing} (h : r.Inv) (cmd : UInt8) :
    (r.clear_queued_mac_cmd cmd).Inv ∧ (r.clear_queued_mac_cmd cmd).commands =
      NetworkServer.clear_queued_mac_cmd cmd r.commands := by
  rw [commands_eq r]
  exact (clearFrom_walked cmd r.waiting_nodup h.ok).inv h

theorem wipe_spec {r : MacRing} (h : r.Inv) :
    r.wipe_queued_mac_cmds.Inv ∧
      r.wipe_queued_mac_cmds.commands = NetworkServer.wipe_queued_mac_cmds r.commands := by
  have hw := Walked.inv h (wipe_walked r.waiting_nodup)
  rw [commands_eq r, NetworkServer.wipe_queued_mac_cmds, List.map_map]
  exact hw

theorem are_mac_cmds_queued_eq (r : MacRing) :
    r.are_mac_cmds_queued = NetworkServer.are_mac_cmds_queued r.commands := by
  rw [commands_eq, NetworkServer.are_mac_cmds_queued, List.any_map]
  apply List.any_congr rfl
  intro i
  rw [Function.comp_apply, decide_eq_decide, ne_eq, MacSlot.cmd_buf_eq_nil]
  exact Nat.pos_iff_ne_zero

theorem get_spec {r : MacRing} (h : r.Inv) :
    (takeFrom [] false r.mac_cmd_queue r.waiting).1 = (takeMacCmds 15 r.commands).1 ∧
      Inv { r with mac_cmd_queue := (takeFrom [] false r.mac_cmd_queue r.waiting).2.2 } ∧
      commands { r with mac_cmd_queue := (takeFrom [] false r.mac_cmd_queue r.waiting).2.2 } =
        (takeMacCmds 15 r.commands).2 := by
  obtain ⟨hcopied, hwalked⟩ := @takeFrom_walked [] false r.mac_cmd_queue r.waiting (Nat.zero_le _)
    r.waiting_nodup h.ok
  rw [← commands_eq] at hcopied hwalked
  exact ⟨hcopied, hwalked.inv h⟩

end MacRing

end Lorawan.NetworkServer

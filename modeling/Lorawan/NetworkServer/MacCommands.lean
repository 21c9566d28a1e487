import Lorawan.NetworkServer.FrameLayout
import Lorawan.NetworkServer.MacRing

/-!
# The MAC commands that wait

The ring stands for the list of the commands that were accepted and not yet
removed, no two of them with one opcode. A cleared slot behind a command that
waits for its answer is not free: the ring has room as long as fewer than five
slots lie between the oldest command and the end.
-/

namespace Lorawan.NetworkServer
open Lorawan Lorawan.Backend Lorawan.Circular

variable (A : BlockCipher)

/-! ### Lists of commands -/

def MacCmd.opcode (c : MacCmd) : UInt8 := c.buf.headD 0

/-- Whether the slot holds a command. -/
def MacCmd.waits (c : MacCmd) : Bool := decide (c.buf ≠ [])

def liveCmds (queue : List MacCmd) : List MacCmd := queue.filter (·.waits)

/-- The octets of the commands, one behind the other. -/
def octets (cmds : List MacCmd) : Octets := cmds.flatMap (·.buf)

/-- How many commands fit into `room`. -/
def fitting : ℕ → List MacCmd → ℕ
  | _, [] => 0
  | room, c :: cs => if room < c.buf.length then 0 else fitting (room - c.buf.length) cs + 1

/-- The first `k` commands are the most that fit into `room`. -/
structure LongestPrefix (room k : ℕ) (cmds : List MacCmd) : Prop where
  le : k ≤ cmds.length
  fits : (octets (cmds.take k)).length ≤ room
  longest : ∀ j ≤ cmds.length, (octets (cmds.take j)).length ≤ room → j ≤ k

/-- The commands that wait when the first `k` were sent. -/
def afterSending (k : ℕ) (cmds : List MacCmd) : List MacCmd :=
  (cmds.take k).filter (·.needs_answer) ++ cmds.drop k

theorem fitting_longest (room : ℕ) (cmds : List MacCmd) :
    LongestPrefix room (fitting room cmds) cmds := by
  induction cmds generalizing room with
  | nil => exact ⟨Nat.le_refl _, Nat.zero_le _, fun j hj _ => hj⟩
  | cons c cs ih =>
    unfold fitting
    split
    · rename_i hroom
      refine ⟨Nat.zero_le _, Nat.zero_le _, ?_⟩
      intro j _ hfits
      cases j with
      | zero => exact Nat.le_refl 0
      | succ j =>
        rw [List.take_succ_cons, octets, List.flatMap_cons, List.length_append] at hfits
        omega
    · rename_i hroom
      obtain ⟨hle, hfits, hlongest⟩ := ih (room - c.buf.length)
      refine ⟨by rw [List.length_cons]; omega, ?_, ?_⟩
      · rw [List.take_succ_cons, octets, List.flatMap_cons, List.length_append, ← octets]
        omega
      · intro j hj hfits'
        cases j with
        | zero => exact Nat.zero_le _
        | succ j =>
          rw [List.take_succ_cons, octets, List.flatMap_cons, List.length_append, ← octets]
            at hfits'
          rw [List.length_cons] at hj
          have := hlongest j (by omega) (by omega)
          omega

theorem liveCmds_cons (c : MacCmd) (cs : List MacCmd) :
    liveCmds (c :: cs) = if c.buf = [] then liveCmds cs else c :: liveCmds cs := by
  rw [liveCmds, List.filter_cons, MacCmd.waits]
  by_cases h : c.buf = []
  · rw [if_pos h, decide_eq_false (not_not.mpr h), if_neg Bool.false_ne_true, liveCmds]
  · rw [if_neg h, decide_eq_true h, if_pos rfl, liveCmds]

@[simp] theorem liveCmds_cleared (cs : List MacCmd) : liveCmds (.cleared :: cs) = liveCmds cs := rfl

theorem liveCmds_take (room : ℕ) (queue : List MacCmd) :
    (takeMacCmds room queue).1 = octets ((liveCmds queue).take (fitting room (liveCmds queue))) ∧
      liveCmds (takeMacCmds room queue).2 =
        afterSending (fitting room (liveCmds queue)) (liveCmds queue) := by
  induction queue generalizing room with
  | nil => exact ⟨rfl, rfl⟩
  | cons c cs ih =>
    rw [liveCmds_cons, takeMacCmds]
    by_cases hempty : c.buf = []
    · obtain ⟨hcopied, hrest⟩ := ih room
      rw [if_pos hempty, hempty, List.length_nil, if_neg (Nat.not_lt_zero _), Nat.sub_zero]
      refine ⟨hcopied, ?_⟩
      have hskip : (if c.needs_answer then c else .cleared).buf = [] := by
        split
        · exact hempty
        · rfl
      rw [liveCmds_cons, if_pos hskip, hrest]
    · rw [if_neg hempty]
      unfold fitting
      by_cases hroom : room < c.buf.length
      · rw [if_pos hroom, if_pos hroom]
        refine ⟨rfl, ?_⟩
        rw [liveCmds_cons, if_neg hempty]
        rfl
      · obtain ⟨hcopied, hrest⟩ := ih (room - c.buf.length)
        rw [if_neg hroom, if_neg hroom]
        constructor
        · rw [List.take_succ_cons, octets, List.flatMap_cons, ← octets, ← hcopied]
        · rw [afterSending, List.take_succ_cons, List.drop_succ_cons, List.filter_cons]
          cases c.needs_answer with
          | true => rw [if_pos rfl, if_pos rfl, liveCmds_cons, if_neg hempty, hrest,
              List.cons_append, afterSending]
          | false => rw [if_neg Bool.false_ne_true, if_neg Bool.false_ne_true, liveCmds_cleared,
              hrest, afterSending]

theorem liveCmds_clear (cmd : UInt8) (queue : List MacCmd) :
    liveCmds (clear_queued_mac_cmd cmd queue) =
      (liveCmds queue).eraseP fun c => decide (c.opcode = cmd) := by
  induction queue with
  | nil => rfl
  | cons c cs ih =>
    unfold clear_queued_mac_cmd
    rw [liveCmds_cons]
    by_cases hempty : c.buf = []
    · rw [if_neg (fun h => h.1 hempty), if_pos hempty, liveCmds_cons, if_pos hempty, ih]
    · rw [if_neg hempty, List.eraseP_cons]
      by_cases hop : c.buf.headD 0 = cmd
      · rw [if_pos ⟨hempty, hop⟩, liveCmds_cleared, MacCmd.opcode, decide_eq_true hop, cond_true]
      · rw [if_neg (fun h => hop h.2), liveCmds_cons, if_neg hempty, ih, MacCmd.opcode,
          decide_eq_false hop, cond_false]

theorem liveCmds_wipe (queue : List MacCmd) : liveCmds (wipe_queued_mac_cmds queue) = [] := by
  rw [liveCmds, List.filter_eq_nil_iff]
  intro c hc
  obtain ⟨_, -, rfl⟩ := List.mem_map.mp hc
  decide

theorem are_mac_cmds_queued_iff (queue : List MacCmd) :
    are_mac_cmds_queued queue = decide (liveCmds queue ≠ []) := by
  rw [Bool.eq_iff_iff, are_mac_cmds_queued, List.any_eq_true, decide_eq_true_iff, ne_eq, liveCmds,
    List.filter_eq_nil_iff, not_forall]
  constructor
  · rintro ⟨c, hc, hwaits⟩
    exact ⟨c, fun h => h hc hwaits⟩
  · rintro ⟨c, h⟩
    rw [Classical.not_imp, not_not] at h
    exact ⟨c, h⟩

theorem liveCmds_dropWhile {queue : List MacCmd} (h : ∀ c ∈ queue, c.waits = !c.isFinished) :
    liveCmds (queue.dropWhile (·.isFinished)) = liveCmds queue := by
  induction queue with
  | nil => rfl
  | cons c cs ih =>
    have hc := h c List.mem_cons_self
    rw [List.dropWhile_cons]
    cases hfin : c.isFinished with
    | true =>
      rw [if_pos rfl, ih fun d hd => h d (List.mem_cons_of_mem _ hd)]
      rw [hfin] at hc
      rw [liveCmds, liveCmds, List.filter_cons, hc]
      rfl
    | false => rw [if_neg Bool.false_ne_true]

/-- Whether `put_queue_mac_cmds` puts the command into the queue. -/
def Admits (queue : List MacCmd) (cmd_buf : Octets) : Prop :=
  cmd_buf.length < 8 ∧ (queue.dropWhile (·.isFinished)).length < 5 ∧
    ∀ c ∈ liveCmds queue, c.opcode ≠ cmd_buf.headD 0

theorem liveCmds_append (cs ds : List MacCmd) :
    liveCmds (cs ++ ds) = liveCmds cs ++ liveCmds ds := List.filter_append ..

theorem any_opcode_iff (queue : List MacCmd) (cmd : UInt8) :
    (queue.any fun c => decide (c.buf ≠ []) && decide (c.buf.headD 0 = cmd)) = true ↔
      ∃ c ∈ liveCmds queue, c.opcode = cmd := by
  rw [List.any_eq_true]
  constructor
  · rintro ⟨c, hc, h⟩
    rw [Bool.and_eq_true, decide_eq_true_iff, decide_eq_true_iff] at h
    exact ⟨c, List.mem_filter.mpr ⟨hc, decide_eq_true h.1⟩, h.2⟩
  · rintro ⟨c, hc, h⟩
    obtain ⟨hmem, hwaits⟩ := List.mem_filter.mp hc
    refine ⟨c, hmem, ?_⟩
    rw [Bool.and_eq_true, decide_eq_true_iff, decide_eq_true_iff]
    exact ⟨of_decide_eq_true hwaits, h⟩

theorem put_of_admits {queue : List MacCmd} (hq : ∀ c ∈ queue, c.waits = !c.isFinished)
    {cmd_buf : Octets} (needs_answer : Bool) (h : Admits queue cmd_buf) :
    put_queue_mac_cmds queue cmd_buf needs_answer =
      queue.dropWhile (·.isFinished) ++ [⟨cmd_buf, needs_answer⟩] := by
  obtain ⟨hlen, hroom, hnew⟩ := h
  have hany : ¬ ((queue.dropWhile (·.isFinished)).any fun c =>
      decide (c.buf ≠ []) && decide (c.buf.headD 0 = cmd_buf.headD 0)) = true := by
    rw [any_opcode_iff, liveCmds_dropWhile hq]
    rintro ⟨c, hc, hop⟩
    exact hnew c hc hop
  unfold put_queue_mac_cmds
  dsimp only
  rw [if_neg (by omega), if_neg (by omega), if_neg hany]

theorem put_of_not_admits {queue : List MacCmd} (hq : ∀ c ∈ queue, c.waits = !c.isFinished)
    {cmd_buf : Octets} (needs_answer : Bool) (h : ¬ Admits queue cmd_buf) :
    put_queue_mac_cmds queue cmd_buf needs_answer = queue.dropWhile (·.isFinished) := by
  unfold put_queue_mac_cmds
  dsimp only
  split
  · rfl
  · rename_i hlen
    split
    · rfl
    · rename_i hroom
      have hany : ((queue.dropWhile (·.isFinished)).any fun c =>
          decide (c.buf ≠ []) && decide (c.buf.headD 0 = cmd_buf.headD 0)) = true := by
        rw [any_opcode_iff, liveCmds_dropWhile hq]
        by_contra hnone
        refine h ⟨by omega, by omega, ?_⟩
        intro c hc hop
        exact hnone ⟨c, hc, hop⟩
      rw [if_pos hany]

/-! ### Runs of the ring -/

/-- What `get_queued_mac_cmds` is called with, and the memory behind `buf`. -/
structure GetEnv where
  junk : Octets
  NwkSEncKey : Octets
  devAddr : ℕ
  FCnt : ℕ
  OptNeg : Bool
  PHYPayloadBin : Octets
  size : PHYPayloadBin.length = 256

inductive RingOp
  | put (cmd_buf : Octets) (needs_answer : Bool)
  | clear (cmd : UInt8)
  | wipe
  | query
  | get (env : GetEnv)

/-- No command has the opcode 0. -/
def RingOp.HasOpcode : RingOp → Prop
  | .put cmd_buf _ => cmd_buf.headD 0 ≠ 0
  | _ => True

def MacRing.get (env : GetEnv) (r : MacRing) : Option (MacRing × Octets × Bool) :=
  r.get_queued_mac_cmds A env.junk env.NwkSEncKey env.devAddr env.FCnt env.OptNeg env.PHYPayloadBin

def MacRing.step (r : MacRing) : RingOp → Option MacRing
  | .put cmd_buf needs_answer => r.put_queue_mac_cmds cmd_buf needs_answer
  | .clear cmd => some (r.clear_queued_mac_cmd cmd)
  | .wipe => some r.wipe_queued_mac_cmds
  | .query => some r
  | .get env => (r.get A env).map (·.1)

/-- What the list of the commands that wait becomes. -/
def remaining (r : MacRing) (cmds : List MacCmd) : RingOp → List MacCmd
  | .put cmd_buf needs_answer =>
    if r.enqueues cmd_buf needs_answer then cmds ++ [⟨cmd_buf, needs_answer⟩] else cmds
  | .clear cmd => cmds.eraseP fun c => decide (c.opcode = cmd)
  | .wipe => []
  | .query => cmds
  | .get _ => afterSending (fitting 15 cmds) cmds

/-- The ring, none when a call did not return, and the commands that were accepted and not yet
removed. -/
structure QueueRun where
  ring : Option MacRing
  cmds : List MacCmd

def QueueRun.start : QueueRun := ⟨some MacRing.zero, []⟩

def QueueRun.step (s : QueueRun) (op : RingOp) : QueueRun :=
  match s.ring with
  | none => s
  | some r => ⟨r.step A op, remaining r s.cmds op⟩

/-- The slots between the indices that hold a command, in order. -/
def MacRing.live (r : MacRing) : List MacCmd := liveCmds r.commands

/-- FOpts as the device reads it from the frame. -/
def readFOpts (env : GetEnv) (bin : Octets) : Octets :=
  if env.OptNeg then
    Octets.xor (A.encrypt env.NwkSEncKey (encryptBlock 0 env.devAddr false env.FCnt))
      (Octets.slice bin 8 (FOptsLen bin))
  else Octets.slice bin 8 (FOptsLen bin)

/-- The ring stands for the list `cmds`. -/
structure Refines (r : MacRing) (cmds : List MacCmd) : Prop where
  live : r.live = cmds
  distinct : (cmds.map (·.opcode)).Nodup
  queued : r.are_mac_cmds_queued = decide (cmds ≠ [])
  /-- The cleanup ends, and no command is lost in it or overwritten. -/
  puts : ∀ cmd_buf needs_answer, cmd_buf.headD 0 ≠ 0 →
    ∃ r', r.put_queue_mac_cmds cmd_buf needs_answer = some r' ∧ r.KeepsLive r'
  copies : ∀ env, ∃ r' bin ret k, r.get A env = some (r', bin, ret) ∧ LongestPrefix 15 k cmds ∧
    readFOpts A env bin = octets (cmds.take k) ∧ r'.live = afterSending k cmds

/-- The link to the list of slots. -/
structure RingInv (r : MacRing) (cmds : List MacCmd) : Prop where
  inv : r.Inv
  live : r.live = cmds
  distinct : (cmds.map (·.opcode)).Nodup

theorem waits_of_inv {r : MacRing} (h : r.Inv) : ∀ c ∈ r.commands, c.waits = !c.isFinished := by
  intro c hc
  rw [MacRing.commands_eq] at hc
  obtain ⟨i, hi, rfl⟩ := List.mem_map.mp hc
  have hok := h.ok i hi
  have hwaits : (r.mac_cmd_queue i).cmd.buf ≠ [] ↔ ¬ (r.mac_cmd_queue i).opcode = 0 := by
    rw [ne_eq, MacSlot.cmd_buf_eq_nil, hok.2]
  rw [hok.isFinished, MacCmd.waits, decide_eq_decide.mpr hwaits, decide_not]

theorem enqueues_iff_admits {r : MacRing} (h : r.Inv) (cmd_buf : Octets) (needs_answer : Bool) :
    r.enqueues cmd_buf needs_answer = true ↔ Admits r.commands cmd_buf := by
  rw [MacRing.enqueues_iff h, any_opcode_iff, liveCmds_dropWhile (waits_of_inv h), Admits]
  refine and_congr_right fun _ => and_congr_right fun _ => ?_
  rw [not_exists]
  exact forall_congr' fun c => not_and

theorem get_eq_map {r : MacRing} (h : r.Inv) (env : GetEnv) {s : S}
    (hqueue : s.mac_cmd_queue = r.commands) (hbin : s.PHYPayloadBin = env.PHYPayloadBin) :
    (r.get A env).map (fun p => (p.1.commands, p.2.1)) =
      (get_queued_mac_cmds A env.junk env.NwkSEncKey env.devAddr env.FCnt env.OptNeg s).map
        fun s' => (s'.mac_cmd_queue, s'.PHYPayloadBin) := by
  obtain ⟨hcopied, -, hcmds⟩ := MacRing.get_spec h
  unfold MacRing.get MacRing.get_queued_mac_cmds get_queued_mac_cmds
  rw [hbin, hqueue]
  cases Octets.write env.PHYPayloadBin 5 [0] with
  | none => rfl
  | some bin =>
    simp only [bind, Option.bind_some, hcopied]
    cases writeFOpts (takeMacCmds 15 r.commands).1 (sentFOpts A env.junk env.NwkSEncKey
        (takeMacCmds 15 r.commands).1 env.devAddr env.FCnt env.OptNeg) bin with
    | none => rfl
    | some bin => simp only [Option.bind_some, pure, Option.map_some, hcmds]

theorem ring_of_get {r r' : MacRing} {env : GetEnv} {bin : Octets} {ret : Bool}
    (h : r.get A env = some (r', bin, ret)) :
    r' = { r with
      mac_cmd_queue := (MacRing.takeFrom [] false r.mac_cmd_queue r.waiting).2.2 } := by
  unfold MacRing.get MacRing.get_queued_mac_cmds at h
  simp only [bind, Option.bind_eq_some_iff, pure] at h
  obtain ⟨_, _, _, _, hpair⟩ := h
  exact (congrArg Prod.fst (Option.some.inj hpair)).symm

theorem readFOpts_eq (env : GetEnv) {bin fopts : Octets} (hlen : fopts.length ≤ 15)
    (hFOptsLen : FOptsLen bin = fopts.length)
    (hslice : Octets.slice bin 8 fopts.length =
      (sentFOpts A env.junk env.NwkSEncKey fopts env.devAddr env.FCnt env.OptNeg).take
        fopts.length) :
    readFOpts A env bin = fopts := by
  rw [readFOpts, hFOptsLen, hslice, sentFOpts_take A _ _ _ _ _ hlen]
  cases env.OptNeg with
  | true =>
    have hE := A.encrypt_length env.NwkSEncKey _ (encryptBlock_length 0 env.devAddr false env.FCnt)
    rw [if_pos rfl, if_pos rfl, Octets.xor_xor_cancel _ _ (by omega)]
  | false => rw [if_neg Bool.false_ne_true, if_neg Bool.false_ne_true]

theorem get_eq {r : MacRing} (h : r.Inv) (env : GetEnv) :
    ∃ r' bin ret, r.get A env = some (r', bin, ret) ∧ r'.Inv ∧
      r'.commands = (takeMacCmds 15 r.commands).2 ∧
      readFOpts A env bin = (takeMacCmds 15 r.commands).1 := by
  have hmap := get_eq_map A h env (s := { S.zero with
    mac_cmd_queue := r.commands
    PHYPayloadBin := env.PHYPayloadBin }) rfl rfl
  obtain ⟨s', hs'⟩ := get_queued_mac_cmds_isSome A env.junk env.NwkSEncKey env.devAddr env.FCnt
    env.OptNeg (s := { S.zero with
      mac_cmd_queue := r.commands
      PHYPayloadBin := env.PHYPayloadBin }) env.size
  obtain ⟨-, -, hFOptsLen, -, hslice⟩ := get_queued_mac_cmds_some A hs'
  rw [hs', Option.map_some, Option.map_eq_some_iff] at hmap
  obtain ⟨⟨r', bin, ret⟩, heq, hpair⟩ := hmap
  obtain ⟨-, rfl⟩ := Prod.mk.inj hpair
  obtain ⟨-, hinv, hcmds⟩ := MacRing.get_spec h
  refine ⟨r', _, ret, heq, ?_, ?_, ?_⟩
  · rw [ring_of_get A heq]
    exact hinv
  · rw [ring_of_get A heq]
    exact hcmds
  · exact readFOpts_eq A env (takeMacCmds_length 15 _) (FOptsLen_of_taken hFOptsLen) hslice

theorem ringInv_step {r : MacRing} {cmds : List MacCmd} (h : RingInv r cmds) {op : RingOp}
    (hop : op.HasOpcode) :
    ∃ r', r.step A op = some r' ∧ RingInv r' (remaining r cmds op) := by
  obtain ⟨hinv, rfl, hdistinct⟩ := h
  cases op with
  | put cmd_buf needs_answer =>
    obtain ⟨r', heq, hinv', hcmds, -⟩ := MacRing.put_spec hinv hop needs_answer
    have hwaits := waits_of_inv hinv
    refine ⟨r', heq, ?_⟩
    simp only [remaining]
    by_cases hadmits : Admits r.commands cmd_buf
    · have hnonempty : (⟨cmd_buf, needs_answer⟩ : MacCmd).buf ≠ [] := by
        rintro rfl
        exact hop rfl
      rw [if_pos ((enqueues_iff_admits hinv cmd_buf needs_answer).mpr hadmits)]
      refine ⟨hinv', ?_, ?_⟩
      · rw [MacRing.live, hcmds, put_of_admits hwaits needs_answer hadmits, liveCmds_append,
          liveCmds_dropWhile hwaits, liveCmds_cons, if_neg hnonempty]
        rfl
      · rw [List.map_append, List.map_singleton, List.nodup_append]
        refine ⟨hdistinct, List.nodup_singleton _, ?_⟩
        intro a ha b hb heq'
        obtain ⟨c, hc, rfl⟩ := List.mem_map.mp ha
        rw [List.mem_singleton] at hb
        exact hadmits.2.2 c hc (heq'.trans hb)
    · have hrefuses : ¬ r.enqueues cmd_buf needs_answer = true :=
        fun h => hadmits ((enqueues_iff_admits hinv cmd_buf needs_answer).mp h)
      rw [if_neg hrefuses]
      refine ⟨hinv', ?_, hdistinct⟩
      rw [MacRing.live, hcmds, put_of_not_admits hwaits needs_answer hadmits,
        liveCmds_dropWhile hwaits]
      rfl
  | clear cmd =>
    obtain ⟨hinv', hcmds⟩ := MacRing.clear_spec hinv cmd
    refine ⟨_, rfl, hinv', ?_, ?_⟩
    · rw [MacRing.live, hcmds, liveCmds_clear]
      rfl
    · exact List.Nodup.sublist (List.Sublist.map _ List.eraseP_sublist) hdistinct
  | wipe =>
    obtain ⟨hinv', hcmds⟩ := MacRing.wipe_spec hinv
    refine ⟨_, rfl, hinv', ?_, List.nodup_nil⟩
    rw [MacRing.live, hcmds, liveCmds_wipe]
    rfl
  | query => exact ⟨r, rfl, hinv, rfl, hdistinct⟩
  | get env =>
    obtain ⟨r', bin, ret, heq, hinv', hcmds, -⟩ := get_eq A hinv env
    refine ⟨r', by rw [MacRing.step, heq]; rfl, hinv', ?_, ?_⟩
    · rw [MacRing.live, hcmds, (liveCmds_take 15 r.commands).2]
      rfl
    · apply List.Nodup.sublist (List.Sublist.map _ ?_) hdistinct
      have hsub := List.Sublist.append (List.filter_sublist (p := fun c : MacCmd => c.needs_answer)
        (l := r.live.take (fitting 15 r.live))) (List.Sublist.refl (r.live.drop (fitting 15 r.live)))
      rw [List.take_append_drop] at hsub
      exact hsub

theorem refines_of_inv {r : MacRing} {cmds : List MacCmd} (h : RingInv r cmds) :
    Refines A r cmds := by
  obtain ⟨hinv, rfl, hdistinct⟩ := h
  constructor
  · rfl
  · exact hdistinct
  · rw [MacRing.are_mac_cmds_queued_eq, are_mac_cmds_queued_iff]
    rfl
  · intro cmd_buf needs_answer hcmd
    obtain ⟨r', heq, -, -, hkeep⟩ := MacRing.put_spec hinv hcmd needs_answer
    exact ⟨r', heq, hkeep⟩
  · intro env
    obtain ⟨r', bin, ret, heq, -, hcmds, hFOpts⟩ := get_eq A hinv env
    obtain ⟨hcopied, hlive⟩ := liveCmds_take 15 r.commands
    refine ⟨r', bin, ret, fitting 15 r.live, heq, fitting_longest 15 _, ?_, ?_⟩
    · rw [hFOpts, hcopied]
      rfl
    · rw [MacRing.live, hcmds, hlive]
      rfl

theorem ringInv_start : RingInv MacRing.zero [] :=
  ⟨MacRing.inv_zero, rfl, List.nodup_nil⟩

theorem ringInv_run (ops : List RingOp) (h : ∀ op ∈ ops, op.HasOpcode) :
    ∃ r, (Machine.run (QueueRun.step A) QueueRun.start ops).ring = some r ∧
      RingInv r (Machine.run (QueueRun.step A) QueueRun.start ops).cmds := by
  have hrun : ∀ s : QueueRun, (∃ r, s.ring = some r ∧ RingInv r s.cmds) →
      ∃ r, (Machine.run (QueueRun.step A) s ops).ring = some r ∧
        RingInv r (Machine.run (QueueRun.step A) s ops).cmds := by
    induction ops with
    | nil => exact fun _ hs => hs
    | cons op ops ih =>
      rintro ⟨ring, cmds⟩ ⟨r, rfl, hr⟩
      obtain ⟨r', heq, hr'⟩ := ringInv_step A hr (h op List.mem_cons_self)
      exact ih (fun o ho => h o (List.mem_cons_of_mem _ ho)) _ ⟨r', heq, hr'⟩
  exact hrun QueueRun.start ⟨MacRing.zero, rfl, ringInv_start⟩

/-- Over every run the ring is the list of the commands that were accepted and not yet removed. -/
theorem ring_refines_list (ops : List RingOp) (h : ∀ op ∈ ops, op.HasOpcode) :
    ∃ r, (Machine.run (QueueRun.step A) QueueRun.start ops).ring = some r ∧
      Refines A r (Machine.run (QueueRun.step A) QueueRun.start ops).cmds := by
  obtain ⟨r, heq, hr⟩ := ringInv_run A ops h
  exact ⟨r, heq, refines_of_inv A hr⟩

instance (op : RingOp) : Decidable op.HasOpcode :=
  match op with
  | .put .. => inferInstanceAs (Decidable (_ ≠ _))
  | .clear _ | .wipe | .query | .get _ => .isTrue trivial

def sampleGet : GetEnv :=
  ⟨[], List.replicate 16 1, 0x01020304, 7, true, List.replicate 256 0, List.length_replicate⟩

/-- A LinkADRReq and four commands without an answer, sent in one frame. -/
def sampleOps : List RingOp :=
  [.put [0x03, 0x50, 7, 0, 1] true, .put [0x10] false, .put [0x01, 1] false, .put [0x0b, 1] false,
    .put [0x20, 0] false, .get sampleGet]

theorem sample_refines :
    ∃ r, (Machine.run (QueueRun.step BlockCipher.xorKey) QueueRun.start sampleOps).ring = some r ∧
      Refines BlockCipher.xorKey r
        (Machine.run (QueueRun.step BlockCipher.xorKey) QueueRun.start sampleOps).cmds :=
  ring_refines_list BlockCipher.xorKey sampleOps (by decide)

/-! ### Room -/

/-- The slots from the oldest command that waits up to the end. -/
def MacRing.occupied (r : MacRing) : ℕ := (r.commands.dropWhile (·.isFinished)).length

/-- A command finds room exactly when fewer than five slots are occupied. -/
theorem put_enqueues_iff (ops : List RingOp) (h : ∀ op ∈ ops, op.HasOpcode) :
    ∃ r, (Machine.run (QueueRun.step A) QueueRun.start ops).ring = some r ∧
      ∀ cmd_buf needs_answer, cmd_buf.length < MAC_CMD_SIZE →
        (∀ c ∈ r.live, c.opcode ≠ cmd_buf.headD 0) →
        (r.enqueues cmd_buf needs_answer = true ↔ r.occupied < MAC_CMD_QUEUE_SIZE - 1) := by
  obtain ⟨r, heq, hr⟩ := ringInv_run A ops h
  refine ⟨r, heq, ?_⟩
  intro cmd_buf needs_answer hlen hnew
  rw [enqueues_iff_admits hr.inv]
  constructor
  · exact fun hadmits => hadmits.2.1
  · exact fun hroom => ⟨hlen, hroom, hnew⟩

theorem sample_enqueues_iff :
    ∃ r, (Machine.run (QueueRun.step BlockCipher.xorKey) QueueRun.start sampleOps).ring = some r ∧
      ∀ cmd_buf needs_answer, cmd_buf.length < MAC_CMD_SIZE →
        (∀ c ∈ r.live, c.opcode ≠ cmd_buf.headD 0) →
        (r.enqueues cmd_buf needs_answer = true ↔ r.occupied < MAC_CMD_QUEUE_SIZE - 1) :=
  put_enqueues_iff BlockCipher.xorKey sampleOps (by decide)

/-- Only the LinkADRReq still waits, and the ring takes no LinkCheckAns. -/
theorem one_command_fills_ring :
    ∃ r, (Machine.run (QueueRun.step BlockCipher.xorKey) QueueRun.start sampleOps).ring = some r ∧
      r.live.length = 1 ∧ (∀ c ∈ r.live, c.opcode ≠ 0x02) ∧
      r.enqueues [0x02, 20, 1] false = false := by
  have h : ((Machine.run (QueueRun.step BlockCipher.xorKey) QueueRun.start sampleOps).ring.any
      fun r => decide (r.live.length = 1 ∧ (∀ c ∈ r.live, c.opcode ≠ 0x02) ∧
        r.enqueues [0x02, 20, 1] false = false)) = true := by
    decide +kernel
  cases heq : (Machine.run (QueueRun.step BlockCipher.xorKey) QueueRun.start sampleOps).ring with
  | none =>
    rw [heq] at h
    exact absurd h Bool.false_ne_true
  | some r =>
    rw [heq] at h
    exact ⟨r, rfl, of_decide_eq_true h⟩

end Lorawan.NetworkServer

import Lorawan.NetworkServer.MacParser

/-!
# Commands at the start of a session (network_server/band_arib8ch.c:140-186)

While a session of the region AS923 in Japan starts, the octets that `parse_mac_command` has
handled are handed to `arib_parse_start_mac_cmd`. It knows two opcodes and steps over every
other octet, so it finds the commands where it comes to their opcodes.
-/

namespace Lorawan.NetworkServer
open Lorawan

/-! ### The callback -/

/-- The walk of `arib_parse_start_mac_cmd`, and the commands it reacted to. -/
structure AribWalk where
  idx : UInt8
  reactions : List (UInt8 × MoteCmd)
  s : MacState

/-- `ch = 2; freq = (channelsMHz[ch] * 1000000) / 100` -/
def channel2 : ℕ := 9220000

/-- `case MOTE_MAC_RX_PARAM_SETUP_ANS` -/
def onRxParamSetupAns (s : MacState) : MacState :=
  let s := s.put .NEW_CHANNEL_REQ
    [2, UInt8.ofNat (channel2 &&& 0xff), UInt8.ofNat ((channel2 >>> 8) &&& 0xff),
      UInt8.ofNat ((channel2 >>> 16) &&& 0xff), 0x53] true
  { s with ChMask := s.ChMask.modifyHead (· ||| 0x0004), force_adr := true }

/-- `case MOTE_MAC_NEW_CHANNEL_ANS` -/
def onNewChannelAns (s : MacState) : MacState :=
  { s with
    ChMask := s.ChMask.modifyHead (· &&& ~~~0x0003)
    force_adr := true
    send_start_mac_cmds := false }

variable (buf : Buffer) (buf_len : UInt8)

/-- One turn. -/
def AribWalk.turn (a : AribWalk) : AribWalk :=
  if buf a.idx.toNat = 0x05 then
    { idx := a.idx + 1 + 1
      reactions := a.reactions ++ [(a.idx, .RX_PARAM_SETUP_ANS)]
      s := onRxParamSetupAns a.s }
  else if buf a.idx.toNat = 0x07 then
    { idx := a.idx + 1 + 1
      reactions := a.reactions ++ [(a.idx, .NEW_CHANNEL_ANS)]
      s := onNewChannelAns a.s }
  else { a with idx := a.idx + 1 }

/-- `for (idx = 0; idx < buf_len; )` -/
def AribWalk.loop : ℕ → AribWalk → Option AribWalk
  | 0, _ => none
  | fuel + 1, a => if a.idx < buf_len then loop fuel (a.turn buf) else some a

def arib_parse_start_mac_cmd (s : MacState) (fuel : ℕ) : Option AribWalk :=
  AribWalk.loop buf buf_len fuel ⟨0, [], s⟩

/-! ### Agreement -/

/-- A buffer that holds a sequence of commands. -/
structure SequenceIn where
  commands : List Command
  bytes : commands.flatMap Command.bytes = buf.slice 0 buf_len.toNat

/-- The commands that start a session. -/
def MoteCmd.isStart (cmd : MoteCmd) : Bool :=
  decide (cmd = .RX_PARAM_SETUP_ANS) || decide (cmd = .NEW_CHANNEL_ANS)

variable {buf buf_len}

/-- Both parsers return; the callback reacts to as many commands as `parse_mac_command` takes
of the two kinds, in the same order, and to no octet in another place. -/
def ParsersAgree (env : MacCmdEnv) (_ : SequenceIn buf buf_len) (s s' : MacState) : Prop :=
  ∃ w a, (∃ fuel, parse_mac_command env buf buf_len s fuel = some w) ∧
    (∃ fuel, arib_parse_start_mac_cmd buf buf_len s' fuel = some a) ∧
    a.reactions.map (·.2) = (w.taken.filter (·.cmd.isStart)).map (·.cmd) ∧
    ∀ r ∈ a.reactions, ∃ t ∈ w.taken, t.idx = r.1

/-- No octet of a payload looks like one of the two opcodes. -/
def NoMisread (cs : List Command) : Prop :=
  ∀ c ∈ cs, c.kind.isStart = false → ∀ b ∈ c.payload, b ≠ 0x05 ∧ b ≠ 0x07

instance (cs : List Command) : Decidable (NoMisread cs) :=
  inferInstanceAs (Decidable (∀ _ ∈ _, _ → ∀ _ ∈ _, _ ∧ _))

/-! ### The two loops, turn by turn -/

variable {env : MacCmdEnv} {w w' : MacWalk} {a a' : AribWalk}

def MacWalk.Returns (env : MacCmdEnv) (buf : Buffer) (buf_len : UInt8) (w w' : MacWalk) : Prop :=
  ∃ fuel, w.loop env buf buf_len fuel = some w'

def AribWalk.Returns (buf : Buffer) (buf_len : UInt8) (a a' : AribWalk) : Prop :=
  ∃ fuel, a.loop buf buf_len fuel = some a'

theorem AribWalk.loop_eq (fuel : ℕ) (a : AribWalk) :
    a.loop buf buf_len fuel =
      Loop.run (fun a => a.idx < buf_len) (fun a => a.turn buf) fuel a := by
  induction fuel generalizing a with
  | zero => rfl
  | succ fuel ih => rw [AribWalk.loop, Loop.run, ih]

theorem MacWalk.returns_turn (h : w.idx < buf_len) :
    (w.turn env buf).Returns env buf buf_len w' ↔ w.Returns env buf buf_len w' := by
  simp only [MacWalk.Returns, MacWalk.loop_eq]
  exact Loop.returns_turn h

theorem AribWalk.returns_turn (h : a.idx < buf_len) :
    (a.turn buf).Returns buf buf_len a' ↔ a.Returns buf buf_len a' := by
  simp only [AribWalk.Returns, AribWalk.loop_eq]
  exact Loop.returns_turn h

theorem returns_at_end (hw : ¬w.idx < buf_len) (ha : ¬a.idx < buf_len) :
    w.Returns env buf buf_len w ∧ a.Returns buf buf_len a := by
  simp only [MacWalk.Returns, AribWalk.Returns, MacWalk.loop_eq, AribWalk.loop_eq]
  exact ⟨Loop.returns_stop hw, Loop.returns_stop ha⟩

theorem mem_reactions_turn {r : UInt8 × MoteCmd} (h : r ∈ a.reactions) :
    r ∈ (a.turn buf).reactions := by
  unfold AribWalk.turn
  split
  · exact List.mem_append_left _ h
  · split
    · exact List.mem_append_left _ h
    · exact h

theorem AribWalk.Returns.mem_reactions (hret : a.Returns buf buf_len a') {r : UInt8 × MoteCmd}
    (h : r ∈ a.reactions) : r ∈ a'.reactions := by
  obtain ⟨fuel, hloop⟩ := hret
  rw [AribWalk.loop_eq] at hloop
  have hturn : ∀ a₁ : AribWalk, a₁.idx < buf_len → r ∈ a₁.reactions →
      r ∈ (a₁.turn buf).reactions := fun _ _ hr => mem_reactions_turn hr
  exact (Loop.run_invariant hturn hloop h).1

theorem passes {n : ℕ} (hfits : a.idx.toNat + n ≤ buf_len.toNat)
    (hclean : ∀ j < n, buf (a.idx.toNat + j) ≠ 0x05 ∧ buf (a.idx.toNat + j) ≠ 0x07) :
    ∃ a₁ : AribWalk, a₁.idx.toNat = a.idx.toNat + n ∧ a₁.reactions = a.reactions ∧
      ∀ a', a₁.Returns buf buf_len a' ↔ a.Returns buf buf_len a' := by
  have hlen : buf_len.toNat < 256 := buf_len.toNat_lt
  induction n with
  | zero => exact ⟨a, rfl, rfl, fun _ => Iff.rfl⟩
  | succ n ih =>
    obtain ⟨a₁, hidx, hreactions, hret⟩ :=
      ih (by omega) fun j hj => hclean j (Nat.lt_succ_of_lt hj)
    obtain ⟨h5, h7⟩ := hclean n (Nat.lt_succ_self n)
    rw [← hidx] at h5 h7
    have hturn : a₁.turn buf = { a₁ with idx := a₁.idx + 1 } := by
      rw [AribWalk.turn, if_neg h5, if_neg h7]
    have hlt : a₁.idx < buf_len := UInt8.lt_iff_toNat_lt.mpr (by omega)
    refine ⟨a₁.turn buf, ?_, ?_, ?_⟩
    · rw [hturn]
      show (a₁.idx + 1).toNat = _
      rw [succ_toNat (by omega)]
      omega
    · rw [hturn]
      exact hreactions
    · intro a'
      rw [AribWalk.returns_turn hlt, hret]

/-! ### One command -/

def startsOf (taken : List Taken) : List (UInt8 × MoteCmd) :=
  (taken.filter (·.cmd.isStart)).map fun t => (t.idx, t.cmd)

/-- Both parsers are at the same octet and have found the same. -/
structure Together (w : MacWalk) (a : AribWalk) : Prop where
  idx : a.idx = w.idx
  reactions : a.reactions = startsOf w.taken
  before : ∀ t ∈ w.taken, t.idx.toNat < w.idx.toNat

theorem left_of_command {c : Command} {cs : List Command} (hidx : w.idx.toNat ≤ buf_len.toNat)
    (hleft : w.left buf buf_len = (c :: cs).flatMap Command.bytes) :
    w.idx.toNat + 1 + c.payload.length ≤ buf_len.toNat ∧ buf w.idx.toNat = c.kind.opcode ∧
      buf.slice (w.idx.toNat + 1) c.payload.length = c.payload ∧
      buf.slice (w.idx.toNat + 1 + c.payload.length)
        (buf_len.toNat - (w.idx.toNat + 1 + c.payload.length)) = cs.flatMap Command.bytes := by
  have hcount := congrArg List.length hleft
  rw [List.flatMap_cons, Command.bytes, List.cons_append] at hleft hcount
  simp only [MacWalk.left, Buffer.length_slice, List.length_cons, List.length_append] at hcount
  rw [left_cons (by omega)] at hleft
  obtain ⟨hop, hrest⟩ := List.cons.inj hleft
  refine ⟨by omega, hop, ?_, ?_⟩
  · have htake := congrArg (List.take c.payload.length) hrest
    rw [Buffer.take_slice _ _ _ (by omega), List.take_left] at htake
    exact htake
  · have hdrop := congrArg (List.drop c.payload.length) hrest
    rw [Buffer.drop_slice, List.drop_left, Nat.sub_sub] at hdrop
    exact hdrop

/-- A turn of `parse_mac_command` at the start of a command. -/
structure TookCommand (env : MacCmdEnv) (buf : Buffer) (buf_len : UInt8) (w : MacWalk)
    (c : Command) (cs : List Command) : Prop where
  idx : (w.turn env buf).idx.toNat = w.idx.toNat + 1 + c.payload.length
  left : (w.turn env buf).left buf buf_len = cs.flatMap Command.bytes
  starts : startsOf (w.turn env buf).taken =
    startsOf w.taken ++ if c.kind.isStart then [(w.idx, c.kind)] else []
  at_idx : ∀ t ∈ (w.turn env buf).taken, t ∈ w.taken ∨ t.idx = w.idx

theorem tookCommand {c : Command} {cs : List Command} (hidx : w.idx.toNat ≤ buf_len.toNat)
    (hleft : w.left buf buf_len = (c :: cs).flatMap Command.bytes) :
    TookCommand env buf buf_len w c cs := by
  have hlen : buf_len.toNat < 256 := buf_len.toNat_lt
  obtain ⟨hfits, hop, hpayload, hrest⟩ := left_of_command hidx hleft
  obtain ⟨hswitch, hempty⟩ := switch_opcode c.kind
  rw [← hop] at hswitch
  by_cases hcase : c.kind.HasCase
  · rw [if_pos hcase, ← c.wellFormed] at hswitch
    have hturned := @turned_case env buf w c.kind _ hswitch (by omega)
    refine ⟨hturned.idx, ?_, ?_, hturned.at_idx⟩
    · rw [MacWalk.left, hturned.idx]
      exact hrest
    · rw [@turn_case env buf w c.kind _ hswitch (by omega), startsOf, List.filter_append,
        List.map_append]
      cases hstart : c.kind.isStart <;> simp [startsOf, hstart]
  · rw [if_neg hcase] at hswitch
    have hnil : c.payload.length = 0 := c.wellFormed.trans (hempty hcase)
    have hturned := @turned_default env buf w hswitch (by omega)
    refine ⟨by rw [hturned.idx, hnil], ?_, ?_, hturned.at_idx⟩
    · rw [MacWalk.left, hturned.idx, ← hnil]
      exact hrest
    · have hstart : c.kind.isStart = false := by
        by_contra hyes
        simp only [MoteCmd.isStart, Bool.not_eq_false, Bool.or_eq_true, decide_eq_true_eq] at hyes
        rcases hyes with h | h <;> exact hcase (by rw [h]; decide)
      rw [@turn_default env buf w hswitch, hstart]
      simp

theorem opcode_of_isStart {cmd : MoteCmd} (h : cmd.isStart = true) :
    cmd.payloadLength = 1 ∧ (cmd = .RX_PARAM_SETUP_ANS ∧ cmd.opcode = 0x05 ∨
      cmd = .NEW_CHANNEL_ANS ∧ cmd.opcode = 0x07) := by
  revert h
  cases cmd <;> decide

theorem opcode_of_not_isStart {cmd : MoteCmd} (h : cmd.isStart = false) :
    cmd.opcode ≠ 0x05 ∧ cmd.opcode ≠ 0x07 := by
  revert h
  cases cmd <;> decide

theorem octet_of_payload {c : Command} (hpayload : buf.slice (w.idx.toNat + 1) c.payload.length =
    c.payload) {j : ℕ} (hj : j < c.payload.length) :
    buf (w.idx.toNat + (j + 1)) = c.payload[j] := by
  have hget : (buf.slice (w.idx.toNat + 1) c.payload.length)[j]? = c.payload[j]? := by
    rw [hpayload]
  rw [List.getElem?_eq_getElem hj] at hget
  simp only [Buffer.slice, List.getElem?_map, List.getElem?_range hj, Option.map_some,
    Option.some.injEq] at hget
  rw [← hget]
  congr 1
  omega

theorem turn_of_isStart {c : Command} (hstart : c.kind.isStart = true)
    (hat : buf a.idx.toNat = c.kind.opcode) :
    (a.turn buf).idx = a.idx + 1 + 1 ∧
      (a.turn buf).reactions = a.reactions ++ [(a.idx, c.kind)] := by
  obtain ⟨-, ⟨hkind, hcode⟩ | ⟨hkind, hcode⟩⟩ := opcode_of_isStart hstart
  · rw [AribWalk.turn, if_pos (hat.trans hcode), hkind]
    exact ⟨rfl, rfl⟩
  · rw [AribWalk.turn, if_neg (by rw [hat, hcode]; decide), if_pos (hat.trans hcode), hkind]
    exact ⟨rfl, rfl⟩

theorem reacts_at (hat : buf a.idx.toNat = 0x05 ∨ buf a.idx.toNat = 0x07) :
    ∃ cmd, (a.idx, cmd) ∈ (a.turn buf).reactions := by
  cases hat with
  | inl h5 =>
    rw [AribWalk.turn, if_pos h5]
    exact ⟨_, List.mem_append_right _ (List.mem_singleton_self _)⟩
  | inr h7 =>
    rw [AribWalk.turn, if_neg (by rw [h7]; decide), if_pos h7]
    exact ⟨_, List.mem_append_right _ (List.mem_singleton_self _)⟩

/-- Over a command whose payload looks like neither opcode both parsers stay together. -/
theorem together_command {c : Command} {cs : List Command} (h : Together w a)
    (hidx : w.idx.toNat ≤ buf_len.toNat)
    (hleft : w.left buf buf_len = (c :: cs).flatMap Command.bytes) (hclean : NoMisread [c]) :
    ∃ a₁, Together (w.turn env buf) a₁ ∧
      ∀ a', a₁.Returns buf buf_len a' ↔ a.Returns buf buf_len a' := by
  have hlen : buf_len.toNat < 256 := buf_len.toNat_lt
  obtain ⟨hfits, hop, hpayload, hrest⟩ := left_of_command hidx hleft
  have htook : TookCommand env buf buf_len w c cs := tookCommand hidx hleft
  have hbefore : ∀ t ∈ (w.turn env buf).taken, t.idx.toNat < (w.turn env buf).idx.toNat := by
    intro t ht
    have hnext := htook.idx
    rcases htook.at_idx t ht with hold | hthis
    · have := h.before t hold
      omega
    · rw [hthis]
      omega
  cases hstart : c.kind.isStart with
  | false =>
    obtain ⟨h5, h7⟩ := opcode_of_not_isStart hstart
    have hoctets : ∀ j < 1 + c.payload.length,
        buf (a.idx.toNat + j) ≠ 0x05 ∧ buf (a.idx.toNat + j) ≠ 0x07 := by
      intro j hj
      rw [h.idx]
      cases j with
      | zero =>
        rw [Nat.add_zero, hop]
        exact ⟨h5, h7⟩
      | succ j =>
        have hj' : j < c.payload.length := by omega
        rw [octet_of_payload hpayload hj']
        exact hclean c (List.mem_singleton_self c) hstart _ (List.getElem_mem hj')
    have hfits' : a.idx.toNat + (1 + c.payload.length) ≤ buf_len.toNat := by
      rw [h.idx]
      omega
    obtain ⟨a₁, hidx₁, hreactions, hret⟩ := passes hfits' hoctets
    refine ⟨a₁, ⟨?_, ?_, hbefore⟩, hret⟩
    · apply UInt8.toNat_inj.mp
      rw [hidx₁, htook.idx, h.idx]
      omega
    · rw [hreactions, h.reactions, htook.starts, hstart]
      simp
  | true =>
    have hpayloadLen := c.wellFormed.trans (opcode_of_isStart hstart).1
    have hlt : a.idx < buf_len := by
      rw [h.idx]
      exact UInt8.lt_iff_toNat_lt.mpr (by omega)
    have hturn := turn_of_isStart hstart (show buf a.idx.toNat = _ by rw [h.idx, hop])
    refine ⟨a.turn buf, ⟨?_, ?_, hbefore⟩, fun a' => AribWalk.returns_turn hlt⟩
    · apply UInt8.toNat_inj.mp
      rw [hturn.1, htook.idx, h.idx, succ_toNat (by rw [succ_toNat (by omega)]; omega),
        succ_toNat (by omega), hpayloadLen]
    · rw [hturn.2, h.reactions, htook.starts, hstart, h.idx]
      rfl

theorem first_misread {c : Command} (hpayload : buf.slice (w.idx.toNat + 1) c.payload.length =
    c.payload) (hmisread : ¬NoMisread [c]) :
    ∃ j < c.payload.length,
      (buf (w.idx.toNat + (j + 1)) = 0x05 ∨ buf (w.idx.toNat + (j + 1)) = 0x07) ∧
        ∀ k < j, buf (w.idx.toNat + (k + 1)) ≠ 0x05 ∧ buf (w.idx.toNat + (k + 1)) ≠ 0x07 := by
  have hsome : ∃ j, j < c.payload.length ∧
      (buf (w.idx.toNat + (j + 1)) = 0x05 ∨ buf (w.idx.toNat + (j + 1)) = 0x07) := by
    by_contra hnone
    apply hmisread
    intro d hd _ b hb
    rw [List.mem_singleton.mp hd] at hb
    obtain ⟨j, hj, rfl⟩ := List.getElem_of_mem hb
    rw [← octet_of_payload hpayload hj]
    exact ⟨fun h5 => hnone ⟨j, hj, Or.inl h5⟩, fun h7 => hnone ⟨j, hj, Or.inr h7⟩⟩
  classical
  obtain ⟨hj, hat⟩ := Nat.find_spec hsome
  refine ⟨Nat.find hsome, hj, hat, ?_⟩
  intro k hk
  have hmin := Nat.find_min hsome hk
  exact ⟨fun h5 => hmin ⟨by omega, Or.inl h5⟩, fun h7 => hmin ⟨by omega, Or.inr h7⟩⟩

theorem not_isStart_of_misread {c : Command} (hmisread : ¬NoMisread [c]) :
    c.kind.isStart = false := by
  by_contra hyes
  rw [Bool.not_eq_false] at hyes
  apply hmisread
  intro d hd hno
  rw [List.mem_singleton.mp hd, hyes] at hno
  cases hno

/-- In a command whose payload looks like one of the opcodes the callback reacts to a place
where no command is. -/
theorem reacts_to_payload {c : Command} {cs : List Command} (h : Together w a)
    (hidx : w.idx.toNat ≤ buf_len.toNat)
    (hleft : w.left buf buf_len = (c :: cs).flatMap Command.bytes) (hmisread : ¬NoMisread [c])
    (ha : a.Returns buf buf_len a') :
    ∃ r ∈ a'.reactions, w.idx.toNat < r.1.toNat ∧
      r.1.toNat < w.idx.toNat + 1 + c.payload.length := by
  obtain ⟨hfits, hop, hpayload, hrest⟩ := left_of_command hidx hleft
  obtain ⟨j, hj, hat, hbefore⟩ := first_misread hpayload hmisread
  have hclean : ∀ k < 1 + j, buf (a.idx.toNat + k) ≠ 0x05 ∧ buf (a.idx.toNat + k) ≠ 0x07 := by
    intro k hk
    rw [h.idx]
    cases k with
    | zero =>
      rw [Nat.add_zero, hop]
      exact opcode_of_not_isStart (not_isStart_of_misread hmisread)
    | succ k => exact hbefore k (by omega)
  have hfits' : a.idx.toNat + (1 + j) ≤ buf_len.toNat := by
    rw [h.idx]
    omega
  obtain ⟨a₁, hidx₁, -, hret⟩ := passes hfits' hclean
  have hplace : a₁.idx.toNat = w.idx.toNat + (j + 1) := by
    rw [hidx₁, h.idx]
    omega
  rw [← hplace] at hat
  have hlt : a₁.idx < buf_len := UInt8.lt_iff_toNat_lt.mpr (by omega)
  obtain ⟨cmd, hmem⟩ := reacts_at hat
  have hend := (AribWalk.returns_turn hlt).mpr ((hret a').mpr ha)
  refine ⟨_, hend.mem_reactions hmem, ?_, ?_⟩
  · show w.idx.toNat < a₁.idx.toNat
    omega
  · show a₁.idx.toNat < _
    omega

/-! ### A sequence of commands -/

theorem noMisread_cons {c : Command} {cs : List Command} :
    NoMisread (c :: cs) ↔ NoMisread [c] ∧ NoMisread cs := by
  simp only [NoMisread, List.forall_mem_cons]
  simp

theorem together_all (cs : List Command) (h : Together w a) (hidx : w.idx.toNat ≤ buf_len.toNat)
    (hleft : w.left buf buf_len = cs.flatMap Command.bytes) (hclean : NoMisread cs) :
    ∃ w' a', w.Returns env buf buf_len w' ∧ a.Returns buf buf_len a' ∧ Together w' a' := by
  induction cs generalizing w a with
  | nil =>
    have hend : ¬w.idx < buf_len := by
      intro hlt
      rw [left_cons (UInt8.lt_iff_toNat_lt.mp hlt)] at hleft
      cases hleft
    obtain ⟨hw, ha⟩ := @returns_at_end _ buf_len env w a hend (by rw [h.idx]; exact hend)
    exact ⟨w, a, hw, ha, h⟩
  | cons c cs ih =>
    obtain ⟨hfirst, hrest⟩ := noMisread_cons.mp hclean
    obtain ⟨hfits, -⟩ := left_of_command hidx hleft
    obtain ⟨a₁, htogether, hret⟩ := @together_command buf buf_len env w a c cs h hidx hleft hfirst
    have htook : TookCommand env buf buf_len w c cs := tookCommand hidx hleft
    obtain ⟨w', a', hw, ha, hboth⟩ := ih htogether (by rw [htook.idx]; omega) htook.left hrest
    have hlt : w.idx < buf_len := UInt8.lt_iff_toNat_lt.mpr (by omega)
    exact ⟨w', a', (MacWalk.returns_turn hlt).mp hw, (hret a').mp ha, hboth⟩

/-- What `parse_mac_command` takes later stands behind the command that is there now. -/
theorem taken_behind {c : Command} {cs : List Command} (h : Together w a)
    (hidx : w.idx.toNat ≤ buf_len.toNat)
    (hleft : w.left buf buf_len = (c :: cs).flatMap Command.bytes)
    (hw : w.Returns env buf buf_len w') :
    ∀ t ∈ w'.taken, t.idx.toNat ≤ w.idx.toNat ∨
      w.idx.toNat + 1 + c.payload.length ≤ t.idx.toNat := by
  have htook : TookCommand env buf buf_len w c cs := tookCommand hidx hleft
  obtain ⟨hfits, -⟩ := left_of_command hidx hleft
  have hlt : w.idx < buf_len := UInt8.lt_iff_toNat_lt.mpr (by omega)
  obtain ⟨fuel, hloop⟩ := (MacWalk.returns_turn hlt).mpr hw
  have hends := (commands_walk cs (Nat.le_refl _)).1
  rw [← htook.left] at hends
  obtain ⟨w₁, ⟨fuel₁, hloop₁⟩, -, -, hlater, -⟩ :=
    covers_of_endsWhole (by rw [htook.idx]; omega) hends
  rw [loop_unique hloop hloop₁]
  intro t ht
  rcases hlater t ht with hold | hnew
  · left
    rcases htook.at_idx t hold with hfirst | hthis
    · exact Nat.le_of_lt (h.before t hfirst)
    · rw [hthis]
  · right
    rw [← htook.idx]
    exact hnew

theorem misread_reacts (cs : List Command) (h : Together w a)
    (hidx : w.idx.toNat ≤ buf_len.toNat) (hleft : w.left buf buf_len = cs.flatMap Command.bytes)
    (hmisread : ¬NoMisread cs) (hw : w.Returns env buf buf_len w')
    (ha : a.Returns buf buf_len a') : ∃ r ∈ a'.reactions, ∀ t ∈ w'.taken, t.idx ≠ r.1 := by
  induction cs generalizing w a with
  | nil => exact absurd (fun c hc => absurd hc List.not_mem_nil) hmisread
  | cons c cs ih =>
    obtain ⟨hfits, -⟩ := left_of_command hidx hleft
    have hlt : w.idx < buf_len := UInt8.lt_iff_toNat_lt.mpr (by omega)
    by_cases hfirst : NoMisread [c]
    · have hrest : ¬NoMisread cs := fun hcs => hmisread (noMisread_cons.mpr ⟨hfirst, hcs⟩)
      obtain ⟨a₁, htogether, hret⟩ :=
        @together_command buf buf_len env w a c cs h hidx hleft hfirst
      have htook : TookCommand env buf buf_len w c cs := tookCommand hidx hleft
      exact ih htogether (by rw [htook.idx]; omega) htook.left hrest
        ((MacWalk.returns_turn hlt).mpr hw) ((hret a').mpr ha)
    · obtain ⟨r, hr, hafter, hbefore⟩ := reacts_to_payload h hidx hleft hfirst ha
      refine ⟨r, hr, ?_⟩
      intro t ht heq
      have hbehind := taken_behind h hidx hleft hw t ht
      rw [heq] at hbehind
      omega

/-- **The callback reacts to the commands that `parse_mac_command` takes exactly in the
sequences in which no octet of another command's payload looks like one of its opcodes.** -/
theorem parsersAgree_iff (env : MacCmdEnv) (cs : SequenceIn buf buf_len) (s s' : MacState) :
    ParsersAgree env cs s s' ↔ NoMisread cs.commands := by
  have hstart : Together ⟨0, [], [], ⟨s, 0⟩⟩ ⟨0, [], s'⟩ :=
    ⟨rfl, rfl, fun t ht => absurd ht List.not_mem_nil⟩
  constructor
  · rintro ⟨w, a, ⟨fuel, hparse⟩, ha, -, hplaces⟩
    by_contra hmisread
    obtain ⟨w', hloop, -, htaken, -⟩ := parse_covers hparse
    obtain ⟨r, hr, hno⟩ := misread_reacts cs.commands hstart (Nat.zero_le _) cs.bytes.symm hmisread
      ⟨fuel, hloop⟩ ha
    obtain ⟨t, ht, heq⟩ := hplaces r hr
    rw [htaken] at ht
    exact hno t ht heq
  · intro hclean
    obtain ⟨w, a, ⟨fuel, hloop⟩, ha, htogether⟩ := @together_all buf buf_len env _ _ cs.commands
      hstart (Nat.zero_le _) cs.bytes.symm hclean
    refine ⟨{ w with handled := startMacCmds env buf buf_len w.handled }, a, ⟨fuel, ?_⟩, ha,
      ?_, ?_⟩
    · unfold parse_mac_command
      rw [hloop]
      rfl
    · rw [htogether.reactions, startsOf, List.map_map]
      rfl
    · intro r hr
      rw [htogether.reactions] at hr
      obtain ⟨t, ht, rfl⟩ := List.mem_map.mp hr
      exact ⟨t, (List.mem_filter.mp ht).1, rfl⟩

/-- A LinkADRAns of status 7, the usual one, is taken for a NewChannelAns. -/
theorem status_taken_for_newChannelAns :
    (arib_parse_start_mac_cmd (fun k => [0x03, 0x07].getD k 0) 2
        { sampleMacState with send_start_mac_cmds := true } 3).map
        (fun a => (a.reactions, a.s.send_start_mac_cmds)) =
      some ([(1, .NEW_CHANNEL_ANS)], false) ∧
    ¬ParsersAgree sampleMacEnv (⟨[⟨.LINK_ADR_ANS, [0x07], rfl⟩], rfl⟩ :
      SequenceIn (fun k => [0x03, 0x07].getD k 0) 2) sampleMacState sampleMacState := by
  refine ⟨by decide +kernel, ?_⟩
  rintro ⟨w, a, ⟨fuel, hparse⟩, ha, -, hplaces⟩
  obtain ⟨w', hloop, -, htaken, -⟩ := parse_covers hparse
  have hstart : Together ⟨0, [], [], ⟨sampleMacState, 0⟩⟩ ⟨0, [], sampleMacState⟩ :=
    ⟨rfl, rfl, fun t ht => absurd ht List.not_mem_nil⟩
  obtain ⟨r, hr, hno⟩ := misread_reacts [⟨.LINK_ADR_ANS, [0x07], rfl⟩] hstart (Nat.zero_le _) rfl
    (by decide) ⟨fuel, hloop⟩ ha
  obtain ⟨t, ht, heq⟩ := hplaces r hr
  rw [htaken] at ht
  exact hno t ht heq

end Lorawan.NetworkServer

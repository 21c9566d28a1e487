import Lorawan.Lib.Loop
import Lorawan.Lib.Stores
import Lorawan.NetworkServer.MacState

/-!
# The device's MAC commands (network_server/sNS.c:1180-1398, lorawan.h:101-154)

`parse_mac_command` walks over the octets with an index of eight bits. Each case of its
switch reads as many octets as its command has; an octet without a case is passed over.
-/

namespace Lorawan.NetworkServer
open Lorawan

/-! ### The commands -/

/-- `LoRaMacMoteCmd_t` -/
inductive MoteCmd
  | RESET_IND
  | LINK_CHECK_REQ
  | LINK_ADR_ANS
  | DUTY_CYCLE_ANS
  | RX_PARAM_SETUP_ANS
  | DEV_STATUS_ANS
  | NEW_CHANNEL_ANS
  | RX_TIMING_SETUP_ANS
  | TX_PARAM_SETUP_ANS
  | REKEY_IND
  | DEVICE_TIME_REQ
  | REJOIN_PARAM_ANS
  | PING_SLOT_INFO_REQ
  | PING_SLOT_FREQ_ANS
  | BEACON_TIMING_REQ
  | BEACON_FREQ_ANS
  | DEVICE_MODE_IND
deriving DecidableEq

def MoteCmd.opcode : MoteCmd → UInt8
  | RESET_IND => 0x01
  | LINK_CHECK_REQ => 0x02
  | LINK_ADR_ANS => 0x03
  | DUTY_CYCLE_ANS => 0x04
  | RX_PARAM_SETUP_ANS => 0x05
  | DEV_STATUS_ANS => 0x06
  | NEW_CHANNEL_ANS => 0x07
  | RX_TIMING_SETUP_ANS => 0x08
  | TX_PARAM_SETUP_ANS => 0x09
  | REKEY_IND => 0x0b
  | DEVICE_TIME_REQ => 0x0d
  | REJOIN_PARAM_ANS => 0x0f
  | PING_SLOT_INFO_REQ => 0x10
  | PING_SLOT_FREQ_ANS => 0x11
  | BEACON_TIMING_REQ => 0x12
  | BEACON_FREQ_ANS => 0x13
  | DEVICE_MODE_IND => 0x20

/-- The length of the payload in LoRaWAN 1.0 and 1.1. -/
def MoteCmd.payloadLength : MoteCmd → ℕ
  | LINK_CHECK_REQ | DUTY_CYCLE_ANS | RX_TIMING_SETUP_ANS | TX_PARAM_SETUP_ANS | DEVICE_TIME_REQ
  | BEACON_TIMING_REQ => 0
  | DEV_STATUS_ANS => 2
  | _ => 1

/-- A command with its payload. -/
structure Command where
  kind : MoteCmd
  payload : Octets
  wellFormed : payload.length = kind.payloadLength
deriving DecidableEq

def Command.bytes (c : Command) : Octets := c.kind.opcode :: c.payload

/-! ### The switch -/

/-- `switch (rx_cmd_buf[rx_cmd_buf_idx])`; `none` is the default. -/
def switch (b : UInt8) : Option (MoteCmd × ℕ) :=
  if b = 0x02 then some (.LINK_CHECK_REQ, 0)
  else if b = 0x10 then some (.PING_SLOT_INFO_REQ, 1)
  else if b = 0x12 then some (.BEACON_TIMING_REQ, 0)
  else if b = 0x0d then some (.DEVICE_TIME_REQ, 0)
  else if b = 0x03 then some (.LINK_ADR_ANS, 1)
  else if b = 0x11 then some (.PING_SLOT_FREQ_ANS, 1)
  else if b = 0x13 then some (.BEACON_FREQ_ANS, 1)
  else if b = 0x05 then some (.RX_PARAM_SETUP_ANS, 1)
  else if b = 0x07 then some (.NEW_CHANNEL_ANS, 1)
  else if b = 0x06 then some (.DEV_STATUS_ANS, 2)
  else if b = 0x0b then some (.REKEY_IND, 1)
  else if b = 0x01 then some (.RESET_IND, 1)
  else if b = 0x20 then some (.DEVICE_MODE_IND, 1)
  else if b = 0x0f then some (.REJOIN_PARAM_ANS, 1)
  else if b = 0x09 then some (.TX_PARAM_SETUP_ANS, 0)
  else none

/-- What the cases read besides the octets. Numbers that are computed in floating point, and
the offset that `aes_encrypt` gives, are functions or values here. -/
structure MacCmdEnv where
  /-- `mote->rx_snr - DEMOD_FLOOR`, or 0 below the floor -/
  margin : UInt8
  GWCnt : UInt8
  /-- `strncmp(ulmd->RFRegion, US902, 5) == 0` -/
  US902 : Bool
  count_us : UInt32
  tstamp_at_beacon : UInt32
  seconds_at_beacon : UInt32
  lgw_trigcnt_at_next_beacon : UInt32
  beacon_ch : UInt8
  /-- `(int)floor((float)n / 30000.0)` -/
  beaconSlots : UInt32 → UInt16
  /-- `LoRaMacBeaconComputePingOffset` for the device, from the time and the period -/
  computePingOffset : UInt32 → UInt16 → UInt16
  /-- `mote->devEui == NONE_DEVEUI` -/
  abp : Bool
  /-- `sql.OptNeg` -/
  OptNeg : UInt8
  region : Option RegionalControl
  /-- The callback of the uplink's region. -/
  parse_start_mac_cmd : Option (Buffer → UInt8 → MacState → MacState)

/-- The session, and how many times `deleteOldSessions` was called. -/
structure CommandState where
  s : MacState
  deletions : ℕ

/-- The body of the case of a command, given the octets it reads. -/
def handleCommand (env : MacCmdEnv) (h : CommandState) (cmd : MoteCmd) (payload : Octets) :
    CommandState :=
  let i := payload.headD 0
  match cmd with
  | .LINK_CHECK_REQ => { h with s := h.s.put .LINK_CHECK_ANS [env.margin, env.GWCnt] false }
  | .PING_SLOT_INFO_REQ =>
    -- 128 / (1 << periodicity), and BEACON_WINDOW_SLOTS / ping_nb
    let ping_period := UInt16.ofNat (4096 / (128 / 2 ^ (i &&& 7).toNat))
    { h with
      s := MacState.put
        { h.s with
          ping_slot_info := i
          ping_period := ping_period
          ping_offset := env.computePingOffset env.seconds_at_beacon ping_period }
        .PING_SLOT_INFO_ANS [] false }
  | .BEACON_TIMING_REQ =>
    let i_diff := env.beaconSlots (env.lgw_trigcnt_at_next_beacon - env.count_us)
    { h with
      s := h.s.put .BEACON_TIMING_ANS
        [i_diff.toUInt8, (i_diff >>> 8).toUInt8, if env.US902 then (env.beacon_ch + 1) &&& 7 else 0]
        false }
  | .DEVICE_TIME_REQ =>
    let us_since_beacon := env.count_us - env.tstamp_at_beacon
    let secs := us_since_beacon / 1000000 + env.seconds_at_beacon
    let subusecs := us_since_beacon % 1000000
    -- subusecs / 3906.5, as an octet
    let fraction := UInt8.ofNat (2 * subusecs.toNat / 7813)
    { h with
      s := h.s.put .DEVICE_TIME_ANS
        [secs.toUInt8, (secs >>> 8).toUInt8, (secs >>> 16).toUInt8, (secs >>> 24).toUInt8,
          fraction] false }
  | .LINK_ADR_ANS => { h with s := h.s.clear .LINK_ADR_REQ }
  | .PING_SLOT_FREQ_ANS => { h with s := h.s.clear .PING_SLOT_CHANNEL_REQ }
  | .BEACON_FREQ_ANS => { h with s := h.s.clear .BEACON_FREQ_REQ }
  | .RX_PARAM_SETUP_ANS => { h with s := h.s.clear .RX_PARAM_SETUP_REQ }
  | .NEW_CHANNEL_ANS => { h with s := h.s.clear .NEW_CHANNEL_REQ }
  | .DEV_STATUS_ANS => h
  | .REKEY_IND =>
    let deletes := i = 1 ∧ env.abp = false ∧ h.s.checkOldSessions = true
    { s := MacState.put
        { h.s with checkOldSessions := if deletes then false else h.s.checkOldSessions }
        .REKEY_CONF [i] false
      deletions := if deletes then h.deletions + 1 else h.deletions }
  | .RESET_IND =>
    let s := h.s.put .RESET_CONF [env.OptNeg] false
    { h with
      s := MacState.network_controller_mote_init { s with session_start_at_uplink := true }
        env.region }
  | .DEVICE_MODE_IND =>
    { h with s := MacState.put { h.s with classModeInd := i } .DEVICE_MODE_CONF [i] false }
  | .REJOIN_PARAM_ANS => { h with s := h.s.clear .REJOIN_PARAM_REQ }
  | .TX_PARAM_SETUP_ANS => { h with s := h.s.clear .TX_PARAM_SETUP_REQ }
  -- these have no case
  | .DUTY_CYCLE_ANS => h
  | .RX_TIMING_SETUP_ANS => h

/-! ### The walk -/

/-- A command that was taken, and where. -/
structure Taken where
  idx : UInt8
  cmd : MoteCmd
  payload : Octets
deriving DecidableEq

/-- The walk of `parse_mac_command`: `rx_cmd_buf_idx`, the indices read so far, and the cases
that ran. -/
structure MacWalk where
  idx : UInt8
  reads : List UInt8
  taken : List Taken
  handled : CommandState

variable (env : MacCmdEnv) (rx_cmd_buf : Buffer) (rx_cmd_buf_len : UInt8)

/-- One turn. -/
def MacWalk.turn (w : MacWalk) : MacWalk :=
  match switch (rx_cmd_buf w.idx.toNat) with
  | none => { w with idx := w.idx + 1, reads := w.reads ++ [w.idx] }
  | some (cmd, n) =>
    let read := (List.range n).map fun k => w.idx + 1 + UInt8.ofNat k
    let payload := read.map fun i => rx_cmd_buf i.toNat
    { idx := w.idx + 1 + UInt8.ofNat n
      reads := w.reads ++ w.idx :: read
      taken := w.taken ++ [⟨w.idx, cmd, payload⟩]
      handled := handleCommand env w.handled cmd payload }

/-- `while (rx_cmd_buf_idx < rx_cmd_buf_len)` -/
def MacWalk.loop : ℕ → MacWalk → Option MacWalk
  | 0, _ => none
  | fuel + 1, w =>
    if w.idx < rx_cmd_buf_len then loop fuel (w.turn env rx_cmd_buf) else some w

/-- The callback after the loop. -/
def startMacCmds (h : CommandState) : CommandState :=
  match env.parse_start_mac_cmd with
  | some parse =>
    if h.s.send_start_mac_cmds then { h with s := parse rx_cmd_buf rx_cmd_buf_len h.s } else h
  | none => h

/-- `parse_mac_command`, given `fuel` for its loop. The frame is never discarded. -/
def parse_mac_command (s : MacState) (fuel : ℕ) : Option MacWalk :=
  (MacWalk.loop env rx_cmd_buf rx_cmd_buf_len fuel ⟨0, [], [], ⟨s, 0⟩⟩).map fun w =>
    { w with handled := startMacCmds env rx_cmd_buf rx_cmd_buf_len w.handled }

/-! ### What it is for -/

/-- The commands in `bs`, taken by the lengths of the switch, with those that are cut left
out; `fuel` is the length. -/
def wholeCommands : ℕ → Octets → List (MoteCmd × Octets)
  | _, [] => []
  | 0, _ :: _ => []
  | fuel + 1, b :: bs =>
    match switch b with
    | none => wholeCommands fuel bs
    | some (cmd, n) =>
      if bs.length < n then [] else (cmd, bs.take n) :: wholeCommands fuel (bs.drop n)

/-- The last command is not cut. -/
def endsWhole : ℕ → Octets → Bool
  | _, [] => true
  | 0, _ :: _ => false
  | fuel + 1, b :: bs =>
    match switch b with
    | none => endsWhole fuel bs
    | some (_, n) => decide (n ≤ bs.length) && endsWhole fuel (bs.drop n)

/-- The effect of commands in order. -/
def handleAll (env : MacCmdEnv) (h : CommandState) (cmds : List (MoteCmd × Octets)) :
    CommandState :=
  cmds.foldl (fun h c => handleCommand env h c.1 c.2) h

def Command.pair (c : Command) : MoteCmd × Octets := (c.kind, c.payload)

structure ParsesWell (s : MacState) (w : MacWalk) : Prop where
  returns : ∃ fuel, parse_mac_command env rx_cmd_buf rx_cmd_buf_len s fuel = some w
  reads : ∀ i ∈ w.reads, i < rx_cmd_buf_len
  /-- A command that is cut has no effect. -/
  cut : w.handled = startMacCmds env rx_cmd_buf rx_cmd_buf_len (handleAll env ⟨s, 0⟩
    (wholeCommands rx_cmd_buf_len.toNat (rx_cmd_buf.slice 0 rx_cmd_buf_len.toNat)))
  /-- In a sequence of commands each is taken once, in order, with its payload. -/
  taken : ∀ cs : List Command,
    cs.flatMap Command.bytes = rx_cmd_buf.slice 0 rx_cmd_buf_len.toNat →
      (w.taken.map fun t => (t.cmd, t.payload)) = cs.map Command.pair

/-! ### One turn -/

/-- A turn that passes over `n` octets after the first and takes the commands `new`. -/
structure Turned (w : MacWalk) (n : ℕ) (new : List (MoteCmd × Octets)) : Prop where
  idx : (w.turn env rx_cmd_buf).idx.toNat = w.idx.toNat + 1 + n
  reads : ∀ i ∈ (w.turn env rx_cmd_buf).reads, i ∈ w.reads ∨ i.toNat < w.idx.toNat + 1 + n
  taken : ((w.turn env rx_cmd_buf).taken.map fun t => (t.cmd, t.payload)) =
    (w.taken.map fun t => (t.cmd, t.payload)) ++ new
  at_idx : ∀ t ∈ (w.turn env rx_cmd_buf).taken, t ∈ w.taken ∨ t.idx = w.idx
  handled : (w.turn env rx_cmd_buf).handled = handleAll env w.handled new

variable {env rx_cmd_buf rx_cmd_buf_len} {w w' : MacWalk}

theorem index_toNat {i : UInt8} {k : ℕ} (h : i.toNat + 1 + k < 256) :
    (i + 1 + UInt8.ofNat k).toNat = i.toNat + 1 + k := by
  have hk : (UInt8.ofNat k).toNat = k := UInt8.toNat_ofNat_of_lt' (show k < 256 by omega)
  rw [UInt8.toNat_add, UInt8.toNat_add, hk]
  show ((i.toNat + 1) % 256 + k) % 256 = i.toNat + 1 + k
  omega

theorem turn_default (h : switch (rx_cmd_buf w.idx.toNat) = none) :
    w.turn env rx_cmd_buf = { w with idx := w.idx + 1, reads := w.reads ++ [w.idx] } := by
  unfold MacWalk.turn
  rw [h]

theorem turn_case {cmd : MoteCmd} {n : ℕ}
    (h : switch (rx_cmd_buf w.idx.toNat) = some (cmd, n)) (hfits : w.idx.toNat + 1 + n < 256) :
    w.turn env rx_cmd_buf =
      { idx := w.idx + 1 + UInt8.ofNat n
        reads := w.reads ++ w.idx :: (List.range n).map fun k => w.idx + 1 + UInt8.ofNat k
        taken := w.taken ++ [⟨w.idx, cmd, rx_cmd_buf.slice (w.idx.toNat + 1) n⟩]
        handled := handleCommand env w.handled cmd
          (rx_cmd_buf.slice (w.idx.toNat + 1) n) } := by
  have hpayload : (((List.range n).map fun k => w.idx + 1 + UInt8.ofNat k).map fun i =>
      rx_cmd_buf i.toNat) = rx_cmd_buf.slice (w.idx.toNat + 1) n := by
    rw [List.map_map]
    apply List.map_congr_left
    intro k hk
    have := List.mem_range.mp hk
    show rx_cmd_buf (w.idx + 1 + UInt8.ofNat k).toNat = rx_cmd_buf (w.idx.toNat + 1 + k)
    rw [index_toNat (by omega)]
  unfold MacWalk.turn
  rw [h]
  dsimp only
  rw [hpayload]

theorem succ_toNat {i : UInt8} (h : i.toNat + 1 < 256) : (i + 1).toNat = i.toNat + 1 := by
  rw [UInt8.toNat_add]
  exact Nat.mod_eq_of_lt h

theorem turned_default (h : switch (rx_cmd_buf w.idx.toNat) = none)
    (hfits : w.idx.toNat + 1 < 256) : Turned env rx_cmd_buf w 0 [] := by
  have hturn := @turn_default env rx_cmd_buf w h
  constructor
  · rw [hturn]
    exact succ_toNat hfits
  · intro i hi
    rw [hturn] at hi
    rcases List.mem_append.mp hi with hold | hnew
    · exact Or.inl hold
    · rw [List.mem_singleton.mp hnew]
      exact Or.inr (Nat.lt_succ_self _)
  · rw [hturn, List.append_nil]
  · intro t ht
    rw [hturn] at ht
    exact Or.inl ht
  · rw [hturn]
    rfl

theorem turned_case {cmd : MoteCmd} {n : ℕ}
    (h : switch (rx_cmd_buf w.idx.toNat) = some (cmd, n)) (hfits : w.idx.toNat + 1 + n < 256) :
    Turned env rx_cmd_buf w n [(cmd, rx_cmd_buf.slice (w.idx.toNat + 1) n)] := by
  have hturn := @turn_case env rx_cmd_buf w cmd n h hfits
  constructor
  · rw [hturn]
    exact index_toNat hfits
  · intro i hi
    rw [hturn] at hi
    rcases List.mem_append.mp hi with hold | hnew
    · exact Or.inl hold
    · right
      rcases List.mem_cons.mp hnew with rfl | hread
      · omega
      · obtain ⟨k, hk, rfl⟩ := List.mem_map.mp hread
        have := List.mem_range.mp hk
        rw [index_toNat (by omega)]
        omega
  · rw [hturn, List.map_append]
    rfl
  · intro t ht
    rw [hturn] at ht
    rcases List.mem_append.mp ht with hold | hnew
    · exact Or.inl hold
    · rw [List.mem_singleton.mp hnew]
      exact Or.inr rfl
  · rw [hturn]
    rfl

theorem reads_end_of_cut {cmd : MoteCmd} {n : ℕ}
    (h : switch (rx_cmd_buf w.idx.toNat) = some (cmd, n)) (hlt : w.idx < rx_cmd_buf_len)
    (hcut : rx_cmd_buf_len.toNat < w.idx.toNat + 1 + n) :
    rx_cmd_buf_len ∈ (w.turn env rx_cmd_buf).reads := by
  have hlen : rx_cmd_buf_len.toNat < 256 := rx_cmd_buf_len.toNat_lt
  have hlt' := UInt8.lt_iff_toNat_lt.mp hlt
  unfold MacWalk.turn
  rw [h]
  apply List.mem_append_right
  apply List.mem_cons_of_mem
  refine List.mem_map.mpr ⟨rx_cmd_buf_len.toNat - (w.idx.toNat + 1), ?_, ?_⟩
  · exact List.mem_range.mpr (by omega)
  · apply UInt8.toNat_inj.mp
    rw [index_toNat (by omega)]
    omega

theorem mem_reads_turn {i : UInt8} (h : i ∈ w.reads) : i ∈ (w.turn env rx_cmd_buf).reads := by
  unfold MacWalk.turn
  split
  · exact List.mem_append_left _ h
  · exact List.mem_append_left _ h

theorem MacWalk.loop_eq (fuel : ℕ) (w : MacWalk) :
    w.loop env rx_cmd_buf rx_cmd_buf_len fuel =
      Loop.run (fun w => w.idx < rx_cmd_buf_len) (fun w => w.turn env rx_cmd_buf) fuel w := by
  induction fuel generalizing w with
  | zero => rfl
  | succ fuel ih => rw [MacWalk.loop, Loop.run, ih]

theorem mem_reads_loop {fuel : ℕ} (hw : w.loop env rx_cmd_buf rx_cmd_buf_len fuel = some w')
    {i : UInt8} (h : i ∈ w.reads) : i ∈ w'.reads := by
  rw [MacWalk.loop_eq] at hw
  have hturn : ∀ w₁ : MacWalk, w₁.idx < rx_cmd_buf_len → i ∈ w₁.reads →
      i ∈ (w₁.turn env rx_cmd_buf).reads := fun _ _ hi => mem_reads_turn hi
  exact (Loop.run_invariant hturn hw h).1

theorem loop_unique {fuel fuel' : ℕ} {w'' : MacWalk}
    (h : w.loop env rx_cmd_buf rx_cmd_buf_len fuel = some w')
    (h' : w.loop env rx_cmd_buf rx_cmd_buf_len fuel' = some w'') : w' = w'' := by
  rw [MacWalk.loop_eq] at h h'
  exact Loop.run_unique h h'

/-! ### The walk over whole commands -/

variable (env rx_cmd_buf rx_cmd_buf_len)

/-- The octets that are left. -/
def MacWalk.left (w : MacWalk) : Octets :=
  rx_cmd_buf.slice w.idx.toNat (rx_cmd_buf_len.toNat - w.idx.toNat)

/-- The loop ends in `w'` and has taken `cmds`. -/
structure Covers (w : MacWalk) (cmds : List (MoteCmd × Octets)) (w' : MacWalk) : Prop where
  returns : ∃ fuel, w.loop env rx_cmd_buf rx_cmd_buf_len fuel = some w'
  reads : ∀ i ∈ w'.reads, i ∈ w.reads ∨ i < rx_cmd_buf_len
  taken : (w'.taken.map fun t => (t.cmd, t.payload)) =
    (w.taken.map fun t => (t.cmd, t.payload)) ++ cmds
  later : ∀ t ∈ w'.taken, t ∈ w.taken ∨ w.idx.toNat ≤ t.idx.toNat
  handled : w'.handled = handleAll env w.handled cmds

variable {env rx_cmd_buf rx_cmd_buf_len}

theorem left_cons (hlt : w.idx.toNat < rx_cmd_buf_len.toNat) :
    w.left rx_cmd_buf rx_cmd_buf_len = rx_cmd_buf w.idx.toNat ::
      rx_cmd_buf.slice (w.idx.toNat + 1) (rx_cmd_buf_len.toNat - (w.idx.toNat + 1)) := by
  unfold MacWalk.left
  rw [← Buffer.slice_succ]
  congr 1
  omega

theorem Turned.left {n : ℕ} {new : List (MoteCmd × Octets)} (h : Turned env rx_cmd_buf w n new) :
    (w.turn env rx_cmd_buf).left rx_cmd_buf rx_cmd_buf_len =
      (rx_cmd_buf.slice (w.idx.toNat + 1) (rx_cmd_buf_len.toNat - (w.idx.toNat + 1))).drop n := by
  rw [MacWalk.left, h.idx, Buffer.drop_slice, Nat.sub_sub]

theorem Turned.covers {n : ℕ} {new cmds : List (MoteCmd × Octets)}
    (h : Turned env rx_cmd_buf w n new) (hlt : w.idx < rx_cmd_buf_len)
    (hfits : w.idx.toNat + 1 + n ≤ rx_cmd_buf_len.toNat)
    (hrest : Covers env rx_cmd_buf rx_cmd_buf_len (w.turn env rx_cmd_buf) cmds w') :
    Covers env rx_cmd_buf rx_cmd_buf_len w (new ++ cmds) w' := by
  obtain ⟨⟨fuel, hloop⟩, hreads, htaken, hlater, hhandled⟩ := hrest
  constructor
  · refine ⟨fuel + 1, ?_⟩
    rw [MacWalk.loop, if_pos hlt]
    exact hloop
  · intro i hi
    rcases hreads i hi with hold | hnew
    · rcases h.reads i hold with hfirst | hread
      · exact Or.inl hfirst
      · exact Or.inr (UInt8.lt_iff_toNat_lt.mpr (by omega))
    · exact Or.inr hnew
  · rw [htaken, h.taken, List.append_assoc]
  · intro t ht
    have hidx := h.idx
    rcases hlater t ht with hold | hnew
    · rcases h.at_idx t hold with hfirst | hthis
      · exact Or.inl hfirst
      · exact Or.inr (le_of_eq (congrArg UInt8.toNat hthis.symm))
    · exact Or.inr (by omega)
  · rw [hhandled, h.handled]
    exact (List.foldl_append ..).symm

theorem left_nil (hidx : w.idx.toNat ≤ rx_cmd_buf_len.toNat)
    (hend : ¬w.idx.toNat < rx_cmd_buf_len.toNat) : w.left rx_cmd_buf rx_cmd_buf_len = [] := by
  rw [MacWalk.left, show rx_cmd_buf_len.toNat - w.idx.toNat = 0 by omega, Buffer.slice_zero]

theorem covers_at_end (m : ℕ) (hidx : w.idx.toNat ≤ rx_cmd_buf_len.toNat)
    (hend : ¬w.idx.toNat < rx_cmd_buf_len.toNat) :
    Covers env rx_cmd_buf rx_cmd_buf_len w
      (wholeCommands m (w.left rx_cmd_buf rx_cmd_buf_len)) w := by
  have hnone : wholeCommands m (w.left rx_cmd_buf rx_cmd_buf_len) = [] := by
    rw [left_nil hidx hend]
    cases m <;> rfl
  rw [hnone]
  constructor
  · refine ⟨1, ?_⟩
    rw [MacWalk.loop, if_neg fun h => hend (UInt8.lt_iff_toNat_lt.mp h)]
  · intro i hi
    exact Or.inl hi
  · rw [List.append_nil]
  · intro t ht
    exact Or.inl ht
  · rfl

theorem covers_of_endsWhole {m : ℕ} (hidx : w.idx.toNat ≤ rx_cmd_buf_len.toNat)
    (hwhole : endsWhole m (w.left rx_cmd_buf rx_cmd_buf_len) = true) :
    ∃ w', Covers env rx_cmd_buf rx_cmd_buf_len w
      (wholeCommands m (w.left rx_cmd_buf rx_cmd_buf_len)) w' := by
  have hlen : rx_cmd_buf_len.toNat < 256 := rx_cmd_buf_len.toNat_lt
  induction m generalizing w with
  | zero =>
    have hend : ¬w.idx.toNat < rx_cmd_buf_len.toNat := by
      intro hlt
      rw [left_cons hlt] at hwhole
      cases hwhole
    exact ⟨w, covers_at_end 0 hidx hend⟩
  | succ m ih =>
    by_cases hlt : w.idx.toNat < rx_cmd_buf_len.toNat
    · have hlt' := UInt8.lt_iff_toNat_lt.mpr hlt
      rw [left_cons hlt] at hwhole ⊢
      simp only [endsWhole, wholeCommands] at hwhole ⊢
      cases hcase : switch (rx_cmd_buf w.idx.toNat) with
      | none =>
        have hturn := @turned_default env rx_cmd_buf w hcase (by omega)
        have hleft := @Turned.left env rx_cmd_buf rx_cmd_buf_len w 0 [] hturn
        rw [List.drop_zero] at hleft
        rw [hcase, ← hleft] at hwhole
        obtain ⟨w', hrest⟩ := ih (by rw [hturn.idx]; omega) hwhole
        rw [hleft] at hrest
        exact ⟨w', hturn.covers hlt' (by omega) hrest⟩
      | some case =>
        obtain ⟨cmd, n⟩ := case
        simp only [hcase, Bool.and_eq_true, decide_eq_true_eq, Buffer.length_slice] at hwhole ⊢
        obtain ⟨hn, hwhole⟩ := hwhole
        have hturn := @turned_case env rx_cmd_buf w cmd n hcase (by omega)
        rw [← @Turned.left env rx_cmd_buf rx_cmd_buf_len w n _ hturn] at hwhole ⊢
        obtain ⟨w', hrest⟩ := ih (by rw [hturn.idx]; omega) hwhole
        rw [if_neg (by omega), Buffer.take_slice _ _ _ hn]
        exact ⟨w', hturn.covers hlt' (by omega) hrest⟩
    · exact ⟨w, covers_at_end (m + 1) hidx hlt⟩

theorem reads_end_of_not_endsWhole {m fuel : ℕ} (hidx : w.idx.toNat ≤ rx_cmd_buf_len.toNat)
    (hm : rx_cmd_buf_len.toNat - w.idx.toNat ≤ m)
    (hcut : endsWhole m (w.left rx_cmd_buf rx_cmd_buf_len) = false)
    (hloop : w.loop env rx_cmd_buf rx_cmd_buf_len fuel = some w') :
    rx_cmd_buf_len ∈ w'.reads := by
  have hlen : rx_cmd_buf_len.toNat < 256 := rx_cmd_buf_len.toNat_lt
  have hlt : w.idx.toNat < rx_cmd_buf_len.toNat := by
    by_contra hend
    rw [left_nil hidx hend] at hcut
    cases m <;> cases hcut
  have hlt' := UInt8.lt_iff_toNat_lt.mpr hlt
  induction fuel generalizing w m with
  | zero => cases hloop
  | succ fuel ih =>
    rw [MacWalk.loop, if_pos hlt'] at hloop
    obtain ⟨m, rfl⟩ : ∃ m', m = m' + 1 := ⟨m - 1, by omega⟩
    -- while commands are whole, the rest is cut as well
    have hrest : ∀ n new, Turned env rx_cmd_buf w n new →
        w.idx.toNat + 1 + n ≤ rx_cmd_buf_len.toNat →
        endsWhole m ((w.turn env rx_cmd_buf).left rx_cmd_buf rx_cmd_buf_len) = false →
          rx_cmd_buf_len ∈ w'.reads := by
      intro n new hturn hfits hcut'
      have hnext : (w.turn env rx_cmd_buf).idx.toNat < rx_cmd_buf_len.toNat := by
        by_contra hend
        rw [left_nil (by rw [hturn.idx]; exact hfits) hend] at hcut'
        cases m <;> cases hcut'
      exact ih (by omega) (by rw [hturn.idx]; omega) hcut' hloop hnext
        (UInt8.lt_iff_toNat_lt.mpr hnext)
    rw [left_cons hlt] at hcut
    simp only [endsWhole] at hcut
    cases hcase : switch (rx_cmd_buf w.idx.toNat) with
    | none =>
      have hturn := @turned_default env rx_cmd_buf w hcase (by omega)
      have hleft := @Turned.left env rx_cmd_buf rx_cmd_buf_len w 0 [] hturn
      rw [List.drop_zero] at hleft
      rw [hcase, ← hleft] at hcut
      exact hrest 0 [] hturn (by omega) hcut
    | some case =>
      obtain ⟨cmd, n⟩ := case
      simp only [hcase, Bool.and_eq_false_iff, decide_eq_false_iff_not,
        Buffer.length_slice] at hcut
      by_cases hn : n ≤ rx_cmd_buf_len.toNat - (w.idx.toNat + 1)
      · have hturn := @turned_case env rx_cmd_buf w cmd n hcase (by omega)
        rw [← @Turned.left env rx_cmd_buf rx_cmd_buf_len w n _ hturn] at hcut
        exact hrest n _ hturn (by omega) (hcut.resolve_left fun h => h hn)
      · exact mem_reads_loop hloop (reads_end_of_cut hcase hlt' (by omega))

/-! ### Sequences of commands -/

/-- The switch has a case for the command. -/
def MoteCmd.HasCase (cmd : MoteCmd) : Prop := cmd ≠ .DUTY_CYCLE_ANS ∧ cmd ≠ .RX_TIMING_SETUP_ANS

instance (cmd : MoteCmd) : Decidable cmd.HasCase := inferInstanceAs (Decidable (_ ∧ _))

/-- A case reads as much as the command has; the two commands without one have no payload. -/
theorem switch_opcode (cmd : MoteCmd) :
    switch cmd.opcode = (if cmd.HasCase then some (cmd, cmd.payloadLength) else none) ∧
      (¬cmd.HasCase → cmd.payloadLength = 0) := by
  cases cmd <;> decide

theorem commands_walk (cs : List Command) {m : ℕ} (hm : (cs.flatMap Command.bytes).length ≤ m) :
    endsWhole m (cs.flatMap Command.bytes) = true ∧
      wholeCommands m (cs.flatMap Command.bytes) =
        (cs.filter (·.kind.HasCase)).map Command.pair := by
  induction cs generalizing m with
  | nil => cases m <;> exact ⟨rfl, rfl⟩
  | cons c cs ih =>
    obtain ⟨hswitch, hempty⟩ := switch_opcode c.kind
    rw [List.flatMap_cons, Command.bytes, List.cons_append] at hm ⊢
    simp only [List.length_cons, List.length_append] at hm
    obtain ⟨m, rfl⟩ : ∃ m', m = m' + 1 := ⟨m - 1, by omega⟩
    obtain ⟨hends, hwhole⟩ := @ih m (by omega)
    simp only [endsWhole, wholeCommands, hswitch]
    by_cases hcase : c.kind.HasCase
    · rw [if_pos hcase, List.filter_cons_of_pos (by simpa using hcase)]
      have hlen := c.wellFormed
      simp only [← hlen, List.length_append, List.drop_left, List.take_left, hends, hwhole]
      rw [if_neg (by omega)]
      exact ⟨by simp, rfl⟩
    · have hnil : c.payload = [] :=
        List.eq_nil_of_length_eq_zero (c.wellFormed.trans (hempty hcase))
      rw [if_neg hcase, List.filter_cons_of_neg (by simpa using hcase), hnil]
      exact ⟨hends, hwhole⟩

/-! ### The parser -/

theorem parse_covers {s : MacState} {fuel : ℕ}
    (h : parse_mac_command env rx_cmd_buf rx_cmd_buf_len s fuel = some w') :
    ∃ w, MacWalk.loop env rx_cmd_buf rx_cmd_buf_len fuel ⟨0, [], [], ⟨s, 0⟩⟩ = some w ∧
      w'.reads = w.reads ∧ w'.taken = w.taken ∧
        w'.handled = startMacCmds env rx_cmd_buf rx_cmd_buf_len w.handled := by
  obtain ⟨w, hloop, rfl⟩ := Option.map_eq_some_iff.mp h
  exact ⟨w, hloop, rfl, rfl, rfl⟩

variable (env rx_cmd_buf rx_cmd_buf_len)

/-- **The parser keeps to the octets it was given and takes the commands in them exactly when
the last command is whole and the octets are no sequence with a command that has no case.** -/
theorem parsesWell_iff (s : MacState) :
    (∃ w, ParsesWell env rx_cmd_buf rx_cmd_buf_len s w) ↔
      endsWhole rx_cmd_buf_len.toNat (rx_cmd_buf.slice 0 rx_cmd_buf_len.toNat) = true ∧
        ∀ cs : List Command,
          cs.flatMap Command.bytes = rx_cmd_buf.slice 0 rx_cmd_buf_len.toNat →
            ∀ c ∈ cs, c.kind.HasCase := by
  let w₀ : MacWalk := ⟨0, [], [], ⟨s, 0⟩⟩
  have hleft : w₀.left rx_cmd_buf rx_cmd_buf_len = rx_cmd_buf.slice 0 rx_cmd_buf_len.toNat := rfl
  constructor
  · rintro ⟨w', ⟨fuel, hparse⟩, hreads, hcut, htaken⟩
    obtain ⟨w, hloop, hreads', htaken', -⟩ := parse_covers hparse
    have hends : endsWhole rx_cmd_buf_len.toNat
        (rx_cmd_buf.slice 0 rx_cmd_buf_len.toNat) = true := by
      by_contra hnot
      have hend := reads_end_of_not_endsWhole (Nat.zero_le _) (Nat.sub_le _ _)
        (Bool.eq_false_iff.mpr hnot) hloop
      rw [← hreads'] at hend
      exact absurd (hreads _ hend) (UInt8.lt_irrefl _)
    refine ⟨hends, ?_⟩
    intro cs hcs
    obtain ⟨w₁, ⟨fuel₁, hloop₁⟩, -, htaken₁, -, -⟩ := @covers_of_endsWhole env rx_cmd_buf
      rx_cmd_buf_len w₀ rx_cmd_buf_len.toNat (Nat.zero_le _) hends
    have hlen : (cs.flatMap Command.bytes).length ≤ rx_cmd_buf_len.toNat := by
      rw [hcs, Buffer.length_slice]
    have hall := htaken cs hcs
    rw [htaken', loop_unique hloop hloop₁, htaken₁, hleft, ← hcs, (commands_walk cs hlen).2] at hall
    have hcount := congrArg List.length hall
    simp only [w₀, List.map_nil, List.nil_append, List.length_map] at hcount
    intro c hc
    exact of_decide_eq_true (List.length_filter_eq_length_iff.mp hcount c hc)
  · rintro ⟨hends, hcases⟩
    obtain ⟨w, ⟨fuel, hloop⟩, hreads, htaken, -, hhandled⟩ := @covers_of_endsWhole env rx_cmd_buf
      rx_cmd_buf_len w₀ rx_cmd_buf_len.toNat (Nat.zero_le _) hends
    rw [hleft] at htaken hhandled
    refine ⟨{ w with handled := startMacCmds env rx_cmd_buf rx_cmd_buf_len w.handled },
      ⟨fuel, ?_⟩, ?_, ?_, ?_⟩
    · unfold parse_mac_command
      rw [hloop]
      rfl
    · intro i hi
      exact (hreads i hi).resolve_left List.not_mem_nil
    · rw [← hhandled]
    · intro cs hcs
      have hlen : (cs.flatMap Command.bytes).length ≤ rx_cmd_buf_len.toNat := by
        rw [hcs, Buffer.length_slice]
      rw [htaken, ← hcs, (commands_walk cs hlen).2,
        List.filter_eq_self.mpr fun c hc => decide_eq_true (hcases cs hcs c hc)]
      rfl

/-! ### A command that is cut -/

/-- A region that is in no list. -/
def sampleMacEnv : MacCmdEnv :=
  ⟨0, 1, false, 0, 0, 0, 0, 0, fun _ => 0, fun _ _ => 0, false, 0, none, none⟩

/-- A session that waits for the answer to a LinkADRReq. -/
def sampleMacState : MacState :=
  { ChMask := [7]
    mac_cmd_queue := MacQueue.empty.put .LINK_ADR_REQ [0x50, 7, 0, 0] true
    snr_history := fun _ => 0
    snr_history_idx := ⟨0, by decide⟩
    txpwr_idx := 0
    ping_slot_info := 0
    ping_period := 0
    ping_offset := 0
    classModeInd := 0
    type2_rejoin_count := 0
    send_start_mac_cmds := false
    session_start_at_uplink := false
    force_adr := false
    checkOldSessions := false }

/-- A LinkADRAns without its status clears the request, and a DutyCycleAns is passed over. -/
theorem cut_command_acts :
    (parse_mac_command sampleMacEnv (fun _ => 0x03) 1 sampleMacState 2).map
        (fun w => (w.reads, w.handled.s.mac_cmd_queue.live)) = some ([0, 1], []) ∧
      (¬∃ w, ParsesWell sampleMacEnv (fun _ => 0x03) 1 sampleMacState w) ∧
      ¬∃ w, ParsesWell sampleMacEnv (fun _ => 0x04) 1 sampleMacState w := by
  refine ⟨by decide +kernel, ?_, ?_⟩
  · rintro ⟨w, ⟨fuel, hparse⟩, hreads, -, -⟩
    obtain ⟨w', hloop, heq, -, -⟩ := parse_covers hparse
    have hend := @reads_end_of_not_endsWhole _ _ _ ⟨0, [], [], ⟨sampleMacState, 0⟩⟩ w' 1 fuel
      (Nat.zero_le _) (Nat.le_refl _) rfl hloop
    rw [← heq] at hend
    exact absurd (hreads _ hend) (UInt8.lt_irrefl _)
  · rintro ⟨w, ⟨fuel, hparse⟩, -, -, htaken⟩
    obtain ⟨w', hloop, -, heq, -⟩ := parse_covers hparse
    have hwalk : MacWalk.loop sampleMacEnv (fun _ => 0x04) 1 2 ⟨0, [], [], ⟨sampleMacState, 0⟩⟩ =
        some ⟨1, [0], [], ⟨sampleMacState, 0⟩⟩ := rfl
    have hall := htaken [⟨.DUTY_CYCLE_ANS, [], rfl⟩] rfl
    rw [heq, loop_unique hloop hwalk] at hall
    cases hall

end Lorawan.NetworkServer

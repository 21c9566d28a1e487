import Lorawan.NetworkServer.DownlinkCounter
import Lorawan.NetworkServer.MotesTable
import Mathlib.Data.List.TakeWhile

/-!
# Refused uplinks (network_server/sNS.c:1074-1106, 1801-1954)

`sNS_uplink` deals with an expired session before it looks at the counter and at
the MIC, and a saved confirmed downlink is put back before the MIC is tried with
another counter. What an uplink that is refused afterwards leaves behind is
stated here for each of its results.
-/

namespace Lorawan.NetworkServer
open Lorawan Lorawan.Backend Backend.mtype_e

variable (A : BlockCipher)

/-! ### The device -/

/-- What the server keeps about a device: `NS`, the rejoins that it waits for, and `motes`. -/
structure DeviceState where
  ns : NS
  type2_rejoin_count : ℕ
  motes : List MotesRow
deriving DecidableEq

def SRV_MAC_FORCE_REJOIN_REQ : UInt8 := 0x0e

def max_retries : ℕ := 3

/-- `cmd_buf` of `sNS_force_rejoin`, with a period of 1. The last octet is shifted the wrong
way. -/
def forceRejoinReq (type DRMin : ℕ) : Octets :=
  let cmd_payload := (DRMin &&& 0x0f) ||| (max_retries &&& 7) <<< 8 ||| (type &&& 7) <<< 4 |||
    (1 &&& 7) <<< 11
  [SRV_MAC_FORCE_REJOIN_REQ, UInt8.ofNat (cmd_payload &&& 0xff),
    UInt8.ofNat ((cmd_payload <<< 8) &&& 0xff)]

/-- The commands of `sNS_force_rejoin`; `DRMin` is `none` when the service profile cannot be
read. -/
def forceRejoinOps (type : ℕ) (DRMin : Option ℕ) : List MacOp :=
  match DRMin with
  | none => []
  | some DRMin => [.wipe, .put (forceRejoinReq type DRMin) false]

def sNS_force_rejoin (type : ℕ) (DRMin : Option ℕ) (d : DeviceState) : DeviceState :=
  { d with
    ns := queueMacCmds (forceRejoinOps type DRMin) d.ns
    type2_rejoin_count := if DRMin.isSome ∧ type = 2 then max_retries else d.type2_rejoin_count }

/-- The session of an OTA device is over. -/
def Mote.sessionExpired (m : Mote) : Bool :=
  decide (m.session.until_ ≠ .none) && decide (m.session.until_ ≠ .never) && m.session.expired

/-- The environment in which an expired session is followed by `sNS_force_rejoin`. -/
def UplinkEnv.asking (DRMin : Option ℕ) (env : UplinkEnv) : UplinkEnv :=
  { env with rejoinOps := forceRejoinOps 2 DRMin }

/-- `sNS_uplink`, with the rejoin that it may ask for. -/
def DeviceState.sNS_uplink (env : UplinkEnv) (DRMin : Option ℕ) (d : DeviceState) :
    Result × DeviceState :=
  let (result, ns) := NetworkServer.sNS_uplink A (env.asking DRMin) d.ns
  (result, { d with
    ns := ns
    type2_rejoin_count :=
      if d.ns.mote.sessionExpired ∧ env.OptNeg then (sNS_force_rejoin 2 DRMin d).type2_rejoin_count
      else d.type2_rejoin_count })

/-! ### The property -/

/-- The state of the device, its session and the rows of the tables are as before. -/
def Untouched (d d' : DeviceState) : Prop :=
  d'.ns.mote.s = d.ns.mote.s ∧ d'.type2_rejoin_count = d.type2_rejoin_count ∧
    d'.ns.mote.session = d.ns.mote.session ∧ d'.ns.store = d.ns.store ∧ d'.motes = d.motes

instance (d d' : DeviceState) : Decidable (Untouched d d') :=
  inferInstanceAs (Decidable (_ ∧ _ ∧ _ ∧ _ ∧ _))

/-- A data frame that the device did not send. -/
def forgedUplink : Octets :=
  [mhdr MTYPE_UNCONF_UP] ++ Octets.ofNat 4 sampleDevAddr ++ [0, 1, 0, 0, 0, 0, 0]

/-- The session of the sample device until the time `t`. -/
def sessionUntil (t : ℕ) : SessionRow := { sampleRow with Until := some t }

/-- The forged frame was received, and the session read at the time 10. -/
def heardForged (row : SessionRow) (s : S) : DeviceState :=
  let m := { Mote.init 1 sampleDevAddr with session := getSession (some row) 10 .zero, s := s }
  ⟨.init [row] 1 (receive forgedUplink 1 m), 0, []⟩

/-- An uplink of a LoRaWAN 1.1 device on the channel 0. -/
def uplink1v1 : UplinkEnv := { plainUplink with OptNeg := true, ch := some 0 }

/-- A confirmed downlink waits for its ACK. -/
def confirmedS : S := { S.zero with confDLPHYPayloadLen := 12, ConfFCntDown := 1 }

/-- Forged frames, all refused: one for an expired session of LoRaWAN 1.1 is followed by a
command to rejoin, one for an expired session of 1.0 by the deletion of the sessions; others set
`newFCntUp`, and make the confirmed downlink wait to be sent again. -/
theorem forged_uplinks_leave_traces :
    (let d := heardForged (sessionUntil 5) .zero
      let (result, d') := d.sNS_uplink BlockCipher.xorKey uplink1v1 (some 0)
      result = .MICFailed ∧ ¬Untouched d d' ∧
        d'.ns.mote.s.mac_cmd_queue = [⟨[0x0e, 0x20, 0], false⟩] ∧ d'.type2_rejoin_count = 3) ∧
    (let d := heardForged (sessionUntil 5) .zero
      let (result, d') := d.sNS_uplink BlockCipher.xorKey plainUplink none
      result = .MICFailed ∧ ¬Untouched d d' ∧ d'.ns.store.queue = [.deleteOld 1 none]) ∧
    (let d := heardForged (sessionUntil 20) .zero
      let (result, d') := d.sNS_uplink BlockCipher.xorKey plainUplink none
      result = .MICFailed ∧ ¬Untouched d d' ∧ d'.ns.mote.s.newFCntUp = true) ∧
    (let d := heardForged (sessionUntil 20) confirmedS
      let (result, d') := d.sNS_uplink BlockCipher.xorKey uplink1v1 none
      result = .MICFailed ∧ ¬Untouched d d' ∧ d'.ns.mote.s.PHYPayloadLen = 12) := by
  decide +kernel

/-! ### An expired session -/

variable {A} {env : UplinkEnv} {DRMin : Option ℕ} {ns : NS} {d : DeviceState}

theorem forceRejoinOps_queue (type DRMin : ℕ) (queue : List MacCmd) :
    (forceRejoinOps type (some DRMin)).foldl MacOp.apply queue =
      [⟨forceRejoinReq type DRMin, false⟩] := by
  have hwiped : (wipe_queued_mac_cmds queue).dropWhile (·.isFinished) = [] := by
    rw [List.dropWhile_eq_nil_iff]
    intro c hc
    obtain ⟨_, -, rfl⟩ := List.mem_map.mp hc
    rfl
  simp only [forceRejoinOps, List.foldl_cons, List.foldl_nil, MacOp.apply, put_queue_mac_cmds,
    hwiped, forceRejoinReq, List.length_cons, List.length_nil, List.any_nil, Bool.false_eq_true,
    if_false, List.nil_append]
  rw [if_neg (by omega), if_neg (by omega)]

theorem session_of_expired {m : Mote} (h : m.sessionExpired = true) :
    m.session.until_ ≠ .none := by
  simp only [Mote.sessionExpired, Bool.and_eq_true, decide_eq_true_eq] at h
  exact h.1.1

theorem expire_live (hlive : ns.mote.session.until_ ≠ .none)
    (h : ns.mote.sessionExpired = false) : expire env ns = ns := by
  unfold expire
  rw [if_neg]
  intro hboth
  simp [Mote.sessionExpired, hlive, hboth] at h

theorem expire_rejoin (h : ns.mote.sessionExpired = true) (hneg : env.OptNeg = true) :
    expire env ns = queueMacCmds env.rejoinOps ns := by
  simp only [Mote.sessionExpired, Bool.and_eq_true, decide_eq_true_eq] at h
  rw [expire, if_pos ⟨h.1.2, h.2⟩, if_pos hneg]

/-- The device is booted off: its sessions are to be deleted, and a payload that waits is answered
as failed. -/
theorem expire_boots (h : ns.mote.sessionExpired = true) (hneg : env.OptNeg = false) :
    expire env ns = { ns with
      store := if env.mqOk.expired then ns.store.enqueue (.deleteOld ns.mote.ID none) else ns.store
      mote := { ns.mote with s := { ns.mote.s with
        FRMPayloadLen := if env.answerOk then 0 else ns.mote.s.FRMPayloadLen } } } := by
  simp only [Mote.sessionExpired, Bool.and_eq_true, decide_eq_true_eq] at h
  rw [expire, if_pos ⟨h.1.2, h.2⟩, if_neg (by simp [hneg])]
  obtain ⟨store, ⟨ID, devAddr, session, bin, len, s, counter⟩, serial, overrun, calls, sent,
    accepted⟩ := ns
  by_cases hlen : 0 < s.FRMPayloadLen
  · cases hmq : env.mqOk.expired <;> cases hans : env.answerOk <;>
      simp [enqueue, answer_app_downlink, mapS, hlen]
  · have hzero : s.FRMPayloadLen = 0 := by omega
    have hsame : { s with FRMPayloadLen := 0 } = s := by
      rw [← hzero]
    cases hmq : env.mqOk.expired <;> cases hans : env.answerOk <;> simp [enqueue, hzero, hsame]

/-! ### After that -/

theorem checkMic_failed {m : Mote} {n : ℕ} (h : (checkMic A env m n).1 = false) :
    (checkMic A env m n).2 = m.s ∨
      env.OptNeg = true ∧ env.ch ≠ none ∧ m.s.confDLPHYPayloadLen ≠ 0 ∧
        (checkMic A env m n).2 = restoreConfirmed m.s := by
  unfold checkMic at h ⊢
  split at h
  · rename_i hneg
    rw [if_pos hneg]
    cases hch : env.ch with
    | none => exact Or.inl rfl
    | some ch =>
      simp only [hch] at h
      show (checkMic1v1 A env ch m n).2 = m.s ∨ _
      unfold checkMic1v1 at h ⊢
      dsimp only at h ⊢
      split at h
      · cases h
      · rename_i hfirst
        rw [if_neg hfirst]
        split
        · rename_i hsaved
          exact Or.inr ⟨hneg, by simp, Nat.pos_iff_ne_zero.mp hsaved, rfl⟩
        · exact Or.inl rfl
  · rename_i hneg
    rw [if_neg hneg]
    exact Or.inl rfl

/-- What happens to the state between the expiry and the refusal. -/
structure FrameRestored (OptNeg : Bool) (ch : Option UInt8) (result : Result) (s s' : S) : Prop where
  others : { s' with
    PHYPayloadBin := s.PHYPayloadBin
    PHYPayloadLen := s.PHYPayloadLen
    frame := s.frame
    newFCntUp := s.newFCntUp } = s
  newFCntUp : result = .Other → s'.newFCntUp = s.newFCntUp
  frame : (result = .Other ∨ OptNeg = false ∨ ch = none ∨ s.confDLPHYPayloadLen = 0) →
    s'.PHYPayloadBin = s.PHYPayloadBin ∧ s'.PHYPayloadLen = s.PHYPayloadLen ∧ s'.frame = s.frame

theorem sNS_uplink_refused (hlive : ns.mote.session.until_ ≠ .none)
    (h : (NetworkServer.sNS_uplink A env ns).1 ≠ .Success) :
    ∃ s len, FrameRestored env.OptNeg env.ch (NetworkServer.sNS_uplink A env ns).1
        (expire env ns).mote.s s ∧
      (NetworkServer.sNS_uplink A env ns).2 = { expire env ns with
        mote := { (expire env ns).mote with ULPHYPayloadLen := len, s := s } } := by
  have hsame : NetworkServer.sNS_uplink A env ns = receiveUplink A env ns := by
    unfold NetworkServer.sNS_uplink at h ⊢
    split
    · rename_i heq
      rw [heq] at h
      exact absurd rfl h
    · rename_i heq
      exact heq.symm
  rw [hsame] at h ⊢
  have hreceived := receiveUplink_received (A := A) env ns
  generalize receiveUplink A env ns = received at hreceived h ⊢
  cases hreceived with
  | noSession hnone => exact absurd hnone hlive
  | replay _ hreplay => exact ⟨_, _, ⟨rfl, fun _ => rfl, fun _ => ⟨rfl, rfl, rfl⟩⟩, rfl⟩
  | taken _ hnew hmic => exact absurd rfl h
  | refused _ hnew hmic =>
    have hMIC : Result.MICFailed ≠ .Other := by decide
    refine ⟨(checkedUplink A env (takenFCntUp ns.mote) ns).mote.s, _, ?_, rfl⟩
    rw [← checkMic_afterExpire] at hmic
    rcases checkMic_failed hmic with hs | ⟨hneg, hch, hsaved, hs⟩
    · have hchecked : (checkedUplink A env (takenFCntUp ns.mote) ns).mote.s =
          { (expire env ns).mote.s with newFCntUp := true } := hs
      rw [hchecked]
      exact ⟨rfl, fun hother => absurd hother hMIC, fun _ => ⟨rfl, rfl, rfl⟩⟩
    · have hchecked : (checkedUplink A env (takenFCntUp ns.mote) ns).mote.s =
          restoreConfirmed { (expire env ns).mote.s with newFCntUp := true } := hs
      rw [hchecked]
      refine ⟨rfl, fun hother => absurd hother hMIC, ?_⟩
      rintro (hother | hoff | hnone | hzero)
      · cases hother
      · rw [hneg] at hoff
        cases hoff
      · exact absurd hnone hch
      · exact absurd hzero hsaved

/-! ### What a refused uplink leaves -/

/-- The state after an uplink that was refused with `result`. Of a MIC failure it leaves out what
becomes of `newFCntUp`, and of the waiting frame when a confirmed one is saved. -/
structure Refused (env : UplinkEnv) (DRMin : Option ℕ) (result : Result) (d d' : DeviceState) :
    Prop where
  session : d'.ns.mote.session = d.ns.mote.session
  motes : d'.motes = d.motes
  table : d'.ns.store.table = d.ns.store.table
  nothingSent : d'.ns.calls = d.ns.calls ∧ d'.ns.sent = d.ns.sent ∧ d'.ns.accepted = d.ns.accepted
  others : { d'.ns.mote.s with
    mac_cmd_queue := d.ns.mote.s.mac_cmd_queue
    FRMPayloadLen := d.ns.mote.s.FRMPayloadLen
    PHYPayloadBin := d.ns.mote.s.PHYPayloadBin
    PHYPayloadLen := d.ns.mote.s.PHYPayloadLen
    frame := d.ns.mote.s.frame
    newFCntUp := d.ns.mote.s.newFCntUp } = d.ns.mote.s
  newFCntUp : result = .Other → d'.ns.mote.s.newFCntUp = d.ns.mote.s.newFCntUp
  frame : (result = .Other ∨ env.OptNeg = false ∨ env.ch = none ∨
      d.ns.mote.s.confDLPHYPayloadLen = 0) →
    d'.ns.mote.s.PHYPayloadBin = d.ns.mote.s.PHYPayloadBin ∧
      d'.ns.mote.s.PHYPayloadLen = d.ns.mote.s.PHYPayloadLen ∧
      d'.ns.mote.s.frame = d.ns.mote.s.frame
  live : d.ns.mote.sessionExpired = false →
    d'.ns.mote.s.mac_cmd_queue = d.ns.mote.s.mac_cmd_queue ∧
      d'.type2_rejoin_count = d.type2_rejoin_count ∧
      d'.ns.mote.s.FRMPayloadLen = d.ns.mote.s.FRMPayloadLen ∧ d'.ns.store = d.ns.store
  rejoin : d.ns.mote.sessionExpired = true → env.OptNeg = true →
    d'.ns.mote.s.FRMPayloadLen = d.ns.mote.s.FRMPayloadLen ∧ d'.ns.store = d.ns.store ∧
      match DRMin with
      | none => d'.ns.mote.s.mac_cmd_queue = d.ns.mote.s.mac_cmd_queue ∧
        d'.type2_rejoin_count = d.type2_rejoin_count
      | some DRMin => d'.ns.mote.s.mac_cmd_queue = [⟨forceRejoinReq 2 DRMin, false⟩] ∧
        d'.type2_rejoin_count = max_retries
  bootedOff : d.ns.mote.sessionExpired = true → env.OptNeg = false →
    d'.ns.mote.s.mac_cmd_queue = d.ns.mote.s.mac_cmd_queue ∧
      d'.type2_rejoin_count = d.type2_rejoin_count ∧
      d'.ns.mote.s.FRMPayloadLen = (if env.answerOk then 0 else d.ns.mote.s.FRMPayloadLen) ∧
      d'.ns.store.queue = d.ns.store.queue ++
        (if env.mqOk.expired then [.deleteOld d.ns.mote.ID none] else [])

theorem refused_of {result : Result} {st : WriteBehind.Store (List SessionRow) Statement}
    {len' count : ℕ} {s : S} (queue : List MacCmd) (len : ℕ)
    (htable : st.table = d.ns.store.table)
    (hs : FrameRestored env.OptNeg env.ch result
      { d.ns.mote.s with mac_cmd_queue := queue, FRMPayloadLen := len } s)
    (hlive : d.ns.mote.sessionExpired = false → queue = d.ns.mote.s.mac_cmd_queue ∧
      count = d.type2_rejoin_count ∧ len = d.ns.mote.s.FRMPayloadLen ∧ st = d.ns.store)
    (hrejoin : d.ns.mote.sessionExpired = true → env.OptNeg = true →
      len = d.ns.mote.s.FRMPayloadLen ∧ st = d.ns.store ∧
        match DRMin with
        | none => queue = d.ns.mote.s.mac_cmd_queue ∧ count = d.type2_rejoin_count
        | some DRMin => queue = [⟨forceRejoinReq 2 DRMin, false⟩] ∧ count = max_retries)
    (hboots : d.ns.mote.sessionExpired = true → env.OptNeg = false →
      queue = d.ns.mote.s.mac_cmd_queue ∧ count = d.type2_rejoin_count ∧
        len = (if env.answerOk then 0 else d.ns.mote.s.FRMPayloadLen) ∧
        st.queue = d.ns.store.queue ++
          (if env.mqOk.expired then [.deleteOld d.ns.mote.ID none] else [])) :
    Refused env DRMin result d
      ⟨{ d.ns with store := st, mote := { d.ns.mote with ULPHYPayloadLen := len', s := s } },
        count, d.motes⟩ := by
  have hqueue : s.mac_cmd_queue = queue := congrArg S.mac_cmd_queue hs.others
  have hlen : s.FRMPayloadLen = len := congrArg S.FRMPayloadLen hs.others
  exact {
    session := rfl
    motes := rfl
    table := htable
    nothingSent := ⟨rfl, rfl, rfl⟩
    others := congrArg (fun t : S => { t with
      mac_cmd_queue := d.ns.mote.s.mac_cmd_queue
      FRMPayloadLen := d.ns.mote.s.FRMPayloadLen }) hs.others
    newFCntUp := hs.newFCntUp
    frame := hs.frame
    live := by
      rw [hqueue, hlen]
      exact hlive
    rejoin := by
      rw [hqueue, hlen]
      exact hrejoin
    bootedOff := by
      rw [hqueue, hlen]
      exact hboots }

theorem refused_uplink (env : UplinkEnv) (DRMin : Option ℕ) (d : DeviceState)
    (h : (d.sNS_uplink A env DRMin).1 ≠ .Success) :
    Refused env DRMin (d.sNS_uplink A env DRMin).1 d (d.sNS_uplink A env DRMin).2 := by
  by_cases hlive : d.ns.mote.session.until_ = .none
  · have hnever : d.ns.mote.sessionExpired = false := by
      simp [Mote.sessionExpired, hlive]
    have hns : NetworkServer.sNS_uplink A (env.asking DRMin) d.ns = (.Other, d.ns) := by
      rw [NetworkServer.sNS_uplink, receiveUplink, if_pos hlive]
    have hd : d.sNS_uplink A env DRMin = (.Other, d) := by
      simp [DeviceState.sNS_uplink, hns, hnever]
    rw [hd]
    refine refused_of _ _ rfl ⟨rfl, fun _ => rfl, fun _ => ⟨rfl, rfl, rfl⟩⟩ (fun _ => ⟨rfl, rfl, rfl, rfl⟩)
      ?_ ?_ <;> intro hexpired <;> rw [hnever] at hexpired <;> cases hexpired
  · obtain ⟨s, len, hs, hns⟩ := sNS_uplink_refused hlive h
    unfold DeviceState.sNS_uplink
    dsimp only
    rw [hns]
    generalize (NetworkServer.sNS_uplink A (env.asking DRMin) d.ns).1 = result at hs ⊢
    cases hexpired : d.ns.mote.sessionExpired with
    | false =>
      rw [expire_live hlive hexpired] at hs ⊢
      refine refused_of _ _ rfl hs (fun _ => ⟨rfl, if_neg (by simp), rfl, rfl⟩) ?_ ?_ <;>
        intro htrue <;> rw [hexpired] at htrue <;> cases htrue
    | true =>
      have hover : d.ns.mote.sessionExpired ≠ false := by simp [hexpired]
      cases hneg : env.OptNeg with
      | true =>
        have hasked : (env.asking DRMin).OptNeg = true := hneg
        rw [expire_rejoin hexpired hasked] at hs ⊢
        refine refused_of _ _ rfl hs (fun hfalse => absurd hfalse hover) (fun _ _ => ?_)
          fun _ hfalse => absurd hfalse (by simp [hneg])
        cases DRMin with
        | none => exact ⟨rfl, rfl, rfl, rfl⟩
        | some DRMin => exact ⟨rfl, rfl, forceRejoinOps_queue 2 DRMin _, rfl⟩
      | false =>
        have hasked : (env.asking DRMin).OptNeg = false := hneg
        rw [expire_boots hexpired hasked] at hs ⊢
        refine refused_of _ _ ?_ hs (fun hfalse => absurd hfalse hover)
          (fun _ hfalse => absurd hfalse (by simp [hneg]))
          fun _ _ => ⟨rfl, if_neg (by simp), rfl, ?_⟩
        · show (if env.mqOk.expired = true then d.ns.store.enqueue (.deleteOld d.ns.mote.ID none)
            else d.ns.store).table = _
          cases env.mqOk.expired <;> rfl
        · show (if env.mqOk.expired = true then d.ns.store.enqueue (.deleteOld d.ns.mote.ID none)
            else d.ns.store).queue = _
          cases env.mqOk.expired with
          | true => rfl
          | false => exact (List.append_nil _).symm

/-- A forged frame for a live session of LoRaWAN 1.0. -/
theorem forged_uplink_refused :
    Refused plainUplink none .MICFailed (heardForged (sessionUntil 20) .zero)
      ((heardForged (sessionUntil 20) .zero).sNS_uplink BlockCipher.xorKey plainUplink none).2 := by
  have hresult : ((heardForged (sessionUntil 20) .zero).sNS_uplink BlockCipher.xorKey plainUplink
      none).1 = .MICFailed := by
    decide +kernel
  have hrefused := @refused_uplink BlockCipher.xorKey plainUplink none
    (heardForged (sessionUntil 20) .zero) (by rw [hresult]; decide)
  rwa [hresult] at hrefused

end Lorawan.NetworkServer

import Lorawan.NetworkServer.RowUpdates
import Lorawan.NetworkServer.SessionPruning

/-!
# Expired sessions of LoRaWAN 1.0 (network_server/sNS.c:1827-1857, 2637-2690, common.c:637-692)

A device whose session is over is booted off by the deletion of its sessions.
`sNS_uplink` goes on with the copy in memory unless `deleteOldSessions` returns
more than zero, and it returns what `mq_send` does. So the uplink is handled like
any other one.
-/

namespace Lorawan.NetworkServer
open Lorawan Lorawan.Backend Backend.mtype_e

variable (A : BlockCipher)

/-! ### The deletion -/

/-- `n = deleteOldSessions(..)` -/
def SqlCalls.deleteResult (c : SqlCalls) (motes : List MoteRow) (rows : List SessionRow)
    (devEui : ℕ) (all : Bool) : ℤ :=
  match c.deleteOldSessions motes rows devEui all with
  | none => -1
  | some _ => 0

/-- The test `n > 0` never holds. -/
theorem deleteResult_not_pos (c : SqlCalls) (motes : List MoteRow) (rows : List SessionRow)
    (devEui : ℕ) (all : Bool) : ¬0 < c.deleteResult motes rows devEui all := by
  unfold SqlCalls.deleteResult
  split <;> decide

/-- What an expired session leaves in the table once the queue is drained. -/
theorem settled_expire_boots {c : SqlCalls} {motes : List MoteRow} {rows : List SessionRow}
    {devEui : ℕ} {env : UplinkEnv} {ns : NS} (h : ns.mote.sessionExpired = true)
    (hneg : env.OptNeg = false) (hmq : env.mqOk.expired = c.mqOk)
    (hID : ns.mote.ID = c.moteID motes devEui) :
    (expire env ns).settled =
      (c.deleteOldSessions motes rows devEui true).elim ns.settled (execute ns.settled) := by
  rw [expire_boots h hneg, hmq, hID]
  unfold SqlCalls.deleteOldSessions
  cases c.mqOk with
  | false => rfl
  | true => exact settled_enqueue ns _

/-! ### The payload of an uplink -/

/-- What `sNS_finish_phy_downlink` forwards: the payload after an FPort above 0. -/
def uplinkFRMPayload (m : Mote) : Option Octets :=
  let rxofs := 8 + FOptsLen m.ULPayloadBin
  if rxofs + 4 < m.ULPHYPayloadLen ∧ 0 < m.ULPayloadBin.getD rxofs 0 then
    some (Octets.slice m.ULPayloadBin (rxofs + 1) (m.ULPHYPayloadLen - 4 - (rxofs + 1)))
  else none

/-- `finish` calls it after a Success only (common.c:2056-2060). -/
def fDoneForwards (uplinkResult : Result) (m : Mote) : Option Octets :=
  if uplinkResult = .Success then uplinkFRMPayload m else none

/-! ### The property -/

/-- An uplink of a LoRaWAN 1.0 device whose session is over goes to `sNS_uplink`. -/
def ComesLate (env : UplinkEnv) (ns : NS) : Prop :=
  ns.overrun = false ∧ ns.mote.ULPHYPayloadLen ≠ 0 ∧ ns.mote.sessionExpired = true ∧
    env.OptNeg = false

/-- The uplink is not accepted, its counter is not stored, its payload not forwarded, and no
downlink is scheduled. -/
structure NotAccepted (env : UplinkEnv) (ns : NS) : Prop where
  result : (sNS_uplink A env ns).1 ≠ .Success
  accepted : (sNS_uplink A env ns).2.accepted = ns.accepted
  FCntUp : ∀ n devAddr, Statement.setFCntUp n devAddr ∉
    (sNS_uplink A env ns).2.store.queue.drop ns.store.queue.length
  forwards : fDoneForwards (sNS_uplink A env ns).1 (sNS_uplink A env ns).2.mote = none
  calls : (sNS_uplink A env ns).2.calls = ns.calls
  downlink : (sNS_uplink A env ns).2.mote.s.PHYPayloadBin = ns.mote.s.PHYPayloadBin ∧
    (sNS_uplink A env ns).2.mote.s.PHYPayloadLen = ns.mote.s.PHYPayloadLen

/-- The property of an event of a run. -/
def RefusesLate (ns : NS) (e : Event) : Prop :=
  ∀ env, e = .uplink env → ComesLate env ns → NotAccepted A env ns

/-- The condition: the frame would be refused in a live session too, as a replay or for its MIC. -/
def RefusedAnyway (ns : NS) (e : Event) : Prop :=
  ∀ env, e = .uplink env → ComesLate env ns → verifies A env ns.mote = false

/-! ### A device that does not join again -/

/-- A confirmed uplink with a payload for the FPort 1. -/
def lateFrame : Octets :=
  let msg := [mhdr MTYPE_CONF_UP] ++ Octets.ofNat 4 sampleDevAddr ++ [0] ++ Octets.ofNat 2 1 ++
    [1, 0xaa]
  let block := block_t.mk 0x49 0 0 0 0 sampleDevAddr 1 0 10
  msg ++ LoRa_GenerateDataFrameIntegrityCode BlockCipher.xorKey block sampleKey msg

/-- The session was over at 5, and the frame is heard at the time 10. -/
def overServer : NS := .init [sessionUntil 5] 1 (.init 1 sampleDevAddr)

def lateReception : List Event := [.window, .receive lateFrame 1, .load false true 10]

def lateHeard : NS := Machine.run (step BlockCipher.xorKey) overServer lateReception

def lateUplink (deletes : Bool) : UplinkEnv :=
  { plainUplink with mqOk := { UplinkQueued.all true with expired := deletes } }

/-- The result, what is accepted, forwarded, scheduled and stored. -/
def lateOutcome (deletes : Bool) :
    Result × List Accepted × Option Octets × ℕ × ℕ × List Statement :=
  let (result, ns) := sNS_uplink BlockCipher.xorKey (lateUplink deletes) lateHeard
  (result, ns.accepted, fDoneForwards result ns.mote, ns.calls.length, ns.mote.s.PHYPayloadLen,
    ns.store.queue)

/-- Whether or not the sessions are deleted, the uplink is accepted, its payload is forwarded, a
downlink is scheduled and the counter is stored. -/
theorem late_uplink_accepted :
    (¬Machine.Along (step BlockCipher.xorKey) (RefusesLate BlockCipher.xorKey) overServer
        (lateReception ++ [.uplink (lateUplink true)]) ∧
      lateOutcome true = (.Success, [⟨0, 1, 1⟩], some [0xaa], 1, 12,
        [.deleteOld 1 none, .setFCntUp 1 sampleDevAddr])) ∧
    ¬Machine.Along (step BlockCipher.xorKey) (RefusesLate BlockCipher.xorKey) overServer
        (lateReception ++ [.uplink (lateUplink false)]) ∧
      lateOutcome false = (.Success, [⟨0, 1, 1⟩], some [0xaa], 1, 12,
        [.setFCntUp 1 sampleDevAddr]) := by
  have hlate : ∀ deletes, ComesLate (lateUplink deletes) lateHeard := by
    intro deletes
    exact ⟨by decide +kernel, by decide +kernel, by decide +kernel, rfl⟩
  have hresult : ∀ deletes, (lateOutcome deletes).1 = .Success := by decide +kernel
  have haccepted : ∀ deletes,
      ¬Machine.Along (step BlockCipher.xorKey) (RefusesLate BlockCipher.xorKey) overServer
        (lateReception ++ [.uplink (lateUplink deletes)]) := by
    intro deletes h
    have hlast := ((Machine.along_append ..).mp h).2.1
    exact (hlast _ rfl (hlate deletes)).result (hresult deletes)
  exact ⟨⟨haccepted true, by decide +kernel⟩, haccepted false, by decide +kernel⟩

/-! ### When it is refused -/

variable {A} {env : UplinkEnv} {ns : NS}

theorem expire_queue (h : ns.mote.sessionExpired = true) (hneg : env.OptNeg = false) (n devAddr : ℕ) :
    Statement.setFCntUp n devAddr ∉ (expire env ns).store.queue.drop ns.store.queue.length := by
  rw [expire_boots h hneg]
  cases hmq : env.mqOk.expired with
  | false => simp
  | true => simp [WriteBehind.Store.enqueue]

theorem notAccepted_of_refused (hlate : ComesLate env ns)
    (hresult : (sNS_uplink A env ns).1 ≠ .Success) : NotAccepted A env ns := by
  obtain ⟨-, -, hexpired, hneg⟩ := hlate
  have hlive := session_of_expired hexpired
  obtain ⟨s, len, hrestored, heq⟩ := sNS_uplink_refused hlive hresult
  have hboots := expire_boots hexpired hneg
  obtain ⟨hbin, hlen, -⟩ := hrestored.frame (Or.inr (Or.inl hneg))
  constructor
  · exact hresult
  · rw [heq, hboots]
  · intro n devAddr
    rw [heq]
    exact expire_queue hexpired hneg n devAddr
  · exact if_neg hresult
  · rw [heq, hboots]
  · rw [heq]
    show s.PHYPayloadBin = _ ∧ s.PHYPayloadLen = _
    rw [hbin, hlen, hboots]
    exact ⟨rfl, rfl⟩

theorem notAccepted_iff (hlate : ComesLate env ns) :
    NotAccepted A env ns ↔ verifies A env ns.mote = false := by
  have hlive := session_of_expired hlate.2.2.1
  have hresult : (sNS_uplink A env ns).1 ≠ .Success ↔ verifies A env ns.mote = false := by
    rw [sNS_uplink_result, ne_eq, receiveUplink_verifies hlive, Bool.not_eq_true]
  constructor
  · intro h
    exact hresult.mp h.result
  · intro h
    exact notAccepted_of_refused hlate (hresult.mpr h)

/-- In every run, the late uplinks are all refused if and only if each would be refused in a live
session. -/
theorem late_uplinks_iff (A : BlockCipher) (rows : List SessionRow) (nextSerial ID devAddr : ℕ)
    (es : List Event) :
    Machine.Along (step A) (RefusesLate A) (.init rows nextSerial (.init ID devAddr)) es ↔
      Machine.Along (step A) (RefusedAnyway A) (.init rows nextSerial (.init ID devAddr)) es := by
  constructor
  · apply Machine.along_mono
    intro ns e h env he hlate
    exact (notAccepted_iff hlate).mp (h env he hlate)
  · apply Machine.along_mono
    intro ns e h env he hlate
    exact (notAccepted_iff hlate).mpr (h env he hlate)

end Lorawan.NetworkServer

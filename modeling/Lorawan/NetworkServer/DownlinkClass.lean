import Mathlib.Data.Nat.Digits.Defs
import Lorawan.NetworkServer.AppBookkeeping
import Lorawan.NetworkServer.MoteList

/-!
# The class a downlink is sent in (network_server/sNS.c:2361-2498, 2790-2802, common.c:2584-2616, ns.h:425-445)

`downlinkBC` decides by the device's profile whether a payload is sent at once, in class B or in
class C, or waits for the next uplink. The profile is read column by column as text;
`deviceProfileReq` leaves the buffer as it was when it finds nothing. What is sent, and the answers,
are those of `AppDownlink`.
-/

namespace Lorawan.NetworkServer
open Lorawan Lorawan.Backend

/-! ### Columns of the profile -/

/-- The members of `DeviceProfile_t` that `downlinkBC` reads. -/
structure ClassProfile where
  SupportsClassB : Bool
  ClassBTimeout : UInt32
  SupportsClassC : Bool
  ClassCTimeout : UInt32
deriving DecidableEq

inductive ClassColumn
  | SupportsClassB
  | ClassBTimeout
  | SupportsClassC
  | ClassCTimeout
deriving DecidableEq

/-- A column as the SQL server prints it. -/
def ClassProfile.column (p : ClassProfile) : ClassColumn → List Char
  | .SupportsClassB => Text.print 10 p.SupportsClassB.toNat
  | .ClassBTimeout => Text.print 10 p.ClassBTimeout.toNat
  | .SupportsClassC => Text.print 10 p.SupportsClassC.toNat
  | .ClassCTimeout => Text.print 10 p.ClassCTimeout.toNat

structure ProfileTables where
  motes : List MoteRow
  sessions : List SessionRow
  DeviceProfiles : List (ℕ × ClassProfile)
deriving DecidableEq

/-- `getMoteID`; 0 when there is none. -/
def ProfileTables.getMoteID (db : ProfileTables) (devEui devAddr : ℕ) : ℕ :=
  if devEui ≠ NONE_DEVEUI then getMoteIDfromDevEUI db.motes devEui
  else NetworkServer.getMoteID db.sessions devAddr

/-- Which statements of a call of `deviceProfileReq` the SQL server answers. -/
structure ProfileCall where
  idOk : Bool
  profileOk : Bool
deriving DecidableEq

/-- The row that a call of `deviceProfileReq` gets. -/
def ProfileTables.row (db : ProfileTables) (c : ProfileCall) (devEui devAddr : ℕ) :
    Option ClassProfile :=
  let m_id := if c.idOk then db.getMoteID devEui devAddr else 0
  if m_id = 0 then none
  else if c.profileOk = false then none
  else (db.DeviceProfiles.find? (·.1 = m_id)).map (·.2)

/-- `deviceProfileReq`, with the text that `out` holds afterwards. -/
def deviceProfileReq (db : ProfileTables) (c : ProfileCall) (devEui devAddr : ℕ)
    (elementName : ClassColumn) (outSize : ℕ) (out : List Char) : ℤ × List Char :=
  match db.row c devEui devAddr with
  | none => (-1, out)
  | some p => (0, (p.column elementName).take outSize)

/-! ### downlinkBC -/

/-- The argument `classMode` of `sNS_finish_phy_downlink`. -/
inductive ClassMode
  | B
  | C
deriving DecidableEq

def ClassMode.timeout : ClassMode → ClassColumn
  | .B => .ClassBTimeout
  | .C => .ClassCTimeout

def CLASS_C : UInt8 := 2

/-- What surrounds a call of `downlinkBC`. -/
structure ClassEnv where
  db : ProfileTables
  devEui : ℕ
  /-- `sql.OptNeg` -/
  OptNeg : Bool
  /-- The calls of `deviceProfileReq`: for the counter that is needed, for the two flags and for
  the timeout. -/
  callNeeded : ProfileCall
  callB : ProfileCall
  callC : ProfileCall
  callTimeout : ProfileCall
  /-- What the buffers and `n` hold before they are written. -/
  bufNeeded : List Char
  bufB : List Char
  bufC : List Char
  n : ℕ
  now : ℕ
  junk : Octets
  send : ClassMode → SendEnv

/-- The server with what decides about the class. -/
structure ClassState (R D : Type) where
  app : AppState R D
  /-- `resendAt`, where it is not 0. -/
  resendAt : ℕ
  ping_period : UInt16
  classModeInd : UInt8
  /-- History: the classes in which `downlinkBC` went on to send. -/
  handed : List ClassMode
  /-- History: the last request is a confirmed downlink that was sent at once, or is deferred, and
  since then neither an ACK came nor did it fail. -/
  awaitsAck : Bool

namespace ClassState

variable {R D : Type} (E : JsonEnv R D) (A : BlockCipher)

def init (rows : List SessionRow) (nextSerial ID devAddr : ℕ) : ClassState R D :=
  ⟨.init E rows nextSerial ID devAddr, 0, 0, 0, [], false⟩

/-- `deviceProfileReq` into a buffer of 32 octets. -/
def read (env : ClassEnv) (t : ClassState R D) (c : ProfileCall) (elementName : ClassColumn)
    (buf : List Char) : List Char :=
  (deviceProfileReq env.db c env.devEui t.app.ns.mote.devAddr elementName 32 buf).2

/-- The frame was handed over with the result Success. -/
def isSent (send : SendEnv) (ns : NS) : Bool :=
  decide (ns.mote.s.PHYPayloadLen ≠ 0 ∧ send.aborted = false ∧ send.result = some true)

/-- History: what becomes of `awaitsAck` when the frame is handed over. -/
def awaitsAfter (send : SendEnv) (ns : NS) (awaitsAck : Bool) : Bool :=
  if ns.mote.s.PHYPayloadLen = 0 then awaitsAck
  else ns.mote.s.md.Confirmed && !send.aborted && decide (send.result ≠ some false)

def scheduled (env : ClassEnv) (classMode : ClassMode) (t : ClassState R D) : ClassState R D :=
  { t with
    app := t.app.mapNS (schedule A env.junk)
    handed := t.handed ++ [classMode] }

def finished (send : SendEnv) (ans : AnsEnv R) (httpd : Bool) (t : ClassState R D) :
    ClassState R D :=
  { t with
    app := t.app.sNS_finish_phy_downlink E send ans httpd
    awaitsAck := awaitsAfter send t.app.ns t.awaitsAck }

/-- `resendAt` is set when the timeout is not zero. -/
def resendAfter (now n : ℕ) (t : ClassState R D) : ClassState R D :=
  if 0 < n then
    { t with
      app := t.app.mapNS (mapS fun s => { s with resend := true })
      resendAt := now + n }
  else t

/-- The part of `downlinkBC` that each class has. `buf` holds what was read of the class's flag. -/
def sendNow (env : ClassEnv) (classMode : ClassMode) (buf : List Char) (ans : AnsEnv R)
    (httpd : Bool) (t : ClassState R D) : Option Result × ClassState R D :=
  let n := (Text.scan 10 32 (t.read env env.callTimeout classMode.timeout buf)).getD env.n
  let t := t.scheduled A env classMode
  if t.app.ns.overrun then (none, t)
  else
    let result := finishResult (env.send classMode) ans t.app.ns
    let sent := isSent (env.send classMode) t.app.ns
    let t := t.finished E (env.send classMode) ans httpd
    if sent && t.app.ns.mote.s.md.Confirmed then (none, t.resendAfter env.now n) else (result, t)

/-- LoRaWAN 1.1 tells the class of the device, LoRaWAN 1.0 does not. -/
def mayHear (t : ClassState R D) : Bool :=
  let OptNeg := t.app.ns.mote.session.OptNeg
  (OptNeg && decide (t.classModeInd = CLASS_C)) || !OptNeg

/-- `downlinkBC`, and what it returns. -/
def downlinkBC (env : ClassEnv) (ans : AnsEnv R) (httpd : Bool) (t : ClassState R D) :
    Option Result × ClassState R D :=
  let buf := if 0 < t.ping_period then t.read env env.callB .SupportsClassB env.bufB else env.bufB
  -- the octet 1 is asked for, not the digit
  let Benabled := decide (0 < t.ping_period) && decide (buf.head? = some '\x01')
  let t := { t with app := t.app.mapNS (mapS fun s => { s with resend := false }) }
  if 0 < t.ping_period ∧ Benabled then t.sendNow E A env .B buf ans httpd
  else
    let buf := t.read env env.callC .SupportsClassC env.bufC
    if buf.head? = some '1' then
      if t.mayHear then
        t.sendNow E A env .C buf ans httpd
      else (none, t)
    else (none, t)

/-- What `hNS_to_sNS_downlink` knows when it compares the counter with the one that is needed. -/
def neededEnv (env : ClassEnv) (t : ClassState R D) : DownlinkEnv where
  OptNeg := env.OptNeg
  classC := decide ((t.read env env.callNeeded .SupportsClassC env.bufNeeded).head? = some '1')
  now := false
  timeout := false
  junk := env.junk
  send := env.send .C

def hNS_to_sNS_downlink (env : ClassEnv) (ans : AnsEnv R) (md : DLMetaData) (q : Incoming)
    (t : ClassState R D) : ClassState R D :=
  if refuses (t.neededEnv env) md t.app.ns.mote then t
  else
    match savePayload md q.payload t.app.ns.mote.s with
    | none => { t with app := t.app.mapNS fun ns => { ns with overrun := true } }
    | some s =>
      let (result, t) :=
        { t with app := t.app.save ans q s, awaitsAck := false }.downlinkBC E A env ans true
      if result.isSome then { t with app := { t.app with served := t.app.served.reply } } else t

/-- The end of `sNS_service`. -/
def sNS_service (env : ClassEnv) (ans : AnsEnv R) (t : ClassState R D) : ClassState R D :=
  if t.app.ns.mote.s.resend ∧ t.resendAt ≤ env.now then
    let (result, t') := t.downlinkBC E A env ans false
    let t' := { t' with awaitsAck := t.awaitsAck && t'.awaitsAck }
    match result with
    | none => t'
    | some result => { t' with app := t'.app.answer_app_downlink E ans result false }
  else t

/-! ### What is claimed -/

/-- The profile of the device. -/
def profile (env : ClassEnv) (t : ClassState R D) : Option ClassProfile :=
  env.db.row ⟨true, true⟩ env.devEui t.app.ns.mote.devAddr

def supports (env : ClassEnv) (t : ClassState R D) : ClassMode → Bool
  | .B => (t.profile env).any (·.SupportsClassB)
  | .C => (t.profile env).any (·.SupportsClassC)

def timeoutOf (env : ClassEnv) (t : ClassState R D) : ClassMode → ℕ
  | .B => ((t.profile env).map (·.ClassBTimeout.toNat)).getD 0
  | .C => ((t.profile env).map (·.ClassCTimeout.toNat)).getD 0

/-- A device of LoRaWAN 1.1 tells its class. -/
def inClassC (t : ClassState R D) : Prop :=
  t.app.ns.mote.session.OptNeg = true → t.classModeInd = CLASS_C

instance (t : ClassState R D) : Decidable t.inClassC := by
  unfold inClassC
  infer_instance

/-- The class that a payload is to be sent in at once. -/
def claimedClass (env : ClassEnv) (t : ClassState R D) : Option ClassMode :=
  if 0 < t.ping_period ∧ t.supports env .B then some .B
  else if t.supports env .C ∧ t.inClassC then some .C
  else none

/-- The time at which the downlink is sent again. -/
def resendTime (t : ClassState R D) : Option ℕ :=
  if t.app.ns.mote.s.resend then some t.resendAt else none

def noResend (t : ClassState R D) : ClassState R D :=
  { t with app := t.app.mapNS (mapS fun s => { s with resend := false }) }

/-- A confirmed downlink is sent, with the result Success. -/
def SendsConfirmed (env : ClassEnv) (classMode : ClassMode) (t : ClassState R D) : Prop :=
  let ns := (t.noResend.scheduled A env classMode).app.ns
  ns.overrun = false ∧ isSent (env.send classMode) ns = true ∧ ns.mote.s.md.Confirmed = true

/-- The payload is sent in the class that is claimed, or stays; a confirmed one is sent again after
the timeout of the class. -/
structure ByClass (env : ClassEnv) (ans : AnsEnv R) (httpd : Bool) (t : ClassState R D) : Prop where
  handed : (t.downlinkBC E A env ans httpd).2.handed = t.handed ++ (t.claimedClass env).toList
  kept : t.claimedClass env = none → t.downlinkBC E A env ans httpd = (none, t.noResend)
  resends : ∀ classMode ∈ t.claimedClass env, t.SendsConfirmed A env classMode →
    (t.downlinkBC E A env ans httpd).1 = none ∧
      (t.downlinkBC E A env ans httpd).2.resendTime =
        if t.timeoutOf env classMode = 0 then none
        else some (env.now + t.timeoutOf env classMode)

/-! ### The condition -/

/-- The row that a call gets for the device. -/
def row (env : ClassEnv) (t : ClassState R D) (c : ProfileCall) : Option ClassProfile :=
  env.db.row c env.devEui t.app.ns.mote.devAddr

/-- The flag of class C is read, or the buffer happens to hold it. -/
def ReadsC (env : ClassEnv) (t : ClassState R D) : Prop :=
  t.inClassC →
    (t.row env env.callC).isSome = true ∨
      (env.bufC.head? = some '1' ↔ t.supports env .C = true)

/-- Class B is not supported, or no ping period is known, and the flags are read. A flag of class B
that is not read is taken for set where the buffer begins with the octet 1. -/
def ReadsFlags (env : ClassEnv) (t : ClassState R D) : Prop :=
  if 0 < t.ping_period then
    if (t.row env env.callB).isSome then t.supports env .B = false ∧ t.ReadsC env
    else if t.supports env .B then env.bufB.head? = some '\x01'
    else env.bufB.head? ≠ some '\x01' ∧ t.ReadsC env
  else t.ReadsC env

/-- What is in the buffer after the flag of the class was asked for. -/
def flagText (env : ClassEnv) (t : ClassState R D) : ClassMode → List Char
  | .B => if 0 < t.ping_period then t.read env env.callB .SupportsClassB env.bufB else env.bufB
  | .C => t.read env env.callC .SupportsClassC env.bufC

/-- The timeout is read, or what is left in the buffer is the same number. -/
def ReadsTimeout (env : ClassEnv) (classMode : ClassMode) (t : ClassState R D) : Prop :=
  (t.row env env.callTimeout).isSome = true ∨
    (Text.scan 10 32 (t.flagText env classMode)).getD env.n = t.timeoutOf env classMode

/-- The columns are read that the class and the resend time depend on. -/
def ReadsProfile (env : ClassEnv) (t : ClassState R D) : Prop :=
  t.ReadsFlags env ∧ ∀ classMode ∈ t.claimedClass env,
    t.SendsConfirmed A env classMode → t.ReadsTimeout env classMode

/-! ### Reading the profile -/

variable {E} {A}

theorem print_lt {n : ℕ} (h : n < 2 ^ 32) : (Text.print 10 n).length ≤ 10 := by
  have hlt : n < 10 ^ 10 := by omega
  exact Nat.toDigitsCore_length 10 (n + 1) n 10 (by decide) hlt

theorem length_column (p : ClassProfile) (c : ClassColumn) : (p.column c).length ≤ 10 := by
  have hbool : ∀ b : Bool, b.toNat < 2 ^ 32 := by decide
  cases c with
  | SupportsClassB => exact print_lt (hbool _)
  | ClassBTimeout => exact print_lt p.ClassBTimeout.toNat_lt
  | SupportsClassC => exact print_lt (hbool _)
  | ClassCTimeout => exact print_lt p.ClassCTimeout.toNat_lt

theorem read_of_none {env : ClassEnv} {t : ClassState R D} {c : ProfileCall}
    (h : t.row env c = none) (elementName : ClassColumn) (buf : List Char) :
    t.read env c elementName buf = buf := by
  unfold row at h
  rw [read, deviceProfileReq, h]

theorem read_of_some {env : ClassEnv} {t : ClassState R D} {c : ProfileCall} {p : ClassProfile}
    (h : t.row env c = some p) (elementName : ClassColumn) (buf : List Char) :
    t.read env c elementName buf = p.column elementName := by
  unfold row at h
  have hlen := length_column p elementName
  rw [read, deviceProfileReq, h]
  exact List.take_of_length_le (by omega)

theorem profile_of_row {env : ClassEnv} {t : ClassState R D} {c : ProfileCall} {p : ClassProfile}
    (h : t.row env c = some p) : t.profile env = some p := by
  obtain ⟨idOk, profileOk⟩ := c
  unfold row ProfileTables.row at h
  dsimp only at h
  cases profileOk with
  | false =>
    rw [if_pos rfl, ite_self] at h
    cases h
  | true =>
    cases idOk with
    | false =>
      rw [if_neg Bool.false_ne_true, if_pos rfl] at h
      cases h
    | true => exact h

theorem head?_flag (b : Bool) : (Text.print 10 b.toNat).head? = some (if b then '1' else '0') := by
  cases b <;> rfl

theorem scan_timeout (n : UInt32) : Text.scan 10 32 (Text.print 10 n.toNat) = some n.toNat :=
  Text.scan_print 32 n.toNat (by decide) (by decide) (by decide) n.toNat_lt

theorem read_C {env : ClassEnv} {t : ClassState R D} :
    ((t.flagText env .C).head? = some '1' ↔ t.supports env .C = true) ↔
      (t.row env env.callC).isSome = true ∨
        (env.bufC.head? = some '1' ↔ t.supports env .C = true) := by
  show ((t.read env env.callC .SupportsClassC env.bufC).head? = some '1' ↔ _) ↔ _
  cases hrow : t.row env env.callC with
  | none =>
    rw [read_of_none hrow]
    simp
  | some p =>
    rw [read_of_some hrow, supports, profile_of_row hrow]
    simp [ClassProfile.column, head?_flag]

theorem read_B {env : ClassEnv} {t : ClassState R D} (hping : 0 < t.ping_period) :
    (t.flagText env .B).head? = some '\x01' ↔
      t.row env env.callB = none ∧ env.bufB.head? = some '\x01' := by
  rw [flagText, if_pos hping]
  cases hrow : t.row env env.callB with
  | none =>
    rw [read_of_none hrow]
    simp
  | some p =>
    rw [read_of_some hrow, ClassProfile.column, head?_flag]
    cases p.SupportsClassB <;> simp

/-- The number that is taken for the timeout. -/
def timeoutRead (env : ClassEnv) (t : ClassState R D) (classMode : ClassMode) : ℕ :=
  (Text.scan 10 32 (t.read env env.callTimeout classMode.timeout (t.flagText env classMode))).getD
    env.n

theorem timeoutRead_eq_iff {env : ClassEnv} {t : ClassState R D} {classMode : ClassMode} :
    t.timeoutRead env classMode = t.timeoutOf env classMode ↔ t.ReadsTimeout env classMode := by
  unfold timeoutRead ReadsTimeout
  cases hrow : t.row env env.callTimeout with
  | none =>
    rw [read_of_none hrow]
    simp
  | some p =>
    rw [read_of_some hrow]
    cases classMode <;>
      simp [timeoutOf, profile_of_row hrow, ClassMode.timeout, ClassProfile.column, scan_timeout]

/-! ### The class that is chosen -/

/-- The class that `downlinkBC` chooses. -/
def classOf (env : ClassEnv) (t : ClassState R D) : Option ClassMode :=
  if 0 < t.ping_period ∧ (t.flagText env .B).head? = some '\x01' then some .B
  else if (t.flagText env .C).head? = some '1' ∧ t.inClassC then some .C
  else none

theorem mayHear_iff (t : ClassState R D) : t.mayHear = true ↔ t.inClassC := by
  unfold mayHear inClassC
  cases t.app.ns.mote.session.OptNeg <;> simp

theorem downlinkBC_eq (env : ClassEnv) (ans : AnsEnv R) (httpd : Bool) (t : ClassState R D) :
    t.downlinkBC E A env ans httpd =
      match t.classOf env with
      | none => (none, t.noResend)
      | some classMode => t.noResend.sendNow E A env classMode (t.flagText env classMode) ans httpd := by
  have hiff := mayHear_iff t
  show (if 0 < t.ping_period ∧ (decide (0 < t.ping_period) &&
      decide ((t.flagText env .B).head? = some '\x01')) = true then
        t.noResend.sendNow E A env .B (t.flagText env .B) ans httpd
      else if (t.flagText env .C).head? = some '1' then
        if t.mayHear then
          t.noResend.sendNow E A env .C (t.flagText env .C) ans httpd
        else (none, t.noResend)
      else (none, t.noResend)) = _
  unfold classOf
  by_cases hB : 0 < t.ping_period ∧ (t.flagText env .B).head? = some '\x01'
  · rw [if_pos hB, if_pos (by simp [hB])]
  · rw [if_neg hB, if_neg (by simpa using hB)]
    by_cases hC : (t.flagText env .C).head? = some '1'
    · by_cases hin : t.inClassC
      · rw [if_pos hC, if_pos (hiff.mpr hin), if_pos ⟨hC, hin⟩]
      · rw [if_pos hC, if_neg (mt hiff.mp hin), if_neg (fun h => hin h.2)]
    · rw [if_neg hC, if_neg (fun h => hC h.1)]

/-- The class, when it is not B. -/
def orC (c : Prop) [Decidable c] : Option ClassMode := if c then some .C else none

theorem orC_ne_B (c : Prop) [Decidable c] : orC c ≠ some .B := by
  unfold orC
  split
  · decide
  · decide

theorem orC_eq_iff {env : ClassEnv} {t : ClassState R D} :
    orC ((t.flagText env .C).head? = some '1' ∧ t.inClassC) =
      orC (t.supports env .C = true ∧ t.inClassC) ↔ t.ReadsC env := by
  unfold ReadsC orC
  rw [← read_C]
  by_cases hin : t.inClassC
  · simp only [hin, and_true, true_imp_iff]
    by_cases hread : (t.flagText env .C).head? = some '1'
    · by_cases hset : t.supports env .C = true <;> simp [hread, hset]
    · by_cases hset : t.supports env .C = true <;> simp [hread, hset]
  · simp [hin]

theorem classOf_eq_iff (env : ClassEnv) (t : ClassState R D) :
    t.classOf env = t.claimedClass env ↔ t.ReadsFlags env := by
  show (if 0 < t.ping_period ∧ (t.flagText env .B).head? = some '\x01' then some ClassMode.B
      else orC ((t.flagText env .C).head? = some '1' ∧ t.inClassC)) =
    (if 0 < t.ping_period ∧ t.supports env .B = true then some ClassMode.B
      else orC (t.supports env .C = true ∧ t.inClassC)) ↔ _
  unfold ReadsFlags
  by_cases hping : 0 < t.ping_period
  · simp only [hping, true_and, if_true, read_B hping]
    cases hrow : t.row env env.callB with
    | none =>
      simp only [true_and, Option.isSome_none, Bool.false_eq_true, if_false]
      by_cases hset : t.supports env .B = true
      · by_cases hbuf : env.bufB.head? = some '\x01'
        · simp [hset, hbuf]
        · simp [hset, hbuf, orC_ne_B]
      · by_cases hbuf : env.bufB.head? = some '\x01'
        · simp [hset, hbuf, (orC_ne_B _).symm]
        · simp [hset, hbuf, orC_eq_iff]
    | some p =>
      simp only [reduceCtorEq, false_and, if_false, Option.isSome_some, if_true]
      by_cases hset : t.supports env .B = true
      · simp [hset, orC_ne_B]
      · simp [hset, orC_eq_iff]
  · simp only [hping, false_and, if_false]
    exact orC_eq_iff

/-! ### What is sent -/

/-- What sending leaves as it is. -/
def asked (ns : NS) : DLMetaData × Bool := (ns.mote.s.md, ns.mote.s.resend)

theorem asked_of_pending {ns ns' : NS} (h : ns'.mote.s.pending = ns.mote.s.pending) :
    asked ns' = asked ns := by
  obtain ⟨-, -, hmd, hresend, -⟩ := pending_eq h
  simp only [asked, hmd, hresend]

theorem asked_answer (ok : Bool) (ns : NS) :
    asked (NetworkServer.answer_app_downlink ok ns) = asked ns := by
  cases ok <;> rfl

theorem asked_answerPending (send : SendEnv) (ns : NS) :
    asked (NetworkServer.answerPending send ns) = asked ns := by
  unfold NetworkServer.answerPending
  split
  · exact asked_answer _ _
  · rfl

theorem asked_answerUnconfirmed (send : SendEnv) (ns : NS) :
    asked (answerUnconfirmed send ns) = asked ns := by
  unfold answerUnconfirmed
  split
  · exact asked_answer send.answerOk ns
  · rfl

theorem asked_downlinkSent (send : SendEnv) (success : Bool) (ns : NS) :
    asked (NetworkServer.sNSDownlinkSent send success ns) = asked ns := by
  unfold NetworkServer.sNSDownlinkSent
  rw [asked_answerUnconfirmed]
  cases success with
  | true => exact asked_of_pending (pending_frameSent send ns)
  | false => rfl

theorem asked_finish (send : SendEnv) (ns : NS) :
    asked (NetworkServer.sNS_finish_phy_downlink send ns) = asked ns := by
  have hover := asked_of_pending (pending_transmit send ns)
  unfold NetworkServer.sNS_finish_phy_downlink
  split
  · exact asked_answerPending send ns
  · split
    · rfl
    · dsimp only
      rw [asked_answerPending]
      cases send.result with
      | none => exact hover
      | some success => exact (asked_downlinkSent send success _).trans hover

theorem asked_finish_app (send : SendEnv) (ans : AnsEnv R) (httpd : Bool) (a : AppState R D) :
    asked (a.sNS_finish_phy_downlink E send ans httpd).ns = asked a.ns := by
  obtain ⟨ok, hok⟩ := ns_finish E a send ans httpd
  rw [hok]
  exact asked_finish _ _

@[simp] theorem handed_resendAfter (now n : ℕ) (t : ClassState R D) :
    (t.resendAfter now n).handed = t.handed := by
  unfold resendAfter
  split <;> rfl

theorem resendTime_resendAfter (now n : ℕ) {t : ClassState R D}
    (h : t.app.ns.mote.s.resend = false) :
    (t.resendAfter now n).resendTime = if n = 0 then none else some (now + n) := by
  unfold resendAfter
  by_cases hn : n = 0
  · rw [if_pos hn, if_neg (by omega), resendTime, h, if_neg Bool.false_ne_true]
  · rw [if_neg hn, if_pos (by omega)]
    rfl

@[simp] theorem awaitsAck_resendAfter (now n : ℕ) (t : ClassState R D) :
    (t.resendAfter now n).awaitsAck = t.awaitsAck := by
  unfold resendAfter
  split <;> rfl

/-- The frame leaves an array, or it is sent and confirmed, or the result is returned. -/
theorem sendNow_cases (env : ClassEnv) (classMode : ClassMode) (buf : List Char) (ans : AnsEnv R)
    (httpd : Bool) (t : ClassState R D) :
    let n := (Text.scan 10 32 (t.read env env.callTimeout classMode.timeout buf)).getD env.n
    let t₁ := t.scheduled A env classMode
    let t₂ := t₁.finished E (env.send classMode) ans httpd
    let out := t.sendNow E A env classMode buf ans httpd
    (t₁.app.ns.overrun = true ∧ out = (none, t₁)) ∨
      (t₁.app.ns.overrun = false ∧
        (isSent (env.send classMode) t₁.app.ns && t₂.app.ns.mote.s.md.Confirmed) = true ∧
          out = (none, t₂.resendAfter env.now n)) ∨
      (t₁.app.ns.overrun = false ∧
        (isSent (env.send classMode) t₁.app.ns && t₂.app.ns.mote.s.md.Confirmed) = false ∧
          out = (finishResult (env.send classMode) ans t₁.app.ns, t₂)) := by
  intro n t₁ t₂ out
  by_cases hover : t₁.app.ns.overrun = true
  · exact Or.inl ⟨hover, if_pos hover⟩
  · have hok := Bool.eq_false_iff.mpr hover
    by_cases hsent :
        (isSent (env.send classMode) t₁.app.ns && t₂.app.ns.mote.s.md.Confirmed) = true
    · exact Or.inr (Or.inl ⟨hok, hsent, (if_neg hover).trans (if_pos hsent)⟩)
    · exact Or.inr (Or.inr ⟨hok, Bool.eq_false_iff.mpr hsent, (if_neg hover).trans (if_neg hsent)⟩)

theorem asked_finished (env : ClassEnv) (classMode : ClassMode) (ans : AnsEnv R) (httpd : Bool)
    (t : ClassState R D) :
    asked ((t.scheduled A env classMode).finished E (env.send classMode) ans httpd).app.ns =
      asked t.app.ns :=
  (asked_finish_app ..).trans (asked_of_pending (pending_schedule A env.junk t.app.ns))

theorem handed_sendNow (env : ClassEnv) (classMode : ClassMode) (buf : List Char) (ans : AnsEnv R)
    (httpd : Bool) (t : ClassState R D) :
    (t.sendNow E A env classMode buf ans httpd).2.handed = t.handed ++ [classMode] := by
  rcases sendNow_cases (E := E) (A := A) env classMode buf ans httpd t with
    ⟨-, hout⟩ | ⟨-, -, hout⟩ | ⟨-, -, hout⟩
  · rw [hout]
    rfl
  · rw [hout, handed_resendAfter]
    rfl
  · rw [hout]
    rfl

/-- What is returned for a confirmed downlink that was sent, and when it is sent again. -/
theorem resends_sendNow {env : ClassEnv} {classMode : ClassMode} {t : ClassState R D}
    (h : t.SendsConfirmed A env classMode) (ans : AnsEnv R) (httpd : Bool) :
    let out := t.noResend.sendNow E A env classMode (t.flagText env classMode) ans httpd
    out.1 = none ∧ out.2.resendTime = if t.timeoutRead env classMode = 0 then none
      else some (env.now + t.timeoutRead env classMode) := by
  intro out
  obtain ⟨hok, hsent, hconf⟩ := h
  have hasked := asked_finished (E := E) (A := A) env classMode ans httpd t.noResend
  obtain ⟨-, -, hmd, -, -⟩ := pending_eq (pending_schedule A env.junk t.noResend.app.ns)
  simp only [asked, Prod.mk.injEq] at hasked
  rcases sendNow_cases (E := E) (A := A) env classMode (t.flagText env classMode) ans httpd
    t.noResend with ⟨hover, -⟩ | ⟨-, -, hout⟩ | ⟨-, hnot, -⟩
  · cases hover.symm.trans hok
  · show (t.noResend.sendNow ..).1 = none ∧ (t.noResend.sendNow ..).2.resendTime = _
    rw [hout]
    exact ⟨rfl, resendTime_resendAfter env.now _ hasked.2⟩
  · rw [hsent, Bool.true_and, hasked.1, ← hmd] at hnot
    cases hconf.symm.trans hnot

theorem resendTime_eq_iff (now n k : ℕ) :
    ((if n = 0 then none else some (now + n)) = if k = 0 then none else some (now + k)) ↔ n = k := by
  by_cases hn : n = 0
  · by_cases hk : k = 0
    · simp [hn, hk]
    · simp [hn, hk, Ne.symm hk]
  · by_cases hk : k = 0
    · simp [hn, hk]
    · simp [hn, hk]

theorem handed_downlinkBC (env : ClassEnv) (ans : AnsEnv R) (httpd : Bool) (t : ClassState R D) :
    (t.downlinkBC E A env ans httpd).2.handed = t.handed ++ (t.classOf env).toList := by
  rw [downlinkBC_eq]
  cases t.classOf env with
  | none => exact (List.append_nil _).symm
  | some classMode => exact handed_sendNow ..

theorem toList_inj {x y : Option ClassMode} (h : x.toList = y.toList) : x = y := by
  cases x <;> cases y <;> simp_all

/-- A downlink goes out in the class that is claimed, with the resend time of that class, exactly
when the columns are read. -/
theorem byClass_iff (env : ClassEnv) (ans : AnsEnv R) (httpd : Bool) (t : ClassState R D) :
    t.ByClass E A env ans httpd ↔ t.ReadsProfile A env := by
  have hflags := classOf_eq_iff env t
  constructor
  · intro h
    have hclass : t.classOf env = t.claimedClass env := by
      have hlist := (handed_downlinkBC (E := E) (A := A) env ans httpd t).symm.trans h.handed
      exact toList_inj (List.append_cancel_left hlist)
    refine ⟨hflags.mp hclass, ?_⟩
    intro classMode hmode hsends
    have hresends := (h.resends classMode hmode hsends).2
    rw [downlinkBC_eq, hclass, hmode] at hresends
    rw [← timeoutRead_eq_iff, ← resendTime_eq_iff env.now, ← hresends]
    exact (resends_sendNow hsends ans httpd).2.symm
  · rintro ⟨hread, htimeout⟩
    have hclass := hflags.mpr hread
    refine ⟨?_, ?_, ?_⟩
    · rw [handed_downlinkBC, hclass]
    · intro hnone
      rw [downlinkBC_eq, hclass, hnone]
    · intro classMode hmode hsends
      have htime := timeoutRead_eq_iff.mpr (htimeout classMode hmode hsends)
      rw [downlinkBC_eq, hclass, hmode, ← htime]
      exact resends_sendNow hsends ans httpd

/-! ### The server of `AppDownlink` -/

/-- What the class decides for the server that does not know of it. -/
def classEnv (env : ClassEnv) (t : ClassState R D) : DownlinkEnv :=
  { t.neededEnv env with
    now := (t.classOf env).isSome
    timeout := (t.classOf env).any fun classMode => decide (0 < t.timeoutRead env classMode)
    send := (t.classOf env).elim (env.send .C) env.send }

theorem app_resendAfter (now n : ℕ) (t : ClassState R D) :
    (t.resendAfter now n).app =
      if decide (0 < n) then t.app.mapNS (mapS fun s => { s with resend := true }) else t.app := by
  unfold resendAfter
  by_cases hn : 0 < n
  · rw [if_pos hn, if_pos (decide_eq_true hn)]
  · rw [if_neg hn, if_neg (by simpa using hn)]

theorem downlinkBC_app (env : ClassEnv) (ans : AnsEnv R) (httpd : Bool) (t : ClassState R D) :
    t.app.downlinkBC E A (t.classEnv env) ans httpd =
      ((t.downlinkBC E A env ans httpd).1, (t.downlinkBC E A env ans httpd).2.app) := by
  rw [downlinkBC_eq]
  unfold AppState.downlinkBC classEnv
  cases t.classOf env with
  | none => rfl
  | some classMode =>
    dsimp only [Option.isSome_some, Option.any_some, Option.elim_some]
    rw [if_pos rfl]
    rcases sendNow_cases (E := E) (A := A) env classMode (t.flagText env classMode) ans httpd
      t.noResend with ⟨hover, hout⟩ | ⟨hok, hsent, hout⟩ | ⟨hok, hnot, hout⟩
    · rw [hout]
      exact if_pos hover
    · rw [hout, app_resendAfter]
      exact (if_neg (ne_true_of_eq_false hok)).trans (if_pos hsent)
    · rw [hout]
      exact (if_neg (ne_true_of_eq_false hok)).trans (if_neg (ne_true_of_eq_false hnot))

/-! ### Waiting for an ACK -/

theorem awaitsAfter_cases {send : SendEnv} {ns : NS} {awaitsAck : Bool}
    (h : awaitsAfter send ns awaitsAck = true) :
    awaitsAck = true ∨ ns.mote.s.md.Confirmed = true := by
  unfold awaitsAfter at h
  split at h
  · exact Or.inl h
  · rw [Bool.and_eq_true, Bool.and_eq_true] at h
    exact Or.inr h.1.1

/-- A frame with a result is not waited for, unless it is a confirmed one that was sent. -/
theorem awaitsAfter_of_result {send : SendEnv} {ans : AnsEnv R} {ns : NS} {awaitsAck : Bool}
    (hresult : finishResult send ans ns ≠ none)
    (hnot : (isSent send ns && ns.mote.s.md.Confirmed) = false) :
    awaitsAfter send ns awaitsAck = false := by
  obtain ⟨result, hsome⟩ := Option.ne_none_iff_exists'.mp hresult
  have hlen : ns.mote.s.PHYPayloadLen ≠ 0 := by
    intro hzero
    exact hresult (if_pos hzero)
  rw [awaitsAfter, if_neg hlen]
  rcases Bool.and_eq_false_iff.mp hnot with hsent | hunconf
  · rw [isSent, decide_eq_false_iff_not] at hsent
    rcases failed_of_finishResult hsome hsent with haborted | hfailed
    · simp [haborted]
    · simp [hfailed]
  · simp [hunconf]

/-- The downlink waits for an ACK when it waited before, or when it is a confirmed one. -/
theorem awaitsAck_sendNow {env : ClassEnv} {classMode : ClassMode} {buf : List Char}
    {ans : AnsEnv R} {httpd : Bool} {t : ClassState R D}
    (h : (t.sendNow E A env classMode buf ans httpd).2.awaitsAck = true) :
    t.awaitsAck = true ∨ t.app.ns.mote.s.md.Confirmed = true := by
  obtain ⟨-, -, hmd, -, -⟩ := pending_eq (pending_schedule A env.junk t.app.ns)
  rcases sendNow_cases (E := E) (A := A) env classMode buf ans httpd t with
    ⟨-, hout⟩ | ⟨-, -, hout⟩ | ⟨-, -, hout⟩
  · rw [hout] at h
    exact Or.inl h
  · rw [hout, awaitsAck_resendAfter] at h
    rw [← hmd]
    exact awaitsAfter_cases h
  · rw [hout] at h
    rw [← hmd]
    exact awaitsAfter_cases h

theorem awaitsAck_downlinkBC {env : ClassEnv} {ans : AnsEnv R} {httpd : Bool} {t : ClassState R D}
    (h : (t.downlinkBC E A env ans httpd).2.awaitsAck = true) :
    t.awaitsAck = true ∨ t.classOf env ≠ none ∧ t.app.ns.mote.s.md.Confirmed = true := by
  rw [downlinkBC_eq] at h
  cases hclass : t.classOf env with
  | none =>
    rw [hclass] at h
    exact Or.inl h
  | some classMode =>
    rw [hclass] at h
    exact (awaitsAck_sendNow h).imp_right fun hconf => ⟨Option.some_ne_none _, hconf⟩

theorem awaitsAck_of_result {env : ClassEnv} {ans : AnsEnv R} {httpd : Bool} {t : ClassState R D}
    (h : (t.downlinkBC E A env ans httpd).1 ≠ none) :
    (t.downlinkBC E A env ans httpd).2.awaitsAck = false := by
  rw [downlinkBC_eq] at h ⊢
  cases hclass : t.classOf env with
  | none =>
    rw [hclass] at h
    exact absurd rfl h
  | some classMode =>
    rw [hclass] at h
    dsimp only at h ⊢
    have hconf : ((t.noResend.scheduled A env classMode).finished E (env.send classMode) ans
        httpd).app.ns.mote.s.md.Confirmed =
          (t.noResend.scheduled A env classMode).app.ns.mote.s.md.Confirmed :=
      congrArg (fun p => p.1.Confirmed) (asked_finish_app (env.send classMode) ans httpd _)
    rcases sendNow_cases (E := E) (A := A) env classMode (t.flagText env classMode) ans httpd
      t.noResend with ⟨-, hout⟩ | ⟨-, -, hout⟩ | ⟨-, hnot, hout⟩
    · rw [hout] at h
      exact absurd rfl h
    · rw [hout] at h
      exact absurd rfl h
    · rw [hout] at h ⊢
      rw [hconf] at hnot
      exact awaitsAfter_of_result h hnot

end ClassState

end Lorawan.NetworkServer

import Lorawan.Lib.Query
import Lorawan.Lib.Text
import Lorawan.NetworkServer.MoteList
import Lorawan.NetworkServer.UplinkReplay

/-!
# The device's newest session (network_server/common.c:543-571, 637-692, 1032-1077, hNS.c:360-403)

`deleteOldSessions` reads from which time on the sessions of a device are kept,
and queues the statement that deletes the older ones; `getAppSKeyEnvelope` reads
the newest one. Both ask for the greatest `createdAt` of all devices.
-/

namespace Lorawan.NetworkServer
open Lorawan Lorawan.Backend

/-- A row of `sessions` with the columns of the AppSKey. -/
structure AppSession extends SessionRow where
  AS_KEK_label : Option (List Char)
  AS_KEK_key : Option Octets
deriving DecidableEq

/-- Which calls succeed: the query of the ID, the one of `sessions`, and `mq_send`. -/
structure SqlCalls where
  idOk : Bool
  sessionsOk : Bool
  mqOk : Bool
deriving DecidableEq

/-- `ID = id AND createdAt IN (SELECT max(createdAt) FROM sessions)` -/
def isNewest (id : ℕ) (rows : List SessionRow) (r : SessionRow) : Bool :=
  decide (r.ID = id) && decide ((rows.map (·.createdAt)).max? = some r.createdAt)

/-! ### deleteOldSessions -/

def SqlCalls.moteID (c : SqlCalls) (motes : List MoteRow) (devEui : ℕ) : ℕ :=
  if c.idOk then getMoteIDfromDevEUI motes devEui else 0

/-- The statement that is queued; `none` when -1 is returned. -/
def SqlCalls.deleteOldSessions (c : SqlCalls) (motes : List MoteRow) (rows : List SessionRow)
    (devEui : ℕ) (all : Bool) : Option Statement :=
  let id := c.moteID motes devEui
  if all then if c.mqOk then some (.deleteOld id none) else none
  else if c.sessionsOk then
    match rows.find? (isNewest id rows) with
    | none => none
    | some r => if c.mqOk then some (.deleteOld id (some r.createdAt)) else none
  else none

/-- The table after the statement was executed, which was `later` before. -/
def SqlCalls.pruned (c : SqlCalls) (motes : List MoteRow) (rows : List SessionRow) (devEui : ℕ)
    (later : List SessionRow) : List SessionRow :=
  (c.deleteOldSessions motes rows devEui false).elim later (execute later)

/-! ### getAppSKeyEnvelope -/

/-- `getMoteID`; `answer` are the sessions as the query by DevAddr returns them. -/
def SqlCalls.getMoteID (c : SqlCalls) (motes : List MoteRow) (answer : List SessionRow)
    (devEui devAddr : ℕ) : Except Result ℕ :=
  let row : Option ℕ :=
    if c.idOk then
      if devEui ≠ NONE_DEVEUI then (motes.find? (·.DevEUI = some devEui)).map (·.ID)
      else (newestByDevAddr devAddr answer).map (·.ID)
    else none
  match row with
  | some id => .ok id
  | none => .error (if devEui ≠ NONE_DEVEUI then .UnknownDevEUI else .UnknownDevAddr)

/-- The object of the key; `HEX` prints in upper case. -/
structure AppSKeyJson where
  KEKLabel : Option (List Char)
  AESKey : Option (List Char)
deriving DecidableEq

def AppSession.envelope (r : AppSession) : AppSKeyJson :=
  ⟨r.AS_KEK_label, r.AS_KEK_key.map fun key => (Text.printOctets key).map Char.toUpper⟩

/-- What `getAppSKeyEnvelope` returns and writes. -/
structure AppSKeyAnswer where
  envl : Option AppSKeyJson
  outDevAddr : Option ℕ
  res : Result
deriving DecidableEq

/-- `getAppSKeyEnvelope`: `scan` is the order in which its query returns the sessions. -/
def SqlCalls.getAppSKeyEnvelope (c : SqlCalls) (motes : List MoteRow) (answer : List SessionRow)
    (scan : List AppSession) (devEui : ℕ) : AppSKeyAnswer :=
  match c.getMoteID motes answer devEui NONE_DEVADDR with
  | .error res => ⟨none, none, res⟩
  | .ok id =>
    if c.sessionsOk then
      match scan.find? fun r => isNewest id (scan.map (·.toSessionRow)) r.toSessionRow with
      | none => ⟨none, none, .Success⟩
      | some r => ⟨some r.envelope, some r.DevAddr, .Success⟩
    else ⟨none, none, .Other⟩

/-! ### The property -/

/-- The device with the DevEUI. -/
def moteNamed (motes : List MoteRow) (devEui : ℕ) : Option ℕ :=
  if devEui = NONE_DEVEUI then none else (motes.find? (·.DevEUI = some devEui)).map (·.ID)

/-- The newest session of the device is left, and every one of the others. -/
structure LeavesOnlyNewest (id : ℕ) (rows after : List SessionRow) : Prop where
  others : (after.filter fun r => !decide (r.ID = id)) = rows.filter fun r => !decide (r.ID = id)
  own : (∀ r ∈ rows, r.ID ≠ id) ∨
    ∃ r, Query.Greatest (·.createdAt) (fun r => decide (r.ID = id)) rows r ∧
      (after.filter fun r => decide (r.ID = id)) = [r]

/-- `deleteOldSessions(devEui, false)` on the table `rows`, executed when it is `later`. -/
def PrunesSessions (c : SqlCalls) (motes : List MoteRow) (rows later : List SessionRow)
    (devEui : ℕ) : Prop :=
  ∀ id, moteNamed motes devEui = some id →
    LeavesOnlyNewest id later (c.pruned motes rows devEui later)

/-- In whatever order the sessions are returned. -/
def ReturnsNewest (c : SqlCalls) (motes : List MoteRow) (rows : List AppSession) (devEui : ℕ) :
    Prop :=
  ∀ id, moteNamed motes devEui = some id → ∀ (answer : List SessionRow) (scan : List AppSession),
    scan.Perm rows → ∀ r : AppSession,
      Query.Greatest (·.createdAt) (fun r : AppSession => decide (r.ID = id)) rows r →
        c.getAppSKeyEnvelope motes answer scan devEui =
          ⟨some r.envelope, some r.DevAddr, .Success⟩

/-! ### The conditions -/

/-- The device `id` has a session as new as any, of the time `t`. -/
def HoldsNewest (id t : ℕ) (rows : List SessionRow) : Prop :=
  (∃ r ∈ rows, r.ID = id ∧ r.createdAt = t) ∧ ∀ r ∈ rows, r.createdAt ≤ t

/-- The sessions of `id` that are older than `t` will be deleted. -/
structure Cuts (c : SqlCalls) (motes : List MoteRow) (rows : List SessionRow) (devEui id t : ℕ) :
    Prop where
  sessionsOk : c.sessionsOk = true
  mqOk : c.mqOk = true
  asked : c.moteID motes devEui = id
  newest : HoldsNewest id t rows

/-- When the device is asked for and holds the newest session of all, it has no session any more or
exactly one from that time on; else it has at most one session, and no other device loses one. -/
structure Prunable (c : SqlCalls) (motes : List MoteRow) (rows later : List SessionRow)
    (devEui id : ℕ) : Prop where
  cut : ∀ t, Cuts c motes rows devEui id t → (∀ r ∈ later, r.ID ≠ id) ∨
    (later.filter fun r => decide (r.ID = id) && decide (t ≤ r.createdAt)).length = 1
  whole : (∀ t, ¬Cuts c motes rows devEui id t) →
    (later.filter fun r => decide (r.ID = id)).length ≤ 1
  others : ∀ id' t, id' ≠ id → Cuts c motes rows devEui id' t →
    ∀ r ∈ later, r.ID = id' → t ≤ r.createdAt

/-- The device has no session, or the queries succeed, it holds the newest session of all, and its
sessions of that time have the same key and address. -/
def EnvelopeFound (c : SqlCalls) (rows : List AppSession) (id : ℕ) : Prop :=
  (∀ r ∈ rows, r.ID ≠ id) ∨
    c.idOk = true ∧ c.sessionsOk = true ∧
      ∃ t, HoldsNewest id t (rows.map (·.toSessionRow)) ∧
        ∀ r ∈ rows, ∀ r' ∈ rows, r.ID = id → r'.ID = id → r.createdAt = t → r'.createdAt = t →
          r.envelope = r'.envelope ∧ r.DevAddr = r'.DevAddr

/-! ### Another device joined later -/

/-- The device 1 joined at 5 and at 7. -/
def joinedTwice : List AppSession :=
  [{ sampleRow with createdAt := 7, serial := 1, AS_KEK_label := none, AS_KEK_key := some sampleKey },
    { sampleRow with createdAt := 5, AS_KEK_label := none, AS_KEK_key := none }]

/-- The device 2 joined at 9. -/
def joinedLater : AppSession :=
  { sampleRow with
    ID := 2, createdAt := 9, serial := 2, AS_KEK_label := none, AS_KEK_key := some sampleKey }

def twoDevices : List MoteRow := [⟨1, some 5⟩, ⟨2, some 6⟩]

/-- No session of the device 1 is deleted, and it has no key; and of two sessions of one second
none is deleted. -/
theorem newest_of_another_device :
    let rows := joinedLater :: joinedTwice
    let table := rows.map (·.toSessionRow)
    let tie := joinedTwice.map fun r => { r.toSessionRow with createdAt := 7 }
    (¬PrunesSessions ⟨true, true, true⟩ twoDevices table table 5 ∧
        SqlCalls.pruned ⟨true, true, true⟩ twoDevices table 5 table = table) ∧
      (¬ReturnsNewest ⟨true, true, true⟩ twoDevices rows 5 ∧
        SqlCalls.getAppSKeyEnvelope ⟨true, true, true⟩ twoDevices table rows 5 =
          ⟨none, none, .Success⟩) ∧
      ¬PrunesSessions ⟨true, true, true⟩ twoDevices tie tie 5 := by
  refine ⟨⟨?_, by decide⟩, ⟨?_, by decide⟩, ?_⟩
  · intro h
    rcases (h 1 (by decide)).own with hnone | ⟨r, -, hleft⟩
    · exact absurd hnone (by decide)
    · have hone := congrArg List.length hleft
      rw [List.length_singleton] at hone
      exact absurd hone (by decide)
  · intro h
    have hanswer := h 1 (by decide) [] (joinedLater :: joinedTwice) (List.Perm.refl _) _
      ⟨List.mem_cons_of_mem _ List.mem_cons_self, by decide, by decide⟩
    exact absurd hanswer (by decide)
  · intro h
    rcases (h 1 (by decide)).own with hnone | ⟨r, -, hleft⟩
    · exact absurd hnone (by decide)
    · have hone := congrArg List.length hleft
      rw [List.length_singleton] at hone
      exact absurd hone (by decide)

/-! ### Pruning -/

variable {c : SqlCalls} {motes : List MoteRow} {rows later : List SessionRow} {devEui id t : ℕ}

theorem holdsNewest_of_isNewest {r : SessionRow} (hr : r ∈ rows) (h : isNewest id rows r = true) :
    HoldsNewest id r.createdAt rows := by
  unfold isNewest at h
  simp only [Bool.and_eq_true, decide_eq_true_eq, List.max?_eq_some_iff, List.mem_map,
    forall_exists_index, and_imp, forall_apply_eq_imp_iff₂] at h
  exact ⟨⟨r, hr, h.1, rfl⟩, h.2.2⟩

theorem isNewest_iff (h : HoldsNewest id t rows) (r : SessionRow) :
    isNewest id rows r = true ↔ r.ID = id ∧ r.createdAt = t := by
  obtain ⟨⟨q, hq, -, hqt⟩, hle⟩ := h
  have hmax : (rows.map (·.createdAt)).max? = some t := by
    rw [List.max?_eq_some_iff]
    refine ⟨List.mem_map.mpr ⟨q, hq, hqt⟩, ?_⟩
    simpa using hle
  unfold isNewest
  rw [hmax, Bool.and_eq_true, decide_eq_true_eq, decide_eq_true_eq, Option.some.injEq]
  exact and_congr_right fun _ => eq_comm

/-- The statement that is queued deletes what is older than the newest session of all. -/
theorem deleteOldSessions_eq_some_iff {u : Statement} :
    c.deleteOldSessions motes rows devEui false = some u ↔
      ∃ id t, Cuts c motes rows devEui id t ∧ u = .deleteOld id (some t) := by
  unfold SqlCalls.deleteOldSessions
  rw [if_neg Bool.false_ne_true]
  constructor
  · intro h
    split at h
    · rename_i hsessions
      cases hfind : rows.find? (isNewest (c.moteID motes devEui) rows) with
      | none =>
        rw [hfind] at h
        cases h
      | some r =>
        rw [hfind] at h
        dsimp only at h
        split at h
        · rename_i hmq
          have hnewest := holdsNewest_of_isNewest (List.mem_of_find?_eq_some hfind)
            (List.find?_some hfind)
          exact ⟨c.moteID motes devEui, r.createdAt, ⟨hsessions, hmq, rfl, hnewest⟩,
            (Option.some.inj h).symm⟩
        · cases h
    · cases h
  · rintro ⟨id, t, ⟨hsessions, hmq, rfl, hnewest⟩, rfl⟩
    obtain ⟨⟨q, hq, hqID, hqt⟩, -⟩ := id hnewest
    rw [if_pos hsessions]
    cases hfind : rows.find? (isNewest (c.moteID motes devEui) rows) with
    | none =>
      have hfalse := List.find?_eq_none.mp hfind q hq
      exact absurd ((isNewest_iff hnewest q).mpr ⟨hqID, hqt⟩) hfalse
    | some r =>
      have hr := (isNewest_iff hnewest r).mp (List.find?_some hfind)
      simp only [hmq, hr.2, if_true]

theorem settled_deleteOldSessions (ns : NS) {newest : Option ℕ}
    (hID : ns.mote.ID = c.moteID motes devEui)
    (hnewest : newest = if c.sessionsOk then
      (ns.store.table.find? (isNewest ns.mote.ID ns.store.table)).map (·.createdAt) else none) :
    (deleteOldSessions c.mqOk newest ns).settled = c.pruned motes ns.store.table devEui ns.settled := by
  unfold deleteOldSessions SqlCalls.pruned SqlCalls.deleteOldSessions enqueue
  rw [hnewest, hID, if_neg Bool.false_ne_true]
  cases c.sessionsOk with
  | false => rfl
  | true =>
    simp only [if_true]
    cases ns.store.table.find? (isNewest (c.moteID motes devEui) ns.store.table) with
    | none => rfl
    | some r =>
      cases c.mqOk with
      | false => rfl
      | true => exact settled_enqueue ns _

theorem own_of_cut (t : ℕ) (later : List SessionRow) (id : ℕ) :
    ((execute later (.deleteOld id (some t))).filter fun r => decide (r.ID = id)) =
      later.filter fun r => decide (r.ID = id) && decide (t ≤ r.createdAt) := by
  show (List.filter _ (later.filter _)) = _
  rw [List.filter_filter]
  apply List.filter_congr
  intro r _
  by_cases hid : r.ID = id
  · simp only [Statement.deletes, hid, decide_true, Bool.true_and, Option.all_some, ← not_lt,
      decide_not]
  · simp only [hid, decide_false, Bool.false_and]

theorem own_of_other {id' : ℕ} (hne : id' ≠ id) (before : Option ℕ) (later : List SessionRow) :
    ((execute later (.deleteOld id' before)).filter fun r => decide (r.ID = id)) =
      later.filter fun r => decide (r.ID = id) := by
  apply (Query.filter_filter_eq_iff _ _ _).mpr
  intro r _ hid
  have hr : r.ID ≠ id' := by
    rw [of_decide_eq_true hid]
    exact hne.symm
  simp [Statement.deletes, hr]

theorem others_iff {id' : ℕ} (t : ℕ) (later : List SessionRow) :
    ((execute later (.deleteOld id' (some t))).filter fun r => !decide (r.ID = id)) =
        later.filter (fun r => !decide (r.ID = id)) ↔
      (id' ≠ id → ∀ r ∈ later, r.ID = id' → t ≤ r.createdAt) := by
  show List.filter _ (later.filter _) = _ ↔ _
  rw [Query.filter_filter_eq_iff]
  simp only [Statement.deletes, Option.all_some, Bool.not_eq_true', Bool.and_eq_false_iff,
    decide_eq_false_iff_not, not_lt]
  constructor
  · intro h hne r hr hID
    have hID' : r.ID ≠ id := by
      rw [hID]
      exact hne
    exact (h r hr hID').resolve_left (not_not_intro hID)
  · intro h r hr hID
    by_cases heq : r.ID = id'
    · exact Or.inr (h (by rw [← heq]; exact hID) r hr heq)
    · exact Or.inl heq

theorem whole_iff (later : List SessionRow) :
    ((∀ r ∈ later, r.ID ≠ id) ∨
        ∃ r, Query.Greatest (·.createdAt) (fun r : SessionRow => decide (r.ID = id)) later r ∧
          (later.filter fun r => decide (r.ID = id)) = [r]) ↔
      (later.filter fun r => decide (r.ID = id)).length ≤ 1 := by
  have hone := Query.greatest_left_iff (fun r : SessionRow => r.createdAt)
    (fun r => decide (r.ID = id)) 0 later
  simp only [Nat.zero_le, decide_true, Bool.and_true] at hone
  rw [hone, Nat.le_one_iff_eq_zero_or_eq_one, List.length_eq_zero_iff, List.filter_eq_nil_iff]
  simp only [decide_eq_true_eq]

theorem pruned_of_none (h : c.deleteOldSessions motes rows devEui false = none) :
    c.pruned motes rows devEui later = later := by
  unfold SqlCalls.pruned
  rw [h]
  rfl

theorem pruned_of_cuts {id' : ℕ} (h : Cuts c motes rows devEui id' t) :
    c.pruned motes rows devEui later = execute later (.deleteOld id' (some t)) := by
  unfold SqlCalls.pruned
  rw [deleteOldSessions_eq_some_iff.mpr ⟨id', t, h, rfl⟩]
  rfl

theorem cuts_unique {id' t' : ℕ} (h : Cuts c motes rows devEui id t)
    (h' : Cuts c motes rows devEui id' t') : id' = id ∧ t' = t := by
  have hstatement := deleteOldSessions_eq_some_iff.mpr ⟨id, t, h, rfl⟩
  rw [deleteOldSessions_eq_some_iff.mpr ⟨id', t', h', rfl⟩] at hstatement
  injection Option.some.inj hstatement with hid ht
  exact ⟨hid, Option.some.inj ht⟩

theorem leavesOnlyNewest_iff :
    LeavesOnlyNewest id later (c.pruned motes rows devEui later) ↔
      Prunable c motes rows later devEui id := by
  cases hqueued : c.deleteOldSessions motes rows devEui false with
  | none =>
    have hnone : ∀ id' t, ¬Cuts c motes rows devEui id' t := by
      intro id' t hcuts
      rw [deleteOldSessions_eq_some_iff.mpr ⟨id', t, hcuts, rfl⟩] at hqueued
      cases hqueued
    rw [pruned_of_none hqueued]
    constructor
    · intro h
      exact ⟨fun t hcuts => absurd hcuts (hnone id t), fun _ => (whole_iff later).mp h.own,
        fun id' t _ hcuts => absurd hcuts (hnone id' t)⟩
    · intro h
      exact ⟨rfl, (whole_iff later).mpr (h.whole (hnone id))⟩
  | some u =>
    obtain ⟨id', t, hcuts, rfl⟩ := deleteOldSessions_eq_some_iff.mp hqueued
    rw [pruned_of_cuts hcuts]
    by_cases hid : id' = id
    · subst hid
      have hown := Query.greatest_left_iff (fun r : SessionRow => r.createdAt)
        (fun r => decide (r.ID = id')) t later
      constructor
      · intro h
        refine ⟨?_, fun hno => absurd hcuts (hno t), ?_⟩
        · intro t' hcuts'
          obtain rfl := (cuts_unique hcuts hcuts').2
          rcases h.own with hnone | ⟨r, hr, hleft⟩
          · exact Or.inl hnone
          · rw [own_of_cut] at hleft
            exact Or.inr (hown.mp ⟨r, hr, hleft⟩)
        · intro id'' t'' hne hcuts''
          exact absurd (cuts_unique hcuts hcuts'').1 hne
      · intro h
        refine ⟨(others_iff t later).mpr fun hne => absurd rfl hne, ?_⟩
        rcases h.cut t hcuts with hnone | hlength
        · exact Or.inl hnone
        · rw [own_of_cut]
          exact Or.inr (hown.mpr hlength)
    · have hno : ∀ t', ¬Cuts c motes rows devEui id t' :=
        fun t' hcuts' => hid (cuts_unique hcuts' hcuts).1
      constructor
      · intro h
        refine ⟨fun t' hcuts' => absurd hcuts' (hno t'), ?_, ?_⟩
        · intro _
          have hown := h.own
          rw [own_of_other hid] at hown
          exact (whole_iff later).mp hown
        · intro id'' t'' hne hcuts''
          obtain ⟨rfl, rfl⟩ := cuts_unique hcuts hcuts''
          exact (others_iff t'' later).mp h.others hne
      · intro h
        refine ⟨(others_iff t later).mpr fun hne => h.others id' t hne hcuts, ?_⟩
        rw [own_of_other hid]
        exact (whole_iff later).mpr (h.whole hno)

/-! ### The envelope -/

theorem getMoteID_named (answer : List SessionRow) (h : moteNamed motes devEui = some id) :
    c.getMoteID motes answer devEui NONE_DEVADDR =
      if c.idOk then .ok id else .error .UnknownDevEUI := by
  unfold moteNamed at h
  split at h
  · cases h
  · rename_i hne
    unfold SqlCalls.getMoteID
    simp only [h, ne_eq, hne, not_false_eq_true, if_true]
    cases c.idOk <;> rfl

variable {sessions scan : List AppSession}

theorem envelope_scan (answer : List SessionRow) (scan : List AppSession)
    (hid : moteNamed motes devEui = some id) (hidOk : c.idOk = true) (hok : c.sessionsOk = true) :
    c.getAppSKeyEnvelope motes answer scan devEui =
      match scan.find? fun r => isNewest id (scan.map (·.toSessionRow)) r.toSessionRow with
      | none => ⟨none, none, .Success⟩
      | some r => ⟨some r.envelope, some r.DevAddr, .Success⟩ := by
  unfold SqlCalls.getAppSKeyEnvelope
  rw [getMoteID_named answer hid, if_pos hidOk]
  simp only [hok, if_true]

theorem calls_of_envelope {answer : List SessionRow} {envl : AppSKeyJson} {outDevAddr : Option ℕ}
    (hid : moteNamed motes devEui = some id)
    (h : c.getAppSKeyEnvelope motes answer scan devEui = ⟨some envl, outDevAddr, .Success⟩) :
    c.idOk = true ∧ c.sessionsOk = true := by
  unfold SqlCalls.getAppSKeyEnvelope at h
  rw [getMoteID_named answer hid] at h
  cases hidOk : c.idOk with
  | false =>
    rw [hidOk] at h
    injection h with henvl
    cases henvl
  | true =>
    cases hok : c.sessionsOk with
    | false =>
      rw [hidOk, hok] at h
      injection h with henvl
      cases henvl
    | true => exact ⟨rfl, rfl⟩

theorem holdsNewest_perm (hperm : scan.Perm sessions)
    (h : HoldsNewest id t (sessions.map (·.toSessionRow))) :
    HoldsNewest id t (scan.map (·.toSessionRow)) := by
  have hmem : ∀ r, r ∈ scan.map (·.toSessionRow) ↔ r ∈ sessions.map (·.toSessionRow) :=
    fun r => (hperm.map _).mem_iff
  obtain ⟨⟨r, hr, hrow⟩, hle⟩ := h
  exact ⟨⟨r, (hmem r).mpr hr, hrow⟩, fun r hr => hle r ((hmem r).mp hr)⟩

/-- The newest sessions of a device that holds the newest of all are those of that time. -/
theorem greatest_iff_createdAt (h : HoldsNewest id t (sessions.map (·.toSessionRow)))
    (r : AppSession) :
    Query.Greatest (·.createdAt) (fun r : AppSession => decide (r.ID = id)) sessions r ↔
      r ∈ sessions ∧ r.ID = id ∧ r.createdAt = t := by
  obtain ⟨⟨_, hrow, hqID, hqt⟩, hle⟩ := h
  obtain ⟨q, hq, rfl⟩ := List.mem_map.mp hrow
  have hle' : ∀ r ∈ sessions, r.createdAt ≤ t :=
    fun r hr => hle r.toSessionRow (List.mem_map_of_mem hr)
  constructor
  · intro hr
    refine ⟨hr.mem, of_decide_eq_true hr.holds, Nat.le_antisymm (hle' r hr.mem) ?_⟩
    rw [← hqt]
    exact hr.greatest q hq (decide_eq_true hqID)
  · rintro ⟨hr, hID, rfl⟩
    exact ⟨hr, decide_eq_true hID, fun r' hr' _ => hle' r' hr'⟩

theorem returnsNewest_iff (hid : moteNamed motes devEui = some id) :
    ReturnsNewest c motes sessions devEui ↔ EnvelopeFound c sessions id := by
  constructor
  · intro h
    by_cases hsome : ∃ r ∈ sessions, r.ID = id
    · right
      obtain ⟨q, hq, hqID⟩ := hsome
      obtain ⟨r, hr⟩ := Query.exists_greatest (p := fun r : AppSession => decide (r.ID = id))
        (fun r : AppSession => r.createdAt) hq (decide_eq_true hqID)
      have hanswer := h id hid [] sessions (List.Perm.refl _)
      obtain ⟨hidOk, hok⟩ := calls_of_envelope hid (hanswer r hr)
      refine ⟨hidOk, hok, ?_⟩
      have hscan := hanswer r hr
      rw [envelope_scan [] sessions hid hidOk hok] at hscan
      cases hfind : sessions.find? fun r =>
          isNewest id (sessions.map (·.toSessionRow)) r.toSessionRow with
      | none =>
        rw [hfind] at hscan
        injection hscan with henvl
        cases henvl
      | some q =>
        have hmem : q.toSessionRow ∈ sessions.map (·.toSessionRow) :=
          List.mem_map_of_mem (List.mem_of_find?_eq_some hfind)
        have hfirst := List.find?_some hfind
        have hnewest := holdsNewest_of_isNewest hmem hfirst
        refine ⟨q.createdAt, hnewest, ?_⟩
        intro r hr r' hr' hID hID' ht ht'
        have hsame := hanswer r ((greatest_iff_createdAt hnewest r).mpr ⟨hr, hID, ht⟩)
        rw [hanswer r' ((greatest_iff_createdAt hnewest r').mpr ⟨hr', hID', ht'⟩)] at hsame
        injection hsame with henvl haddr
        exact ⟨(Option.some.inj henvl).symm, (Option.some.inj haddr).symm⟩
    · left
      intro r hr hID
      exact hsome ⟨r, hr, hID⟩
  · rintro hfound id' hid' answer scan hperm r hr
    obtain rfl : id = id' := Option.some.inj (hid.symm.trans hid')
    rcases hfound with hnone | ⟨hidOk, hok, t, hnewest, hagree⟩
    · exact absurd (of_decide_eq_true hr.holds) (hnone r hr.mem)
    · obtain ⟨hmem, hID, ht⟩ := (greatest_iff_createdAt hnewest r).mp hr
      have hthere := isNewest_iff (holdsNewest_perm hperm hnewest)
      rw [envelope_scan answer scan hid hidOk hok]
      cases hfind : scan.find? fun r =>
          isNewest id (scan.map (·.toSessionRow)) r.toSessionRow with
      | none =>
        have hfalse := List.find?_eq_none.mp hfind r (hperm.mem_iff.mpr hmem)
        exact absurd ((hthere r.toSessionRow).mpr ⟨hID, ht⟩) hfalse
      | some q =>
        have hfirst := List.find?_some hfind
        obtain ⟨hqID, hqt⟩ := (hthere q.toSessionRow).mp hfirst
        have hq : q ∈ sessions := hperm.mem_iff.mp (List.mem_of_find?_eq_some hfind)
        obtain ⟨henvl, haddr⟩ := hagree q hq r hmem hqID hID hqt ht
        simp only [henvl, haddr]

/-- Pruning leaves the newest session of the device and all those of other devices, and the envelope
is that of the newest session, exactly under the two conditions. -/
theorem newest_session_iff (c : SqlCalls) (motes : List MoteRow) (sessions : List AppSession)
    (later : List SessionRow) (devEui : ℕ) :
    (PrunesSessions c motes (sessions.map (·.toSessionRow)) later devEui ↔
        ∀ id, moteNamed motes devEui = some id →
          Prunable c motes (sessions.map (·.toSessionRow)) later devEui id) ∧
      (ReturnsNewest c motes sessions devEui ↔
        ∀ id, moteNamed motes devEui = some id → EnvelopeFound c sessions id) := by
  constructor
  · exact forall₂_congr fun id _ => leavesOnlyNewest_iff
  · constructor
    · intro h id hid
      exact (returnsNewest_iff hid).mp h
    · intro h id hid
      exact (returnsNewest_iff hid).mpr (h id hid) id hid

end Lorawan.NetworkServer

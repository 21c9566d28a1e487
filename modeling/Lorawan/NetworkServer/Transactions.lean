import Lorawan.Lib.Machine
import Lorawan.Backend.Exchange

/-!
# Requests that wait for their answers (common.c:2764-2803, web.c:2085-2228)

A mote has two slots for requests that were sent. A slot keeps the TransactionID and the
function to call with the answer, not the type of the request or its receiver: answers
are found by the TransactionID alone. A third request takes the slot with the smaller
TransactionID.
-/

namespace Lorawan.NetworkServer
open Lorawan Lorawan.Backend

/-! ### Slots -/

/-- `t[n]` of a mote. A function is told by the number of its registration. -/
structure Slot where
  sentTID : UInt32
  AnsCallback : Option ℕ
deriving DecidableEq

/-- `mote_t`, with `NT` slots. -/
structure TidMote where
  t0 : Slot
  t1 : Slot
deriving DecidableEq

/-- `create_mote` -/
def TidMote.new : TidMote := ⟨⟨0, none⟩, ⟨0, none⟩⟩

/-- History: a request, with the TransactionID that was issued for it. -/
structure IssuedReq where
  tid : UInt32
  mt : MessageType
  destID : List Char
deriving DecidableEq

structure TidState where
  /-- `motePtr` of the nodes of `mote_list`. -/
  motes : List (Option TidMote)
  _next_req_tid : UInt32
  /-- History: the calls of `next_tid`. -/
  issued : List IssuedReq
  /-- History: the registrations whose function was called, each with the answer. -/
  invoked : List (ℕ × Header)
  /-- History: the registrations that lost their slot, each with that of the other slot. -/
  evicted : List (ℕ × ℕ)
deriving DecidableEq

/-- `start` is what `rand` gives. -/
def TidState.init (start : UInt32) : TidState := ⟨[], start, [], [], []⟩

/-! ### next_tid -/

/-- The mote after the request, and who lost a slot to it. -/
def TidMote.register (tid : UInt32) (cb : ℕ) (m : TidMote) : TidMote × Option (ℕ × ℕ) :=
  match m.t0.AnsCallback, m.t1.AnsCallback with
  | none, _ => ({ m with t0 := ⟨tid, some cb⟩ }, none)
  | some _, none => ({ m with t1 := ⟨tid, some cb⟩ }, none)
  | some a, some b =>
    if m.t1.sentTID < m.t0.sentTID then ({ m with t1 := ⟨tid, some cb⟩ }, some (b, a))
    else ({ m with t0 := ⟨tid, some cb⟩ }, some (a, b))

/-- For the mote of node `k`. -/
def TidState.next_tid (k : ℕ) (mt : MessageType) (destID : List Char) (s : TidState) : TidState :=
  match s.motes[k]? with
  | some (some m) =>
    let tid := s._next_req_tid + 1
    let r := m.register tid s.issued.length
    { s with
      motes := s.motes.set k (some r.1)
      _next_req_tid := tid
      issued := s.issued ++ [⟨tid, mt, destID⟩]
      evicted := s.evicted ++ r.2.toList }
  | _ => s

/-! ### Answers -/

def MINIMUM_PHY_SIZE : ℕ := 12

def MAXIMUM_FRM_SIZE : ℕ := 255 - MINIMUM_PHY_SIZE

variable {D : Type}

/-- The sizes that are tested before the type of the message is looked at; `payloadLen` is a
`uint8_t`. -/
def payloadFits (C : Json.Conversions Member D) (j : Json Member D) : Option Bool :=
  match j.get_ex .PHYPayload, j.get_ex .FRMPayload with
  | some v, _ => (v.get_string C).map fun str =>
    decide (MINIMUM_PHY_SIZE ≤ str.length / 2 % 256)
  | none, some v => (v.get_string C).map fun str =>
    decide (str.length / 2 % 256 ≤ MAXIMUM_FRM_SIZE)
  | none, none => some true

/-- The header of an answer that is looked for; `none` for a message that is not, or that ends the
server through a null pointer. -/
def answerHeader (C : Json.Conversions Member D) (junk : ℕ × ℕ) (myNetwork_idStr : List Char)
    (j : Json Member D) : Option Header := do
  let h ← lib_parse_json C junk myNetwork_idStr 0 j
  let fits ← payloadFits C j
  if h.result = .Success ∧ h.ans_mt = none ∧ h.receivedResult.isSome ∧ fits then some h else none

def TidMote.slot (m : TidMote) (second : Bool) : Slot := if second then m.t1 else m.t0

/-- `AnsCallback = NULL` -/
def TidMote.clear (m : TidMote) (second : Bool) : TidMote :=
  if second then { m with t1 := { m.t1 with AnsCallback := none } }
  else { m with t0 := { m.t0 with AnsCallback := none } }

/-- The first slot with the number, whether or not a function waits there. -/
def TidMote.find (tid : UInt64) (m : TidMote) : Option Bool :=
  if m.t0.sentTID.toUInt64 = tid then some false
  else if m.t1.sentTID.toUInt64 = tid then some true
  else none

/-- The node, the slot and the mote. -/
def findSlot (tid : UInt64) : List (Option TidMote) → Option (ℕ × Bool × TidMote)
  | [] => none
  | m :: ms =>
    match m.bind fun m => (m.find tid).map fun n => (0, n, m) with
    | some found => some found
    | none => (findSlot tid ms).map fun found => (found.1 + 1, found.2)

def TidState.dispatch (h : Header) (s : TidState) : TidState :=
  match findSlot h.tid s.motes with
  | none => s
  | some (k, n, m) =>
    match (m.slot n).AnsCallback with
    | none => s
    | some cb =>
      { s with
        motes := s.motes.set k (some (m.clear n))
        invoked := s.invoked ++ [(cb, h)] }

/-! ### Runs -/

inductive TidEvent (D : Type)
  /-- `getMote` makes a mote. -/
  | getMote
  /-- `free_mote` -/
  | free_mote (k : ℕ)
  /-- A request of this type is sent to a server. -/
  | next_tid (k : ℕ) (mt : MessageType) (destID : List Char)
  /-- A message arrives, of whatever origin. -/
  | ParseJson (j : Json Member D)

/-- A node without mote is used again. -/
def addMote : List (Option TidMote) → List (Option TidMote)
  | [] => [some TidMote.new]
  | none :: ms => some TidMote.new :: ms
  | some m :: ms => some m :: addMote ms

def TidState.step (C : Json.Conversions Member D) (junk : ℕ × ℕ) (myNetwork_idStr : List Char)
    (s : TidState) : TidEvent D → TidState
  | .getMote => { s with motes := addMote s.motes }
  | .free_mote k => { s with motes := s.motes.set k none }
  | .next_tid k mt destID => s.next_tid k mt destID
  | .ParseJson j =>
    match answerHeader C junk myNetwork_idStr j with
    | none => s
    | some h => s.dispatch h

/-! ### Who waits -/

def Slot.live (sl : Slot) : List ℕ := sl.AnsCallback.toList

def TidMote.live (m : TidMote) : List ℕ := m.t0.live ++ m.t1.live

def liveIn (ms : List (Option TidMote)) : List ℕ := ms.flatMap fun m => m.elim [] TidMote.live

theorem liveIn_set {ms : List (Option TidMote)} {k : ℕ} (hk : k < ms.length) :
    ∃ rest, ∀ m, (liveIn (ms.set k m)).Perm (m.elim [] TidMote.live ++ rest) := by
  induction ms generalizing k with
  | nil => cases hk
  | cons x ms ih =>
    cases k with
    | zero => exact ⟨liveIn ms, fun m => List.Perm.refl _⟩
    | succ k =>
      obtain ⟨rest, hrest⟩ := ih (Nat.lt_of_succ_lt_succ hk)
      refine ⟨x.elim [] TidMote.live ++ rest, fun m => ?_⟩
      exact ((hrest m).append_left _).trans (List.perm_append_comm_assoc ..)

theorem liveIn_set_of_get {ms : List (Option TidMote)} {k : ℕ} {m : TidMote}
    (hm : ms[k]? = some (some m)) :
    ∃ rest, (liveIn ms).Perm (m.live ++ rest) ∧
      (∀ m' : TidMote, (liveIn (ms.set k (some m'))).Perm (m'.live ++ rest)) ∧
      (liveIn (ms.set k none)).Perm rest := by
  obtain ⟨hk, hget⟩ := List.getElem?_eq_some_iff.mp hm
  obtain ⟨rest, hrest⟩ := liveIn_set hk
  refine ⟨rest, ?_, fun m' => hrest (some m'), hrest none⟩
  have hself := hrest (some m)
  rw [← hget, List.set_getElem_self, hget] at hself
  exact hself

theorem liveIn_addMote (ms : List (Option TidMote)) : liveIn (addMote ms) = liveIn ms := by
  induction ms with
  | nil => rfl
  | cons m ms ih =>
    cases m with
    | none => rfl
    | some m => exact congrArg (m.live ++ ·) ih

theorem mem_addMote {ms : List (Option TidMote)} {m : TidMote} (h : some m ∈ addMote ms) :
    m = TidMote.new ∨ some m ∈ ms := by
  induction ms with
  | nil =>
    left
    simpa [addMote] using h
  | cons x ms ih =>
    cases x with
    | none =>
      rcases List.mem_cons.mp h with h | h
      · exact Or.inl (Option.some.inj h)
      · exact Or.inr (List.mem_cons_of_mem _ h)
    | some x =>
      rcases List.mem_cons.mp h with h | h
      · exact Or.inr (h ▸ List.mem_cons_self)
      · exact (ih h).imp_right (List.mem_cons_of_mem _)

theorem findSlot_some {tid : UInt64} {ms : List (Option TidMote)} {k : ℕ} {n : Bool} {m : TidMote}
    (h : findSlot tid ms = some (k, n, m)) :
    ms[k]? = some (some m) ∧ (m.slot n).sentTID.toUInt64 = tid := by
  induction ms generalizing k with
  | nil => cases h
  | cons x ms ih =>
    rw [findSlot] at h
    split at h
    · rename_i found hfound
      cases h
      obtain ⟨m', rfl, hm'⟩ := Option.bind_eq_some_iff.mp hfound
      obtain ⟨n', hn', heq⟩ := Option.map_eq_some_iff.mp hm'
      cases heq
      refine ⟨rfl, ?_⟩
      rw [TidMote.find] at hn'
      split at hn'
      · rename_i htid
        cases hn'
        exact htid
      · split at hn'
        · rename_i htid
          cases hn'
          exact htid
        · cases hn'
    · obtain ⟨found, hfound, heq⟩ := Option.map_eq_some_iff.mp h
      obtain ⟨k', n', m'⟩ := found
      cases heq
      exact ih hfound

/-! ### The invariant -/

/-- Who waits in the slot waits for an answer with its number. -/
def Slot.Holds (issued : List IssuedReq) (sl : Slot) : Prop :=
  ∀ n ∈ sl.AnsCallback, ∃ r, issued[n]? = some r ∧ r.tid = sl.sentTID

def TidMote.Holds (issued : List IssuedReq) (m : TidMote) : Prop :=
  m.t0.Holds issued ∧ m.t1.Holds issued

structure TidInv (start : UInt32) (s : TidState) : Prop where
  next : s._next_req_tid = start + UInt32.ofNat s.issued.length
  tids : ∀ n r, s.issued[n]? = some r → r.tid = start + UInt32.ofNat (n + 1)
  holds : ∀ m, some m ∈ s.motes → m.Holds s.issued
  once : (liveIn s.motes ++ s.invoked.map Prod.fst).Nodup
  invoked : ∀ p ∈ s.invoked, ∃ r, s.issued[p.1]? = some r ∧ r.tid.toUInt64 = p.2.tid
  evicted : ∀ p ∈ s.evicted, p.1 ≠ p.2 ∧
    ∃ r r', s.issued[p.1]? = some r ∧ s.issued[p.2]? = some r' ∧ r.tid ≤ r'.tid

theorem getElem?_append_of_some {α : Type} {l l' : List α} {n : ℕ} {a : α} (h : l[n]? = some a) :
    (l ++ l')[n]? = some a := by
  obtain ⟨hn, -⟩ := List.getElem?_eq_some_iff.mp h
  rw [List.getElem?_append_left hn, h]

theorem Slot.Holds.append {issued : List IssuedReq} {sl : Slot} (h : sl.Holds issued)
    (more : List IssuedReq) : sl.Holds (issued ++ more) := by
  intro n hn
  obtain ⟨r, hr, htid⟩ := h n hn
  exact ⟨r, getElem?_append_of_some hr, htid⟩

theorem TidMote.Holds.append {issued : List IssuedReq} {m : TidMote} (h : m.Holds issued)
    (more : List IssuedReq) : m.Holds (issued ++ more) := ⟨h.1.append more, h.2.append more⟩

theorem TidMote.Holds.lt {issued : List IssuedReq} {m : TidMote} (h : m.Holds issued) {n : ℕ}
    (hn : n ∈ m.live) : n < issued.length := by
  rcases List.mem_append.mp hn with hn | hn
  · obtain ⟨r, hr, -⟩ := h.1 n (Option.mem_toList.mp hn)
    exact (List.getElem?_eq_some_iff.mp hr).1
  · obtain ⟨r, hr, -⟩ := h.2 n (Option.mem_toList.mp hn)
    exact (List.getElem?_eq_some_iff.mp hr).1

theorem TidInv.lt {start : UInt32} {s : TidState} (h : TidInv start s) {n : ℕ}
    (hn : n ∈ liveIn s.motes ++ s.invoked.map Prod.fst) : n < s.issued.length := by
  rcases List.mem_append.mp hn with hn | hn
  · obtain ⟨m, hm, hn⟩ := List.mem_flatMap.mp hn
    cases m with
    | none => cases hn
    | some m => exact (h.holds m hm).lt hn
  · obtain ⟨p, hp, rfl⟩ := List.mem_map.mp hn
    obtain ⟨r, hr, -⟩ := h.invoked p hp
    exact (List.getElem?_eq_some_iff.mp hr).1

theorem tidInv_init (start : UInt32) : TidInv start (TidState.init start) :=
  { next := (UInt32.add_zero start).symm
    tids := by simp [TidState.init]
    holds := by simp [TidState.init]
    once := List.nodup_nil
    invoked := by simp [TidState.init]
    evicted := by simp [TidState.init] }

/-! ### next_tid keeps it -/

theorem register_live (tid : UInt32) (cb : ℕ) (m : TidMote) :
    ∃ kept, kept.Sublist m.live ∧ (m.register tid cb).1.live.Perm (cb :: kept) := by
  obtain ⟨⟨tid0, cb0⟩, ⟨tid1, cb1⟩⟩ := m
  cases cb0 with
  | none => exact ⟨_, List.Sublist.refl _, List.Perm.refl _⟩
  | some a =>
    cases cb1 with
    | none => exact ⟨_, List.Sublist.refl _, List.Perm.swap ..⟩
    | some b =>
      rw [TidMote.register]
      dsimp only
      split
      · exact ⟨[a], List.sublist_append_left [a] [b], List.Perm.swap ..⟩
      · exact ⟨[b], List.sublist_append_right [a] [b], List.Perm.refl _⟩

theorem Slot.holds_new (issued : List IssuedReq) (r : IssuedReq) :
    Slot.Holds (issued ++ [r]) ⟨r.tid, some issued.length⟩ := by
  intro n hn
  cases hn
  exact ⟨r, List.getElem?_concat_length, rfl⟩

theorem register_holds {issued : List IssuedReq} {m : TidMote} (h : m.Holds issued)
    (r : IssuedReq) : (m.register r.tid issued.length).1.Holds (issued ++ [r]) := by
  have h0 := h.1.append [r]
  have h1 := h.2.append [r]
  have hnew := Slot.holds_new issued r
  rw [TidMote.register]
  split
  · exact ⟨hnew, h1⟩
  · exact ⟨h0, hnew⟩
  · split
    · exact ⟨h0, hnew⟩
    · exact ⟨hnew, h1⟩

theorem register_evicted {issued : List IssuedReq} {m : TidMote} (h : m.Holds issued)
    (hnodup : m.live.Nodup) (tid : UInt32) (cb : ℕ) :
    ∀ p ∈ (m.register tid cb).2, p.1 ≠ p.2 ∧
      ∃ r r', issued[p.1]? = some r ∧ issued[p.2]? = some r' ∧ r.tid ≤ r'.tid := by
  intro p hp
  rw [TidMote.register] at hp
  split at hp
  · cases hp
  · cases hp
  · rename_i a b ha hb
    obtain ⟨ra, hra, htida⟩ := h.1 a ha
    obtain ⟨rb, hrb, htidb⟩ := h.2 b hb
    have hab : a ≠ b := by
      rw [TidMote.live, Slot.live, Slot.live, ha, hb] at hnodup
      simpa using hnodup
    split at hp
    · rename_i hlt
      cases hp
      exact ⟨hab.symm, rb, ra, hrb, hra, by rw [htida, htidb]; exact UInt32.le_of_lt hlt⟩
    · rename_i hlt
      cases hp
      exact ⟨hab, ra, rb, hra, hrb, by rw [htida, htidb]; exact UInt32.not_lt.mp hlt⟩

theorem tids_concat {start : UInt32} {issued : List IssuedReq} {r : IssuedReq}
    (h : ∀ n q, issued[n]? = some q → q.tid = start + UInt32.ofNat (n + 1))
    (hr : r.tid = start + UInt32.ofNat (issued.length + 1)) :
    ∀ n q, (issued ++ [r])[n]? = some q → q.tid = start + UInt32.ofNat (n + 1) := by
  intro n q hq
  rcases Nat.lt_or_ge n issued.length with hn | hn
  · rw [List.getElem?_append_left hn] at hq
    exact h n q hq
  · rw [List.getElem?_append_right hn] at hq
    obtain ⟨hlt, heq⟩ := List.getElem?_eq_some_iff.mp hq
    have hn' : n = issued.length := by
      rw [List.length_singleton] at hlt
      omega
    subst hn'
    simp only [Nat.sub_self, List.getElem_cons_zero] at heq
    rw [← heq]
    exact hr

theorem once_register {start : UInt32} {s : TidState} (h : TidInv start s) {k : ℕ} {m : TidMote}
    (hm : s.motes[k]? = some (some m)) (tid : UInt32) :
    (liveIn (s.motes.set k (some (m.register tid s.issued.length).1)) ++
      s.invoked.map Prod.fst).Nodup := by
  obtain ⟨rest, hall, hset, -⟩ := liveIn_set_of_get hm
  obtain ⟨kept, hkept, hperm⟩ := register_live tid s.issued.length m
  have hfresh : s.issued.length ∉ liveIn s.motes ++ s.invoked.map Prod.fst :=
    fun hmem => Nat.lt_irrefl _ (h.lt hmem)
  have hbig : (s.issued.length :: (m.live ++ rest ++ s.invoked.map Prod.fst)).Nodup := by
    have hp := hall.append_right (s.invoked.map Prod.fst)
    exact List.nodup_cons.mpr ⟨fun hmem => hfresh (hp.mem_iff.mpr hmem), hp.nodup_iff.mp h.once⟩
  have hsub : (s.issued.length :: (kept ++ rest ++ s.invoked.map Prod.fst)).Sublist
      (s.issued.length :: (m.live ++ rest ++ s.invoked.map Prod.fst)) :=
    ((hkept.append_right rest).append_right _).cons_cons _
  have hp := ((hset (m.register tid s.issued.length).1).trans
    (hperm.append_right rest)).append_right (s.invoked.map Prod.fst)
  exact hp.nodup_iff.mpr (hbig.sublist hsub)

theorem tidInv_next_tid {start : UInt32} {s : TidState} (h : TidInv start s) (k : ℕ)
    (mt : MessageType) (destID : List Char) : TidInv start (s.next_tid k mt destID) := by
  rw [TidState.next_tid]
  split
  · rename_i m hm
    have htid : s._next_req_tid + 1 = start + UInt32.ofNat (s.issued.length + 1) := by
      rw [h.next, UInt32.add_assoc, UInt32.ofNat_add]
      rfl
    obtain ⟨rest, hall, -, -⟩ := liveIn_set_of_get hm
    have hmHolds : m.Holds s.issued := h.holds m (List.mem_of_getElem? hm)
    have hlive : m.live.Nodup := by
      have hnd := (List.nodup_append.mp h.once).1
      exact (List.nodup_append.mp (hall.nodup_iff.mp hnd)).1
    have hev := register_evicted hmHolds hlive (s._next_req_tid + 1) s.issued.length
    dsimp only
    exact
      { next := by
          rw [List.length_append]
          exact htid
        tids := tids_concat h.tids htid
        holds := by
          intro m' hm'
          rcases List.mem_or_eq_of_mem_set hm' with hm' | hm'
          · exact (h.holds m' hm').append _
          · cases hm'
            exact register_holds hmHolds ⟨s._next_req_tid + 1, mt, destID⟩
        once := once_register h hm (s._next_req_tid + 1)
        invoked := by
          intro p hp
          obtain ⟨r, hr, heq⟩ := h.invoked p hp
          exact ⟨r, getElem?_append_of_some hr, heq⟩
        evicted := by
          intro p hp
          obtain ⟨hne, r, r', hr, hr', hle⟩ : p.1 ≠ p.2 ∧
              ∃ r r', s.issued[p.1]? = some r ∧ s.issued[p.2]? = some r' ∧ r.tid ≤ r'.tid := by
            rcases List.mem_append.mp hp with hp | hp
            · exact h.evicted p hp
            · exact hev p (Option.mem_toList.mp hp)
          exact ⟨hne, r, r', getElem?_append_of_some hr, getElem?_append_of_some hr', hle⟩ }
  · exact h

/-! ### The other steps keep it -/

theorem Slot.holds_none (issued : List IssuedReq) (tid : UInt32) :
    Slot.Holds issued ⟨tid, none⟩ := by
  intro n hn
  cases hn

theorem clear_holds {issued : List IssuedReq} {m : TidMote} (h : m.Holds issued) (n : Bool) :
    (m.clear n).Holds issued := by
  cases n with
  | false => exact ⟨Slot.holds_none issued _, h.2⟩
  | true => exact ⟨h.1, Slot.holds_none issued _⟩

theorem clear_live {m : TidMote} {n : Bool} {cb : ℕ} (h : (m.slot n).AnsCallback = some cb) :
    m.live.Perm (cb :: (m.clear n).live) := by
  obtain ⟨⟨tid0, cb0⟩, ⟨tid1, cb1⟩⟩ := m
  cases n with
  | false =>
    obtain rfl : cb0 = some cb := h
    exact List.Perm.refl _
  | true =>
    obtain rfl : cb1 = some cb := h
    show (cb0.toList ++ [cb]).Perm (cb :: (cb0.toList ++ []))
    rw [List.append_nil]
    exact List.perm_append_singleton cb cb0.toList

theorem slot_holds {issued : List IssuedReq} {m : TidMote} (h : m.Holds issued) (n : Bool) :
    (m.slot n).Holds issued := by
  cases n with
  | false => exact h.1
  | true => exact h.2

theorem tidInv_dispatch {start : UInt32} {s : TidState} (h : TidInv start s) (hd : Header) :
    TidInv start (s.dispatch hd) := by
  rw [TidState.dispatch]
  split
  · exact h
  · rename_i k n m hfind
    obtain ⟨hm, htid⟩ := findSlot_some hfind
    have hmHolds : m.Holds s.issued := h.holds m (List.mem_of_getElem? hm)
    split
    · exact h
    · rename_i cb hcb
      obtain ⟨rest, hall, hset, -⟩ := liveIn_set_of_get hm
      refine { h with holds := ?_, once := ?_, invoked := ?_ }
      · intro m' hm'
        rcases List.mem_or_eq_of_mem_set hm' with hm' | hm'
        · exact h.holds m' hm'
        · cases hm'
          exact clear_holds hmHolds n
      · -- the registration moves from those that wait to those that were called
        have hp : (liveIn s.motes).Perm (cb :: ((m.clear n).live ++ rest)) :=
          hall.trans ((clear_live hcb).append_right rest)
        have hp' : (liveIn s.motes).Perm (cb :: liveIn (s.motes.set k (some (m.clear n)))) :=
          hp.trans ((hset (m.clear n)).symm.cons cb)
        dsimp only
        rw [List.map_append, List.map_singleton, ← List.append_assoc]
        refine (List.perm_append_singleton cb _).nodup_iff.mpr ?_
        exact (hp'.append_right _).nodup_iff.mp h.once
      · intro p hp
        rcases List.mem_append.mp hp with hp | hp
        · exact h.invoked p hp
        · rw [List.mem_singleton.mp hp]
          obtain ⟨r, hr, hrtid⟩ := slot_holds hmHolds n cb hcb
          exact ⟨r, hr, by rw [hrtid]; exact htid⟩

theorem tidInv_getMote {start : UInt32} {s : TidState} (h : TidInv start s) :
    TidInv start { s with motes := addMote s.motes } := by
  refine { h with holds := ?_, once := ?_ }
  · intro m hm
    rcases mem_addMote hm with rfl | hm
    · exact ⟨Slot.holds_none _ _, Slot.holds_none _ _⟩
    · exact h.holds m hm
  · dsimp only
    rw [liveIn_addMote]
    exact h.once

theorem tidInv_free_mote {start : UInt32} {s : TidState} (h : TidInv start s) (k : ℕ) :
    TidInv start { s with motes := s.motes.set k none } := by
  refine { h with holds := ?_, once := ?_ }
  · intro m hm
    rcases List.mem_or_eq_of_mem_set hm with hm | hm
    · exact h.holds m hm
    · cases hm
  · dsimp only
    rcases Nat.lt_or_ge k s.motes.length with hk | hk
    · obtain ⟨rest, hrest⟩ := liveIn_set hk
      have hall := hrest s.motes[k]
      rw [List.set_getElem_self] at hall
      have hnd := (hall.append_right (s.invoked.map Prod.fst)).nodup_iff.mp h.once
      have hsub : (rest ++ s.invoked.map Prod.fst).Sublist
          (s.motes[k].elim [] TidMote.live ++ rest ++ s.invoked.map Prod.fst) :=
        (List.sublist_append_right _ rest).append_right _
      exact ((hrest none).append_right _).nodup_iff.mpr (hnd.sublist hsub)
    · rw [List.set_eq_of_length_le hk]
      exact h.once

/-! ### Runs -/

section

variable {D : Type} (C : Json.Conversions Member D) (junk : ℕ × ℕ) (myNetwork_idStr : List Char)

theorem tidInv_step {start : UInt32} (s : TidState) (e : TidEvent D) (h : TidInv start s) :
    TidInv start (s.step C junk myNetwork_idStr e) := by
  cases e with
  | getMote => exact tidInv_getMote h
  | free_mote k => exact tidInv_free_mote h k
  | next_tid k mt destID => exact tidInv_next_tid h k mt destID
  | ParseJson j =>
    rw [TidState.step]
    split
    · exact h
    · exact tidInv_dispatch h _

/-- The counter does not pass its largest value between the two calls of `next_tid`. -/
def NotWrapped (start : UInt32) (n n' : ℕ) : Prop :=
  (start.toNat + (n + 1)) / 2 ^ 32 = (start.toNat + (n' + 1)) / 2 ^ 32

theorem tid_toNat (start : UInt32) (n : ℕ) :
    (start + UInt32.ofNat (n + 1)).toNat = (start.toNat + (n + 1)) % 2 ^ 32 := by
  rw [UInt32.toNat_add, UInt32.toNat_ofNat', Nat.add_mod_mod]

theorem issued_first {start : UInt32} {n n' : ℕ} (hne : n ≠ n') (hwrap : NotWrapped start n n')
    (hle : start + UInt32.ofNat (n + 1) ≤ start + UInt32.ofNat (n' + 1)) : n < n' := by
  rw [UInt32.le_iff_toNat_le, tid_toNat, tid_toNat] at hle
  have h1 := Nat.div_add_mod (start.toNat + (n + 1)) (2 ^ 32)
  have h2 := Nat.div_add_mod (start.toNat + (n' + 1)) (2 ^ 32)
  rw [NotWrapped] at hwrap
  rw [hwrap] at h1
  omega

/-- The state after a run of the server. -/
def tidRun (start : UInt32) (es : List (TidEvent D)) : TidState :=
  Machine.run (TidState.step C junk myNetwork_idStr) (TidState.init start) es

/-- Over every run: a function is called at most once, and only with an answer that carries the
TransactionID issued for it; and of two requests that held the slots of a mote the one issued first
loses its slot, unless the counter wrapped between them. -/
theorem answers_dispatched (start : UInt32) (es : List (TidEvent D)) :
    let s := tidRun C junk myNetwork_idStr start es
    (s.invoked.map Prod.fst).Nodup ∧
      (∀ p ∈ s.invoked, ∃ r, s.issued[p.1]? = some r ∧ r.tid.toUInt64 = p.2.tid) ∧
      ∀ p ∈ s.evicted, NotWrapped start p.1 p.2 → p.1 < p.2 := by
  intro s
  have h : TidInv start s := Machine.run_invariant_always _
    (fun s e => tidInv_step C junk myNetwork_idStr s e) (tidInv_init start) es
  refine ⟨(List.nodup_append.mp h.once).2.1, h.invoked, ?_⟩
  intro p hp hwrap
  obtain ⟨hne, r, r', hr, hr', hle⟩ := h.evicted p hp
  rw [h.tids _ r hr, h.tids _ r' hr'] at hle
  exact issued_first hne hwrap hle

theorem run_next_tid (n : ℕ) {s : TidState} {m : TidMote} (hm : s.motes = [some m]) :
    let s' := Machine.run (TidState.step C junk myNetwork_idStr) s
      (List.replicate n (.next_tid 0 .JoinReq []))
    (∃ m', s'.motes = [some m']) ∧ s'._next_req_tid = s._next_req_tid + UInt32.ofNat n := by
  induction n generalizing s m with
  | zero => exact ⟨⟨m, hm⟩, (UInt32.add_zero _).symm⟩
  | succ n ih =>
    rw [List.replicate_succ]
    have hnext : s.next_tid 0 .JoinReq [] = { s with
        motes := [some (m.register (s._next_req_tid + 1) s.issued.length).1]
        _next_req_tid := s._next_req_tid + 1
        issued := s.issued ++ [⟨s._next_req_tid + 1, .JoinReq, []⟩]
        evicted := s.evicted ++ (m.register (s._next_req_tid + 1) s.issued.length).2.toList } := by
      simp [TidState.next_tid, hm]
    obtain ⟨hmotes, htid⟩ := ih (s := s.next_tid 0 .JoinReq [])
      (m := (m.register (s._next_req_tid + 1) s.issued.length).1) (by rw [hnext])
    refine ⟨hmotes, htid.trans ?_⟩
    rw [hnext, UInt32.ofNat_add, UInt32.add_assoc, UInt32.add_comm 1]
    rfl

/-- Of the requests with the last number and the first, the third takes the slot of the later. -/
theorem later_evicted {s : TidState} {m : TidMote} (hm : s.motes = [some m])
    (htid : s._next_req_tid = 0xfffffffe) :
    (s.issued.length + 1, s.issued.length) ∈
      (Machine.run (TidState.step C junk myNetwork_idStr) s
        [.free_mote 0, .getMote, .next_tid 0 .JoinReq [], .next_tid 0 .JoinReq [],
          .next_tid 0 .JoinReq []]).evicted := by
  simp [TidState.step, hm, addMote, TidState.next_tid, htid, TidMote.new, TidMote.register]

end

/-- A PRStartAns under the TransactionID of a JoinReq to a join server. -/
def forgedAns : Json Member ℚ :=
  .object (lib_generate_json "000013".toList "000099".toList 1 (some .PRStartAns)
    (some .Success) Json.noMembers)

def forgedRun : TidState :=
  tidRun plainConversions (0, 0) "000013".toList 0
    [.getMote, .next_tid 0 .JoinReq "0102030405060708".toList, .ParseJson forgedAns]

/-- `rand` gave 0, and a device used up all numbers but the last. The device is listed anew, and the
counter wraps after its first request. -/
def wrappedRun : TidState :=
  tidRun plainConversions (0, 0) "000013".toList 0
    (.getMote :: List.replicate 0xfffffffe (.next_tid 0 .JoinReq []) ++
      [.free_mote 0, .getMote, .next_tid 0 .JoinReq [], .next_tid 0 .JoinReq [],
        .next_tid 0 .JoinReq []])

/-- Neither the type of an answer nor its sender is looked at, and after a wrap the later request
loses its slot. -/
theorem forged_answer_taken :
    (¬ ∀ p ∈ forgedRun.invoked, ∃ r, forgedRun.issued[p.1]? = some r ∧
        (r.mt.ansMt = p.2.pmt ∧ some r.destID = p.2.senderID)) ∧
      ¬ ∀ p ∈ wrappedRun.evicted, p.1 < p.2 := by
  constructor
  · intro h
    have hinv : forgedRun.invoked = [(0, ⟨.Success, none, some .PRStartAns,
        some "000099".toList, 1, some .Success⟩)] := by decide +kernel
    have hissued : forgedRun.issued = [⟨1, .JoinReq, "0102030405060708".toList⟩] := by
      decide +kernel
    obtain ⟨r, hr, hmt, -⟩ := h _ (by rw [hinv]; exact List.mem_singleton_self _)
    rw [hissued] at hr
    cases hr
    cases hmt
  · intro h
    obtain ⟨⟨m, hm⟩, htid⟩ := run_next_tid plainConversions (0, 0) "000013".toList 0xfffffffe
      (s := (TidState.init 0).step plainConversions (0, 0) "000013".toList .getMote)
      (m := TidMote.new) rfl
    have hlater := later_evicted plainConversions (0, 0) "000013".toList hm (htid.trans rfl)
    rw [wrappedRun, tidRun, List.cons_append, Machine.run_cons, Machine.run_append] at h
    exact absurd (h _ hlater) (by omega)

end Lorawan.NetworkServer

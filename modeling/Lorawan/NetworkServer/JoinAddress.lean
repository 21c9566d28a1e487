import Lorawan.NetworkServer.MoteList

/-!
# The address of a join

The DevAddr of a JoinReq is kept nowhere but in the mote. It is the one of the
session that the answer brings as long as nothing renames the mote between the
two messages.
-/

namespace Lorawan.NetworkServer
open Lorawan

/-! ### Entries of the list -/

theorem entry_lt {l : Motes} {c : ℕ} {e : MoteEntry} (h : l.entry c = some e) : c < l.length := by
  by_contra hc
  rw [Motes.entry, List.getElem?_eq_none (by omega)] at h
  cases h

theorem entry_updateMote (c c' : ℕ) (f : MoteEntry → MoteEntry) (l : Motes) :
    (updateMote c f l).entry c' = if c = c' then (l.entry c').map f else l.entry c' := by
  unfold updateMote Motes.entry
  rw [List.getElem?_modify]
  split
  · cases l[c']? with
    | none => rfl
    | some o => cases o <;> rfl
  · simp

theorem entry_placeMote {e e' : MoteEntry} {l : Motes} {c : ℕ}
    (h : (placeMote e l).1.entry c = some e') : e' = e ∨ l.entry c = some e' := by
  unfold placeMote at h
  split at h
  · rename_i k hk
    simp only [Motes.entry, List.getElem?_set] at h
    split at h
    · split at h
      · exact Or.inl (by simpa using h.symm)
      · cases h
    · exact Or.inr h
  · by_cases hc : c < l.length
    · rw [Motes.entry, List.getElem?_append_left hc] at h
      exact Or.inr h
    · rw [Motes.entry, List.getElem?_append_right (by omega)] at h
      cases hk : c - l.length with
      | zero =>
        rw [hk] at h
        exact Or.inl (by simpa using h.symm)
      | succ k =>
        rw [hk] at h
        simp at h

theorem entry_freeMotes (addrs : List ℕ) (l : Motes) (c : ℕ) :
    (freeMotes addrs l).entry c = (l.entry c).filter fun e => decide (e.devAddr ∉ addrs) := by
  unfold freeMotes Motes.entry
  rw [List.getElem?_map]
  cases l[c]? with
  | none => rfl
  | some o => rfl

theorem entry_of_freeMotes {addrs : List ℕ} {l : Motes} {c : ℕ} {e : MoteEntry}
    (h : (freeMotes addrs l).entry c = some e) : l.entry c = some e := by
  rw [entry_freeMotes] at h
  exact (Option.filter_eq_some_iff.mp h).1

theorem entry_free_mote (c c' : ℕ) (l : Motes) :
    (free_mote c l).entry c' = if c = c' then none else l.entry c' := by
  unfold free_mote Motes.entry
  rw [List.getElem?_modify]
  split
  · cases l[c']? <;> rfl
  · simp

theorem entry_of_free_mote {c c' : ℕ} {l : Motes} {e : MoteEntry}
    (h : (free_mote c l).entry c' = some e) : l.entry c' = some e := by
  rw [entry_free_mote] at h
  split at h
  · cases h
  · exact h

/-- A property of all entries. -/
def Motes.All (P : MoteEntry → Prop) (l : Motes) : Prop := ∀ c e, l.entry c = some e → P e

theorem all_updateMote {P : MoteEntry → Prop} {l : Motes} (h : l.All P) {c : ℕ}
    {f : MoteEntry → MoteEntry} (hf : ∀ e, l.entry c = some e → P (f e)) :
    (updateMote c f l).All P := by
  intro c' e' he'
  rw [entry_updateMote] at he'
  split at he'
  · rename_i hc
    subst hc
    obtain ⟨e, he, rfl⟩ := Option.map_eq_some_iff.mp he'
    exact hf e he
  · exact h c' e' he'

theorem all_placeMote {P : MoteEntry → Prop} {l : Motes} (h : l.All P) {e : MoteEntry} (he : P e) :
    (placeMote e l).1.All P := by
  intro c' e' he'
  rcases entry_placeMote he' with rfl | hold
  · exact he
  · exact h c' e' hold

theorem all_freeMotes {P : MoteEntry → Prop} {l : Motes} (h : l.All P) (addrs : List ℕ) :
    (freeMotes addrs l).All P :=
  fun c e he => h c e (entry_of_freeMotes he)

theorem all_free_mote {P : MoteEntry → Prop} {l : Motes} (h : l.All P) (c : ℕ) :
    (free_mote c l).All P :=
  fun c' e he => h c' e (entry_of_free_mote he)

/-! ### The property and the condition -/

/-- Every session that a JoinAns brought has the DevAddr of its JoinReq. -/
def JoinAddressesAgree (s : Network) : Prop := ∀ i ∈ s.inserted, i.DevAddr = i.sent

/-- The entry that a frame or a message names. -/
def namedMote (s : Network) (ok : LookupOk) (devEui devAddr : ℕ) : Option MoteEntry :=
  (findMote (s.sought ok devEui devAddr) devAddr s.mote_list).bind s.mote_list.entry

/-- Nothing renames a mote that waits for the answer to its JoinReq. -/
def Undisturbed (s : Network) : MoteEvent → Prop
  | .name devEui devAddr ok =>
    s.sought ok devEui devAddr ≠ NONE_DEVEUI → devAddr ≠ NONE_DEVADDR →
      ∀ e ∈ namedMote s ok devEui devAddr, e.awaited ≠ [] → devAddr = e.devAddr
  | .assign c _ _ => ∀ e ∈ s.mote_list.entry c, e.awaited = []
  | .joinAns c i ans =>
    ∀ e ∈ s.mote_list.entry c, ∀ sent ∈ e.awaited[i]?, ∀ devAddr ∈ ans.DevAddr, devAddr = sent
  | .hrStartAns c ans =>
    ∀ e ∈ s.mote_list.entry c, e.awaited ≠ [] → ∀ devAddr ∈ ans.DevAddr, devAddr = e.devAddr
  | .roamAns c _ devAddr =>
    ∀ e ∈ s.mote_list.entry c, e.awaited ≠ [] → ∀ a ∈ devAddr, a = e.devAddr
  | _ => True

instance (s : Network) (e : MoteEvent) : Decidable (Undisturbed s e) := by
  unfold Undisturbed
  split <;> infer_instance

/-! ### The invariant -/

/-- A mote that waits has the address it asked for. -/
def MoteEntry.Keeps (e : MoteEntry) : Prop := ∀ a ∈ e.awaited, a = e.devAddr

theorem MoteEntry.Keeps.rename {e : MoteEntry} (h : e.Keeps) {devAddr : ℕ}
    (hsame : e.awaited ≠ [] → devAddr = e.devAddr) :
    MoteEntry.Keeps { e with devAddr := devAddr } := by
  intro a ha
  have hne : e.awaited ≠ [] := List.ne_nil_of_mem ha
  rw [h a ha]
  exact (hsame hne).symm

structure Kept (s : Network) : Prop where
  motes : s.mote_list.All MoteEntry.Keeps
  agree : JoinAddressesAgree s

theorem keeps_name {s : Network} (h : Kept s) {devEui devAddr : ℕ} {ok : LookupOk}
    (hc : Undisturbed s (.name devEui devAddr ok)) :
    (s.getMote ok devEui devAddr).All MoteEntry.Keeps := by
  unfold Network.getMote getMoteBetween
  dsimp only
  split
  · rename_i c hfind
    split
    · rename_i hboth
      refine all_updateMote h.motes fun e he => (h.motes c e he).rename ?_
      exact hc hboth.1 hboth.2 e (by rw [namedMote, Network.sought, hfind]; exact he)
    · exact h.motes
  · exact all_placeMote h.motes fun a ha => nomatch ha

theorem keeps_assign {s : Network} (h : Kept s) (cfg : AddrConfig) {c : ℕ} (fails : List ℕ)
    (posted : Bool) (hc : ∀ e ∈ s.mote_list.entry c, e.awaited = []) :
    (assignDevAddrToJS cfg c fails posted s).mote_list.All MoteEntry.Keeps := by
  refine all_updateMote h.motes fun e he => ?_
  intro a ha
  simp only [hc e he, List.nil_append] at ha ⊢
  split at ha
  · exact List.mem_singleton.mp ha
  · cases ha

theorem keeps_forget {s : Network} (h : Kept s) (c i : ℕ) :
    (updateMote c (forgetAwaited i) s.mote_list).All MoteEntry.Keeps :=
  all_updateMote h.motes fun e he a ha => h.motes c e he a ((List.eraseIdx_sublist _ i).subset ha)

theorem kept_delete {s : Network} (h : Kept s) (c devEui : ℕ) (ans : JoinAns) :
    Kept (deleteNeverUsedSessions c devEui ans s) := by
  unfold deleteNeverUsedSessions Network.enqueue
  split
  · dsimp only
    split <;> exact ⟨all_freeMotes h.motes _, h.agree⟩
  · exact h

theorem kept_addSession {s : Network} (h : Kept s) {sent : Option ℕ} {e : MoteEntry}
    (ans : JoinAns) (hsent : ∀ a ∈ sent, a = e.devAddr) : Kept (addSession sent e ans s) := by
  unfold addSession
  split
  · refine ⟨h.motes, fun i hi => ?_⟩
    rcases List.mem_append.mp hi with hold | hnew
    · exact h.agree i hold
    · obtain ⟨a, ha, rfl⟩ := Option.map_eq_some_iff.mp (Option.mem_toList.mp hnew)
      exact (hsent a ha).symm
  · exact h

theorem kept_takeJoinAns {s : Network} (h : Kept s) {sent : Option ℕ} {c : ℕ} {ans : JoinAns}
    (hsent : ∀ e ∈ s.mote_list.entry c, ∀ a ∈ sent, a = ans.DevAddr.getD e.devAddr)
    (hname : ∀ e ∈ s.mote_list.entry c, e.awaited ≠ [] →
      ans.DevAddr.getD e.devAddr = e.devAddr) : Kept (takeJoinAns sent c ans s) := by
  unfold takeJoinAns
  split
  · split
    · exact h
    · rename_i e he
      have hname' : Kept { s with mote_list := updateMote c (fun _ => { e with
          devAddr := ans.DevAddr.getD e.devAddr }) s.mote_list } :=
        ⟨all_updateMote h.motes fun _ _ => (h.motes c e he).rename (hname e he), h.agree⟩
      dsimp only
      split
      · have hdel := kept_delete hname' c e.devEui ans
        split
        · exact kept_addSession hdel ans (hsent e he)
        · exact ⟨hdel.motes, hdel.agree⟩
      · exact hname'
  · exact h

theorem kept_joinAns {s : Network} (h : Kept s) {c i : ℕ} {ans : JoinAns}
    (hc : Undisturbed s (.joinAns c i ans)) : Kept (joinAnsCallback c i ans s) := by
  unfold joinAnsCallback
  split
  · exact h
  · rename_i sent hsent
    obtain ⟨e, he, hi⟩ := Option.bind_eq_some_iff.mp hsent
    have hforget : (updateMote c (forgetAwaited i) s.mote_list).entry c =
        some (forgetAwaited i e) := by
      rw [entry_updateMote, if_pos rfl, he]
      rfl
    have hkeeps : sent = e.devAddr := h.motes c e he sent (List.mem_of_getElem? hi)
    have hname : ans.DevAddr.getD e.devAddr = e.devAddr := by
      cases hdev : ans.DevAddr with
      | none => rfl
      | some a => exact (hc e he sent hi a hdev).trans hkeeps
    refine kept_takeJoinAns (s := { s with
      mote_list := updateMote c (forgetAwaited i) s.mote_list }) ⟨keeps_forget h c i, h.agree⟩ ?_ ?_
    · intro e' he' a ha
      rw [hforget] at he'
      rw [← Option.some.inj he', ← Option.some.inj ha]
      exact hkeeps.trans hname.symm
    · intro e' he' _
      rw [hforget] at he'
      rw [← Option.some.inj he']
      exact hname

theorem kept_step (cfg : AddrConfig) {s : Network} {e : MoteEvent} (h : Kept s)
    (hc : Undisturbed s e) : Kept (s.step cfg e) := by
  unfold Network.step
  split
  · exact h
  · cases e with
    | name devEui devAddr ok => exact ⟨keeps_name h hc, h.agree⟩
    | assign c fails posted => exact ⟨keeps_assign h cfg fails posted hc, h.agree⟩
    | lost c i => exact ⟨keeps_forget h c i, h.agree⟩
    | joinAns c i ans => exact kept_joinAns h hc
    | hrStartAns c ans =>
      refine kept_takeJoinAns h (fun _ _ a ha => nomatch ha) fun e he hne => ?_
      cases hdev : ans.DevAddr with
      | none => rfl
      | some a => exact hc e he hne a hdev
    | roamAns c devEui devAddr =>
      refine ⟨all_updateMote h.motes fun e he => ?_, h.agree⟩
      have hname : e.awaited ≠ [] → devAddr.getD e.devAddr = e.devAddr := by
        intro hne
        cases hdev : devAddr with
        | none => rfl
        | some a => exact hc e he hne a hdev
      exact (h.motes c e he).rename hname
    | discard c => exact ⟨all_free_mote h.motes c, h.agree⟩
    | statement u => exact ⟨h.motes, h.agree⟩
    | writer => exact ⟨h.motes, h.agree⟩

/-- In every run in which nothing renames a waiting mote, the session of a join has the DevAddr
that the device received. -/
theorem joinAddressesAgree_of_undisturbed (cfg : AddrConfig) (motes : List MoteRow)
    (rows : List SessionRow) {es : List MoteEvent}
    (hc : Machine.Along (Network.step cfg) Undisturbed (.init motes rows) es) :
    JoinAddressesAgree (Machine.run (Network.step cfg) (.init motes rows) es) := by
  have hinit : Kept (.init motes rows) := by
    refine ⟨fun c e he => ?_, fun i hi => nomatch hi⟩
    simp [Network.init, Motes.entry] at he
  exact (Machine.run_invariant _ (fun _ _ h hc => kept_step cfg h hc) hinit hc).agree

/-! ### A data frame between the two messages -/

/-- A device with a session whose counter is in use. -/
def joinedBefore : SessionRow :=
  ⟨1, none, 0x05, some 0, some 7, none, none, none, 0, 0⟩

/-- A NetID of type 7. -/
def sampleConfig : AddrConfig := ⟨7, 0xfe000980⟩

def allOk : LookupOk := ⟨true, true⟩

def sampleMotes : List MoteRow := [⟨1, some 0xd1⟩]

def sampleAns : JoinAns :=
  ⟨true, some 3600, none, true, true, true, true, ⟨0, some 3600, 0, none, none, none, none, none, 1, 0⟩⟩

/-- The JoinReq carries `0xfe000980`; a frame under the session that the device still has names the
mote by `0x05`. -/
theorem joinAddress_lost :
    ¬JoinAddressesAgree (Machine.run (Network.step sampleConfig) (.init sampleMotes [joinedBefore])
      [.name 0xd1 NONE_DEVADDR allOk, .assign 0 [] true, .name NONE_DEVEUI 0x05 allOk,
        .joinAns 0 0 sampleAns]) := by
  unfold JoinAddressesAgree
  decide +kernel

theorem joinAddress_kept :
    JoinAddressesAgree (Machine.run (Network.step sampleConfig) (.init sampleMotes [joinedBefore])
      [.name 0xd1 NONE_DEVADDR allOk, .assign 0 [] true, .joinAns 0 0 sampleAns,
        .name NONE_DEVEUI 0x05 allOk, .name 0xd1 NONE_DEVADDR allOk, .assign 0 [] true, .lost 0 0,
        .name 0xd1 NONE_DEVADDR allOk, .assign 0 [] true, .joinAns 0 0 sampleAns]) :=
  joinAddressesAgree_of_undisturbed sampleConfig sampleMotes [joinedBefore] (by decide +kernel)

end Lorawan.NetworkServer

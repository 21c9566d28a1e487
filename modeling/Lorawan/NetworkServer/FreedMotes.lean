import Mathlib.Data.Fintype.Basic
import Lorawan.NetworkServer.JoinAddress

/-!
# The motes that a join frees

The answer of a join frees every entry of the list that has the address of a
never used session of the device. The mote the answer is for is not among them
when the address it asked for was free, and nothing renamed it since.
-/

namespace Lorawan.NetworkServer
open Lorawan

/-! ### The property -/

/-- An answer frees no entry of another device and not the mote it is for, which is not used
after it was freed. -/
def FreesOnlyStale (s : Network) : Prop :=
  s.dead = false ∧ ∀ f ∈ s.freed, f.cell ≠ f.by_ ∧ f.entry.devEui = f.devEui

/-! ### The addresses of sessions -/

/-- ID and DevAddr of the session that a statement inserts. -/
def Statement.newAddr : Statement → Option (ℕ × ℕ)
  | .insert row => some (row.ID, row.DevAddr)
  | _ => none

/-- ID and DevAddr of each session in the table and in the queue. -/
def sessionAddrs (rows : List SessionRow) (queue : List Statement) : List (ℕ × ℕ) :=
  rows.map (fun r => (r.ID, r.DevAddr)) ++ queue.filterMap Statement.newAddr

def Network.addrs (s : Network) : List (ℕ × ℕ) := sessionAddrs s.store.table s.store.queue

theorem sessionAddrs_execute (rows : List SessionRow) (u : Statement) (us : List Statement) :
    sessionAddrs (execute rows u) us ⊆ sessionAddrs rows (u :: us) := by
  intro p hp
  rcases List.mem_append.mp hp with hrow | hqueue
  · obtain ⟨r', hr', rfl⟩ := List.mem_map.mp hrow
    rcases execute_cases hr' with ⟨r, hr, hsame⟩ | rfl | ⟨n, devAddr, r, rfl, hr, rfl⟩
    · rw [hsame.ID, hsame.DevAddr]
      exact List.mem_append_left _ (List.mem_map.mpr ⟨r, hr, rfl⟩)
    · refine List.mem_append_right _ ?_
      simp [Statement.newAddr]
    · exact List.mem_append_left _ (List.mem_map.mpr ⟨r, (newestByDevAddr_mem hr).1, rfl⟩)
  · refine List.mem_append_right _ ?_
    rw [List.filterMap_cons]
    split
    · exact hqueue
    · exact List.mem_cons_of_mem _ hqueue

theorem addrs_enqueue {s : WriteBehind.Store (List SessionRow) Statement} {u : Statement}
    {p : ℕ × ℕ} (h : p ∈ sessionAddrs (s.enqueue u).table (s.enqueue u).queue) :
    p ∈ sessionAddrs s.table s.queue ∨ u.newAddr = some p := by
  simp only [sessionAddrs, WriteBehind.Store.enqueue, List.filterMap_append, List.mem_append] at h
  rcases h with hrow | hqueue | hnew
  · exact Or.inl (List.mem_append_left _ hrow)
  · exact Or.inl (List.mem_append_right _ hqueue)
  · obtain ⟨v, hv, hp⟩ := List.mem_filterMap.mp hnew
    rw [List.mem_singleton.mp hv] at hp
    exact Or.inr hp

theorem addrs_writeNext (s : WriteBehind.Store (List SessionRow) Statement) :
    sessionAddrs (s.writeNext execute).table (s.writeNext execute).queue ⊆
      sessionAddrs s.table s.queue := by
  unfold WriteBehind.Store.writeNext
  split
  · exact fun _ h => h
  · rename_i u us hqueue
    rw [hqueue]
    exact sessionAddrs_execute s.table u us

/-! ### The condition -/

/-- No session has the address, neither in the table nor in the queue. -/
def NoSession (s : Network) (devAddr : ℕ) : Prop := ∀ p ∈ s.addrs, p.2 ≠ devAddr

/-- A property of all entries, with their places. -/
def AllAt (P : ℕ → MoteEntry → Prop) (l : Motes) : Prop :=
  ∀ c < l.length, ∀ e ∈ l.entry c, P c e

/-- The row of the device in `motes` is found by either column. -/
def Known (motes : List MoteRow) (devEui : ℕ) : Prop :=
  ownerOf motes (getMoteIDfromDevEUI motes devEui) = devEui

/-- The device that a DevAddr is taken to be, by the name it is given or by what is looked up for
a new entry, owns the sessions with it, and no other mote that waits for an answer has it. Without a
name the address finds a mote, or none has it. -/
def NamesOwner (s : Network) (devEui second devAddr : ℕ) : Prop :=
  let found := findMote devEui devAddr s.mote_list
  devAddr ≠ NONE_DEVADDR → ¬(devEui = NONE_DEVEUI ∧ found.isSome) →
    (∀ p ∈ s.addrs, p.2 = devAddr →
        ownerOf s.motes p.1 = (create_mote second devEui devAddr).devEui) ∧
      AllAt (fun c e => e.awaited ≠ [] → e.devAddr = devAddr → found = some c) s.mote_list

/-- The address that the mote gets is free, or the query failed. -/
def AssignsFree (cfg : AddrConfig) (s : Network) (fails : List ℕ) (e : MoteEntry) : Prop :=
  getDevAddr cfg s.mote_list s.store.table fails e.devAddr = NONE_DEVADDR ∨
    (NoSession s (getDevAddr cfg s.mote_list s.store.table fails e.devAddr) ∧
      AllAt (fun _ e' => e'.devAddr ≠ getDevAddr cfg s.mote_list s.store.table fails e.devAddr)
        s.mote_list)

/-- The address that the home network server gave to a device is new here. -/
def TakesFree (s : Network) (c : ℕ) (ans : JoinAns) (e : MoteEntry) : Prop :=
  e.awaited = [] ∧ Known s.motes e.devEui ∧ ans.DevAddr.getD e.devAddr ≠ NONE_DEVADDR ∧
    NoSession s (ans.DevAddr.getD e.devAddr) ∧
      AllAt (fun c' e' => e'.devAddr = ans.DevAddr.getD e.devAddr → c' = c) s.mote_list

/-- The answer of a roaming partner names the device by an address that is its own. -/
def RoamsOwn (s : Network) (c : ℕ) (e' : MoteEntry) : Prop :=
  (∀ p ∈ s.addrs, p.2 = e'.devAddr → ownerOf s.motes p.1 = e'.devEui) ∧
    AllAt (fun c' e'' => e''.awaited ≠ [] → e''.devAddr = e'.devAddr → c' = c) s.mote_list

/-- A session that was not joined for has an address of its own, or one of the same device. -/
def AddsOwn (s : Network) (p : ℕ × ℕ) : Prop :=
  p.2 ≠ NONE_DEVADDR ∧ (∀ q ∈ s.addrs, q.2 = p.2 → ownerOf s.motes q.1 = ownerOf s.motes p.1) ∧
    AllAt (fun _ e => e.devAddr = p.2 → e.awaited = [] ∧ e.devEui = ownerOf s.motes p.1)
      s.mote_list

/-- The condition on an event. -/
def AddressesApart (cfg : AddrConfig) (s : Network) (ev : MoteEvent) : Prop :=
  Undisturbed s ev ∧
    match ev with
    | .name devEui devAddr ok =>
      NamesOwner s (s.sought ok devEui devAddr) (s.lookup ok devAddr) devAddr
    | .assign c fails _ => ∀ e ∈ s.mote_list.entry c, AssignsFree cfg s fails e
    | .joinAns c _ _ => ∀ e ∈ s.mote_list.entry c, Known s.motes e.devEui
    | .hrStartAns c ans => ∀ e ∈ s.mote_list.entry c, TakesFree s c ans e
    | .roamAns c devEui devAddr =>
      ∀ e ∈ s.mote_list.entry c, RoamsOwn s c (roamAnsCallback devEui devAddr e)
    | .statement u => ∀ p ∈ u.newAddr, AddsOwn s p
    | .lost .. | .discard _ | .writer => True

instance (P : ℕ → MoteEntry → Prop) [∀ c e, Decidable (P c e)] (l : Motes) :
    Decidable (AllAt P l) := by
  unfold AllAt
  infer_instance

instance (s : Network) (a : ℕ) : Decidable (NoSession s a) := by
  unfold NoSession
  infer_instance

instance (motes : List MoteRow) (devEui : ℕ) : Decidable (Known motes devEui) :=
  inferInstanceAs (Decidable (_ = _))

instance (s : Network) (devEui second devAddr : ℕ) :
    Decidable (NamesOwner s devEui second devAddr) := by
  unfold NamesOwner
  infer_instance

instance (cfg : AddrConfig) (s : Network) (fails : List ℕ) (e : MoteEntry) :
    Decidable (AssignsFree cfg s fails e) := by
  unfold AssignsFree
  infer_instance

instance (s : Network) (c : ℕ) (ans : JoinAns) (e : MoteEntry) :
    Decidable (TakesFree s c ans e) := by
  unfold TakesFree
  infer_instance

instance (s : Network) (c : ℕ) (e : MoteEntry) : Decidable (RoamsOwn s c e) := by
  unfold RoamsOwn
  infer_instance

instance (s : Network) (p : ℕ × ℕ) : Decidable (AddsOwn s p) := by
  unfold AddsOwn
  infer_instance

instance (cfg : AddrConfig) (s : Network) : ∀ ev, Decidable (AddressesApart cfg s ev)
  | .name devEui devAddr ok => inferInstanceAs (Decidable (Undisturbed s (.name devEui devAddr ok) ∧
      NamesOwner s (s.sought ok devEui devAddr) (s.lookup ok devAddr) devAddr))
  | .assign c fails posted => inferInstanceAs (Decidable (Undisturbed s (.assign c fails posted) ∧
      ∀ e ∈ s.mote_list.entry c, AssignsFree cfg s fails e))
  | .joinAns c i ans => inferInstanceAs (Decidable (Undisturbed s (.joinAns c i ans) ∧
      ∀ e ∈ s.mote_list.entry c, Known s.motes e.devEui))
  | .hrStartAns c ans => inferInstanceAs (Decidable (Undisturbed s (.hrStartAns c ans) ∧
      ∀ e ∈ s.mote_list.entry c, TakesFree s c ans e))
  | .roamAns c devEui devAddr =>
    inferInstanceAs (Decidable (Undisturbed s (.roamAns c devEui devAddr) ∧
      ∀ e ∈ s.mote_list.entry c, RoamsOwn s c (roamAnsCallback devEui devAddr e)))
  | .statement u => inferInstanceAs (Decidable (Undisturbed s (.statement u) ∧
      ∀ p ∈ u.newAddr, AddsOwn s p))
  | .lost c i => inferInstanceAs (Decidable (Undisturbed s (.lost c i) ∧ True))
  | .discard c => inferInstanceAs (Decidable (Undisturbed s (.discard c) ∧ True))
  | .writer => inferInstanceAs (Decidable (Undisturbed s .writer ∧ True))

/-! ### The invariant -/

theorem AllAt.at {P : ℕ → MoteEntry → Prop} {l : Motes} (h : AllAt P l) {c : ℕ} {e : MoteEntry}
    (he : l.entry c = some e) : P c e :=
  h c (entry_lt he) e he

/-- An entry beside the sessions with the addresses `addrs`. -/
structure MoteEntry.Fits (motes : List MoteRow) (addrs : List (ℕ × ℕ)) (e : MoteEntry) : Prop where
  keeps : e.Keeps
  single : e.awaited.length ≤ 1
  owns : ∀ p ∈ addrs, p.2 = e.devAddr → ownerOf motes p.1 = e.devEui
  unused : e.awaited ≠ [] → ∀ p ∈ addrs, p.2 ≠ e.devAddr
  real : e.awaited ≠ [] → e.devAddr ≠ NONE_DEVADDR

structure Motes.Fit (motes : List MoteRow) (addrs : List (ℕ × ℕ)) (l : Motes) : Prop where
  fits : l.All (MoteEntry.Fits motes addrs)
  alone : ∀ c e, l.entry c = some e → e.awaited ≠ [] →
    ∀ c' e', l.entry c' = some e' → e'.devAddr = e.devAddr → c' = c

variable {motes : List MoteRow} {addrs addrs' : List (ℕ × ℕ)} {l : Motes}

theorem Motes.Fit.mono (h : l.Fit motes addrs) (hsub : addrs' ⊆ addrs) : l.Fit motes addrs' := by
  refine ⟨fun c e he => ?_, h.alone⟩
  have hfit := h.fits c e he
  exact ⟨hfit.keeps, hfit.single, fun p hp => hfit.owns p (hsub hp),
    fun hne p hp => hfit.unused hne p (hsub hp), hfit.real⟩

theorem Motes.Fit.free (h : l.Fit motes addrs) (as : List ℕ) : (freeMotes as l).Fit motes addrs :=
  ⟨all_freeMotes h.fits as, fun c e he hne c' e' he' =>
    h.alone c e (entry_of_freeMotes he) hne c' e' (entry_of_freeMotes he')⟩

theorem Motes.Fit.discard (h : l.Fit motes addrs) (c : ℕ) : (free_mote c l).Fit motes addrs :=
  ⟨all_free_mote h.fits c, fun c₁ e he hne c₂ e' he' =>
    h.alone c₁ e (entry_of_free_mote he) hne c₂ e' (entry_of_free_mote he')⟩

theorem Motes.Fit.place (h : l.Fit motes addrs) {e : MoteEntry} (hfit : e.Fits motes addrs)
    (hnew : e.awaited = [])
    (hother : ∀ c e', l.entry c = some e' → e'.awaited ≠ [] → e'.devAddr ≠ e.devAddr) :
    (placeMote e l).1.Fit motes addrs := by
  refine ⟨all_placeMote h.fits hfit, ?_⟩
  intro c e₁ h₁ hne c' e₂ h₂ haddr
  rcases entry_placeMote h₁ with rfl | hold
  · exact absurd hnew hne
  · rcases entry_placeMote h₂ with rfl | hold'
    · exact absurd haddr.symm (hother c e₁ hold hne)
    · -- an entry of the old list stays where it is
      exact h.alone c e₁ hold hne c' e₂ hold' haddr

theorem Motes.Fit.update (h : l.Fit motes addrs) {c : ℕ} {f : MoteEntry → MoteEntry}
    (hfit : ∀ e, l.entry c = some e → (f e).Fits motes addrs)
    (hapart : ∀ e, l.entry c = some e → ∀ c' e', l.entry c' = some e' → c' ≠ c →
      e'.devAddr = (f e).devAddr → e'.awaited = [] ∧ (f e).awaited = []) :
    (updateMote c f l).Fit motes addrs := by
  refine ⟨all_updateMote h.fits hfit, ?_⟩
  intro c₁ e₁ h₁ hne c₂ e₂ h₂ haddr
  rw [entry_updateMote] at h₁ h₂
  by_cases hc₁ : c = c₁
  · subst hc₁
    rw [if_pos rfl] at h₁
    obtain ⟨e, he, rfl⟩ := Option.map_eq_some_iff.mp h₁
    by_contra hc₂
    rw [if_neg (Ne.symm hc₂)] at h₂
    exact hne (hapart e he c₂ e₂ h₂ hc₂ haddr).2
  · rw [if_neg hc₁] at h₁
    by_cases hc₂ : c = c₂
    · subst hc₂
      rw [if_pos rfl] at h₂
      obtain ⟨e, he, rfl⟩ := Option.map_eq_some_iff.mp h₂
      exact absurd (hapart e he c₁ e₁ h₁ (Ne.symm hc₁) haddr.symm).1 hne
    · rw [if_neg hc₂] at h₂
      exact h.alone c₁ e₁ h₁ hne c₂ e₂ h₂ haddr

theorem Motes.Fit.idle (h : l.Fit motes addrs) {c c' : ℕ} {e e' : MoteEntry}
    (he : l.entry c = some e) (he' : l.entry c' = some e') (hc : c' ≠ c)
    (haddr : e'.devAddr = e.devAddr) : e'.awaited = [] ∧ e.awaited = [] := by
  constructor
  · by_contra hne
    exact hc (h.alone c' e' he' hne c e he haddr.symm).symm
  · by_contra hne
    exact hc (h.alone c e he hne c' e' he' haddr)

theorem Motes.Fit.addAddr (h : l.Fit motes addrs) {p : ℕ × ℕ}
    (hsub : ∀ q ∈ addrs', q ∈ addrs ∨ q = p)
    (hother : ∀ c e, l.entry c = some e → e.devAddr = p.2 →
      e.awaited = [] ∧ e.devEui = ownerOf motes p.1) : l.Fit motes addrs' := by
  refine ⟨fun c e he => ?_, h.alone⟩
  have hfit := h.fits c e he
  refine ⟨hfit.keeps, hfit.single, ?_, ?_, hfit.real⟩
  · intro q hq haddr
    rcases hsub q hq with hold | rfl
    · exact hfit.owns q hold haddr
    · exact (hother c e he haddr.symm).2.symm
  · intro hne q hq haddr
    rcases hsub q hq with hold | rfl
    · exact hfit.unused hne q hold haddr
    · exact hne (hother c e he haddr.symm).1

structure Apart (s : Network) : Prop where
  real : ∀ p ∈ s.addrs, p.2 ≠ NONE_DEVADDR
  oneOwner : ∀ p ∈ s.addrs, ∀ q ∈ s.addrs, p.2 = q.2 → ownerOf s.motes p.1 = ownerOf s.motes q.1
  fit : s.mote_list.Fit s.motes s.addrs
  frees : FreesOnlyStale s

theorem Apart.shrink {s s' : Network} (h : Apart s) (hmotes : s'.motes = s.motes)
    (hsub : s'.addrs ⊆ s.addrs) (hfit : s'.mote_list.Fit s.motes s.addrs)
    (hfrees : FreesOnlyStale s') : Apart s' := by
  refine ⟨fun p hp => h.real p (hsub hp), ?_, ?_, hfrees⟩
  · rw [hmotes]
    exact fun p hp q hq => h.oneOwner p (hsub hp) q (hsub hq)
  · rw [hmotes]
    exact hfit.mono hsub

theorem Apart.relist {s : Network} (h : Apart s) {l : Motes} (hfit : l.Fit s.motes s.addrs) :
    Apart { s with mote_list := l } :=
  h.shrink rfl (fun _ hp => hp) hfit h.frees

theorem Apart.addSession {s : Network} (h : Apart s) {u : Statement}
    (hnew : ∀ p ∈ u.newAddr, AddsOwn s p) :
    Apart { s with store := s.store.enqueue u } := by
  have hsplit : ∀ q ∈ Network.addrs { s with store := s.store.enqueue u },
      q ∈ s.addrs ∨ u.newAddr = some q := fun q hq => addrs_enqueue hq
  refine ⟨?_, ?_, ?_, h.frees⟩
  · intro q hq
    rcases hsplit q hq with hold | hu
    · exact h.real q hold
    · exact (hnew q hu).1
  · intro p hp q hq haddr
    rcases hsplit p hp with hp' | hp' <;> rcases hsplit q hq with hq' | hq'
    · exact h.oneOwner p hp' q hq' haddr
    · exact (hnew q hq').2.1 p hp' haddr
    · exact ((hnew p hp').2.1 q hq' haddr.symm).symm
    · rw [hp'] at hq'
      rw [Option.some.inj hq']
  · cases hu : u.newAddr with
    | none =>
      refine h.fit.mono fun q hq => ?_
      rcases hsplit q hq with hold | hq'
      · exact hold
      · rw [hu] at hq'
        cases hq'
    | some p =>
      refine h.fit.addAddr (p := p) (fun q hq => ?_) fun c e he haddr => ?_
      · rcases hsplit q hq with hold | hq'
        · exact Or.inl hold
        · rw [hu] at hq'
          exact Or.inr (Option.some.inj hq').symm
      · exact ((hnew p hu).2.2.at he) haddr

/-! ### Names and addresses -/

theorem apart_name {s : Network} (h : Apart s) {devEui devAddr : ℕ} {ok : LookupOk}
    {cfg : AddrConfig} (hc : AddressesApart cfg s (.name devEui devAddr ok)) :
    Apart { s with mote_list := s.getMote ok devEui devAddr } := by
  obtain ⟨hcalm, hname⟩ := hc
  refine h.relist ?_
  unfold Network.getMote getMoteBetween
  rw [← Network.sought]
  dsimp only
  split
  · rename_i c hfind
    split
    · rename_i hboth
      obtain ⟨howner, halone⟩ := hname hboth.2 (fun hnone => hboth.1 hnone.1)
      refine h.fit.update (fun e he => ?_) fun e he c' e' he' hne haddr => ?_
      · have hfit := h.fit.fits c e he
        have hsame : e.awaited ≠ [] → devAddr = e.devAddr :=
          hcalm hboth.1 hboth.2 e (by rw [namedMote, hfind]; exact he)
        have hdev : e.devEui = s.sought ok devEui devAddr := by
          obtain ⟨hlt, hp, -⟩ := List.findIdx?_eq_some_iff_getElem.mp hfind
          rw [Motes.entry, List.getElem?_eq_getElem hlt] at he
          have hget : s.mote_list[c] = some e := by simpa using he
          simpa [hget, MoteEntry.isNamed, hboth.1] using hp
        refine ⟨hfit.keeps.rename hsame, hfit.single, ?_, ?_, ?_⟩
        · intro p hp haddr
          rw [howner p hp haddr, create_mote, if_neg hboth.1]
          exact hdev.symm
        · intro hne p hp
          simp only [hsame hne]
          exact hfit.unused hne p hp
        · exact fun _ => hboth.2
      · have hidle : e'.awaited = [] := by
          by_contra hwait
          have := halone.at he' hwait haddr
          rw [hfind] at this
          exact hne (Option.some.inj this).symm
        refine ⟨hidle, ?_⟩
        by_contra hwait
        have hsame := hcalm hboth.1 hboth.2 e (by rw [namedMote, hfind]; exact he) hwait
        exact hwait (h.fit.idle he he' hne (haddr.trans hsame)).2
    · exact h.fit
  · rename_i hfind
    by_cases hnone : devAddr = NONE_DEVADDR
    · subst hnone
      refine h.fit.place ⟨fun a ha => (List.not_mem_nil ha).elim, Nat.zero_le _, ?_, fun hne => absurd rfl hne,
        fun hne => absurd rfl hne⟩ rfl ?_
      · exact fun p hp haddr => absurd haddr (h.real p hp)
      · exact fun c e' he' hne => (h.fit.fits c e' he').real hne
    · obtain ⟨howner, halone⟩ := hname hnone fun hsome => by
        rw [hfind] at hsome
        cases hsome.2
      refine h.fit.place ⟨fun a ha => (List.not_mem_nil ha).elim, Nat.zero_le _, howner, fun hne => absurd rfl hne,
        fun hne => absurd rfl hne⟩ rfl ?_
      intro c e' he' hne haddr
      have := halone.at he' hne haddr
      rw [hfind] at this
      cases this

theorem apart_assign {s : Network} (h : Apart s) {cfg : AddrConfig} {c : ℕ} {fails : List ℕ}
    {posted : Bool} (hc : AddressesApart cfg s (.assign c fails posted)) :
    Apart (assignDevAddrToJS cfg c fails posted s) := by
  obtain ⟨hidle, hfree⟩ := hc
  refine h.relist (h.fit.update (fun e he => ?_) fun e he c' e' he' hne haddr => ?_)
  · have hnil := hidle e he
    refine ⟨?_, ?_, ?_, ?_, ?_⟩
    · intro a ha
      simp only [hnil, List.nil_append] at ha ⊢
      split at ha
      · exact List.mem_singleton.mp ha
      · cases ha
    · simp only [hnil, List.nil_append]
      split <;> simp
    · intro p hp haddr
      rcases hfree e he with hnone | ⟨hnosession, -⟩
      · exact absurd (haddr.trans hnone) (h.real p hp)
      · exact absurd haddr (hnosession p hp)
    · intro hne p hp haddr
      rcases hfree e he with hnone | ⟨hnosession, -⟩
      · exact h.real p hp (haddr.trans hnone)
      · exact hnosession p hp haddr
    · intro hne hnone
      refine hne ?_
      simp only [hnil, List.nil_append]
      rw [if_neg fun hposted => hposted.1 hnone]
  · rcases hfree e he with hnone | ⟨-, hapart⟩
    · have haddr' : e'.devAddr = NONE_DEVADDR := haddr.trans hnone
      refine ⟨?_, ?_⟩
      · by_contra hwait
        exact (h.fit.fits c' e' he').real hwait haddr'
      · simp only [hidle e he, List.nil_append]
        rw [if_neg fun hposted => hposted.1 hnone]
    · exact absurd haddr (hapart.at he')

theorem MoteEntry.Fits.forget {e : MoteEntry} (h : e.Fits motes addrs) (i : ℕ) :
    (forgetAwaited i e).Fits motes addrs := by
  have hsub := List.eraseIdx_sublist e.awaited i
  have hne : (forgetAwaited i e).awaited ≠ [] → e.awaited ≠ [] := by
    intro hne hnil
    exact hne (by simp [forgetAwaited, hnil])
  exact ⟨fun a ha => h.keeps a (hsub.subset ha), hsub.length_le.trans h.single, h.owns,
    fun hwait => h.unused (hne hwait), fun hwait => h.real (hne hwait)⟩

theorem fit_forget (h : l.Fit motes addrs) (c i : ℕ) :
    (updateMote c (forgetAwaited i) l).Fit motes addrs := by
  refine h.update (fun e he => (h.fits c e he).forget i) fun e he c' e' he' hne haddr => ?_
  obtain ⟨hidle', hidle⟩ := h.idle he he' hne haddr
  exact ⟨hidle', by simp [forgetAwaited, hidle]⟩

/-! ### Answers -/

theorem mem_freedMotes {by_ devEui : ℕ} {as : List ℕ} {f : Freed}
    (h : f ∈ freedMotes by_ devEui as l) :
    f.by_ = by_ ∧ f.devEui = devEui ∧ l.entry f.cell = some f.entry ∧ f.entry.devAddr ∈ as := by
  obtain ⟨⟨o, i⟩, hmem, hf⟩ := List.mem_filterMap.mp h
  obtain ⟨e, he, rfl⟩ := Option.map_eq_some_iff.mp hf
  obtain ⟨rfl, haddr⟩ := Option.filter_eq_some_iff.mp he
  have hget := List.mem_zipIdx_iff_getElem?.mp hmem
  refine ⟨rfl, rfl, ?_, by simpa using haddr⟩
  simp only [Motes.entry]
  simp only at hget
  rw [hget]
  rfl

theorem neverUsed_addrs {rows : List SessionRow} {queue : List Statement} {id a : ℕ}
    (h : a ∈ neverUsed id rows) : (id, a) ∈ sessionAddrs rows queue := by
  obtain ⟨r, hr, rfl⟩ := List.mem_map.mp h
  obtain ⟨hmem, hp⟩ := List.mem_filter.mp hr
  simp only [Bool.and_eq_true, decide_eq_true_eq] at hp
  rw [← hp.1]
  exact List.mem_append_left _ (List.mem_map.mpr ⟨r, hmem, rfl⟩)

/-- The mote `c` has an address without sessions, so it stays; what goes belongs to its device. -/
theorem apart_delete {s : Network} (h : Apart s) {c : ℕ} {e : MoteEntry} (ans : JoinAns)
    (he : s.mote_list.entry c = some e) (hknown : Known s.motes e.devEui)
    (hfree : NoSession s e.devAddr) :
    Apart (deleteNeverUsedSessions c e.devEui ans s) ∧
      (deleteNeverUsedSessions c e.devEui ans s).mote_list.entry c = some e := by
  unfold deleteNeverUsedSessions
  split
  · have hmem : ∀ a ∈ neverUsed (getMoteIDfromDevEUI s.motes e.devEui) s.store.table,
        (getMoteIDfromDevEUI s.motes e.devEui, a) ∈ s.addrs := fun a ha => neverUsed_addrs ha
    have hfrees : FreesOnlyStale { s with
        mote_list := freeMotes (neverUsed (getMoteIDfromDevEUI s.motes e.devEui) s.store.table)
          s.mote_list
        freed := s.freed ++ freedMotes c e.devEui
          (neverUsed (getMoteIDfromDevEUI s.motes e.devEui) s.store.table) s.mote_list } := by
      refine ⟨h.frees.1, fun f hf => ?_⟩
      rcases List.mem_append.mp hf with hold | hnew
      · exact h.frees.2 f hold
      · obtain ⟨hby, hdev, hentry, haddr⟩ := mem_freedMotes hnew
        have hsession := hmem _ haddr
        refine ⟨fun hcell => ?_, ?_⟩
        · rw [hcell, hby, he] at hentry
          exact hfree _ hsession (by rw [Option.some.inj hentry])
        · rw [hdev, ← (h.fit.fits _ _ hentry).owns _ hsession rfl]
          exact hknown
    have hstay : (freeMotes (neverUsed (getMoteIDfromDevEUI s.motes e.devEui) s.store.table)
        s.mote_list).entry c = some e := by
      rw [entry_freeMotes, he]
      simp only [Option.filter_some, decide_eq_true_eq]
      rw [if_pos]
      exact fun ha => hfree _ (hmem _ ha) rfl
    have hlist := h.fit.free (neverUsed (getMoteIDfromDevEUI s.motes e.devEui) s.store.table)
    unfold Network.enqueue
    dsimp only
    split
    · refine ⟨h.shrink rfl (fun p hp => ?_) hlist hfrees, hstay⟩
      rcases addrs_enqueue hp with hold | hnew
      · exact hold
      · cases hnew
    · exact ⟨h.shrink rfl (fun _ hp => hp) hlist hfrees, hstay⟩
  · exact ⟨h, he⟩

theorem deleteNeverUsed_subset (c devEui : ℕ) (ans : JoinAns) (s : Network) :
    (deleteNeverUsedSessions c devEui ans s).motes = s.motes ∧
      (deleteNeverUsedSessions c devEui ans s).addrs ⊆ s.addrs ∧
        ∀ c' e, (deleteNeverUsedSessions c devEui ans s).mote_list.entry c' = some e →
          s.mote_list.entry c' = some e := by
  unfold deleteNeverUsedSessions Network.enqueue
  split
  · dsimp only
    split
    · refine ⟨rfl, fun p hp => ?_, fun c' e he => entry_of_freeMotes he⟩
      rcases addrs_enqueue hp with hold | hnew
      · exact hold
      · cases hnew
    · exact ⟨rfl, fun _ hp => hp, fun c' e he => entry_of_freeMotes he⟩
  · exact ⟨rfl, fun _ hp => hp, fun _ _ he => he⟩

theorem apart_addSession {s : Network} (h : Apart s) {c : ℕ} {e : MoteEntry} (sent : Option ℕ)
    (ans : JoinAns) (he : s.mote_list.entry c = some e) (hidle : e.awaited = [])
    (hreal : e.devAddr ≠ NONE_DEVADDR) (hknown : Known s.motes e.devEui)
    (hfree : NoSession s e.devAddr)
    (honly : ∀ c' e', s.mote_list.entry c' = some e' → e'.devAddr = e.devAddr → c' = c) :
    Apart (addSession sent e ans s) := by
  have hadds : ∀ p ∈ (Statement.insert (joinedRow s.motes e ans)).newAddr, AddsOwn s p := by
    intro p hp
    obtain rfl := Option.mem_some_iff.mp hp
    refine ⟨hreal, fun q hq haddr => absurd haddr (hfree q hq), fun c' _ e' he' haddr => ?_⟩
    obtain rfl := honly c' e' he' haddr
    obtain rfl := Option.some.inj (he.symm.trans he')
    exact ⟨hidle, hknown.symm⟩
  unfold addSession
  split
  · have hadd := h.addSession hadds
    exact hadd.shrink rfl (fun _ hp => hp) hadd.fit h.frees
  · exact h

theorem apart_takeJoinAns {s : Network} (h : Apart s) (sent : Option ℕ) {c : ℕ} {ans : JoinAns}
    (hc : ∀ e ∈ s.mote_list.entry c, TakesFree s c ans e) : Apart (takeJoinAns sent c ans s) := by
  unfold takeJoinAns
  split
  · split
    · exact h
    · rename_i e he
      obtain ⟨hidle, hknown, hreal, hfree, honly⟩ := hc e he
      have hname : Apart { s with mote_list := updateMote c (fun _ => { e with
          devAddr := ans.DevAddr.getD e.devAddr }) s.mote_list } := by
        refine h.relist (h.fit.update (fun _ _ => ?_) fun _ _ c' e' he' hne haddr => ?_)
        · refine ⟨(h.fit.fits c e he).keeps.rename fun hne => absurd hidle hne, ?_, ?_, ?_, ?_⟩
          · exact (h.fit.fits c e he).single
          · exact fun p hp haddr => absurd haddr (hfree p hp)
          · exact fun hne => absurd hidle hne
          · exact fun hne => absurd hidle hne
        · exact absurd (honly.at he' haddr) hne
      have hentry : (updateMote c (fun _ => { e with
          devAddr := ans.DevAddr.getD e.devAddr }) s.mote_list).entry c =
            some { e with devAddr := ans.DevAddr.getD e.devAddr } := by
        rw [entry_updateMote, if_pos rfl, he]
        rfl
      have honly' : ∀ c' e', (updateMote c (fun _ => { e with
          devAddr := ans.DevAddr.getD e.devAddr }) s.mote_list).entry c' = some e' →
            e'.devAddr = ans.DevAddr.getD e.devAddr → c' = c := by
        intro c' e' he' haddr
        by_contra hne
        rw [entry_updateMote, if_neg (Ne.symm hne)] at he'
        exact hne (honly.at he' haddr)
      dsimp only
      split
      · obtain ⟨hdel, hstay⟩ := apart_delete hname ans hentry hknown hfree
        obtain ⟨hmotes, hsub, hold⟩ := deleteNeverUsed_subset c e.devEui ans { s with
          mote_list := updateMote c (fun _ => { e with
            devAddr := ans.DevAddr.getD e.devAddr }) s.mote_list }
        dsimp only at hstay
        rw [if_pos (by rw [hstay]; rfl)]
        refine apart_addSession hdel sent ans hstay hidle hreal (by rw [hmotes]; exact hknown) ?_ ?_
        · exact fun p hp => hfree p (hsub hp)
        · exact fun c' e' he' => honly' c' e' (hold c' e' he')
      · exact hname
  · exact h

theorem apart_joinAns {s : Network} (h : Apart s) {cfg : AddrConfig} {c i : ℕ} {ans : JoinAns}
    (hc : AddressesApart cfg s (.joinAns c i ans)) : Apart (joinAnsCallback c i ans s) := by
  obtain ⟨hcalm, hknown⟩ := hc
  unfold joinAnsCallback
  split
  · exact h
  · rename_i sent hsent
    obtain ⟨e, he, hi⟩ := Option.bind_eq_some_iff.mp hsent
    have hfit := h.fit.fits c e he
    have hmem := List.mem_of_getElem? hi
    have hwait : e.awaited ≠ [] := List.ne_nil_of_mem hmem
    have hname : ans.DevAddr.getD e.devAddr = e.devAddr := by
      cases hdev : ans.DevAddr with
      | none => rfl
      | some a => exact (hcalm e he sent hi a hdev).trans (hfit.keeps sent hmem)
    have hforget : (updateMote c (forgetAwaited i) s.mote_list).entry c =
        some (forgetAwaited i e) := by
      rw [entry_updateMote, if_pos rfl, he]
      rfl
    refine apart_takeJoinAns (s := { s with
      mote_list := updateMote c (forgetAwaited i) s.mote_list })
        (h.relist (fit_forget h.fit c i)) (some sent) fun e' he' => ?_
    rw [hforget] at he'
    rw [← Option.some.inj he']
    have haddr : ans.DevAddr.getD (forgetAwaited i e).devAddr = e.devAddr := hname
    refine ⟨?_, hknown e he, ?_, ?_, ?_⟩
    · -- only one request was out
      have hlt := (List.getElem?_eq_some_iff.mp hi).1
      have hlen : (e.awaited.eraseIdx i).length = 0 := by
        rw [List.length_eraseIdx_of_lt hlt]
        have := hfit.single
        omega
      exact List.length_eq_zero_iff.mp hlen
    · rw [haddr]
      exact hfit.real hwait
    · rw [haddr]
      exact hfit.unused hwait
    · rw [haddr]
      intro c' _ e'' he'' haddr''
      by_contra hne
      have hold : s.mote_list.entry c' = some e'' := by
        rw [Option.mem_def, entry_updateMote, if_neg (Ne.symm hne)] at he''
        exact he''
      exact hne (h.fit.alone c e he hwait c' e'' hold haddr'')

/-! ### Runs -/

theorem apart_roamAns {s : Network} (h : Apart s) {cfg : AddrConfig} {c : ℕ}
    {devEui devAddr : Option ℕ} (hc : AddressesApart cfg s (.roamAns c devEui devAddr)) :
    Apart { s with mote_list := updateMote c (roamAnsCallback devEui devAddr) s.mote_list } := by
  obtain ⟨hcalm, hown⟩ := hc
  have hname : ∀ e, s.mote_list.entry c = some e → e.awaited ≠ [] →
      (roamAnsCallback devEui devAddr e).devAddr = e.devAddr := by
    intro e he hne
    cases hdev : devAddr with
    | none => rfl
    | some a => exact hcalm e he hne a hdev
  refine h.relist (h.fit.update (fun e he => ?_) fun e he c' e' he' hne haddr => ?_)
  · have hfit := h.fit.fits c e he
    refine ⟨fun a ha => ?_, hfit.single, (hown e he).1, fun hne => ?_, fun hne => ?_⟩
    · rw [hname e he (List.ne_nil_of_mem ha)]
      exact hfit.keeps a ha
    · rw [hname e he hne]
      exact hfit.unused hne
    · rw [hname e he hne]
      exact hfit.real hne
  · refine ⟨?_, ?_⟩
    · by_contra hwait
      exact hne ((hown e he).2.at he' hwait haddr)
    · by_contra hwait
      exact hwait (h.fit.idle he he' hne (haddr.trans (hname e he hwait))).2

theorem apart_step {cfg : AddrConfig} {s : Network} {ev : MoteEvent} (h : Apart s)
    (hc : AddressesApart cfg s ev) : Apart (s.step cfg ev) := by
  rw [Network.step, if_neg (by rw [h.frees.1]; simp)]
  cases ev with
  | name devEui devAddr ok => exact apart_name h hc
  | assign c fails posted => exact apart_assign h hc
  | lost c i => exact h.relist (fit_forget h.fit c i)
  | joinAns c i ans => exact apart_joinAns h hc
  | hrStartAns c ans => exact apart_takeJoinAns h none hc.2
  | roamAns c devEui devAddr => exact apart_roamAns h hc
  | discard c => exact h.relist (h.fit.discard c)
  | statement u => exact h.addSession hc.2
  | writer => exact h.shrink rfl (addrs_writeNext s.store) h.fit h.frees

/-- In every run whose addresses stay apart an answer frees neither its own mote nor that of
another device. -/
theorem freesOnlyStale_of_addressesApart (cfg : AddrConfig) (motes : List MoteRow)
    {rows : List SessionRow} (hreal : ∀ r ∈ rows, r.DevAddr ≠ NONE_DEVADDR)
    (howner : ∀ r ∈ rows, ∀ r' ∈ rows, r.DevAddr = r'.DevAddr →
      ownerOf motes r.ID = ownerOf motes r'.ID) {es : List MoteEvent}
    (hc : Machine.Along (Network.step cfg) (AddressesApart cfg) (.init motes rows) es) :
    FreesOnlyStale (Machine.run (Network.step cfg) (.init motes rows) es) := by
  have haddrs : (Network.init motes rows).addrs = rows.map fun r => (r.ID, r.DevAddr) :=
    List.append_nil _
  have hempty : ∀ c e, (Network.init motes rows).mote_list.entry c ≠ some e := by
    simp [Network.init, Motes.entry]
  have hinit : Apart (.init motes rows) := by
    refine ⟨?_, ?_, ⟨fun c e he => absurd he (hempty c e), fun c e he => absurd he (hempty c e)⟩,
      rfl, fun f hf => (List.not_mem_nil hf).elim⟩
    · rw [haddrs]
      intro p hp
      obtain ⟨r, hr, rfl⟩ := List.mem_map.mp hp
      exact hreal r hr
    · rw [haddrs]
      intro p hp q hq
      obtain ⟨r, hr, rfl⟩ := List.mem_map.mp hp
      obtain ⟨r', hr', rfl⟩ := List.mem_map.mp hq
      exact howner r hr r' hr'
  exact (Machine.run_invariant _ (fun _ _ h hc => apart_step h hc) hinit hc).frees

/-! ### Two requests before the first answer -/

instance (s : Network) : Decidable (FreesOnlyStale s) := by
  unfold FreesOnlyStale
  infer_instance

/-- The first answer brings a session with the address of the second request; the second answer
finds it never used and frees the mote. -/
theorem mote_freed_by_second_answer :
    ¬FreesOnlyStale (Machine.run (Network.step sampleConfig) (.init sampleMotes [])
      [.name 0xd1 NONE_DEVADDR allOk, .assign 0 [] true, .name 0xd1 NONE_DEVADDR allOk,
        .assign 0 [] true, .joinAns 0 0 sampleAns, .writer, .writer, .joinAns 0 0 sampleAns]) := by
  decide +kernel

theorem mote_kept_by_answers_in_turn :
    FreesOnlyStale (Machine.run (Network.step sampleConfig) (.init sampleMotes [])
      [.name 0xd1 NONE_DEVADDR allOk, .assign 0 [] true, .joinAns 0 0 sampleAns, .writer, .writer,
        .name 0xd1 NONE_DEVADDR allOk, .assign 0 [] true, .joinAns 0 0 sampleAns]) :=
  freesOnlyStale_of_addressesApart sampleConfig sampleMotes (by decide) (by decide)
    (by decide +kernel)

end Lorawan.NetworkServer

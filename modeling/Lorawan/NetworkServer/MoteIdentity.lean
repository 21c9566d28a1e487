import Lorawan.Lib.Text
import Lorawan.NetworkServer.JoinAddress

/-!
# Which device an entry is (common.c:79-231, 560-635, 2569-2578, 2699-2706, fNS.c:755-820, 1056-1063)

`getMote` looks a device up by DevEUI where it has one, else by DevAddr, and adds the ones it does
not find. The answers of other servers and a join request write the DevEUI of an entry that exists
already, without a look at the others.
-/

namespace Lorawan.NetworkServer
open Lorawan

/-! ### The operations -/

/-- The texts that the callbacks read of an answer, where it has them. -/
structure RStartAns where
  DevAddr : Option (List Char)
  DevEUI : Option (List Char)
deriving DecidableEq

/-- The DevEUI that `xRStartAnsCallback` reads; a text that is no number leaves `junk` in its
variable. -/
def RStartAns.eui (ans : RStartAns) (junk : ℕ) : Option ℕ :=
  ans.DevEUI.map fun str => (Text.scan 16 64 str).getD junk

def xRStartAnsCallback (ans : RStartAns) (junk : ℕ) (e : MoteEntry) : MoteEntry :=
  { e with devEui := (ans.eui junk).getD e.devEui }

/-- `PRStartAnsCallback`, which ends with `xRStartAnsCallback`. -/
def PRStartAnsCallback (ans : RStartAns) (junk : ℕ) (e : MoteEntry) : MoteEntry :=
  let e := { e with devAddr := (ans.DevAddr.bind (Text.scan 16 32)).getD e.devAddr }
  let e := { e with devEui := (ans.DevEUI.bind (Text.scan 16 64)).getD e.devEui }
  xRStartAnsCallback ans junk e

/-- The first lines of `activate`. -/
def activate (rxDevEui : ℕ) (e : MoteEntry) : MoteEntry := { e with devEui := rxDevEui }

inductive IdentityEvent
  | getMote (first second devEui devAddr : ℕ)
  | xRStartAns (c : ℕ) (ans : RStartAns) (junk : ℕ)
  | PRStartAns (c : ℕ) (ans : RStartAns) (junk : ℕ)
  | activate (c rxDevEui : ℕ)
  /-- `common_service` comes to a device whose uplink is discarded. -/
  | discard (c : ℕ)
  /-- `deleteNeverUsedSessions` with the DevAddrs of its query. -/
  | deleteNeverUsed (addrs : List ℕ)
deriving DecidableEq

def identityStep (l : Motes) : IdentityEvent → Motes
  | .getMote first second devEui devAddr => (getMoteBetween first second devEui devAddr l).1
  | .xRStartAns c ans junk => updateMote c (xRStartAnsCallback ans junk) l
  | .PRStartAns c ans junk => updateMote c (PRStartAnsCallback ans junk) l
  | .activate c rxDevEui => updateMote c (activate rxDevEui) l
  | .discard c => free_mote c l
  | .deleteNeverUsed addrs => freeMotes addrs l

/-! ### The property and the condition -/

/-- What `getMote` returns, `l'` and the entry `c`, where it is asked for `devEui` and `devAddr` in
the list `l`. -/
structure Looked (l : Motes) (devEui devAddr : ℕ) (l' : Motes) (c : ℕ) : Prop where
  found : ∃ e, l'.entry c = some e ∧ (devEui ≠ NONE_DEVEUI → e.devEui = devEui) ∧
    (devAddr ≠ NONE_DEVADDR → e.devAddr = devAddr)
  others : ∀ c' ≠ c, l'.entry c' = l.entry c'
  kept : ∀ e, l.entry c = some e → ∃ e', l'.entry c = some e' ∧ e'.devEui = e.devEui

/-- No two live entries have one DevEUI. -/
def OneEach (l : Motes) : Prop :=
  ∀ c c' e e', l.entry c = some e → l.entry c' = some e' → e.devEui = e'.devEui →
    e.devEui ≠ NONE_DEVEUI → c = c'

structure Intact (l : Motes) : Prop where
  looked : ∀ first second devEui devAddr,
    Looked l devEui devAddr (getMoteBetween first second devEui devAddr l).1
      (getMoteBetween first second devEui devAddr l).2
  oneEach : OneEach l

/-- The DevEUI is none, or no other live entry has it. -/
def Unclaimed (l : Motes) (c devEui : ℕ) : Prop :=
  devEui = NONE_DEVEUI ∨ ∀ c' < l.length, c' ≠ c → ∀ e ∈ l.entry c', e.devEui ≠ devEui

instance (l : Motes) (c devEui : ℕ) : Decidable (Unclaimed l c devEui) := by
  unfold Unclaimed
  infer_instance

/-- No answer and no join request brings an entry a DevEUI that another has, and the query of
`create_mote` gives none that an entry has. -/
def ClaimsOwn (l : Motes) : IdentityEvent → Prop
  | .getMote first second devEui devAddr =>
    devEui = NONE_DEVEUI → first = NONE_DEVEUI → findMote NONE_DEVEUI devAddr l = none →
      Unclaimed l l.length second
  | .xRStartAns c ans junk =>
    ∀ e ∈ l.entry c, ∀ d ∈ ans.eui junk, Unclaimed l c d
  | .PRStartAns c ans junk =>
    ∀ e ∈ l.entry c, ∀ d ∈ ans.eui junk, Unclaimed l c d
  | .activate c rxDevEui => ∀ e ∈ l.entry c, Unclaimed l c rxDevEui
  | _ => True

instance (l : Motes) (ev : IdentityEvent) : Decidable (ClaimsOwn l ev) := by
  unfold ClaimsOwn
  split <;> infer_instance

/-! ### What a step does to the entries -/

theorem xRStartAnsCallback_devEui (ans : RStartAns) (junk : ℕ) (e : MoteEntry) :
    (xRStartAnsCallback ans junk e).devEui = (ans.eui junk).getD e.devEui := rfl

/-- What `PRStartAnsCallback` reads itself is read again. -/
theorem PRStartAnsCallback_devEui (ans : RStartAns) (junk : ℕ) (e : MoteEntry) :
    (PRStartAnsCallback ans junk e).devEui = (ans.eui junk).getD e.devEui := by
  unfold PRStartAnsCallback xRStartAnsCallback RStartAns.eui
  cases ans.DevEUI <;> rfl

theorem entry_placeMote_snd (e : MoteEntry) (l : Motes) :
    l.entry (placeMote e l).2 = none ∧ (placeMote e l).1.entry (placeMote e l).2 = some e ∧
      ∀ c' ≠ (placeMote e l).2, (placeMote e l).1.entry c' = l.entry c' := by
  unfold placeMote Motes.entry
  split
  · rename_i c hc
    obtain ⟨hlt, hempty, -⟩ := List.findIdx?_eq_some_iff_getElem.mp hc
    have hnone : l[c] = none := Option.isNone_iff_eq_none.mp hempty
    refine ⟨by rw [List.getElem?_eq_getElem hlt, hnone]; rfl, ?_, fun c' hne => ?_⟩
    · rw [List.getElem?_set_self hlt]
      rfl
    · rw [List.getElem?_set_ne (Ne.symm hne)]
  · refine ⟨by rw [List.getElem?_eq_none le_rfl]; rfl, ?_, fun c' hne => ?_⟩
    · rw [List.getElem?_concat_length]
      rfl
    · rw [List.getElem?_append]
      split
      · rfl
      · have hlt : l.length < c' := by omega
        rw [List.getElem?_eq_none hlt.le, List.getElem?_eq_none]
        exact Nat.le_sub_of_add_le (by rw [List.length_singleton]; omega)

theorem findMote_some {devEui devAddr c : ℕ} {l : Motes} (h : findMote devEui devAddr l = some c) :
    ∃ e, l.entry c = some e ∧ (devEui ≠ NONE_DEVEUI → e.devEui = devEui) ∧
      (devEui = NONE_DEVEUI → devAddr ≠ NONE_DEVADDR ∧ e.devAddr = devAddr) := by
  obtain ⟨hlt, hnamed, -⟩ := List.findIdx?_eq_some_iff_getElem.mp h
  obtain ⟨e, he, hnamed⟩ := (Option.any_eq_true _ _).mp hnamed
  refine ⟨e, by rw [Motes.entry, List.getElem?_eq_getElem hlt, he]; rfl, ?_, ?_⟩
  · intro hne
    rw [MoteEntry.isNamed, if_pos hne] at hnamed
    exact of_decide_eq_true hnamed
  · intro hnone
    rw [MoteEntry.isNamed, if_neg (not_not.mpr hnone), Bool.and_eq_true] at hnamed
    exact ⟨of_decide_eq_true hnamed.1, of_decide_eq_true hnamed.2⟩

theorem findMote_none {devEui devAddr : ℕ} {l : Motes} (h : findMote devEui devAddr l = none)
    (hne : devEui ≠ NONE_DEVEUI) {c : ℕ} {e : MoteEntry} (he : l.entry c = some e) :
    e.devEui ≠ devEui := by
  intro heq
  obtain ⟨o, ho, hoe⟩ := Option.bind_eq_some_iff.mp (show l[c]?.bind id = some e from he)
  have hnot := List.findIdx?_eq_none_iff.mp h o (List.mem_of_getElem? ho)
  rw [show o = some e from hoe, Option.any_some, MoteEntry.isNamed, if_pos hne] at hnot
  exact of_decide_eq_false hnot heq

theorem getMoteBetween_looked (first second devEui devAddr : ℕ) (l : Motes) :
    Looked l devEui devAddr (getMoteBetween first second devEui devAddr l).1
      (getMoteBetween first second devEui devAddr l).2 := by
  unfold getMoteBetween
  dsimp only
  split
  · rename_i c hfind
    obtain ⟨e, he, hEui, hAddr⟩ := findMote_some hfind
    have hgiven : devEui ≠ NONE_DEVEUI → e.devEui = devEui := by
      intro hne
      rw [resolvedDevEui, if_neg hne] at hEui
      exact hEui hne
    split
    · refine ⟨⟨{ e with devAddr := devAddr }, ?_, hgiven, fun _ => rfl⟩, fun c' hne => ?_,
        fun e' he' => ⟨{ e' with devAddr := devAddr }, ?_, rfl⟩⟩
      · rw [entry_updateMote, if_pos rfl, he]
        rfl
      · rw [entry_updateMote, if_neg (Ne.symm hne)]
      · rw [entry_updateMote, if_pos rfl, he']
        rfl
    · rename_i hboth
      refine ⟨⟨e, he, hgiven, fun hne => ?_⟩, fun _ _ => rfl, fun e' he' => ⟨e', he', rfl⟩⟩
      have hnone := not_not.mp fun h => hboth ⟨h, hne⟩
      exact (hAddr hnone).2
  · obtain ⟨hempty, hnew, hothers⟩ := entry_placeMote_snd
      (create_mote second (resolvedDevEui first devEui) devAddr) l
    refine ⟨⟨_, hnew, fun hne => ?_, fun _ => rfl⟩, hothers, fun e he => ?_⟩
    · rw [resolvedDevEui, if_neg hne, create_mote, if_neg hne]
    · rw [hempty] at he
      cases he

/-- The entry that a step gives a DevEUI, and which. -/
def given (l : Motes) : IdentityEvent → Option (ℕ × ℕ)
  | .getMote first second devEui devAddr =>
    let devEui := resolvedDevEui first devEui
    if (findMote devEui devAddr l).isNone then
      some ((placeMote (create_mote second devEui devAddr) l).2,
        (create_mote second devEui devAddr).devEui)
    else none
  | .xRStartAns c ans junk => (l.entry c).map fun e => (c, (xRStartAnsCallback ans junk e).devEui)
  | .PRStartAns c ans junk => (l.entry c).map fun e => (c, (PRStartAnsCallback ans junk e).devEui)
  | .activate c rxDevEui => (l.entry c).map fun _ => (c, rxDevEui)
  | _ => none

def devEuiAt (l : Motes) (c : ℕ) : Option ℕ := (l.entry c).map (·.devEui)

/-- The DevEUIs of `l'` are those of `l`, less the freed ones, but for the entry that is given one. -/
def Gives (l l' : Motes) : Option (ℕ × ℕ) → Prop
  | none => ∀ c d, devEuiAt l' c = some d → devEuiAt l c = some d
  | some (c, d) => devEuiAt l' c = some d ∧ ∀ c' ≠ c, devEuiAt l' c' = devEuiAt l c'

theorem gives_updateMote (c : ℕ) (f : MoteEntry → MoteEntry) (l : Motes) :
    Gives l (updateMote c f l) ((l.entry c).map fun e => (c, (f e).devEui)) := by
  cases he : l.entry c with
  | none =>
    intro c' d h
    rw [devEuiAt, entry_updateMote] at h
    split at h
    · rename_i hc
      subst hc
      rw [he] at h
      cases h
    · exact h
  | some e =>
    refine ⟨?_, fun c' hne => ?_⟩
    · rw [devEuiAt, entry_updateMote, if_pos rfl, he]
      rfl
    · rw [devEuiAt, entry_updateMote, if_neg (Ne.symm hne), devEuiAt]

theorem gives_getMote_found {first second devEui devAddr c : ℕ} {l : Motes}
    (hfind : findMote (resolvedDevEui first devEui) devAddr l = some c) :
    Gives l (getMoteBetween first second devEui devAddr l).1 none := by
  obtain ⟨e, he, -, -⟩ := findMote_some hfind
  have hlooked := getMoteBetween_looked first second devEui devAddr l
  have hc : (getMoteBetween first second devEui devAddr l).2 = c := by
    unfold getMoteBetween
    simp only [hfind]
    split <;> rfl
  rw [hc] at hlooked
  intro c' d h
  by_cases hne : c' = c
  · subst hne
    obtain ⟨e', he', hsame⟩ := hlooked.kept e he
    rw [devEuiAt, he', Option.map_some, hsame] at h
    rw [devEuiAt, he]
    exact h
  · rw [devEuiAt, hlooked.others c' hne] at h
    exact h

theorem gives_placeMote (e : MoteEntry) (l : Motes) :
    Gives l (placeMote e l).1 (some ((placeMote e l).2, e.devEui)) := by
  obtain ⟨-, hnew, hothers⟩ := entry_placeMote_snd e l
  refine ⟨?_, fun c' hne => ?_⟩
  · rw [devEuiAt, hnew]
    rfl
  · rw [devEuiAt, hothers c' hne, devEuiAt]

/-- A step leaves the DevEUIs as they are, frees entries, or gives one entry its DevEUI. -/
theorem identityStep_gives (l : Motes) (ev : IdentityEvent) :
    Gives l (identityStep l ev) (given l ev) := by
  cases ev with
  | getMote first second devEui devAddr =>
    cases hfind : findMote (resolvedDevEui first devEui) devAddr l with
    | some c =>
      have hgiven : given l (.getMote first second devEui devAddr) = none := by simp [given, hfind]
      rw [hgiven]
      exact gives_getMote_found hfind
    | none =>
      have hstep : identityStep l (.getMote first second devEui devAddr) =
          (placeMote (create_mote second (resolvedDevEui first devEui) devAddr) l).1 := by
        simp only [identityStep, getMoteBetween, hfind]
      have hgiven : given l (.getMote first second devEui devAddr) =
          some ((placeMote (create_mote second (resolvedDevEui first devEui) devAddr) l).2,
            (create_mote second (resolvedDevEui first devEui) devAddr).devEui) := by
        simp only [given, hfind]
        rfl
      rw [hstep, hgiven]
      exact gives_placeMote _ l
  | xRStartAns c ans junk => exact gives_updateMote c _ l
  | PRStartAns c ans junk => exact gives_updateMote c _ l
  | activate c rxDevEui => exact gives_updateMote c (activate rxDevEui) l
  | discard c =>
    intro c' d h
    rw [identityStep, devEuiAt, entry_free_mote] at h
    split at h
    · cases h
    · exact h
  | deleteNeverUsed addrs =>
    intro c' d h
    obtain ⟨e, he, rfl⟩ := Option.map_eq_some_iff.mp h
    rw [devEuiAt, entry_of_freeMotes he]
    rfl

theorem oneEach_iff {l : Motes} :
    OneEach l ↔ ∀ c c' d, devEuiAt l c = some d → devEuiAt l c' = some d → d ≠ NONE_DEVEUI →
      c = c' := by
  unfold OneEach devEuiAt
  constructor
  · intro h c c' d hc hc' hne
    obtain ⟨e, he, rfl⟩ := Option.map_eq_some_iff.mp hc
    obtain ⟨e', he', heq⟩ := Option.map_eq_some_iff.mp hc'
    exact h c c' e e' he he' heq.symm hne
  · intro h c c' e e' he he' heq hne
    exact h c c' e.devEui (by rw [he]; rfl) (by rw [he', heq]; rfl) hne

theorem unclaimed_iff {l : Motes} {c d : ℕ} :
    Unclaimed l c d ↔ d = NONE_DEVEUI ∨ ∀ c' ≠ c, devEuiAt l c' ≠ some d := by
  unfold Unclaimed
  refine or_congr_right ⟨fun h c' hne hd => ?_, fun h c' _ hne e he hd => ?_⟩
  · obtain ⟨e, he, hed⟩ := Option.map_eq_some_iff.mp hd
    exact h c' (entry_lt he) hne e he hed
  · exact h c' hne (by rw [devEuiAt, he, Option.map_some, hd])

theorem oneEach_step_iff {l : Motes} (h : OneEach l) (ev : IdentityEvent) :
    OneEach (identityStep l ev) ↔ ∀ p ∈ given l ev, Unclaimed l p.1 p.2 := by
  rw [oneEach_iff] at h ⊢
  have hgives := identityStep_gives l ev
  cases hgiven : given l ev with
  | none =>
    rw [hgiven] at hgives
    refine ⟨fun _ p hp => (nomatch hp), fun _ c₁ c₂ d h₁ h₂ hne => ?_⟩
    exact h c₁ c₂ d (hgives c₁ d h₁) (hgives c₂ d h₂) hne
  | some p =>
    obtain ⟨c, d⟩ := p
    rw [hgiven] at hgives
    obtain ⟨hnew, hothers⟩ := hgives
    constructor
    · intro hafter p hp
      cases hp
      rw [unclaimed_iff]
      refine or_iff_not_imp_left.mpr fun hd c' hne hc' => ?_
      rw [← hothers c' hne] at hc'
      exact hne (hafter c' c d hc' hnew hd)
    · intro hclaim c₁ c₂ d' h₁ h₂ hne
      have hd := unclaimed_iff.mp (hclaim (c, d) rfl)
      -- an entry that has the new DevEUI is the one that got it
      have hown : ∀ c', devEuiAt (identityStep l ev) c' = some d → d ≠ NONE_DEVEUI → c' = c := by
        intro c' hc' hdne
        by_contra hcc
        rw [hothers c' hcc] at hc'
        exact (hd.resolve_left hdne) c' hcc hc'
      by_cases hc₁ : c₁ = c
      · rw [hc₁, hnew] at h₁
        cases h₁
        rw [hc₁, hown c₂ h₂ hne]
      · by_cases hc₂ : c₂ = c
        · rw [hc₂, hnew] at h₂
          cases h₂
          exact absurd (hown c₁ h₁ hne) hc₁
        · rw [hothers c₁ hc₁] at h₁
          rw [hothers c₂ hc₂] at h₂
          exact h c₁ c₂ d' h₁ h₂ hne

theorem OneEach.unclaimed {l : Motes} (h : OneEach l) {c : ℕ} {e : MoteEntry}
    (he : l.entry c = some e) : Unclaimed l c e.devEui := by
  refine or_iff_not_imp_left.mpr fun hne c' _ hc' e' he' heq => hc' ?_
  exact h c' c e' e he' he heq (fun hn => hne (heq.symm.trans hn))

theorem OneEach.update_iff {l : Motes} (h : OneEach l) {c : ℕ} {f : MoteEntry → MoteEntry}
    {claim : Option ℕ} (hf : ∀ e, (f e).devEui = claim.getD e.devEui) :
    (∀ p ∈ (l.entry c).map fun e => (c, (f e).devEui), Unclaimed l p.1 p.2) ↔
      ∀ e ∈ l.entry c, ∀ d ∈ claim, Unclaimed l c d := by
  constructor
  · intro hp e he d hd
    have hclaim := hp (c, (f e).devEui) (Option.mem_map_of_mem _ he)
    rw [hf, show claim = some d from hd] at hclaim
    exact hclaim
  · intro hd p hp
    obtain ⟨e, he, rfl⟩ := Option.map_eq_some_iff.mp hp
    dsimp only
    rw [hf]
    cases hclaim : claim with
    | none => exact h.unclaimed he
    | some d => exact hd e he d hclaim

theorem unclaimed_of_empty {l : Motes} {c d : ℕ} (hc : l.entry c = none) :
    Unclaimed l c d ↔ d = NONE_DEVEUI ∨ ∀ c', devEuiAt l c' ≠ some d := by
  rw [unclaimed_iff]
  refine or_congr_right ⟨fun h c' => ?_, fun h c' _ => h c'⟩
  by_cases hcc : c' = c
  · rw [hcc, devEuiAt, hc]
    exact nofun
  · exact h c' hcc

theorem resolvedDevEui_eq_none {first devEui : ℕ} (h : resolvedDevEui first devEui = NONE_DEVEUI) :
    devEui = NONE_DEVEUI ∧ first = NONE_DEVEUI := by
  unfold resolvedDevEui at h
  split at h
  · rename_i hEui
    exact ⟨hEui, h⟩
  · rename_i hEui
    exact absurd h hEui

theorem create_mote_unclaimed_iff {l : Motes} {first second devEui devAddr : ℕ}
    (hfind : findMote (resolvedDevEui first devEui) devAddr l = none) :
    Unclaimed l (placeMote (create_mote second (resolvedDevEui first devEui) devAddr) l).2
        (create_mote second (resolvedDevEui first devEui) devAddr).devEui ↔
      ClaimsOwn l (.getMote first second devEui devAddr) := by
  have hempty := (entry_placeMote_snd
    (create_mote second (resolvedDevEui first devEui) devAddr) l).1
  by_cases hnone : resolvedDevEui first devEui = NONE_DEVEUI
  · obtain ⟨hEui, hfirst⟩ := resolvedDevEui_eq_none hnone
    rw [hnone] at hfind
    have hsecond : (create_mote second (resolvedDevEui first devEui) devAddr).devEui = second := by
      rw [create_mote, if_pos hnone]
    have hlast : ClaimsOwn l (.getMote first second devEui devAddr) ↔
        Unclaimed l l.length second :=
      ⟨fun h => h hEui hfirst hfind, fun h _ _ _ => h⟩
    have hend : l.entry l.length = none := by
      rw [Motes.entry, List.getElem?_eq_none le_rfl]
      rfl
    rw [hsecond, hlast, unclaimed_of_empty hempty, unclaimed_of_empty hend]
  · have hEui : (create_mote second (resolvedDevEui first devEui) devAddr).devEui =
        resolvedDevEui first devEui := by
      rw [create_mote, if_neg hnone]
    refine iff_of_true (Or.inr fun c' _ _ e he => ?_) fun h hf => ?_
    · rw [hEui]
      exact findMote_none hfind hnone he
    · exact absurd (by rw [resolvedDevEui, if_pos h, hf]) hnone

theorem claimsOwn_iff {l : Motes} (h : OneEach l) (ev : IdentityEvent) :
    (∀ p ∈ given l ev, Unclaimed l p.1 p.2) ↔ ClaimsOwn l ev := by
  cases ev with
  | getMote first second devEui devAddr =>
    cases hfind : findMote (resolvedDevEui first devEui) devAddr l with
    | none =>
      rw [← create_mote_unclaimed_iff hfind]
      simp only [given, hfind, Option.isNone_none, if_true, Option.mem_some_iff, forall_eq']
    | some c =>
      have hgiven : given l (.getMote first second devEui devAddr) = none := by simp [given, hfind]
      rw [hgiven]
      refine iff_of_true (fun p hp => nomatch hp) fun hEui hfirst hnone => ?_
      rw [resolvedDevEui, if_pos hEui, hfirst, hnone] at hfind
      cases hfind
  | xRStartAns c ans junk => exact h.update_iff (fun e => xRStartAnsCallback_devEui ans junk e)
  | PRStartAns c ans junk => exact h.update_iff (fun e => PRStartAnsCallback_devEui ans junk e)
  | activate c rxDevEui =>
    have hclaim : ∀ e, (activate rxDevEui e).devEui = (some rxDevEui).getD e.devEui := fun _ => rfl
    have hown := h.update_iff (c := c) hclaim
    exact hown.trans (forall₂_congr fun e _ => by simp)
  | discard c => exact iff_of_true (fun p hp => nomatch hp) trivial
  | deleteNeverUsed addrs => exact iff_of_true (fun p hp => nomatch hp) trivial

theorem intact_iff {l : Motes} : Intact l ↔ OneEach l :=
  ⟨fun h => h.oneEach, fun h => ⟨fun first second devEui devAddr =>
    getMoteBetween_looked first second devEui devAddr l, h⟩⟩

/-- The list is intact along a run exactly when each step brings an entry no DevEUI but its own. -/
theorem intact_iff_claimsOwn (es : List IdentityEvent) :
    (∀ n, Intact (Machine.run identityStep [] (es.take n))) ↔
      Machine.Along identityStep ClaimsOwn [] es := by
  refine Machine.always_iff_along identityStep (fun l ev h => ?_) ?_ es
  · rw [intact_iff] at h ⊢
    rw [oneEach_step_iff h, claimsOwn_iff h]
  · rw [intact_iff]
    intro c c' e e' he
    simp [Motes.entry] at he

/-- A device is known by its DevEUI, and another server's answer names it for a second entry. -/
theorem prStartAns_claims_other :
    ¬∀ n, Intact (Machine.run identityStep []
      ([.getMote NONE_DEVEUI NONE_DEVEUI 0xd1 NONE_DEVADDR,
        .getMote NONE_DEVEUI NONE_DEVEUI NONE_DEVEUI 0x05,
        .PRStartAns 1 ⟨none, some ['d', '1']⟩ 0].take n)) := by
  intro h
  have hone := (h 3).oneEach
  have hsame := hone 0 1 ⟨0xd1, NONE_DEVADDR, []⟩ ⟨0xd1, 0x05, []⟩ (by decide) (by decide) rfl
    (by decide)
  exact absurd hsame (by decide)

end Lorawan.NetworkServer

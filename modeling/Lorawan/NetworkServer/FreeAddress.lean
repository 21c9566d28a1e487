import Mathlib.Data.List.Range
import Lorawan.NetworkServer.JoinAddress

/-!
# Free addresses (sNS.c:2073-2129, 2189-2205)

`getDevAddr` tries the addresses of the network in order and takes the first that neither the list
nor the sessions table has. The list it looks through holds the device itself, and the last address
is not tried.
-/

namespace Lorawan.NetworkServer
open Lorawan

/-- The address of number `a`. -/
def AddrConfig.address (cfg : AddrConfig) (a : ℕ) : ℕ := cfg.devAddrBase ||| a

section

variable (cfg : AddrConfig) (l : Motes) (rows : List SessionRow) (fails : List ℕ)

/-- A device of the list has the address. -/
def Listed (x : ℕ) : Prop := ∃ c e, l.entry c = some e ∧ e.devAddr = x

def InSessions (x : ℕ) : Prop := ∃ r ∈ rows, r.DevAddr = x

/-- No device but the one of the entry `c` uses the address. -/
def FreeFor (c x : ℕ) : Prop :=
  (∀ c' e, l.entry c' = some e → c' ≠ c → e.devAddr ≠ x) ∧ ¬InSessions rows x

/-- The least free address of the network has number `a`. -/
structure LeastFree (c a : ℕ) : Prop where
  lt : a < 2 ^ cfg.nwkAddrBits
  free : FreeFor l rows c (cfg.address a)
  least : ∀ b < a, ¬FreeFor l rows c (cfg.address b)

/-- What the device of the entry `c` is to have: the least free address, or none if there is
none. -/
def AddressFor (c x : ℕ) : Prop :=
  (∃ a, LeastFree cfg l rows c a ∧ x = cfg.address a) ∨
    (∀ a < 2 ^ cfg.nwkAddrBits, ¬FreeFor l rows c (cfg.address a)) ∧ x = NONE_DEVADDR

/-- The loop ends at this address. -/
def EndsLoop (x : ℕ) : Prop := ¬Listed l x ∧ (x ∈ fails ∨ ¬InSessions rows x)

/-- The query of the address that the loop ends at fails. -/
def QueryFails : Prop :=
  ∃ a, a + 1 < 2 ^ cfg.nwkAddrBits ∧ ¬Listed l (cfg.address a) ∧ cfg.address a ∈ fails ∧
    ∀ b < a, ¬EndsLoop l rows fails (cfg.address b)

/-- The loop ends at the least free address; or that one is the device's own, and the loop ends
nowhere; or no address is free, and the device has none or a query fails. -/
def SearchFits (c own : ℕ) : Prop :=
  (∃ a, LeastFree cfg l rows c a ∧
    (a + 1 < 2 ^ cfg.nwkAddrBits ∧ own ≠ cfg.address a ∧
        (∀ b ≤ a, ¬Listed l (cfg.address b) → cfg.address b ∉ fails) ∨
      own = cfg.address a ∧
        (∀ b, b + 1 < 2 ^ cfg.nwkAddrBits → ¬EndsLoop l rows fails (cfg.address b)) ∨
      cfg.address a = NONE_DEVADDR ∧ QueryFails cfg l rows fails)) ∨
  (∀ a < 2 ^ cfg.nwkAddrBits, ¬FreeFor l rows c (cfg.address a)) ∧
    (own = NONE_DEVADDR ∨ QueryFails cfg l rows fails)

end

/-- The device `e` of the entry `c` gets the address that it is to have, and a join starts with no
other. -/
structure AssignsLeast (cfg : AddrConfig) (s : Network) (fails : List ℕ) (c : ℕ) (e : MoteEntry) :
    Prop where
  address : AddressFor cfg s.mote_list s.store.table c
    (getDevAddr cfg s.mote_list s.store.table fails e.devAddr)
  joins : ∀ posted e', (assignDevAddrToJS cfg c fails posted s).mote_list.entry c = some e' →
    e'.awaited = e.awaited ∨
      ∃ a, LeastFree cfg s.mote_list s.store.table c a ∧
        e'.awaited = e.awaited ++ [cfg.address a]

/-! ### The loop -/

variable {cfg : AddrConfig} {l : Motes} {rows : List SessionRow} {fails : List ℕ} {c own : ℕ}

theorem any_devAddr_iff (x : ℕ) :
    (l.any (·.any fun e => e.devAddr = x)) = true ↔ Listed l x := by
  unfold Listed Motes.entry
  rw [List.any_eq_true]
  constructor
  · rintro ⟨o, ho, hany⟩
    obtain ⟨c, hc⟩ := List.getElem?_of_mem ho
    cases o with
    | none => cases hany
    | some e => exact ⟨c, e, by rw [hc]; rfl, of_decide_eq_true hany⟩
  · rintro ⟨c, e, hc, rfl⟩
    obtain ⟨o, ho, hoe⟩ := Option.bind_eq_some_iff.mp (show l[c]?.bind id = some e from hc)
    refine ⟨o, List.mem_of_getElem? ho, ?_⟩
    rw [show o = some e from hoe]
    exact decide_eq_true rfl

theorem any_DevAddr_iff (x : ℕ) : (rows.any (·.DevAddr = x)) = true ↔ InSessions rows x := by
  simp only [List.any_eq_true, decide_eq_true_eq, InSessions]

instance : DecidablePred (Listed l) := fun x => decidable_of_iff _ (any_devAddr_iff x)

instance : DecidablePred (InSessions rows) := fun x => decidable_of_iff _ (any_DevAddr_iff x)

instance : DecidablePred (EndsLoop l rows fails) := fun x =>
  inferInstanceAs (Decidable (¬Listed l x ∧ (x ∈ fails ∨ ¬InSessions rows x)))

/-- The loop is a search for the first address that stops it. -/
theorem tryDevAddrs_eq (l : Motes) (rows : List SessionRow) (fails : List ℕ) (own : ℕ)
    (attempts : List ℕ) :
    tryDevAddrs l rows fails own attempts =
      match attempts.find? (EndsLoop l rows fails ·) with
      | none => own
      | some x => if x ∈ fails then NONE_DEVADDR else x := by
  induction attempts with
  | nil => rfl
  | cons x rest ih =>
    rw [List.find?_cons]
    by_cases hlisted : Listed l x
    · have hstops : ¬EndsLoop l rows fails x := fun h => h.1 hlisted
      rw [tryDevAddrs, if_pos ((any_devAddr_iff x).mpr hlisted), ih, decide_eq_false hstops]
    · have hany : ¬(l.any (·.any fun e => e.devAddr = x)) = true :=
        fun h => hlisted ((any_devAddr_iff x).mp h)
      rw [tryDevAddrs, if_neg hany]
      by_cases hfails : x ∈ fails
      · have hstops : EndsLoop l rows fails x := ⟨hlisted, Or.inl hfails⟩
        rw [if_pos hfails, decide_eq_true hstops]
        exact (if_pos hfails).symm
      · rw [if_neg hfails]
        by_cases hrows : InSessions rows x
        · have hstops : ¬EndsLoop l rows fails x := by
            intro h
            rcases h.2 with h | h
            · exact hfails h
            · exact h hrows
          rw [if_pos ((any_DevAddr_iff x).mpr hrows), ih, decide_eq_false hstops]
        · have hstops : EndsLoop l rows fails x := ⟨hlisted, Or.inr hrows⟩
          rw [if_neg fun h => hrows ((any_DevAddr_iff x).mp h), decide_eq_true hstops]
          exact (if_neg hfails).symm

/-- The loop ends at the first number whose address stops it; the last number is not tried. -/
theorem getDevAddr_cases (cfg : AddrConfig) (l : Motes) (rows : List SessionRow) (fails : List ℕ)
    (own : ℕ) :
    (getDevAddr cfg l rows fails own = own ∧
      ∀ a, a + 1 < 2 ^ cfg.nwkAddrBits → ¬EndsLoop l rows fails (cfg.address a)) ∨
    ∃ a, a + 1 < 2 ^ cfg.nwkAddrBits ∧ EndsLoop l rows fails (cfg.address a) ∧
      (∀ b < a, ¬EndsLoop l rows fails (cfg.address b)) ∧
      getDevAddr cfg l rows fails own =
        if cfg.address a ∈ fails then NONE_DEVADDR else cfg.address a := by
  unfold getDevAddr
  rw [tryDevAddrs_eq, List.find?_map]
  cases hfind : (List.range (2 ^ cfg.nwkAddrBits - 1)).find?
      ((EndsLoop l rows fails ·) ∘ (cfg.devAddrBase ||| ·)) with
  | none =>
    refine Or.inl ⟨rfl, fun a ha => ?_⟩
    have hnot := List.find?_eq_none.mp hfind a (List.mem_range.mpr (by omega))
    exact fun h => hnot (decide_eq_true h)
  | some a =>
    obtain ⟨hstops, hmem, hbefore⟩ := List.find?_range_eq_some.mp hfind
    have hlt : a < 2 ^ cfg.nwkAddrBits - 1 := List.mem_range.mp hmem
    refine Or.inr ⟨a, by omega, of_decide_eq_true hstops, fun b hb h => ?_, rfl⟩
    have hnot := hbefore b hb
    simp only [Function.comp_apply, Bool.not_eq_true', decide_eq_false_iff_not] at hnot
    exact hnot h

/-! ### The address of a device of the list -/

/-- Under its own address or another's, a free address is in the list only for the device itself. -/
theorem FreeFor.not_listed {x : ℕ} (h : FreeFor l rows c x) {e : MoteEntry}
    (he : l.entry c = some e) (hne : e.devAddr ≠ x) : ¬Listed l x := by
  rintro ⟨c', e', hc', hx⟩
  by_cases hc : c' = c
  · subst hc
    rw [he] at hc'
    cases hc'
    exact hne hx
  · exact h.1 c' e' hc' hc hx

/-- An address that is not free and whose query does not fail does not end the loop. -/
theorem not_stops_of_used {x : ℕ} (hused : ¬FreeFor l rows c x)
    (hok : ¬Listed l x → x ∉ fails) : ¬EndsLoop l rows fails x := by
  rintro ⟨hlisted, hfails | hrows⟩
  · exact hok hlisted hfails
  · exact hused ⟨fun c' e hc' _ hx => hlisted ⟨c', e, hc', hx⟩, hrows⟩

theorem freeFor_of_stops {x : ℕ} (h : EndsLoop l rows fails x) (hok : x ∉ fails) :
    FreeFor l rows c x :=
  ⟨fun c' e hc' _ hx => h.1 ⟨c', e, hc', hx⟩, h.2.resolve_left hok⟩

/-- Where nothing fails up to the least free address, and that is neither the device's own nor the
last, the loop ends there. -/
theorem LeastFree.first_stop {a : ℕ} (h : LeastFree cfg l rows c a) {e : MoteEntry}
    (he : l.entry c = some e) (hne : e.devAddr ≠ cfg.address a)
    (hok : ∀ b ≤ a, ¬Listed l (cfg.address b) → cfg.address b ∉ fails) :
    EndsLoop l rows fails (cfg.address a) ∧ cfg.address a ∉ fails ∧
      ∀ b < a, ¬EndsLoop l rows fails (cfg.address b) := by
  have hlisted := h.free.not_listed he hne
  exact ⟨⟨hlisted, Or.inr h.free.2⟩, hok a le_rfl hlisted, fun b hb =>
    not_stops_of_used (h.least b hb) (hok b (by omega))⟩

theorem addressFor_own_iff {e : MoteEntry} (he : l.entry c = some e)
    (hnone : ∀ a, a + 1 < 2 ^ cfg.nwkAddrBits → ¬EndsLoop l rows fails (cfg.address a)) :
    AddressFor cfg l rows c e.devAddr ↔ SearchFits cfg l rows fails c e.devAddr := by
  have hfail : ¬QueryFails cfg l rows fails := by
    rintro ⟨a, hlt, hlisted, hfails, -⟩
    exact hnone a hlt ⟨hlisted, Or.inl hfails⟩
  constructor
  · rintro (⟨a, hleast, hown⟩ | ⟨hall, hown⟩)
    · exact Or.inl ⟨a, hleast, Or.inr (Or.inl ⟨hown, hnone⟩)⟩
    · exact Or.inr ⟨hall, Or.inl hown⟩
  · rintro (⟨a, hleast, ⟨hlt, hne, hok⟩ | ⟨hown, -⟩ | ⟨-, hquery⟩⟩ | ⟨hall, hown | hquery⟩)
    · exact absurd (hleast.first_stop he hne hok).1 (hnone a hlt)
    · exact Or.inl ⟨a, hleast, hown⟩
    · exact absurd hquery hfail
    · exact Or.inr ⟨hall, hown⟩
    · exact absurd hquery hfail

theorem addressFor_failed_iff {e : MoteEntry} (he : l.entry c = some e) {a₀ : ℕ}
    (hlt : a₀ + 1 < 2 ^ cfg.nwkAddrBits) (hstops : EndsLoop l rows fails (cfg.address a₀))
    (hbefore : ∀ b < a₀, ¬EndsLoop l rows fails (cfg.address b))
    (hfails : cfg.address a₀ ∈ fails) :
    AddressFor cfg l rows c NONE_DEVADDR ↔ SearchFits cfg l rows fails c e.devAddr := by
  have hquery : QueryFails cfg l rows fails := ⟨a₀, hlt, hstops.1, hfails, hbefore⟩
  constructor
  · rintro (⟨a, hleast, hx⟩ | ⟨hall, -⟩)
    · exact Or.inl ⟨a, hleast, Or.inr (Or.inr ⟨hx.symm, hquery⟩)⟩
    · exact Or.inr ⟨hall, Or.inr hquery⟩
  · rintro (⟨a, hleast, ⟨-, hne, hok⟩ | ⟨-, hnone⟩ | ⟨hx, -⟩⟩ | ⟨hall, -⟩)
    · obtain ⟨hstop, hfine, hfirst⟩ := hleast.first_stop he hne hok
      have hle : ¬a < a₀ := fun h => hbefore a h hstop
      have hge : ¬a₀ < a := fun h => hfirst a₀ h hstops
      rw [show a = a₀ by omega] at hfine
      exact absurd hfails hfine
    · exact absurd hstops (hnone a₀ hlt)
    · exact Or.inl ⟨a, hleast, hx.symm⟩
    · exact Or.inr ⟨hall, rfl⟩

/-- Where the loop ends and the query does not fail, the device has the address it ends at. -/
theorem addressFor_found_iff {e : MoteEntry} (he : l.entry c = some e) {a₀ : ℕ}
    (hlt : a₀ + 1 < 2 ^ cfg.nwkAddrBits) (hstops : EndsLoop l rows fails (cfg.address a₀))
    (hbefore : ∀ b < a₀, ¬EndsLoop l rows fails (cfg.address b))
    (hfails : cfg.address a₀ ∉ fails) :
    AddressFor cfg l rows c (cfg.address a₀) ↔ SearchFits cfg l rows fails c e.devAddr := by
  have hfree : FreeFor l rows c (cfg.address a₀) := freeFor_of_stops hstops hfails
  have hmax : a₀ < 2 ^ cfg.nwkAddrBits := by omega
  constructor
  · rintro (⟨a, hleast, hx⟩ | ⟨hall, -⟩)
    · have hle : ¬a₀ < a := fun h => hleast.least a₀ h hfree
      refine Or.inl ⟨a, hleast, Or.inl ⟨by omega, ?_, fun b hb hlisted hb' => ?_⟩⟩
      · intro hown
        exact hstops.1 ⟨c, e, he, hown.trans hx.symm⟩
      · by_cases hba : b = a
        · rw [hba, ← hx] at hb'
          exact hfails hb'
        · exact hbefore b (by omega) ⟨hlisted, Or.inl hb'⟩
    · exact absurd hfree (hall a₀ hmax)
  · rintro (⟨a, hleast, ⟨-, hne, hok⟩ | ⟨-, hnone⟩ | ⟨-, hquery⟩⟩ | ⟨hall, -⟩)
    · have hstop := (hleast.first_stop he hne hok).1
      have hle : ¬a < a₀ := fun h => hbefore a h hstop
      have hge : ¬a₀ < a := fun h => hleast.least a₀ h hfree
      exact Or.inl ⟨a, hleast, by rw [show a = a₀ by omega]⟩
    · exact absurd hstops (hnone a₀ hlt)
    · obtain ⟨a', -, hlisted, hin, hfirst⟩ := hquery
      have hle : ¬a' < a₀ := fun h => hbefore a' h ⟨hlisted, Or.inl hin⟩
      have hge : ¬a₀ < a' := fun h => hfirst a₀ h hstops
      rw [show a' = a₀ by omega] at hin
      exact absurd hin hfails
    · exact absurd hfree (hall a₀ hmax)

theorem addressFor_getDevAddr_iff {e : MoteEntry} (he : l.entry c = some e) :
    AddressFor cfg l rows c (getDevAddr cfg l rows fails e.devAddr) ↔
      SearchFits cfg l rows fails c e.devAddr := by
  rcases getDevAddr_cases cfg l rows fails e.devAddr with
    ⟨heq, hnone⟩ | ⟨a₀, hlt, hstops, hbefore, heq⟩
  · rw [heq]
    exact addressFor_own_iff he hnone
  · by_cases hfails : cfg.address a₀ ∈ fails
    · rw [heq, if_pos hfails]
      exact addressFor_failed_iff he hlt hstops hbefore hfails
    · rw [heq, if_neg hfails]
      exact addressFor_found_iff he hlt hstops hbefore hfails

theorem entry_assignDevAddrToJS (cfg : AddrConfig) (fails : List ℕ) (posted : Bool) {s : Network}
    {e : MoteEntry} (he : s.mote_list.entry c = some e) :
    (assignDevAddrToJS cfg c fails posted s).mote_list.entry c =
      some { e with
        devAddr := getDevAddr cfg s.mote_list s.store.table fails e.devAddr
        awaited :=
          if getDevAddr cfg s.mote_list s.store.table fails e.devAddr ≠ NONE_DEVADDR ∧ posted then
            e.awaited ++ [getDevAddr cfg s.mote_list s.store.table fails e.devAddr]
          else e.awaited } := by
  unfold assignDevAddrToJS
  rw [entry_updateMote, if_pos rfl, he]
  rfl

theorem assignsLeast_iff (cfg : AddrConfig) (s : Network) (fails : List ℕ) {c : ℕ} {e : MoteEntry}
    (he : s.mote_list.entry c = some e) :
    AssignsLeast cfg s fails c e ↔
      SearchFits cfg s.mote_list s.store.table fails c e.devAddr := by
  rw [← addressFor_getDevAddr_iff he]
  constructor
  · exact fun h => h.address
  · intro h
    refine ⟨h, fun posted e' he' => ?_⟩
    rw [entry_assignDevAddrToJS cfg fails posted he] at he'
    cases he'
    dsimp only
    split
    · rename_i hsent
      obtain ⟨a, hleast, hx⟩ : ∃ a, LeastFree cfg s.mote_list s.store.table c a ∧
          getDevAddr cfg s.mote_list s.store.table fails e.devAddr = cfg.address a := by
        rcases h with h | ⟨-, hnone⟩
        · exact h
        · exact absurd hnone hsent.1
      exact Or.inr ⟨a, hleast, by rw [hx]⟩
    · exact Or.inl rfl

/-- One device that has no address yet. -/
def freshDevice : Network :=
  { Network.init sampleMotes [joinedBefore] with mote_list := [some ⟨0xd1, NONE_DEVADDR, []⟩] }

theorem freshDevice_assigned :
    freshDevice.mote_list.entry 0 = some ⟨0xd1, NONE_DEVADDR, []⟩ ∧
      AssignsLeast sampleConfig freshDevice [] 0 ⟨0xd1, NONE_DEVADDR, []⟩ := by
  have hfree : FreeFor freshDevice.mote_list freshDevice.store.table 0 (sampleConfig.address 0) := by
    refine ⟨fun c' e he hne => ?_, by decide⟩
    rw [show c' = (c' - 1) + 1 by omega] at he
    cases he
  refine ⟨rfl, (assignsLeast_iff sampleConfig freshDevice [] rfl).mpr (Or.inl ⟨0, ?_, Or.inl ?_⟩)⟩
  · exact ⟨by decide, hfree, fun b hb => absurd hb (Nat.not_lt_zero b)⟩
  · exact ⟨by decide, by decide, fun b _ _ => List.not_mem_nil⟩

/-- The device has an address of another network, and the sessions have all of this one. -/
def exhausted : Network :=
  { Network.init sampleMotes
      ((List.range 128).map fun a => { joinedBefore with DevAddr := sampleConfig.address a }) with
    mote_list := [some ⟨0xd1, 0x05, []⟩] }

theorem exhausted_keeps_address :
    ¬AssignsLeast sampleConfig exhausted [] 0 ⟨0xd1, 0x05, []⟩ := by
  intro h
  have hused : ∀ a < 128, InSessions exhausted.store.table (sampleConfig.address a) := fun a ha =>
    ⟨_, List.mem_map.mpr ⟨a, List.mem_range.mpr ha, rfl⟩, rfl⟩
  have hold : getDevAddr sampleConfig exhausted.mote_list exhausted.store.table [] 0x05 = 0x05 := by
    rcases getDevAddr_cases sampleConfig exhausted.mote_list exhausted.store.table [] 0x05 with
      ⟨h, -⟩ | ⟨a, hlt, hends, -⟩
    · exact h
    · exact absurd (hused a (Nat.lt_of_succ_lt hlt)) (hends.2.resolve_left List.not_mem_nil)
  rcases h.address with ⟨a, hleast, -⟩ | ⟨-, hnone⟩
  · exact hleast.free.2 (hused a hleast.lt)
  · rw [hold] at hnone
    exact absurd hnone (by decide)

end Lorawan.NetworkServer

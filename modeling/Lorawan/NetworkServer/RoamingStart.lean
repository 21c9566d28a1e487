import Lorawan.NetworkServer.Requesters

/-!
# The start of roaming on a data uplink

The roaming state is to be saved after the answer was posted, from the requester
that the posting freed. It is saved only when the transfer of the answer failed.
-/

namespace Lorawan.NetworkServer
open Lorawan Lorawan.Backend Backend.mtype_e

/-! ### The property -/

/-- The update of the roaming state that a Success answer to a roaming start calls for. -/
def Answer.update (a : Answer) : Option RoamUpdate :=
  if a.result = .Success ∧ a.MessageType.isRStart then
    some ⟨if a.MessageType = .HRStartReq then .hHANDOVER else .sPASSIVE, a.ClientID, a.Lifetime⟩
  else none

/-- Between two states, the updates queued are those that the answers posted call for. -/
def Recorded (s s' : RoamMote) : Prop :=
  s'.roams.drop s.roams.length = (s'.answers.drop s.answers.length).filterMap Answer.update

instance (s s' : RoamMote) : Decidable (Recorded s s') := inferInstanceAs (Decidable (_ = _))

/-! ### The condition -/

/-- The requester in the slot `i` is the best, starts roaming, and gets a Success answer. -/
structure Grants (sqlOk : Bool) (slots : ℕ → SlotEnv) (s : RoamMote) (i : ℕ) (r : Requester) :
    Prop where
  best : s.bestR = some i
  slot : s.slot i = some r
  needsAnswer : r.needsAnswer = true
  rstart : r.MessageType.isRStart = true
  data : isJoinReq s.mtype = false
  sqlOk : sqlOk = true
  roamLifetime : 1 ≤ (slots i).roamLifetime
  ansLifetime : 0 ≤ (slots i).ansLifetime
  easyOk : (slots i).easyOk = true
  postOk : (slots i).postOk = true

/-- The transfer failed, so that the requester is still there; and the lifetime is read as it was
granted. -/
def SlotEnv.Saves (e : SlotEnv) : Prop := e.performOk = false ∧ e.saveLifetime = (e.granted : ℤ)

/-- Whether the requesters of a data uplink are looked at. -/
def reachesRequesters (env : FinishEnv) (s : RoamMote) : Bool :=
  !s.crashed && !env.sessionFails && decide (env.state ≠ .DEFERRED) &&
    match s.progress with
    | .OFF => false
    | .LOCAL => decide (env.state = .sPASSIVE ∨ env.state = .hHANDOVER)
    | .JSON => decide (env.state ≠ .sHANDOVER)

/-- The condition: when `finish` grants the best requester's roaming, the granted state is
saved. -/
def SavesGranted (s : RoamMote) : RoamEvent → Prop
  | .service env => reachesRequesters env s = true →
    ∀ i r, Grants env.sqlOk env.slots s i r → (env.slots i).Saves
  | _ => True

/-! ### What is logged -/

/-- Between two states the updates `us` were queued, and the answers posted call for `ws`. -/
def Logged (us ws : List RoamUpdate) (s s' : RoamMote) : Prop :=
  s'.roams = s.roams ++ us ∧
    ∃ as, s'.answers = s.answers ++ as ∧ as.filterMap Answer.update = ws

theorem Logged.recorded_iff {us ws : List RoamUpdate} {s s' : RoamMote} (h : Logged us ws s s') :
    Recorded s s' ↔ us = ws := by
  obtain ⟨hroams, as, hanswers, hws⟩ := h
  rw [Recorded, hroams, hanswers, List.drop_left, List.drop_left, hws]

theorem Logged.trans {us ws us' ws' : List RoamUpdate} {s s' s'' : RoamMote}
    (h : Logged us ws s s') (h' : Logged us' ws' s' s'') :
    Logged (us ++ us') (ws ++ ws') s s'' := by
  obtain ⟨hroams, as, hanswers, hws⟩ := h
  obtain ⟨hroams', as', hanswers', hws'⟩ := h'
  refine ⟨?_, as ++ as', ?_, ?_⟩
  · rw [hroams', hroams, List.append_assoc]
  · rw [hanswers', hanswers, List.append_assoc]
  · rw [List.filterMap_append, hws, hws']

theorem Logged.of_eq {s s' : RoamMote} (hroams : s'.roams = s.roams)
    (hanswers : s'.answers = s.answers) : Logged [] [] s s' :=
  ⟨by rw [hroams, List.append_nil], [], by rw [hanswers, List.append_nil], rfl⟩

theorem logged_post {e : SlotEnv} {j : ℕ} {result : AnsResult} {Lifetime : Option ℕ}
    {s : RoamMote} (hplain : ∀ r, s.slot j = some r →
      Answer.update ⟨r.ClientID, r.MessageType, result, Lifetime⟩ = none) :
    Logged [] [] s (r_post_ans_to_ns e j result Lifetime s).2 := by
  unfold r_post_ans_to_ns
  split
  · exact .of_eq rfl rfl
  · rename_i r hr
    split
    · exact .of_eq rfl rfl
    · dsimp only
      by_cases hpost : e.postOk = true
      · refine ⟨(List.append_nil _).symm, [⟨r.ClientID, r.MessageType, result, Lifetime⟩], ?_, ?_⟩
        · rw [if_pos hpost]
        · simp only [List.filterMap_cons, hplain r hr, List.filterMap_nil]
      · exact .of_eq rfl (by rw [if_neg hpost])

theorem logged_post_of_ne {e : SlotEnv} {j : ℕ} {result : AnsResult} {Lifetime : Option ℕ}
    {s : RoamMote} (h : result ≠ .Success) :
    Logged [] [] s (r_post_ans_to_ns e j result Lifetime s).2 :=
  logged_post fun r _ => by rw [Answer.update, if_neg fun hboth => h hboth.1]

/-! ### A slot -/

theorem logged_answerBest_of_fails {e : SlotEnv} {j : ℕ} {s : RoamMote}
    (h : e.ansLifetime < 0 ∨ e.easyOk = false ∨ e.postOk = false ∨ s.slot j = none) :
    Logged [] [] s (answerBest e j s) := by
  unfold answerBest
  split
  · exact logged_post_of_ne (by decide)
  · rename_i hans
    have hfail : (r_post_ans_to_ns e j .Success (some e.granted) s).1 = false ∧
        Logged [] [] s (r_post_ans_to_ns e j .Success (some e.granted) s).2 := by
      unfold r_post_ans_to_ns
      split
      · exact ⟨rfl, .of_eq rfl rfl⟩
      · rename_i r hr
        split
        · exact ⟨rfl, .of_eq rfl rfl⟩
        · rename_i hsend
          have hpost : e.postOk = false := by
            rcases h with hlt | heasy | hpost | hnone
            · exact absurd hlt hans
            · simp [heasy] at hsend
            · exact hpost
            · rw [hr] at hnone
              cases hnone
          simp only [hpost]
          exact ⟨trivial, .of_eq rfl rfl⟩
    dsimp only
    rw [hfail.1]
    exact hfail.2

theorem logged_visit_quiet {sqlOk : Bool} {slots : ℕ → SlotEnv} {j : ℕ} {s : RoamMote}
    (h : ∀ r, ¬Grants sqlOk slots s j r) : Logged [] [] s (visit sqlOk (slots j) j s) := by
  have hcompare : ∀ i, Logged [] [] s (s.compare i) := by
    intro i
    unfold RoamMote.compare
    split <;> exact .of_eq rfl rfl
  have htaken : Logged [] [] s { s with ULFRMPayload := false } := .of_eq rfl rfl
  have hturn := visit_turn sqlOk (slots j) j s
  generalize visit sqlOk (slots j) j s = s' at hturn ⊢
  cases hturn with
  | crashed hcrash => exact .of_eq rfl rfl
  | idle hidle => exact .of_eq rfl rfl
  | other hdue hxmit hlife => exact logged_post_of_ne (by decide)
  | null hdue hsql hrstart hlife hbest => exact .of_eq rfl rfl
  | @best r hdue hsql hrstart hlife hbest =>
    refine (hcompare j).trans (logged_answerBest_of_fails ?_)
    -- otherwise the requester would be granted its roaming
    by_contra hno
    simp only [slot_compare, not_or, not_lt, Bool.not_eq_false] at hno
    exact h r ⟨hbest, hdue.slot, hdue.needsAnswer, hrstart, hdue.data, hsql, hlife, hno.1,
      hno.2.1, hno.2.2.1⟩
  | deferred hdue hsql hrstart hlife hbest hij =>
    exact (hcompare _).trans (logged_post_of_ne (by decide))
  | taken hdue hsql htype hfrm => exact .of_eq rfl rfl
  | forwarded hdue hsql htype hfrm htoAS => exact htaken
  | failed hdue hsql htype hfrm htoAS => exact htaken.trans (logged_post_of_ne (by decide))

/-- What the answer to a granted request calls for. -/
def grantedState (e : SlotEnv) (r : Requester) : RoamUpdate :=
  ⟨if r.MessageType = .HRStartReq then .hHANDOVER else .sPASSIVE, r.ClientID, some e.granted⟩

theorem logged_save (e : SlotEnv) (j : ℕ) (s : RoamMote) :
    Logged ((s.slot j).map (savedState e)).toList [] s (saveRoaming e j (downlinkCarried e s)) := by
  have hcarried : (downlinkCarried e s).slot j = s.slot j ∧
      (downlinkCarried e s).roams = s.roams ∧ (downlinkCarried e s).answers = s.answers := by
    unfold downlinkCarried
    split <;> exact ⟨rfl, rfl, rfl⟩
  obtain ⟨hslot, hroams, hanswers⟩ := hcarried
  unfold saveRoaming
  rw [hslot]
  cases s.slot j with
  | none => exact .of_eq hroams hanswers
  | some r => exact ⟨by rw [hroams]; rfl, [], by rw [hanswers, List.append_nil], rfl⟩

/-- The answer to a granted requester is posted; the requester stays when the transfer failed. -/
theorem logged_post_grants {sqlOk : Bool} {slots : ℕ → SlotEnv} {j : ℕ} {r : Requester}
    {s : RoamMote} (h : Grants sqlOk slots s j r) :
    (r_post_ans_to_ns (slots j) j .Success (some (slots j).granted) s).1 = true ∧
      (r_post_ans_to_ns (slots j) j .Success (some (slots j).granted) s).2.slot j =
        (if (slots j).performOk then none else some r) ∧
      Logged [] [grantedState (slots j) r] s
        (r_post_ans_to_ns (slots j) j .Success (some (slots j).granted) s).2 := by
  have hlt := slot_lt h.slot
  rw [r_post_ans_to_ns, h.slot]
  simp only [h.needsAnswer, h.easyOk, h.postOk, Bool.not_true, Bool.or_self, Bool.false_eq_true,
    if_false, if_true]
  refine ⟨trivial, ?_, (List.append_nil _).symm, _, rfl, ?_⟩
  · by_cases hperform : (slots j).performOk = true
    · simp only [RoamMote.slot, if_pos hperform, List.getElem?_set_self hlt]
      rfl
    · simp only [RoamMote.slot, if_neg hperform]
      exact h.slot
  · simp only [List.filterMap_cons, Answer.update, h.rstart, and_self, if_true, List.filterMap_nil]
    rfl

/-- The slot of a granted requester: the answer is posted, and the state is saved when the
requester was not freed. -/
theorem logged_visit_grants {sqlOk : Bool} {slots : ℕ → SlotEnv} {j : ℕ} {r : Requester}
    {s : RoamMote} (hcrash : s.crashed = false) (h : Grants sqlOk slots s j r) :
    Logged (if (slots j).performOk then [] else [savedState (slots j) r])
      [grantedState (slots j) r] s (visit sqlOk (slots j) j s) := by
  have hvisit : visit sqlOk (slots j) j s = answerBest (slots j) j s := by
    have hroam := h.roamLifetime
    rw [visit, if_neg (by rw [hcrash]; simp), h.slot]
    simp only [h.needsAnswer, h.data, h.sqlOk, Bool.not_true, Bool.or_self, Bool.false_eq_true,
      if_false, h.rstart, if_true]
    rw [visitRStart, if_neg (by omega), h.best]
    simp only [RoamMote.compare, h.slot, Option.isSome_some, if_true]
  obtain ⟨hok, hslot, hlogged⟩ := logged_post_grants h
  have hans : ¬(slots j).ansLifetime < 0 := not_lt.mpr h.ansLifetime
  rw [hvisit, answerBest, if_neg hans]
  simp only [hok, if_true]
  have hsave := hlogged.trans (logged_save (slots j) j _)
  rw [hslot, List.append_nil, List.nil_append] at hsave
  by_cases hperform : (slots j).performOk = true
  · rw [if_pos hperform] at hsave ⊢
    exact hsave
  · rw [if_neg hperform] at hsave ⊢
    exact hsave

/-! ### All slots -/

theorem grants_congr {sqlOk : Bool} {slots : ℕ → SlotEnv} {s s' : RoamMote} {i : ℕ}
    {r : Requester} (hbest : s'.bestR = s.bestR) (hslot : s'.slot i = s.slot i)
    (hmtype : s'.mtype = s.mtype) : Grants sqlOk slots s' i r ↔ Grants sqlOk slots s i r := by
  constructor
  · intro h
    exact ⟨hbest ▸ h.best, hslot ▸ h.slot, h.needsAnswer, h.rstart, hmtype ▸ h.data, h.sqlOk,
      h.roamLifetime, h.ansLifetime, h.easyOk, h.postOk⟩
  · intro h
    exact ⟨hbest ▸ h.best, hslot ▸ h.slot, h.needsAnswer, h.rstart, hmtype ▸ h.data, h.sqlOk,
      h.roamLifetime, h.ansLifetime, h.easyOk, h.postOk⟩

theorem grants_visit {sqlOk : Bool} {slots : ℕ → SlotEnv} {s : RoamMote} {i k : ℕ}
    {r : Requester} (h : i ≠ k) :
    Grants sqlOk slots (visit sqlOk (slots k) k s) i r ↔ Grants sqlOk slots s i r :=
  have honly := onlySlot_visit sqlOk (slots k) k s
  grants_congr honly.bestR (honly.slot i h) honly.mtype

theorem logged_visitFrom_quiet {sqlOk : Bool} {slots : ℕ → SlotEnv} (n : ℕ) :
    ∀ {j : ℕ} {s : RoamMote}, (∀ i r, j ≤ i → ¬Grants sqlOk slots s i r) →
      Logged [] [] s (visitFrom sqlOk slots n j s) := by
  induction n with
  | zero => exact fun _ => .of_eq rfl rfl
  | succ n ih =>
    intro j s h
    refine (logged_visit_quiet (h j · (le_refl j))).trans (ih fun i r hi => ?_)
    rw [grants_visit (by omega)]
    exact h i r (by omega)

theorem logged_visitFrom_grants {sqlOk : Bool} {slots : ℕ → SlotEnv} {i : ℕ} {r : Requester}
    (n : ℕ) : ∀ {j : ℕ} {s : RoamMote}, s.crashed = false → j ≤ i → i < j + n →
      Grants sqlOk slots s i r →
        Logged (if (slots i).performOk then [] else [savedState (slots i) r])
          [grantedState (slots i) r] s (visitFrom sqlOk slots n j s) := by
  induction n with
  | zero => intro j s _ hj hi; omega
  | succ n ih =>
    intro j s hcrash hj hi h
    by_cases hij : j = i
    · subst hij
      have hrest : Logged [] [] (visit sqlOk (slots j) j s)
          (visitFrom sqlOk slots n (j + 1) (visit sqlOk (slots j) j s)) := by
        refine logged_visitFrom_quiet n fun k q hk hgrants => ?_
        have hbest := hgrants.best
        rw [(onlySlot_visit sqlOk (slots j) j s).bestR, h.best] at hbest
        have := Option.some.inj hbest
        omega
      have hboth := (logged_visit_grants hcrash h).trans hrest
      rwa [List.append_nil, List.append_nil] at hboth
    · have hfirst : Logged [] [] s (visit sqlOk (slots j) j s) := by
        refine logged_visit_quiet fun q hgrants => ?_
        have hbest := hgrants.best
        rw [h.best] at hbest
        exact hij (Option.some.inj hbest).symm
      exact hfirst.trans (ih (by rw [crashed_visit h.best, hcrash]) (by omega) (by omega)
        ((grants_visit (Ne.symm hij)).mpr h))

theorem savedState_eq_iff {e : SlotEnv} {r : Requester} (h : 1 ≤ e.roamLifetime) :
    savedState e r = grantedState e r ↔ e.saveLifetime = (e.granted : ℤ) := by
  have hpos : 0 < e.granted := by
    unfold SlotEnv.granted
    split <;> omega
  unfold savedState grantedState
  simp only [RoamUpdate.mk.injEq, true_and]
  constructor
  · intro heq
    split at heq
    · have := Option.some.inj heq
      omega
    · cases heq
  · intro heq
    rw [if_pos (by omega), heq, Int.toNat_natCast]

theorem recorded_jsonHandler {sqlOk : Bool} {slots : ℕ → SlotEnv} {s s' s'' : RoamMote}
    (hcrash : s'.crashed = false) (hbefore : Logged [] [] s s')
    (hafter : Logged [] [] (jsonHandler sqlOk slots s') s'') :
    Recorded s s'' ↔ ∀ i r, Grants sqlOk slots s' i r → (slots i).Saves := by
  by_cases hgrants : ∃ i r, Grants sqlOk slots s' i r
  · obtain ⟨i, r, h⟩ := hgrants
    have hloop := logged_visitFrom_grants s'.requesterList.length hcrash (Nat.zero_le i)
      (by have := slot_lt h.slot; omega) h
    have hall := (hbefore.trans hloop).trans hafter
    rw [List.append_nil, List.append_nil, List.nil_append, List.nil_append] at hall
    have hone : (∀ i r, Grants sqlOk slots s' i r → (slots i).Saves) ↔ (slots i).Saves := by
      refine ⟨fun hsaves => hsaves i r h, fun hsaves k q hk => ?_⟩
      have hbest := hk.best
      rw [h.best] at hbest
      rw [← Option.some.inj hbest]
      exact hsaves
    rw [hall.recorded_iff, hone, SlotEnv.Saves, ← savedState_eq_iff (r := r) h.roamLifetime]
    cases (slots i).performOk with
    | true => simp
    | false => simp
  · have hquiet : Logged [] [] s' (jsonHandler sqlOk slots s') :=
      logged_visitFrom_quiet _ fun i r _ h => hgrants ⟨i, r, h⟩
    have hall := (hbefore.trans hquiet).trans hafter
    rw [hall.recorded_iff]
    exact ⟨fun _ i r h => absurd ⟨i, r, h⟩ hgrants, fun _ => rfl⟩

/-! ### finish -/

theorem follow_logged (i : ℕ) (s : RoamMote) : Logged [] [] s (s.follow i) := by
  unfold RoamMote.follow
  split <;> exact .of_eq rfl rfl

theorem followBest_logged (s : RoamMote) : Logged [] [] s s.followBest := by
  unfold RoamMote.followBest
  split
  · exact .of_eq rfl rfl
  · exact follow_logged _ s

theorem followBest_same (s : RoamMote) : s.followBest.bestR = s.bestR ∧
    s.followBest.requesterList = s.requesterList ∧ s.followBest.mtype = s.mtype := by
  unfold RoamMote.followBest RoamMote.follow
  split
  · exact ⟨rfl, rfl, rfl⟩
  · split <;> exact ⟨rfl, rfl, rfl⟩

theorem grants_followBest {sqlOk : Bool} {slots : ℕ → SlotEnv} {s : RoamMote} {i : ℕ}
    {r : Requester} : Grants sqlOk slots s.followBest i r ↔ Grants sqlOk slots s i r := by
  obtain ⟨hbest, hlist, hmtype⟩ := followBest_same s
  exact grants_congr hbest (by rw [RoamMote.slot, hlist]; rfl) hmtype

theorem Grants.followBest {sqlOk : Bool} {slots : ℕ → SlotEnv} {s : RoamMote} {i : ℕ}
    {r : Requester} (h : Grants sqlOk slots s i r) : s.followBest = s := by
  rw [RoamMote.followBest, h.best]
  simp only [RoamMote.follow, h.slot, Option.isSome_some, if_true]

theorem forwardPayload_logged (s : RoamMote) : Logged [] [] s (forwardPayload s) := by
  unfold forwardPayload
  split
  · exact followBest_logged s
  · exact .of_eq rfl rfl

theorem finishPhyDownlink_logged (d : DlEnv) (s : RoamMote) :
    Logged [] [] s (finishPhyDownlink d s) := by
  unfold finishPhyDownlink
  split
  · exact .of_eq rfl rfl
  · split
    · split
      · exact .of_eq rfl rfl
      · dsimp only
        split
        · exact followBest_logged s
        · exact ((followBest_logged s).trans
            (@Logged.of_eq _ { s.followBest with PHYPayload := !d.sent } rfl rfl)).trans (forwardPayload_logged _)
    · exact forwardPayload_logged s

theorem fDone_logged (d : DlEnv) (uplinkOk : Bool) (s : RoamMote) :
    Logged [] [] s (fDone d uplinkOk s) := by
  unfold fDone
  split
  · exact .of_eq rfl rfl
  · split
    · exact (finishPhyDownlink_logged d s).trans (.of_eq rfl rfl)
    · exact .of_eq rfl rfl

theorem joinReqFrom_logged (sent : Bool) (slots : ℕ → SlotEnv) (n : ℕ) :
    ∀ (j : ℕ) (s : RoamMote), Logged [] [] s (joinReqFrom sent slots n j s) ∧
      (joinReqFrom sent slots n j s).mtype = s.mtype := by
  induction n with
  | zero => exact fun _ _ => ⟨.of_eq rfl rfl, rfl⟩
  | succ n ih =>
    intro j s
    unfold joinReqFrom
    split
    · exact ih (j + 1) s
    · obtain ⟨hlogged, hmtype⟩ := ih (j + 1) (r_post_ans_to_ns (slots j) j
        (if sent ∧ 0 ≤ (slots j).roamLifetime then .Deferred else .Other) none s).2
      refine ⟨(logged_post_of_ne ?_).trans hlogged, hmtype.trans (onlySlot_post _ j _ _ s).mtype⟩
      split <;> decide

theorem uplinkFinish_logged (env : FinishEnv) {s : RoamMote} :
    Logged [] [] s (uplinkFinish env s).2 ∧ ∀ i r,
      Grants env.sqlOk env.slots (uplinkFinish env s).2 i r ↔ Grants env.sqlOk env.slots s i r := by
  have hfollow := followBest_same s
  unfold uplinkFinish
  split
  · exact ⟨.of_eq rfl rfl, fun _ _ => Iff.rfl⟩
  · dsimp only
    split
    · exact ⟨followBest_logged s, fun _ _ => grants_followBest⟩
    · have hsame : Logged [] [] s { s.followBest with PHYPayload := env.PHYPayload } :=
        (followBest_logged s).trans (.of_eq rfl rfl)
      have hiff : ∀ i r, Grants env.sqlOk env.slots
          { s.followBest with PHYPayload := env.PHYPayload } i r ↔
            Grants env.sqlOk env.slots s i r := by
        intro i r
        exact grants_congr hfollow.1 (by rw [RoamMote.slot, hfollow.2.1]; rfl) hfollow.2.2
      split
      · rename_i hjoin
        split
        · exact ⟨hsame, hiff⟩
        · rename_i sent _
          obtain ⟨hlogged, hmtype⟩ := joinReqFrom_logged sent env.slots s.followBest.requesterList.length
            0 { s.followBest with PHYPayload := env.PHYPayload }
          refine ⟨hsame.trans hlogged, fun i r => ⟨fun h => ?_, fun h => ?_⟩⟩
          · -- a join request starts no roaming here
            have hdata := h.data
            rw [hmtype, hjoin] at hdata
            cases hdata
          · have hdata := h.data
            rw [← hfollow.2.2, hjoin] at hdata
            cases hdata
      · exact ⟨hsame, hiff⟩

theorem uplinkFinish_crashed {env : FinishEnv} {s : RoamMote} {i : ℕ} {r : Requester}
    (hcrash : s.crashed = false) (h : Grants env.sqlOk env.slots s i r) :
    (uplinkFinish env s).2.crashed = false := by
  unfold uplinkFinish
  rw [h.followBest]
  split
  · exact hcrash
  · rw [if_neg (by rw [hcrash]; simp)]
    dsimp only
    rw [if_neg (by rw [h.data]; simp)]
    exact hcrash

theorem recorded_of_logged {s s' : RoamMote} (h : Logged [] [] s s') {P : Prop} (hP : P) :
    Recorded s s' ↔ P :=
  ⟨fun _ => hP, fun _ => h.recorded_iff.mpr rfl⟩

/-- The requester that was followed last is followed where the mote roams. -/
def followed (env : FinishEnv) (s : RoamMote) : RoamMote :=
  if env.state = .sPASSIVE ∨ env.state = .hHANDOVER then s.followBest else s

/-- The ways through `finishJson`, with what it makes of `s`. -/
inductive FinishJson (env : FinishEnv) (s : RoamMote) : RoamMote → Prop
  | fails (h : env.sessionFails = true) : FinishJson env s s
  | noDatabase (hsql : env.sqlOk = false) (hbest : s.bestR.isSome = true) :
    FinishJson env s (fDone env.dl false (jsonHandler env.sqlOk env.slots s))
  | deferred (h : env.state = .DEFERRED) : FinishJson env s s
  | handover (h : env.state = .sHANDOVER) : FinishJson env s (fDone env.dl false s)
  | uplink (hlive : env.sessionFails = false) (hsql : env.sqlOk = false → s.bestR = none)
    (hdeferred : env.state ≠ .DEFERRED) (hhandover : env.state ≠ .sHANDOVER) :
    FinishJson env s (if (followed env s).crashed then followed env s
      else fDone env.dl (uplinkFinish env (followed env s)).1
        (jsonHandler env.sqlOk env.slots (uplinkFinish env (followed env s)).2))

theorem finishJson_path (env : FinishEnv) (s : RoamMote) :
    FinishJson env s (finishJson env s) := by
  unfold finishJson
  by_cases hfails : env.sessionFails = true
  · rw [if_pos hfails]
    exact .fails hfails
  · rw [if_neg hfails]
    by_cases hsql : (!env.sqlOk && s.bestR.isSome) = true
    · rw [if_pos hsql]
      simp only [Bool.and_eq_true, Bool.not_eq_true'] at hsql
      exact .noDatabase hsql.1 hsql.2
    · rw [if_neg hsql]
      by_cases hdeferred : env.state = .DEFERRED
      · rw [if_pos hdeferred]
        exact .deferred hdeferred
      · rw [if_neg hdeferred]
        by_cases hhandover : env.state = .sHANDOVER
        · rw [if_pos hhandover]
          exact .handover hhandover
        · rw [if_neg hhandover]
          refine .uplink (Bool.eq_false_iff.mpr hfails) (fun hno => ?_) hdeferred hhandover
          simpa [hno] using hsql

theorem followed_logged (env : FinishEnv) (s : RoamMote) : Logged [] [] s (followed env s) := by
  unfold followed
  split
  · exact followBest_logged s
  · exact .of_eq rfl rfl

theorem grants_followed {env : FinishEnv} {s : RoamMote} {i : ℕ} {r : Requester} :
    Grants env.sqlOk env.slots (followed env s) i r ↔ Grants env.sqlOk env.slots s i r := by
  unfold followed
  split
  · exact grants_followBest
  · exact Iff.rfl

theorem Grants.followed {env : FinishEnv} {s : RoamMote} {i : ℕ} {r : Requester}
    (h : Grants env.sqlOk env.slots s i r) : followed env s = s := by
  rw [NetworkServer.followed, h.followBest, ite_self]

theorem recorded_finishUplink (env : FinishEnv) {s : RoamMote} (hcrash : s.crashed = false) :
    Recorded s (if (followed env s).crashed then followed env s
      else fDone env.dl (uplinkFinish env (followed env s)).1
        (jsonHandler env.sqlOk env.slots (uplinkFinish env (followed env s)).2)) ↔
      ∀ i r, Grants env.sqlOk env.slots s i r → (env.slots i).Saves := by
  have hfirst := followed_logged env s
  by_cases hlost : (followed env s).crashed = true
  · rw [if_pos hlost]
    refine recorded_of_logged hfirst fun i r h => ?_
    rw [h.followed, hcrash] at hlost
    cases hlost
  · rw [if_neg hlost]
    have hgood := Bool.eq_false_iff.mpr hlost
    obtain ⟨hlogged, hiff⟩ := uplinkFinish_logged env (s := followed env s)
    by_cases hbad : (uplinkFinish env (followed env s)).2.crashed = true
    · have hnone : ∀ i r, ¬Grants env.sqlOk env.slots s i r := by
        intro i r h
        have := uplinkFinish_crashed hgood (grants_followed.mpr h)
        rw [hbad] at this
        cases this
      refine recorded_of_logged ((hfirst.trans hlogged).trans
        ((logged_visitFrom_quiet _ fun i r _ h => ?_).trans (fDone_logged env.dl _ _)))
        fun i r h => absurd h (hnone i r)
      exact hnone i r (grants_followed.mp ((hiff i r).mp h))
    · rw [recorded_jsonHandler (Bool.eq_false_iff.mpr hbad) (hfirst.trans hlogged)
        (fDone_logged env.dl _ _)]
      simp only [hiff, grants_followed]

theorem recorded_finishJson (env : FinishEnv) {s : RoamMote} (hcrash : s.crashed = false) :
    Recorded s (finishJson env s) ↔
      (env.sessionFails = false → env.state ≠ .DEFERRED → env.state ≠ .sHANDOVER →
        ∀ i r, Grants env.sqlOk env.slots s i r → (env.slots i).Saves) := by
  have hpath := finishJson_path env s
  generalize finishJson env s = s' at hpath ⊢
  cases hpath with
  | fails h => exact recorded_of_logged (.of_eq rfl rfl) fun hno => by rw [h] at hno; cases hno
  | noDatabase hsql hbest =>
    rw [recorded_jsonHandler hcrash (.of_eq rfl rfl) (fDone_logged env.dl false _)]
    refine ⟨fun h _ _ _ => h, fun _ i r h => ?_⟩
    have hok := h.sqlOk
    rw [hsql] at hok
    cases hok
  | deferred h => exact recorded_of_logged (.of_eq rfl rfl) fun _ hno => absurd h hno
  | handover h =>
    exact recorded_of_logged (fDone_logged env.dl false s) fun _ _ hno => absurd h hno
  | uplink hlive _ hdeferred hhandover =>
    rw [recorded_finishUplink env hcrash]
    exact ⟨fun h _ _ _ => h, fun h => h hlive hdeferred hhandover⟩

theorem recorded_finishLocal (env : FinishEnv) {s : RoamMote} (hcrash : s.crashed = false) :
    Recorded s (finishLocal env s).2 ↔
      (env.sessionFails = false → env.state = .sPASSIVE ∨ env.state = .hHANDOVER →
        ∀ i r, Grants env.sqlOk env.slots s i r → (env.slots i).Saves) := by
  unfold finishLocal
  split
  · rename_i hskip
    refine recorded_of_logged (.of_eq rfl rfl) fun hlive hstate i r h => ?_
    simp only [Bool.or_eq_true, Bool.and_eq_true, Bool.not_eq_true', decide_eq_true_eq] at hskip
    rcases hskip with (hfails | ⟨hsql, -⟩) | hdeferred
    · rw [hlive] at hfails
      cases hfails
    · rw [hsql] at h
      cases h.sqlOk
    · rcases hstate with hstate | hstate <;> rw [hstate] at hdeferred <;> cases hdeferred
  · rename_i hskip
    split
    · rename_i hstate
      rw [recorded_jsonHandler hcrash (.of_eq rfl rfl) (.of_eq rfl rfl)]
      refine ⟨fun h _ _ => h, fun h => h ?_ hstate⟩
      simp only [Bool.or_eq_true, not_or, Bool.not_eq_true] at hskip
      exact hskip.1.1
    · rename_i hstate
      exact recorded_of_logged (.of_eq rfl rfl) fun _ hno => absurd hno hstate

theorem recorded_congr {s s' s'' : RoamMote} (hroams : s''.roams = s'.roams)
    (hanswers : s''.answers = s'.answers) : Recorded s s'' ↔ Recorded s s' := by
  rw [Recorded, Recorded, hroams, hanswers]

theorem recorded_service (env : FinishEnv) {s : RoamMote} (hcrash : s.crashed = false) :
    Recorded s (service env s) ↔ SavesGranted s (.service env) := by
  unfold service SavesGranted reachesRequesters
  cases s.progress with
  | OFF => exact recorded_of_logged (.of_eq rfl rfl) fun h => by simp at h
  | LOCAL =>
    dsimp only
    refine (@recorded_congr _ (finishLocal env s).2 _ ?_ ?_).trans
      ((recorded_finishLocal env hcrash).trans ?_)
    · rfl
    · rfl
    simp only [hcrash, Bool.not_false, Bool.true_and, Bool.and_eq_true, Bool.not_eq_true',
      decide_eq_true_eq]
    constructor
    · exact fun h hreach => h hreach.1.1 hreach.2
    · intro h hlive hstate
      refine h ⟨⟨hlive, ?_⟩, hstate⟩
      rcases hstate with hstate | hstate <;> rw [hstate] <;> decide
  | JSON =>
    dsimp only
    refine (@recorded_congr _ (finishJson env s) _ ?_ ?_).trans
      ((recorded_finishJson env hcrash).trans ?_)
    · rfl
    · rfl
    simp only [hcrash, Bool.not_false, Bool.true_and, Bool.and_eq_true, Bool.not_eq_true',
      decide_eq_true_eq]
    exact ⟨fun h hreach => h hreach.1.1 hreach.1.2 hreach.2,
      fun h hlive hdeferred hhandover => h ⟨⟨hlive, hdeferred⟩, hhandover⟩⟩

/-! ### The other events -/

theorem localUplink_logged (sq : ℤ) (mtype : mtype_e) (forwards : Bool) (s : RoamMote) :
    Logged [] [] s (localUplink sq mtype forwards s) := by
  unfold localUplink uplinkStart
  split <;> dsimp only <;> split <;> exact .of_eq rfl rfl

theorem uplinkJson_logged (admitted : Bool) (MessageType : ReqType) (ClientID : ℕ)
    (u : JsonUplink) (s : RoamMote) :
    Logged [] [] s (uplinkJson admitted MessageType ClientID u s) := by
  have hstart : Logged [] [] s (uplinkStart .JSON s) := by
    unfold uplinkStart
    split <;> exact .of_eq rfl rfl
  unfold uplinkJson
  dsimp only
  split
  · exact hstart
  · split
    · exact hstart.trans (.of_eq rfl rfl)
    · split <;> exact hstart.trans (.of_eq rfl rfl)
    · split <;> exact hstart.trans (.of_eq rfl rfl)

theorem joinAnswered_logged (rxOk dlmdOk : Bool) (slots : ℕ → SlotEnv) (s : RoamMote) :
    Logged [] [] s (joinAnswered rxOk dlmdOk slots s) := by
  unfold joinAnswered
  split
  · exact .of_eq rfl rfl
  · dsimp only
    split
    · exact follow_logged _ s
    · split
      · exact (follow_logged _ s).trans (logged_post_of_ne (by decide))
      · split
        · exact (follow_logged _ s).trans (.of_eq rfl rfl)
        · exact follow_logged _ s

theorem xmitDataAnsFrom_logged (slots : ℕ → SlotEnv) (result : AnsResult) (n : ℕ) :
    ∀ (j : ℕ) (s : RoamMote), Logged [] [] s (xmitDataAnsFrom slots result n j s) := by
  induction n with
  | zero => exact fun _ _ => .of_eq rfl rfl
  | succ n ih =>
    intro j s
    refine @Logged.trans [] [] _ _ _ _ _ ?_ (ih (j + 1) _)
    split
    · exact .of_eq rfl rfl
    · rename_i r hr
      split
      · rename_i hxmit
        refine logged_post fun r' hr' => ?_
        rw [hr] at hr'
        rw [← Option.some.inj hr', Answer.update, hxmit.1, if_neg fun h => by cases h.2]
      · exact .of_eq rfl rfl

/-- The updates queued are those that the posted answers call for, exactly when a granted roaming
start is not freed by its answer and its lifetime is read again as it was granted. -/
theorem recorded_iff_savesGranted (s : RoamMote) (e : RoamEvent) :
    Recorded s (s.step e) ↔ SavesGranted s e := by
  unfold RoamMote.step
  split
  · rename_i hcrash
    refine recorded_of_logged (.of_eq rfl rfl) ?_
    cases e with
    | service env => exact fun h => by simp [reachesRequesters, hcrash] at h
    | _ => trivial
  · rename_i hcrash
    cases e with
    | localRx sq mtype forwards => exact recorded_of_logged (localUplink_logged ..) trivial
    | json admitted MessageType ClientID u =>
      exact recorded_of_logged (uplinkJson_logged ..) trivial
    | service env => exact recorded_service env (Bool.eq_false_iff.mpr hcrash)
    | joinAns rxOk dlmdOk slots => exact recorded_of_logged (joinAnswered_logged ..) trivial
    | xmitDataAns result slots => exact recorded_of_logged (xmitDataAnsFrom_logged ..) trivial
    | downlinkBC PHYPayload d =>
      exact recorded_of_logged
        ((@Logged.of_eq s { s with PHYPayload := PHYPayload } rfl rfl).trans
          (finishPhyDownlink_logged d _)) trivial

/-! ### One partner starts roaming -/

/-- Everything succeeds, and the lifetime is an hour. -/
def plainSlot : SlotEnv := ⟨3600, 3600, 3600, true, true, true, true, true⟩

def plainFinish : FinishEnv :=
  { sessionFails := false
    sqlOk := true
    devEuiKnown := true
    roamState := .NONE
    roamExpired := false
    fNSSkip := false
    fNSTook := false
    PHYPayload := false
    uplinkOk := true
    joinReq := none
    slots := fun _ => plainSlot
    dl := ⟨true, false, true⟩ }

/-- A PRStartReq of NetID 6 with a data frame, `forwards` when it has a payload. -/
def startsRoaming (forwards : Bool) : RoamMote :=
  RoamMote.new.step (.json true .PRStartReq 6 (.phy (some 0) MTYPE_UNCONF_UP forwards))

/-- The Success answer is posted, and the requester is freed before its type is read. -/
theorem passive_start_not_recorded :
    ¬Recorded (startsRoaming false) ((startsRoaming false).step (.service plainFinish)) := by
  decide

end Lorawan.NetworkServer

import Lorawan.Lib.Machine
import Lorawan.NetworkServer.RoamingStart

/-!
# The best requester

`bestR` points to a slot of the list, and the answer to the requester in it
leaves the slot null. The places that follow `bestR` afterwards test the pointer
to the slot, not the slot.
-/

namespace Lorawan.NetworkServer
open Lorawan Lorawan.Backend Backend.mtype_e

/-! ### The condition -/

/-- The slot that `bestR` points to has a requester. -/
def BestLive (s : RoamMote) : Prop := ∀ i ∈ s.bestR, (s.slot i).isSome

/-- The requester in the slot `k` starts roaming on a data uplink, and is compared with the best
one. -/
def Asks (sqlOk : Bool) (slots : ℕ → SlotEnv) (s : RoamMote) (k : ℕ) : Prop :=
  ∃ r, s.slot k = some r ∧ r.needsAnswer = true ∧ isJoinReq s.mtype = false ∧ sqlOk = true ∧
    r.MessageType.isRStart = true ∧ 1 ≤ (slots k).roamLifetime

/-- The requester in the slot `k` brought a payload for the application server. -/
def Takes (sqlOk : Bool) (s : RoamMote) (k : ℕ) : Prop :=
  ∃ r, s.slot k = some r ∧ r.needsAnswer = true ∧ isJoinReq s.mtype = false ∧ sqlOk = true ∧
    r.MessageType = .XmitDataReq

/-- The requester in the slot `i` is answered and freed, when the slots are looked at from `j`
on. An XmitDataReq is answered here when its payload does not reach the application server. -/
def Frees (sqlOk : Bool) (slots : ℕ → SlotEnv) (s : RoamMote) (j i : ℕ) : Prop :=
  ∃ r, s.slot i = some r ∧ r.needsAnswer = true ∧ isJoinReq s.mtype = false ∧
    (slots i).easyOk = true ∧ (slots i).performOk = true ∧
    (sqlOk = true → r.MessageType = .XmitDataReq → s.ULFRMPayload = true ∧
      (∀ k, j ≤ k → k < i → ¬Takes sqlOk s k) ∧ (slots i).toAS = false)

/-- The answer to the requester in the slot `i` carries the downlink. -/
def Carries (sqlOk : Bool) (slots : ℕ → SlotEnv) (s : RoamMote) (i : ℕ) : Prop :=
  (∃ r, Grants sqlOk slots s i r) ∧
    ((slots i).ansLifetime = 0 ∨ (slots i).serviceProfile = true)

/-- Each roaming start finds the best requester in its slot. -/
def ComparesLive (sqlOk : Bool) (slots : ℕ → SlotEnv) (s : RoamMote) : Prop :=
  ∀ k, Asks sqlOk slots s k →
    ∃ i ∈ s.bestR, (s.slot i).isSome ∧ (i < k → ¬Frees sqlOk slots s 0 i)

/-- `sNS_finish_phy_downlink` follows `bestR`: to send a downlink, or to forward a payload. -/
def DownlinkFollows (d : DlEnv) (PHYPayload : Prop) (s : RoamMote) : Prop :=
  d.sExists = true ∧ ((PHYPayload ∧ d.pingFails = false) ∨
    (¬PHYPayload ∧ (isDataUp s.mtype && s.hasUplink && s.forwards) = true))

/-- Whether the JSON phase gets to the uplink. -/
def takesUplink (env : FinishEnv) (s : RoamMote) : Prop :=
  env.sessionFails = false ∧ (env.sqlOk = false → s.bestR = none) ∧ env.state ≠ .DEFERRED ∧
    env.state ≠ .sHANDOVER

/-- A data uplink was accepted, and a downlink may follow. -/
def acceptsData (env : FinishEnv) (s : RoamMote) : Prop :=
  s.hasUplink = true ∧ isDataUp s.mtype = true ∧ env.uplinkOk = true ∧
    (env.state = .sPASSIVE ∨ env.state = .NONE)

/-- The condition on an event: whatever follows `bestR` comes before the answer that frees the
best requester, and a roaming start has a remote best. -/
def BestInTime (s : RoamMote) : RoamEvent → Prop
  | .service env =>
    match s.progress with
    | .OFF => True
    | .LOCAL => env.sessionFails = false → env.state = .sPASSIVE ∨ env.state = .hHANDOVER →
        ComparesLive env.sqlOk env.slots s
    | .JSON => takesUplink env s →
        (env.state = .sPASSIVE ∨ env.state = .hHANDOVER ∨ s.hasUplink = true → BestLive s) ∧
          ComparesLive env.sqlOk env.slots s ∧
          (acceptsData env s → ∀ i ∈ s.bestR,
            DownlinkFollows env.dl (env.PHYPayload = true ∧ ¬Carries env.sqlOk env.slots s i) s →
              ¬Frees env.sqlOk env.slots s 0 i)
  | .joinAns .. => BestLive s
  | .downlinkBC PHYPayload d => DownlinkFollows d (PHYPayload = true) s → BestLive s
  | _ => True

/-! ### Posting an answer -/

theorem post_same (e : SlotEnv) (j : ℕ) (result : AnsResult) (Lifetime : Option ℕ)
    (s : RoamMote) : (r_post_ans_to_ns e j result Lifetime s).2.stale = s.stale ∧
      (r_post_ans_to_ns e j result Lifetime s).2.ULFRMPayload = s.ULFRMPayload ∧
        (r_post_ans_to_ns e j result Lifetime s).2.PHYPayload = s.PHYPayload := by
  unfold r_post_ans_to_ns
  split
  · exact ⟨rfl, rfl, rfl⟩
  · split <;> exact ⟨rfl, rfl, rfl⟩

theorem post_slot {e : SlotEnv} {j : ℕ} {result : AnsResult} {Lifetime : Option ℕ} {s : RoamMote}
    {r : Requester} (hr : s.slot j = some r) (hwait : r.needsAnswer = true) :
    ((r_post_ans_to_ns e j result Lifetime s).2.slot j).isSome ↔
      ¬(e.easyOk = true ∧ e.performOk = true) := by
  rw [r_post_ans_to_ns, hr]
  dsimp only
  rw [hwait]
  cases heasy : e.easyOk with
  | false => simp [hr]
  | true =>
    cases hperform : e.performOk with
    | false =>
      simp only [Bool.not_true, Bool.or_self, Bool.false_eq_true, if_false]
      show (s.slot j).isSome ↔ _
      simp [hr]
    | true =>
      simp only [Bool.not_true, Bool.or_self, Bool.false_eq_true, if_false, if_true]
      simp [RoamMote.slot, List.getElem?_set_self (slot_lt hr)]

theorem carriedSaved_same (e : SlotEnv) (j : ℕ) (s : RoamMote) :
    (saveRoaming e j (downlinkCarried e s)).stale = s.stale ∧
      (saveRoaming e j (downlinkCarried e s)).ULFRMPayload = s.ULFRMPayload ∧
        (saveRoaming e j (downlinkCarried e s)).slot j = s.slot j := by
  unfold saveRoaming downlinkCarried
  split <;> split <;> exact ⟨rfl, rfl, rfl⟩

theorem answerBest_same (e : SlotEnv) (j : ℕ) (s : RoamMote) :
    (answerBest e j s).stale = s.stale ∧ (answerBest e j s).ULFRMPayload = s.ULFRMPayload := by
  unfold answerBest
  split
  · exact ⟨(post_same e j _ _ s).1, (post_same e j _ _ s).2.1⟩
  · obtain ⟨hstale, hfrm, -⟩ := post_same e j .Success (some e.granted) s
    dsimp only
    split
    · obtain ⟨hstale', hfrm', -⟩ := carriedSaved_same e j
        (r_post_ans_to_ns e j .Success (some e.granted) s).2
      exact ⟨hstale'.trans hstale, hfrm'.trans hfrm⟩
    · exact ⟨hstale, hfrm⟩

theorem answerBest_slot {e : SlotEnv} {j : ℕ} {s : RoamMote} {r : Requester}
    (hr : s.slot j = some r) (hwait : r.needsAnswer = true) :
    ((answerBest e j s).slot j).isSome ↔ ¬(e.easyOk = true ∧ e.performOk = true) := by
  unfold answerBest
  split
  · exact post_slot hr hwait
  · dsimp only
    split
    · rw [(carriedSaved_same e j _).2.2]
      exact post_slot hr hwait
    · exact post_slot hr hwait

/-! ### A slot -/

theorem compare_stale (i : ℕ) (s : RoamMote) :
    (s.compare i).stale = false ↔ s.stale = false ∧ (s.slot i).isSome := by
  unfold RoamMote.compare
  split
  · rename_i hlive
    simp [hlive]
  · rename_i hnull
    simp [hnull]

@[simp] theorem compare_ULFRMPayload (i : ℕ) (s : RoamMote) :
    (s.compare i).ULFRMPayload = s.ULFRMPayload := by
  unfold RoamMote.compare
  split <;> rfl

@[simp] theorem compare_PHYPayload (i : ℕ) (s : RoamMote) :
    (s.compare i).PHYPayload = s.PHYPayload := by
  unfold RoamMote.compare
  split <;> rfl

variable {sqlOk : Bool} {slots : ℕ → SlotEnv} {j : ℕ} {s : RoamMote}

theorem Asks.due {k : ℕ} (h : Asks sqlOk slots s k) : ∃ r, Due s k r := by
  obtain ⟨r, hr, hwait, hdata, -⟩ := h
  exact ⟨r, hr, hwait, hdata⟩

theorem Takes.due {k : ℕ} (h : Takes sqlOk s k) : ∃ r, Due s k r := by
  obtain ⟨r, hr, hwait, hdata, -⟩ := h
  exact ⟨r, hr, hwait, hdata⟩

theorem Due.asks_iff {r : Requester} (h : Due s j r) : Asks sqlOk slots s j ↔
    sqlOk = true ∧ r.MessageType.isRStart = true ∧ 1 ≤ (slots j).roamLifetime := by
  constructor
  · rintro ⟨q, hq, -, -, hask⟩
    rwa [h.eq hq] at hask
  · exact fun hask => ⟨r, h.slot, h.needsAnswer, h.data, hask⟩

theorem Due.takes_iff {r : Requester} (h : Due s j r) :
    Takes sqlOk s j ↔ sqlOk = true ∧ r.MessageType = .XmitDataReq := by
  constructor
  · rintro ⟨q, hq, -, -, htake⟩
    rwa [h.eq hq] at htake
  · exact fun htake => ⟨r, h.slot, h.needsAnswer, h.data, htake⟩

theorem Frees.due {i : ℕ} (h : Frees sqlOk slots s j i) : ∃ r, Due s i r := by
  obtain ⟨r, hr, hwait, hdata, -⟩ := h
  exact ⟨r, hr, hwait, hdata⟩

theorem Due.frees_iff {r : Requester} (h : Due s j r) : Frees sqlOk slots s j j ↔
    ((slots j).easyOk = true ∧ (slots j).performOk = true) ∧
      (sqlOk = true → r.MessageType = .XmitDataReq → s.ULFRMPayload = true ∧
        (slots j).toAS = false) := by
  constructor
  · rintro ⟨q, hq, -, -, heasy, hperform, hxmit⟩
    rw [h.eq hq] at hxmit
    exact ⟨⟨heasy, hperform⟩, fun hsql htype => ⟨(hxmit hsql htype).1, (hxmit hsql htype).2.2⟩⟩
  · rintro ⟨⟨heasy, hperform⟩, hxmit⟩
    exact ⟨r, h.slot, h.needsAnswer, h.data, heasy, hperform, fun hsql htype =>
      ⟨(hxmit hsql htype).1, fun k hk hlt => by omega, (hxmit hsql htype).2⟩⟩

theorem visit_stale (hcrash : s.crashed = false) :
    (visit sqlOk (slots j) j s).stale = false ↔ s.stale = false ∧
      (Asks sqlOk slots s j → ∃ i ∈ s.bestR, (s.slot i).isSome) := by
  have hplain : ∀ s' : RoamMote, s'.stale = s.stale → ¬Asks sqlOk slots s j →
      (s'.stale = false ↔ s.stale = false ∧
        (Asks sqlOk slots s j → ∃ i ∈ s.bestR, (s.slot i).isSome)) := by
    intro s' hsame hno
    rw [hsame]
    exact ⟨fun h => ⟨h, fun hasks => absurd hasks hno⟩, fun h => h.1⟩
  have hxmit : ∀ {r}, Due s j r → r.MessageType = .XmitDataReq → ¬Asks sqlOk slots s j := by
    intro r h htype hasks
    exact ne_XmitDataReq_of_isRStart (h.asks_iff.mp hasks).2.1 htype
  have hturn := visit_turn sqlOk (slots j) j s
  generalize visit sqlOk (slots j) j s = s' at hturn ⊢
  cases hturn with
  | crashed h =>
    rw [hcrash] at h
    cases h
  | idle h =>
    refine hplain s rfl fun hasks => ?_
    obtain ⟨r, hr⟩ := hasks.due
    exact h r hr
  | other h hno hlife =>
    refine hplain _ (post_same _ j _ _ s).1 fun hasks => ?_
    obtain ⟨hsql, hrstart, hle⟩ := h.asks_iff.mp hasks
    have hlt := hlife hsql hrstart
    omega
  | null h hsql hrstart hlife hbest =>
    have hasks : Asks sqlOk slots s j := h.asks_iff.mpr ⟨hsql, hrstart, hlife⟩
    simp [hasks, hbest]
  | best h hsql hrstart hlife hbest =>
    have hasks : Asks sqlOk slots s j := h.asks_iff.mpr ⟨hsql, hrstart, hlife⟩
    rw [(answerBest_same _ j _).1, compare_stale]
    simp [hasks, hbest]
  | deferred h hsql hrstart hlife hbest hij =>
    have hasks : Asks sqlOk slots s j := h.asks_iff.mpr ⟨hsql, hrstart, hlife⟩
    rw [(post_same _ j _ _ _).1, compare_stale]
    simp [hasks, hbest]
  | taken h hsql htype hfrm => exact hplain s rfl (hxmit h htype)
  | forwarded h hsql htype hfrm htoAS => exact hplain _ rfl (hxmit h htype)
  | failed h hsql htype hfrm htoAS => exact hplain _ (post_same _ j _ _ _).1 (hxmit h htype)

theorem visit_ULFRMPayload (hcrash : s.crashed = false) :
    (visit sqlOk (slots j) j s).ULFRMPayload = true ↔
      s.ULFRMPayload = true ∧ ¬Takes sqlOk s j := by
  have hplain : ∀ s' : RoamMote, s'.ULFRMPayload = s.ULFRMPayload → ¬Takes sqlOk s j →
      (s'.ULFRMPayload = true ↔ s.ULFRMPayload = true ∧ ¬Takes sqlOk s j) := by
    intro s' hsame hno
    rw [hsame]
    exact ⟨fun h => ⟨h, hno⟩, fun h => h.1⟩
  have hstart : ∀ {r}, Due s j r → r.MessageType.isRStart = true → ¬Takes sqlOk s j := by
    intro r h hrstart htakes
    exact ne_XmitDataReq_of_isRStart hrstart (h.takes_iff.mp htakes).2
  have hgone : ∀ {r} {s' : RoamMote}, Due s j r → sqlOk = true → r.MessageType = .XmitDataReq →
      s'.ULFRMPayload = false →
      (s'.ULFRMPayload = true ↔ s.ULFRMPayload = true ∧ ¬Takes sqlOk s j) := by
    intro r s' h hsql htype hfrm
    have htakes : Takes sqlOk s j := h.takes_iff.mpr ⟨hsql, htype⟩
    simp [hfrm, htakes]
  have hturn := visit_turn sqlOk (slots j) j s
  generalize visit sqlOk (slots j) j s = s' at hturn ⊢
  cases hturn with
  | crashed h =>
    rw [hcrash] at h
    cases h
  | idle h =>
    refine hplain s rfl fun htakes => ?_
    obtain ⟨r, hr⟩ := htakes.due
    exact h r hr
  | other h hno hlife =>
    refine hplain _ (post_same _ j _ _ s).2.1 fun htakes => ?_
    obtain ⟨hsql, htype⟩ := h.takes_iff.mp htakes
    exact hno hsql htype
  | null h hsql hrstart hlife hbest => exact hplain _ rfl (hstart h hrstart)
  | best h hsql hrstart hlife hbest =>
    refine hplain _ ?_ (hstart h hrstart)
    rw [(answerBest_same _ j _).2, compare_ULFRMPayload]
  | deferred h hsql hrstart hlife hbest hij =>
    refine hplain _ ?_ (hstart h hrstart)
    rw [(post_same _ j _ _ _).2.1, compare_ULFRMPayload]
  | taken h hsql htype hfrm => exact hgone h hsql htype hfrm
  | forwarded h hsql htype hfrm htoAS => exact hgone h hsql htype rfl
  | failed h hsql htype hfrm htoAS => exact hgone h hsql htype (post_same _ j _ _ _).2.1

theorem visit_slot_best {i : ℕ} (hcrash : s.crashed = false) (hbest : s.bestR = some i)
    (hlive : (s.slot i).isSome) :
    ((visit sqlOk (slots i) i s).slot i).isSome ↔ ¬Frees sqlOk slots s i i := by
  have hstays : ¬Frees sqlOk slots s i i → ((s.slot i).isSome ↔ ¬Frees sqlOk slots s i i) :=
    fun hno => ⟨fun _ => hno, fun _ => hlive⟩
  have hturn := visit_turn sqlOk (slots i) i s
  generalize visit sqlOk (slots i) i s = s' at hturn ⊢
  cases hturn with
  | crashed h =>
    rw [hcrash] at h
    cases h
  | idle h =>
    refine hstays fun hfrees => ?_
    obtain ⟨r, hr⟩ := hfrees.due
    exact h r hr
  | other h hxmit hlife =>
    rw [post_slot h.slot h.needsAnswer, h.frees_iff]
    exact not_congr ⟨fun hsent => ⟨hsent, fun hsql htype => absurd htype (hxmit hsql)⟩,
      fun hfrees => hfrees.1⟩
  | null h hsql hrstart hlife hnone =>
    rw [hbest] at hnone
    cases hnone
  | best h hsql hrstart hlife hself =>
    have htype := ne_XmitDataReq_of_isRStart hrstart
    rw [answerBest_slot (by rw [slot_compare, h.slot]) h.needsAnswer, h.frees_iff]
    exact not_congr ⟨fun hsent => ⟨hsent, fun _ hxmit => absurd hxmit htype⟩,
      fun hfrees => hfrees.1⟩
  | deferred h hsql hrstart hlife hother hij =>
    rw [hbest] at hother
    exact absurd (Option.some.inj hother).symm hij
  | taken h hsql htype hfrm =>
    refine hstays fun hfrees => ?_
    have hpayload := ((h.frees_iff.mp hfrees).2 hsql htype).1
    rw [hfrm] at hpayload
    cases hpayload
  | forwarded h hsql htype hfrm htoAS =>
    refine hstays fun hfrees => ?_
    have hfails := ((h.frees_iff.mp hfrees).2 hsql htype).2
    rw [htoAS] at hfails
    cases hfails
  | failed h hsql htype hfrm htoAS =>
    rw [post_slot (s := { s with ULFRMPayload := false }) h.slot h.needsAnswer, h.frees_iff]
    exact not_congr ⟨fun hsent => ⟨hsent, fun _ _ => ⟨hfrm, htoAS⟩⟩, fun hfrees => hfrees.1⟩

theorem visit_slot_self {i : ℕ} (hcrash : s.crashed = false) (hbest : s.bestR = some i) :
    ((visit sqlOk (slots i) i s).slot i).isSome ↔
      (s.slot i).isSome ∧ ¬Frees sqlOk slots s i i := by
  by_cases hlive : (s.slot i).isSome
  · rw [visit_slot_best hcrash hbest hlive]
    simp [hlive]
  · have hnone : s.slot i = none := Option.not_isSome_iff_eq_none.mp hlive
    rw [visit, if_neg (by rw [hcrash]; simp), hnone]
    simp [hnone]

theorem answerBest_PHYPayload {e : SlotEnv} {j : ℕ} {s : RoamMote} {r : Requester}
    (hr : s.slot j = some r) (hwait : r.needsAnswer = true) :
    (answerBest e j s).PHYPayload = true ↔ s.PHYPayload = true ∧
      ¬(0 ≤ e.ansLifetime ∧ e.easyOk = true ∧ e.postOk = true ∧
        (e.ansLifetime = 0 ∨ e.serviceProfile = true)) := by
  unfold answerBest
  split
  · rename_i hneg
    rw [(post_same e j _ _ s).2.2]
    exact ⟨fun h => ⟨h, fun hno => by omega⟩, fun h => h.1⟩
  · rename_i hans
    have hsaved : ∀ s' : RoamMote, (saveRoaming e j (downlinkCarried e s')).PHYPayload = true ↔
        s'.PHYPayload = true ∧ ¬(e.ansLifetime = 0 ∨ e.serviceProfile = true) := by
      intro s'
      unfold saveRoaming downlinkCarried
      split <;> split <;> simp_all
    have hsame := (post_same e j .Success (some e.granted) s).2.2
    have hok : (r_post_ans_to_ns e j .Success (some e.granted) s).1 = true ↔
        e.easyOk = true ∧ e.postOk = true := by
      rw [r_post_ans_to_ns, hr]
      dsimp only
      rw [hwait]
      cases e.easyOk <;> simp
    dsimp only
    split
    · rename_i hposted
      rw [hsaved, hsame]
      have := hok.mp hposted
      simp only [this.1, this.2, not_lt.mp hans, true_and]
    · rename_i hfails
      rw [hsame]
      exact ⟨fun h => ⟨h, fun hno => hfails (hok.mpr ⟨hno.2.1, hno.2.2.1⟩)⟩, fun h => h.1⟩

theorem Carries.due {i : ℕ} (h : Carries sqlOk slots s i) : ∃ r, Due s i r := by
  obtain ⟨⟨r, hgrants⟩, -⟩ := h
  exact ⟨r, hgrants.slot, hgrants.needsAnswer, hgrants.data⟩

theorem Due.carries_iff {r : Requester} (h : Due s j r) : Carries sqlOk slots s j ↔
    (s.bestR = some j ∧ sqlOk = true ∧ r.MessageType.isRStart = true ∧
      1 ≤ (slots j).roamLifetime) ∧ 0 ≤ (slots j).ansLifetime ∧ (slots j).easyOk = true ∧
        (slots j).postOk = true ∧
          ((slots j).ansLifetime = 0 ∨ (slots j).serviceProfile = true) := by
  constructor
  · rintro ⟨⟨q, hq⟩, hcarry⟩
    have hrstart := hq.rstart
    rw [h.eq hq.slot] at hrstart
    exact ⟨⟨hq.best, hq.sqlOk, hrstart, hq.roamLifetime⟩, hq.ansLifetime, hq.easyOk, hq.postOk,
      hcarry⟩
  · rintro ⟨⟨hbest, hsql, hrstart, hlife⟩, hans, heasy, hpost, hcarry⟩
    exact ⟨⟨r, hbest, h.slot, h.needsAnswer, hrstart, h.data, hsql, hlife, hans, heasy, hpost⟩,
      hcarry⟩

theorem visit_PHYPayload (hcrash : s.crashed = false) :
    (visit sqlOk (slots j) j s).PHYPayload = true ↔
      s.PHYPayload = true ∧ ¬Carries sqlOk slots s j := by
  have hplain : ∀ s' : RoamMote, s'.PHYPayload = s.PHYPayload → ¬Carries sqlOk slots s j →
      (s'.PHYPayload = true ↔ s.PHYPayload = true ∧ ¬Carries sqlOk slots s j) := by
    intro s' hsame hno
    rw [hsame]
    exact ⟨fun h => ⟨h, hno⟩, fun h => h.1⟩
  have hxmit : ∀ {r}, Due s j r → r.MessageType = .XmitDataReq → ¬Carries sqlOk slots s j := by
    intro r h htype hcarries
    obtain ⟨⟨-, -, hrstart, -⟩, -⟩ := h.carries_iff.mp hcarries
    exact ne_XmitDataReq_of_isRStart hrstart htype
  have hturn := visit_turn sqlOk (slots j) j s
  generalize visit sqlOk (slots j) j s = s' at hturn ⊢
  cases hturn with
  | crashed h =>
    rw [hcrash] at h
    cases h
  | idle h =>
    refine hplain s rfl fun hcarries => ?_
    obtain ⟨r, hr⟩ := hcarries.due
    exact h r hr
  | other h hno hlife =>
    refine hplain _ (post_same _ j _ _ s).2.2 fun hcarries => ?_
    obtain ⟨⟨-, hsql, hrstart, hle⟩, -⟩ := h.carries_iff.mp hcarries
    have hlt := hlife hsql hrstart
    omega
  | null h hsql hrstart hlife hbest =>
    refine hplain _ rfl fun hcarries => ?_
    obtain ⟨⟨hself, -⟩, -⟩ := h.carries_iff.mp hcarries
    rw [hbest] at hself
    cases hself
  | best h hsql hrstart hlife hbest =>
    have hcarries : Carries sqlOk slots s j ↔ _ :=
      h.carries_iff.trans (and_iff_right ⟨hbest, hsql, hrstart, hlife⟩)
    rw [answerBest_PHYPayload (by rw [slot_compare, h.slot]) h.needsAnswer, compare_PHYPayload,
      hcarries]
  | deferred h hsql hrstart hlife hbest hij =>
    refine hplain _ ?_ fun hcarries => ?_
    · rw [(post_same _ j _ _ _).2.2, compare_PHYPayload]
    · obtain ⟨⟨hself, -⟩, -⟩ := h.carries_iff.mp hcarries
      rw [hbest] at hself
      exact hij (Option.some.inj hself)
  | taken h hsql htype hfrm => exact hplain s rfl (hxmit h htype)
  | forwarded h hsql htype hfrm htoAS => exact hplain _ rfl (hxmit h htype)
  | failed h hsql htype hfrm htoAS =>
    exact hplain _ (post_same _ j _ _ _).2.2 (hxmit h htype)

/-- The loop is led through a null pointer by a roaming start without a remote best. -/
theorem visit_crashed (hcrash : s.crashed = false)
    (hasks : Asks sqlOk slots s j → s.bestR.isSome) :
    (visit sqlOk (slots j) j s).crashed = false := by
  cases hbest : s.bestR with
  | some i => rw [crashed_visit hbest, hcrash]
  | none =>
    rw [hbest] at hasks
    have hturn := visit_turn sqlOk (slots j) j s
    generalize visit sqlOk (slots j) j s = s' at hturn ⊢
    cases hturn with
    | crashed h => exact hcrash
    | idle h => exact hcrash
    | other h hxmit hlife => rw [crashed_post h.slot, hcrash]
    | null h hsql hrstart hlife hnone => cases hasks (h.asks_iff.mpr ⟨hsql, hrstart, hlife⟩)
    | best h hsql hrstart hlife hself => cases hasks (h.asks_iff.mpr ⟨hsql, hrstart, hlife⟩)
    | deferred h hsql hrstart hlife hother hij =>
      cases hasks (h.asks_iff.mpr ⟨hsql, hrstart, hlife⟩)
    | taken h hsql htype hfrm => exact hcrash
    | forwarded h hsql htype hfrm htoAS => exact hcrash
    | failed h hsql htype hfrm htoAS =>
      rw [crashed_post (s := { s with ULFRMPayload := false }) h.slot, hcrash]

/-! ### All slots -/

/-- The best requester is in its slot when the slot `k` is looked at, after those from `j` on. -/
def LiveAt (sqlOk : Bool) (slots : ℕ → SlotEnv) (s : RoamMote) (j k : ℕ) : Prop :=
  ∃ i ∈ s.bestR, (s.slot i).isSome ∧ (j ≤ i → i < k → ¬Frees sqlOk slots s j i)

theorem asks_visit {j k : ℕ} (h : k ≠ j) :
    Asks sqlOk slots (visit sqlOk (slots j) j s) k ↔ Asks sqlOk slots s k := by
  have honly := onlySlot_visit sqlOk (slots j) j s
  rw [Asks, Asks, honly.slot k h, honly.mtype]

theorem takes_visit {j k : ℕ} (h : k ≠ j) :
    Takes sqlOk (visit sqlOk (slots j) j s) k ↔ Takes sqlOk s k := by
  have honly := onlySlot_visit sqlOk (slots j) j s
  rw [Takes, Takes, honly.slot k h, honly.mtype]

theorem carries_visit {j k : ℕ} (h : k ≠ j) :
    Carries sqlOk slots (visit sqlOk (slots j) j s) k ↔ Carries sqlOk slots s k := by
  simp only [Carries, grants_visit h]

theorem frees_visit {i j : ℕ} (hcrash : s.crashed = false) (h : j < i) :
    Frees sqlOk slots (visit sqlOk (slots j) j s) (j + 1) i ↔ Frees sqlOk slots s j i := by
  have honly := onlySlot_visit sqlOk (slots j) j s
  have hpayload : (visit sqlOk (slots j) j s).ULFRMPayload = true ∧
      (∀ k, j + 1 ≤ k → k < i → ¬Takes sqlOk (visit sqlOk (slots j) j s) k) ∧
        (slots i).toAS = false ↔
      s.ULFRMPayload = true ∧ (∀ k, j ≤ k → k < i → ¬Takes sqlOk s k) ∧
        (slots i).toAS = false := by
    rw [visit_ULFRMPayload hcrash]
    constructor
    · rintro ⟨⟨hfrm, hfirst⟩, hrest, htoAS⟩
      refine ⟨hfrm, fun k hk hlt => ?_, htoAS⟩
      by_cases hkj : k = j
      · rwa [hkj]
      · rw [← @takes_visit sqlOk slots s j k hkj]
        exact hrest k (by omega) hlt
    · rintro ⟨hfrm, hno, htoAS⟩
      refine ⟨⟨hfrm, hno j (le_refl j) h⟩, fun k hk hlt => ?_, htoAS⟩
      rw [takes_visit (by omega)]
      exact hno k (by omega) hlt
  simp only [Frees, honly.slot i (by omega), honly.mtype, hpayload]

theorem liveAt_visit {j k : ℕ} (hcrash : s.crashed = false) (h : j < k) :
    LiveAt sqlOk slots (visit sqlOk (slots j) j s) (j + 1) k ↔ LiveAt sqlOk slots s j k := by
  have honly := onlySlot_visit sqlOk (slots j) j s
  have hslot : ∀ i, s.bestR = some i →
      (((visit sqlOk (slots j) j s).slot i).isSome ∧
        (j + 1 ≤ i → i < k → ¬Frees sqlOk slots (visit sqlOk (slots j) j s) (j + 1) i) ↔
      (s.slot i).isSome ∧ (j ≤ i → i < k → ¬Frees sqlOk slots s j i)) := by
    intro i hbest
    rcases lt_trichotomy i j with hlt | heq | hgt
    · rw [honly.slot i (by omega)]
      exact and_congr_right fun _ => ⟨fun _ hle => by omega, fun _ hle => by omega⟩
    · subst heq
      rw [visit_slot_self hcrash hbest, and_assoc]
      exact and_congr_right fun _ => ⟨fun hno _ _ => hno.1,
        fun hno => ⟨hno (le_refl i) h, fun hle => by omega⟩⟩
    · rw [honly.slot i (by omega), frees_visit hcrash hgt]
      exact and_congr_right fun _ => ⟨fun hno _ => hno (by omega), fun hno _ => hno (by omega)⟩
  unfold LiveAt
  rw [honly.bestR]
  exact ⟨fun ⟨i, hi, hlive⟩ => ⟨i, hi, (hslot i hi).mp hlive⟩,
    fun ⟨i, hi, hlive⟩ => ⟨i, hi, (hslot i hi).mpr hlive⟩⟩

theorem visitFrom_of_crashed (n : ℕ) : ∀ {j : ℕ} {s : RoamMote}, s.crashed = true →
    visitFrom sqlOk slots n j s = s := by
  induction n with
  | zero => exact fun _ => rfl
  | succ n ih =>
    intro j s hcrash
    rw [visitFrom, visit, if_pos hcrash]
    exact ih hcrash

theorem visitFrom_same (n : ℕ) : ∀ (j : ℕ) (s : RoamMote),
    (visitFrom sqlOk slots n j s).bestR = s.bestR ∧
      (visitFrom sqlOk slots n j s).mtype = s.mtype ∧
      (visitFrom sqlOk slots n j s).hasUplink = s.hasUplink ∧
      (visitFrom sqlOk slots n j s).forwards = s.forwards := by
  induction n with
  | zero => exact fun _ _ => ⟨rfl, rfl, rfl, rfl⟩
  | succ n ih =>
    intro j s
    obtain ⟨hbest, hmtype, hup, hfwd⟩ := ih (j + 1) (visit sqlOk (slots j) j s)
    have honly := onlySlot_visit sqlOk (slots j) j s
    exact ⟨hbest.trans honly.bestR, hmtype.trans honly.mtype, hup.trans honly.hasUplink,
      hfwd.trans honly.forwards⟩

theorem stale_of_visitFrom (n : ℕ) : ∀ {j : ℕ} {s : RoamMote},
    (visitFrom sqlOk slots n j s).stale = false → s.stale = false := by
  induction n with
  | zero => exact id
  | succ n ih =>
    intro j s h
    have hfirst := ih h
    cases hcrash : s.crashed with
    | true => rwa [visit, if_pos hcrash] at hfirst
    | false => exact ((visit_stale hcrash).mp hfirst).1

/-- The loop follows `bestR` to a requester when each roaming start finds the best one in its
slot; it then meets no null pointer. -/
theorem visitFrom_stale (n : ℕ) : ∀ {j : ℕ} {s : RoamMote}, s.crashed = false →
    ((visitFrom sqlOk slots n j s).stale = false ↔ s.stale = false ∧
      ∀ k, j ≤ k → k < j + n → Asks sqlOk slots s k → LiveAt sqlOk slots s j k) := by
  induction n with
  | zero => exact fun _ => ⟨fun h => ⟨h, fun k hk hlt => by omega⟩, fun h => h.1⟩
  | succ n ih =>
    intro j s hcrash
    rw [visitFrom]
    have hself : (∃ i ∈ s.bestR, (s.slot i).isSome) ↔ LiveAt sqlOk slots s j j :=
      ⟨fun ⟨i, hi, hlive⟩ => ⟨i, hi, hlive, fun hle hlt => by omega⟩,
        fun ⟨i, hi, hlive, _⟩ => ⟨i, hi, hlive⟩⟩
    have hvisit := @visit_stale sqlOk slots j s hcrash
    rw [hself] at hvisit
    by_cases hasks : Asks sqlOk slots s j → s.bestR.isSome
    · rw [ih (visit_crashed hcrash hasks), hvisit]
      constructor
      · rintro ⟨⟨hstale, hfirst⟩, hrest⟩
        refine ⟨hstale, fun k hk hlt hk' => ?_⟩
        by_cases hkj : k = j
        · subst hkj
          exact hfirst hk'
        · exact (liveAt_visit hcrash (by omega)).mp
            (hrest k (by omega) (by omega) ((asks_visit hkj).mpr hk'))
      · rintro ⟨hstale, hall⟩
        refine ⟨⟨hstale, hall j (le_refl j) (by omega)⟩, fun k hk hlt hk' => ?_⟩
        exact (liveAt_visit hcrash (by omega)).mpr
          (hall k (by omega) (by omega) ((asks_visit (by omega)).mp hk'))
    · -- the request asks, and there is no best one
      obtain ⟨hasks, hbest⟩ := Classical.not_imp.mp hasks
      have hdead : ¬LiveAt sqlOk slots s j j := fun ⟨i, hi, _⟩ =>
        hbest (Option.isSome_iff_exists.mpr ⟨i, hi⟩)
      have hbad : (visit sqlOk (slots j) j s).stale ≠ false := fun h =>
        hdead ((hvisit.mp h).2 hasks)
      refine ⟨fun h => absurd ?_ hbad, fun h => absurd (h.2 j (le_refl j) (by omega) hasks) hdead⟩
      exact stale_of_visitFrom n h

/-- The loop is not led through a null pointer while each roaming start has a remote best. -/
theorem visitFrom_crashed (n : ℕ) : ∀ {j : ℕ} {s : RoamMote}, s.crashed = false →
    (∀ k, j ≤ k → k < j + n → Asks sqlOk slots s k → s.bestR.isSome) →
      (visitFrom sqlOk slots n j s).crashed = false := by
  induction n with
  | zero => exact fun hcrash _ => hcrash
  | succ n ih =>
    intro j s hcrash hall
    refine ih (visit_crashed hcrash (hall j (le_refl j) (by omega))) fun k hk hlt hasks => ?_
    rw [(onlySlot_visit sqlOk (slots j) j s).bestR]
    exact hall k (by omega) (by omega) ((asks_visit (by omega)).mp hasks)

/-- Where the best requester is after the loop, and what is left to be sent. -/
theorem visitFrom_after (n : ℕ) : ∀ {j : ℕ} {s : RoamMote}, s.crashed = false →
    (∀ k, j ≤ k → k < j + n → Asks sqlOk slots s k → s.bestR.isSome) →
      (∀ i, s.bestR = some i → (((visitFrom sqlOk slots n j s).slot i).isSome ↔
        (s.slot i).isSome ∧ (j ≤ i → i < j + n → ¬Frees sqlOk slots s j i))) ∧
      ((visitFrom sqlOk slots n j s).PHYPayload = true ↔ s.PHYPayload = true ∧
        ∀ k, j ≤ k → k < j + n → ¬Carries sqlOk slots s k) := by
  induction n with
  | zero =>
    intro j s _ _
    exact ⟨fun i _ => ⟨fun h => ⟨h, fun hle hlt => by omega⟩, fun h => h.1⟩,
      fun h => ⟨h, fun k hle hlt => by omega⟩, fun h => h.1⟩
  | succ n ih =>
    intro j s hcrash hall
    have honly := onlySlot_visit sqlOk (slots j) j s
    obtain ⟨hslot, hphy⟩ := ih (j := j + 1)
      (visit_crashed hcrash (hall j (le_refl j) (by omega))) fun k hk hlt hasks => by
        rw [honly.bestR]
        exact hall k (by omega) (by omega) ((asks_visit (by omega)).mp hasks)
    constructor
    · intro i hbest
      rw [visitFrom, hslot i (honly.bestR.trans hbest)]
      have hlive := @liveAt_visit sqlOk slots s j (j + (n + 1)) hcrash (by omega)
      simp only [LiveAt, honly.bestR, hbest, Option.mem_some_iff, exists_eq_left'] at hlive
      rwa [show j + 1 + n = j + (n + 1) by omega]
    · rw [visitFrom, hphy, visit_PHYPayload hcrash]
      constructor
      · rintro ⟨⟨hphy, hfirst⟩, hrest⟩
        refine ⟨hphy, fun k hk hlt => ?_⟩
        by_cases hkj : k = j
        · rwa [hkj]
        · rw [← carries_visit hkj]
          exact hrest k (by omega) (by omega)
      · rintro ⟨hphy, hno⟩
        refine ⟨⟨hphy, hno j (le_refl j) (by omega)⟩, fun k hk hlt => ?_⟩
        rw [carries_visit (by omega)]
        exact hno k (by omega) (by omega)

theorem Asks.lt {k : ℕ} (h : Asks sqlOk slots s k) : k < s.requesterList.length := by
  obtain ⟨r, hr, -⟩ := h
  exact slot_lt hr

theorem jsonHandler_stale (hcrash : s.crashed = false) :
    (jsonHandler sqlOk slots s).stale = false ↔
      s.stale = false ∧ ComparesLive sqlOk slots s := by
  rw [jsonHandler, visitFrom_stale _ hcrash]
  refine and_congr_right fun _ => ⟨fun h k hasks => ?_, fun h k _ _ hasks => ?_⟩
  · obtain ⟨i, hi, hlive, hfree⟩ := h k (Nat.zero_le k) (by simpa using hasks.lt) hasks
    exact ⟨i, hi, hlive, hfree (Nat.zero_le i)⟩
  · obtain ⟨i, hi, hlive, hfree⟩ := h k hasks
    exact ⟨i, hi, hlive, fun _ => hfree⟩

/-- After a loop that did not crash the best requester is in its slot when it was there and no
answer freed it, and the downlink is left when no answer carried it. -/
theorem jsonHandler_after (hcrash : s.crashed = false) (hlive : BestLive s)
    (hcompares : ComparesLive sqlOk slots s) :
    (BestLive (jsonHandler sqlOk slots s) ↔ ∀ i ∈ s.bestR, ¬Frees sqlOk slots s 0 i) ∧
      ((jsonHandler sqlOk slots s).PHYPayload = true ↔ s.PHYPayload = true ∧
        ∀ i ∈ s.bestR, ¬Carries sqlOk slots s i) := by
  have hasks : ∀ k, Asks sqlOk slots s k → s.bestR.isSome := fun k hk => by
    obtain ⟨i, hi, -⟩ := hcompares k hk
    exact Option.isSome_iff_exists.mpr ⟨i, hi⟩
  have hlt : ∀ i ∈ s.bestR, i < s.requesterList.length := fun i hi => by
    obtain ⟨r, hr⟩ := Option.isSome_iff_exists.mp (hlive i hi)
    exact slot_lt hr
  obtain ⟨hslot, hphy⟩ := visitFrom_after s.requesterList.length (j := 0) hcrash
    fun k _ _ hk => hasks k hk
  constructor
  · unfold BestLive jsonHandler
    rw [(visitFrom_same _ 0 s).1]
    refine forall₂_congr fun i hi => ?_
    rw [hslot i hi, Nat.zero_add]
    exact ⟨fun h => h.2 (Nat.zero_le i) (hlt i hi), fun h => ⟨hlive i hi, fun _ _ => h⟩⟩
  · rw [jsonHandler, hphy, Nat.zero_add]
    refine and_congr_right fun _ => ⟨fun h i hi => h i (Nat.zero_le i) (hlt i hi),
      fun h k _ _ hcarries => ?_⟩
    obtain ⟨⟨r, hgrants⟩, -⟩ := id hcarries
    exact h k hgrants.best hcarries

theorem jsonHandler_crashed (hcrash : s.crashed = false)
    (hcompares : ComparesLive sqlOk slots s) : (jsonHandler sqlOk slots s).crashed = false := by
  refine visitFrom_crashed _ hcrash fun k _ _ hk => ?_
  obtain ⟨i, hi, -⟩ := hcompares k hk
  exact Option.isSome_iff_exists.mpr ⟨i, hi⟩

/-! ### The downlink -/

theorem follow_stale (i : ℕ) (s : RoamMote) :
    (s.follow i).stale = false ↔ s.stale = false ∧ (s.slot i).isSome := by
  unfold RoamMote.follow
  split <;> rename_i hslot <;> simp [hslot]

theorem followBest_stale (s : RoamMote) :
    s.followBest.stale = false ↔ s.stale = false ∧ BestLive s := by
  unfold RoamMote.followBest BestLive
  cases s.bestR with
  | none => simp
  | some i =>
    dsimp only
    rw [follow_stale]
    simp

theorem followBest_of_live {s : RoamMote} (h : BestLive s) : s.followBest = s := by
  unfold RoamMote.followBest
  cases hbest : s.bestR with
  | none => rfl
  | some i => exact if_pos (h i hbest)

theorem followBest_crashed {s : RoamMote} (hcrash : s.crashed = false) :
    s.followBest.crashed = false ↔ BestLive s := by
  unfold RoamMote.followBest BestLive RoamMote.follow
  cases s.bestR with
  | none => simp [hcrash]
  | some i =>
    dsimp only
    split <;> rename_i hslot <;> simp [hslot, hcrash]

theorem forwardPayload_stale (s : RoamMote) : (forwardPayload s).stale = false ↔
    s.stale = false ∧ ((isDataUp s.mtype && s.hasUplink && s.forwards) = true → BestLive s) := by
  unfold forwardPayload
  split
  · rename_i hforwards
    rw [followBest_stale]
    simp only [hforwards, true_imp_iff]
  · rename_i hno
    exact ⟨fun h => ⟨h, fun hforwards => absurd hforwards hno⟩, fun h => h.1⟩

theorem finishPhyDownlink_stale (d : DlEnv) {s : RoamMote} (hcrash : s.crashed = false) :
    (finishPhyDownlink d s).stale = false ↔
      s.stale = false ∧ (DownlinkFollows d (s.PHYPayload = true) s → BestLive s) := by
  have hquiet : ∀ {P : Prop}, ¬P → (s.stale = false ↔ s.stale = false ∧ (P → BestLive s)) :=
    fun hno => ⟨fun h => ⟨h, fun hP => absurd hP hno⟩, fun h => h.1⟩
  unfold finishPhyDownlink
  split
  · rename_i hexists
    refine hquiet fun h => ?_
    simp [h.1] at hexists
  · rename_i hexists
    simp only [Bool.not_eq_true', Bool.not_eq_false] at hexists
    split
    · rename_i hphy
      split
      · rename_i hping
        simp only [Bool.and_eq_true] at hping
        refine hquiet fun h => ?_
        rcases h.2 with ⟨_, hno⟩ | ⟨hno, _⟩
        · rw [hping.2] at hno
          cases hno
        · exact hno hphy
      · rename_i hping
        dsimp only
        by_cases hlive : BestLive s
        · -- what was followed once can be followed again
          rw [followBest_of_live hlive, if_neg (by rw [hcrash]; simp), forwardPayload_stale]
          exact ⟨fun h => ⟨h.1, fun _ => hlive⟩, fun h => ⟨h.1, fun _ => hlive⟩⟩
        · have hbest : s.bestR.isSome := by
            by_contra hnone
            exact hlive fun i hi => absurd (Option.isSome_iff_exists.mpr ⟨i, hi⟩) hnone
          have hcrash' : s.followBest.crashed = true := by
            rw [← Bool.not_eq_false, followBest_crashed hcrash]
            exact hlive
          rw [if_pos hcrash', followBest_stale]
          refine and_congr_right fun _ => ⟨fun h => absurd h hlive, fun h => h ?_⟩
          refine ⟨hexists, .inl ⟨hphy, ?_⟩⟩
          simpa [hbest] using hping
    · rename_i hphy
      rw [forwardPayload_stale]
      refine and_congr_right fun _ => ⟨fun h hfollows => h ?_, fun h hforwards => h ?_⟩
      · rcases hfollows.2 with ⟨hno, _⟩ | ⟨_, hforwards⟩
        · exact absurd hno hphy
        · exact hforwards
      · exact ⟨hexists, .inr ⟨hphy, hforwards⟩⟩

theorem fDone_stale (d : DlEnv) (uplinkOk : Bool) (s : RoamMote) :
    (fDone d uplinkOk s).stale = false ↔ s.stale = false ∧ (s.crashed = false → uplinkOk = true →
      DownlinkFollows d (s.PHYPayload = true) s → BestLive s) := by
  unfold fDone
  cases hcrash : s.crashed with
  | true => simp
  | false =>
    simp only [Bool.false_eq_true, if_false, true_imp_iff]
    cases uplinkOk with
    | false => simp
    | true =>
      simp only [if_true, true_imp_iff]
      exact finishPhyDownlink_stale d hcrash

/-! ### The uplink -/

/-- The answers to a join request leave the best requester in its slot when it was sent on. -/
theorem joinReqFrom_same (sent : Bool) (slots : ℕ → SlotEnv) (n : ℕ) :
    ∀ (j : ℕ) (s : RoamMote), (joinReqFrom sent slots n j s).stale = s.stale ∧
      (joinReqFrom sent slots n j s).bestR = s.bestR ∧
      (joinReqFrom sent slots n j s).mtype = s.mtype ∧
      (sent = true → ∀ i ∈ s.bestR, (joinReqFrom sent slots n j s).slot i = s.slot i) := by
  induction n with
  | zero => exact fun _ _ => ⟨rfl, rfl, rfl, fun _ _ _ => rfl⟩
  | succ n ih =>
    intro j s
    unfold joinReqFrom
    split
    · exact ih (j + 1) s
    · rename_i hanswers
      generalize (if sent = true ∧ 0 ≤ (slots j).roamLifetime then AnsResult.Deferred else .Other)
        = result
      obtain ⟨hstale, hbest, hmtype, hslot⟩ :=
        ih (j + 1) (r_post_ans_to_ns (slots j) j result none s).2
      have honly := onlySlot_post (slots j) j result none s
      refine ⟨hstale.trans (post_same _ j _ _ s).1, hbest.trans honly.bestR,
        hmtype.trans honly.mtype, fun hsent i hi => ?_⟩
      rw [hslot hsent i (honly.bestR.symm ▸ hi)]
      refine honly.slot i fun hij => hanswers (.inr ⟨hsent, ?_⟩)
      rw [← hij]
      exact hi

theorem comparesLive_of_join (h : isJoinReq s.mtype = true) : ComparesLive sqlOk slots s :=
  fun _ ⟨_, _, _, hdata, _⟩ => by rw [h] at hdata; cases hdata

theorem visitFrom_of_join (n : ℕ) : ∀ {j : ℕ} {s : RoamMote}, isJoinReq s.mtype = true →
    visitFrom sqlOk slots n j s = s := by
  induction n with
  | zero => exact fun _ => rfl
  | succ n ih =>
    intro j s h
    have hvisit : visit sqlOk (slots j) j s = s := by
      unfold visit
      split
      · rfl
      · split
        · rfl
        · rw [h, Bool.or_true, if_pos rfl]
    rw [visitFrom, hvisit]
    exact ih h

theorem not_join_of_data {t : mtype_e} (h : isDataUp t = true) : isJoinReq t = false := by
  cases t <;> first | rfl | cases h

theorem uplinkFinish_of_live (env : FinishEnv) (hcrash : s.crashed = false)
    (hup : s.hasUplink = true) (hlive : BestLive s) : uplinkFinish env s =
      if isJoinReq s.mtype then
        match env.joinReq with
        | none => (env.uplinkOk && decide (s.mtype = .MTYPE_JOIN_REQ),
            { s with PHYPayload := env.PHYPayload })
        | some sent => (env.uplinkOk && sent, joinReqFrom sent env.slots s.requesterList.length 0
            { s with PHYPayload := env.PHYPayload })
      else
        (isDataUp s.mtype && env.uplinkOk &&
          (decide (env.state = .sPASSIVE) || decide (env.state = .NONE)),
            { s with PHYPayload := env.PHYPayload }) := by
  rw [uplinkFinish, if_neg (by rw [hup]; simp), followBest_of_live hlive]
  dsimp only
  refine (if_neg (by rw [hcrash]; simp)).trans ?_
  cases env.joinReq <;> cases isJoinReq s.mtype <;> rfl

theorem finishUplink_stale_of_join (env : FinishEnv) (hcrash : s.crashed = false)
    (hup : s.hasUplink = true) (hlive : BestLive s) (hjoin : isJoinReq s.mtype = true) :
    (fDone env.dl (uplinkFinish env s).1
        (jsonHandler env.sqlOk env.slots (uplinkFinish env s).2)).stale = false ↔
      s.stale = false ∧ (true = true → BestLive s) ∧
        ComparesLive env.sqlOk env.slots s ∧
        (acceptsData env s → ∀ i ∈ s.bestR,
          DownlinkFollows env.dl (env.PHYPayload = true ∧ ¬Carries env.sqlOk env.slots s i) s →
            ¬Frees env.sqlOk env.slots s 0 i) := by
  have hno : ¬acceptsData env s := fun h => by
    rw [not_join_of_data h.2.1] at hjoin
    cases hjoin
  have hright : (s.stale = false ↔ s.stale = false ∧ (true = true → BestLive s) ∧
      ComparesLive env.sqlOk env.slots s ∧
      (acceptsData env s → ∀ i ∈ s.bestR,
        DownlinkFollows env.dl (env.PHYPayload = true ∧ ¬Carries env.sqlOk env.slots s i) s →
          ¬Frees env.sqlOk env.slots s 0 i)) :=
    ⟨fun h => ⟨h, fun _ => hlive, comparesLive_of_join hjoin, fun hyes => absurd hyes hno⟩,
      fun h => h.1⟩
  rw [← hright]
  cases hreq : env.joinReq with
  | none =>
    rw [uplinkFinish_of_live env hcrash hup hlive, if_pos hjoin, hreq]
    dsimp only
    rw [jsonHandler, visitFrom_of_join _ (by exact hjoin), fDone_stale]
    exact and_iff_left_of_imp fun _ _ _ _ => hlive
  | some sent =>
    obtain ⟨hstale, hbest, hmtype, hslot⟩ := joinReqFrom_same sent env.slots
      s.requesterList.length 0 { s with PHYPayload := env.PHYPayload }
    rw [uplinkFinish_of_live env hcrash hup hlive, if_pos hjoin, hreq]
    dsimp only
    rw [jsonHandler, visitFrom_of_join _ (by rw [hmtype]; exact hjoin), fDone_stale, hstale]
    refine and_iff_left_of_imp fun _ _ hok _ i hi => ?_
    simp only [Bool.and_eq_true] at hok
    rw [hslot hok.2 i (hbest ▸ hi)]
    exact hlive i (hbest ▸ hi)

theorem finishUplink_stale_of_data (env : FinishEnv) (hcrash : s.crashed = false)
    (hup : s.hasUplink = true) (hlive : BestLive s) (hdata : isJoinReq s.mtype = false) :
    (fDone env.dl (uplinkFinish env s).1
        (jsonHandler env.sqlOk env.slots (uplinkFinish env s).2)).stale = false ↔
      s.stale = false ∧ (true = true → BestLive s) ∧
        ComparesLive env.sqlOk env.slots s ∧
        (acceptsData env s → ∀ i ∈ s.bestR,
          DownlinkFollows env.dl (env.PHYPayload = true ∧ ¬Carries env.sqlOk env.slots s i) s →
            ¬Frees env.sqlOk env.slots s 0 i) := by
  have haccepts : (isDataUp s.mtype && env.uplinkOk &&
      (decide (env.state = .sPASSIVE) || decide (env.state = .NONE))) = true ↔
        acceptsData env s := by
    simp [acceptsData, hup, and_assoc]
  rw [uplinkFinish_of_live env hcrash hup hlive, if_neg (by rw [hdata]; simp)]
  dsimp only
  rw [fDone_stale, haccepts]
  generalize hs' : { s with PHYPayload := env.PHYPayload } = s'
  have hcompares : ComparesLive env.sqlOk env.slots s' ↔ ComparesLive env.sqlOk env.slots s := by
    subst hs'
    exact Iff.rfl
  have hcrash' : s'.crashed = false := by
    subst hs'
    exact hcrash
  rw [jsonHandler_stale hcrash', hcompares]
  by_cases hyes : ComparesLive env.sqlOk env.slots s
  · have hlive' : BestLive s' := by
      subst hs'
      exact hlive
    obtain ⟨hafter, hphy⟩ := jsonHandler_after hcrash' hlive' (hcompares.mpr hyes)
    have hfollows : DownlinkFollows env.dl ((jsonHandler env.sqlOk env.slots s').PHYPayload = true)
        (jsonHandler env.sqlOk env.slots s') ↔ DownlinkFollows env.dl (env.PHYPayload = true ∧
          ∀ i ∈ s.bestR, ¬Carries env.sqlOk env.slots s i) s := by
      obtain ⟨-, hmtype, hup', hfwd⟩ := @visitFrom_same env.sqlOk env.slots
        s'.requesterList.length 0 s'
      unfold DownlinkFollows
      rw [hphy, jsonHandler, hmtype, hup', hfwd]
      subst hs'
      have hcarries : ∀ i, Carries env.sqlOk env.slots { s with PHYPayload := env.PHYPayload } i ↔
          Carries env.sqlOk env.slots s i := fun i => by
        simp only [Carries, @grants_congr _ _ s
          { s with PHYPayload := env.PHYPayload } _ _ rfl rfl rfl]
      simp only [hcarries]
    rw [hafter, hfollows]
    simp only [jsonHandler_crashed hcrash' (hcompares.mpr hyes), hyes, and_true, true_and,
      true_imp_iff, hlive]
    subst hs'
    refine and_congr Iff.rfl (forall_congr' fun _ => ?_)
    show (_ → ∀ i ∈ s.bestR, ¬Frees env.sqlOk env.slots s 0 i) ↔ _
    cases s.bestR with
    | none => simp
    | some i => simp
  · simp [hyes]

/-- `sNS_uplink_finish`, the requesters and the downlink. -/
theorem finishUplink_stale (env : FinishEnv) (hcrash : s.crashed = false) :
    (fDone env.dl (uplinkFinish env s).1
        (jsonHandler env.sqlOk env.slots (uplinkFinish env s).2)).stale = false ↔
      s.stale = false ∧ (s.hasUplink = true → BestLive s) ∧
        ComparesLive env.sqlOk env.slots s ∧
        (acceptsData env s → ∀ i ∈ s.bestR,
          DownlinkFollows env.dl (env.PHYPayload = true ∧ ¬Carries env.sqlOk env.slots s i) s →
            ¬Frees env.sqlOk env.slots s 0 i) := by
  cases hup : s.hasUplink with
  | false =>
    have hfinish : uplinkFinish env s = (false, s) := by rw [uplinkFinish, hup]; rfl
    have hno : ¬acceptsData env s := fun h => by rw [h.1] at hup; cases hup
    rw [hfinish, fDone_stale, jsonHandler_stale hcrash]
    simp [hno]
  | true =>
    by_cases hlive : BestLive s
    · cases hjoin : isJoinReq s.mtype with
      | true => exact finishUplink_stale_of_join env hcrash hup hlive hjoin
      | false => exact finishUplink_stale_of_data env hcrash hup hlive hjoin
    · have hcrash' : s.followBest.crashed = true := by
        rw [← Bool.not_eq_false, followBest_crashed hcrash]
        exact hlive
      have hfinish : uplinkFinish env s = (false, s.followBest) := by
        rw [uplinkFinish, hup]
        simp only [Bool.not_true, Bool.false_eq_true, if_false, hcrash', if_true]
      rw [hfinish, jsonHandler, visitFrom_of_crashed _ hcrash', fDone_stale, followBest_stale]
      simp [hlive]

/-! ### finish -/

/-- The way of an uplink: following it first takes the best requester where the mote roams. -/
theorem finishRoaming_stale (env : FinishEnv) (hcrash : s.crashed = false) :
    (if (followed env s).crashed then followed env s
      else fDone env.dl (uplinkFinish env (followed env s)).1
        (jsonHandler env.sqlOk env.slots (uplinkFinish env (followed env s)).2)).stale = false ↔
      s.stale = false ∧
        (env.state = .sPASSIVE ∨ env.state = .hHANDOVER ∨ s.hasUplink = true → BestLive s) ∧
        ComparesLive env.sqlOk env.slots s ∧
        (acceptsData env s → ∀ i ∈ s.bestR,
          DownlinkFollows env.dl (env.PHYPayload = true ∧ ¬Carries env.sqlOk env.slots s i) s →
            ¬Frees env.sqlOk env.slots s 0 i) := by
  rw [← or_assoc]
  by_cases hroams : env.state = .sPASSIVE ∨ env.state = .hHANDOVER
  · have hfirst : ((env.state = .sPASSIVE ∨ env.state = .hHANDOVER) ∨ s.hasUplink = true →
        BestLive s) ↔ BestLive s := ⟨fun h => h (.inl hroams), fun h _ => h⟩
    rw [hfirst, followed, if_pos hroams]
    by_cases hlive : BestLive s
    · rw [followBest_of_live hlive]
      simp only [hcrash, Bool.false_eq_true, if_false]
      rw [finishUplink_stale env hcrash]
      simp [hlive]
    · have hcrash' : s.followBest.crashed = true := by
        rw [← Bool.not_eq_false, followBest_crashed hcrash]
        exact hlive
      rw [if_pos hcrash', followBest_stale]
      simp [hlive]
  · have hfirst : ((env.state = .sPASSIVE ∨ env.state = .hHANDOVER) ∨ s.hasUplink = true →
        BestLive s) ↔ (s.hasUplink = true → BestLive s) :=
      ⟨fun h hup => h (.inr hup), fun h hor => h (hor.resolve_left hroams)⟩
    rw [hfirst, followed, if_neg hroams]
    simp only [hcrash, Bool.false_eq_true, if_false]
    exact finishUplink_stale env hcrash

theorem finishJson_stale (env : FinishEnv) (hcrash : s.crashed = false) :
    (finishJson env s).stale = false ↔ s.stale = false ∧ (takesUplink env s →
      (env.state = .sPASSIVE ∨ env.state = .hHANDOVER ∨ s.hasUplink = true → BestLive s) ∧
        ComparesLive env.sqlOk env.slots s ∧
        (acceptsData env s → ∀ i ∈ s.bestR,
          DownlinkFollows env.dl (env.PHYPayload = true ∧ ¬Carries env.sqlOk env.slots s i) s →
            ¬Frees env.sqlOk env.slots s 0 i)) := by
  have hquiet : ∀ {P : Prop}, ¬takesUplink env s →
      (s.stale = false ↔ s.stale = false ∧ (takesUplink env s → P)) :=
    fun hno => ⟨fun h => ⟨h, fun hP => absurd hP hno⟩, fun h => h.1⟩
  have hpath := finishJson_path env s
  generalize finishJson env s = s' at hpath ⊢
  cases hpath with
  | fails h => exact hquiet fun htakes => by rw [htakes.1] at h; cases h
  | noDatabase hsql hbest =>
    have hcompares : ComparesLive env.sqlOk env.slots s := fun k ⟨_, _, _, _, hok, _⟩ => by
      rw [hsql] at hok
      cases hok
    have hno : ¬takesUplink env s := fun h => by
      rw [h.2.1 hsql] at hbest
      cases hbest
    rw [fDone_stale, jsonHandler_stale hcrash]
    simp [hcompares, hno]
  | deferred h => exact hquiet fun htakes => htakes.2.2.1 h
  | handover h =>
    have hno : ¬takesUplink env s := fun htakes => htakes.2.2.2 h
    rw [fDone_stale]
    simp [hno]
  | uplink hlive hsql hdeferred hhandover =>
    have htakes : takesUplink env s := ⟨hlive, hsql, hdeferred, hhandover⟩
    rw [finishRoaming_stale env hcrash]
    exact ⟨fun h => ⟨h.1, fun _ => h.2⟩, fun h => ⟨h.1, h.2 htakes⟩⟩

theorem finishLocal_stale (env : FinishEnv) (hcrash : s.crashed = false) :
    (finishLocal env s).2.stale = false ↔ s.stale = false ∧ (env.sessionFails = false →
      env.state = .sPASSIVE ∨ env.state = .hHANDOVER → ComparesLive env.sqlOk env.slots s) := by
  unfold finishLocal
  split
  · rename_i hskip
    refine ⟨fun h => ⟨h, fun hlive hstate k ⟨_, _, _, _, hok, _⟩ => ?_⟩, fun h => h.1⟩
    simp only [hlive, hok, Bool.false_or, Bool.not_true, Bool.false_and, decide_eq_true_eq]
      at hskip
    rcases hstate with hstate | hstate <;> rw [hstate] at hskip <;> cases hskip
  · rename_i hskip
    simp only [Bool.or_eq_true, not_or, Bool.not_eq_true] at hskip
    split
    · rename_i hstate
      rw [jsonHandler_stale hcrash]
      exact and_congr_right fun _ => ⟨fun h _ _ => h, fun h => h hskip.1.1 hstate⟩
    · rename_i hstate
      exact ⟨fun h => ⟨h, fun _ hno => absurd hno hstate⟩, fun h => h.1⟩

/-! ### Runs -/

theorem localUplink_stale (sq : ℤ) (mtype : mtype_e) (forwards : Bool) (s : RoamMote) :
    (localUplink sq mtype forwards s).stale = s.stale := by
  unfold localUplink uplinkStart
  split <;> dsimp only <;> split <;> rfl

theorem uplinkJson_stale (admitted : Bool) (MessageType : ReqType) (ClientID : ℕ)
    (u : JsonUplink) (s : RoamMote) :
    (uplinkJson admitted MessageType ClientID u s).stale = s.stale := by
  have hstart : (uplinkStart .JSON s).stale = s.stale := by
    unfold uplinkStart
    split <;> rfl
  rw [← hstart]
  unfold uplinkJson
  dsimp only
  split
  · rfl
  · split
    · rfl
    · split <;> rfl
    · split <;> rfl

theorem joinAnswered_stale (rxOk dlmdOk : Bool) (slots : ℕ → SlotEnv) (s : RoamMote) :
    (joinAnswered rxOk dlmdOk slots s).stale = false ↔ s.stale = false ∧ BestLive s := by
  unfold joinAnswered BestLive
  cases s.bestR with
  | none => simp
  | some i =>
    have hiff : (s.follow i).stale = false ↔
        s.stale = false ∧ ∀ k ∈ some i, (s.slot k).isSome := by
      rw [follow_stale]
      simp
    dsimp only
    split
    · exact hiff
    · split
      · rw [(post_same _ _ _ _ _).1, hiff]
      · split <;> exact hiff

theorem xmitDataAnsFrom_stale (slots : ℕ → SlotEnv) (result : AnsResult) (n : ℕ) :
    ∀ (j : ℕ) (s : RoamMote), (xmitDataAnsFrom slots result n j s).stale = s.stale := by
  induction n with
  | zero => exact fun _ _ => rfl
  | succ n ih =>
    intro j s
    rw [xmitDataAnsFrom, ih]
    split
    · rfl
    · split
      · exact (post_same _ _ _ _ _).1
      · rfl

theorem step_stale (s : RoamMote) (e : RoamEvent) : (s.step e).stale = false ↔
    s.stale = false ∧ (s.crashed = false → BestInTime s e) := by
  unfold RoamMote.step
  split
  · rename_i hcrash
    simp [hcrash]
  · rename_i hcrash
    have hcrash := Bool.eq_false_iff.mpr hcrash
    simp only [hcrash, true_imp_iff]
    cases e with
    | localRx sq mtype forwards =>
      rw [RoamMote.handle, localUplink_stale]
      exact (and_iff_left trivial).symm
    | json admitted MessageType ClientID u =>
      rw [RoamMote.handle, uplinkJson_stale]
      exact (and_iff_left trivial).symm
    | service env =>
      unfold RoamMote.handle service BestInTime
      cases s.progress with
      | OFF => simp
      | LOCAL => exact finishLocal_stale env hcrash
      | JSON => exact finishJson_stale env hcrash
    | joinAns rxOk dlmdOk slots => exact joinAnswered_stale rxOk dlmdOk slots s
    | xmitDataAns result slots =>
      rw [RoamMote.handle, xmitDataAnsFrom_stale]
      exact (and_iff_left trivial).symm
    | downlinkBC PHYPayload d =>
      exact finishPhyDownlink_stale d (s := { s with PHYPayload := PHYPayload }) hcrash

/-- `bestR` always led to a requester in a run, exactly when each of its events came in time. -/
theorem bestR_live_iff_inTime (es : List RoamEvent) :
    (Machine.run RoamMote.step .new es).stale = false ↔
      Machine.Along RoamMote.step (fun s e => s.crashed = false → BestInTime s e) .new es := by
  suffices hrun : ∀ s : RoamMote, (Machine.run RoamMote.step s es).stale = false ↔
      s.stale = false ∧
        Machine.Along RoamMote.step (fun s e => s.crashed = false → BestInTime s e) s es by
    rw [hrun]
    exact and_iff_right rfl
  intro s
  induction es generalizing s with
  | nil => simp
  | cons e es ih =>
    rw [Machine.run_cons, ih, step_stale, Machine.along_cons, and_assoc]

/-- The requester is freed by its Success answer, and its slot is followed to forward the
payload. -/
theorem bestR_followed_after_answer :
    (Machine.run RoamMote.step .new
      [.json true .PRStartReq 6 (.phy (some 0) MTYPE_UNCONF_UP true),
        .service plainFinish]).stale = true := by
  decide

end Lorawan.NetworkServer

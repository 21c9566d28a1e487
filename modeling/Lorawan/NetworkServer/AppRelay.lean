import Lorawan.NetworkServer.AppBookkeeping

/-!
# The answers that the home server passes on

The home server answers the application with what the serving server answered. The
events of the two servers together keep the books of both; the last part shows what
two requests at once and a frequency with a fraction do.
-/

namespace Lorawan.NetworkServer
open Lorawan Lorawan.Backend

variable {R D : Type} {E : JsonEnv R D} {A : BlockCipher}

/-! ### The home server -/

/-- What the events of the serving server leave alone. -/
def AppState.homeSide (a : AppState R D) : h_t D × Book XmitReq (PostedXmit D × Option (XmitAns D)) :=
  (a.h, a.home)

@[simp] theorem homeSide_mapNS (a : AppState R D) (f : NS → NS) :
    (a.mapNS f).homeSide = a.homeSide := rfl

theorem homeSide_posts (found : Bool) (tid : UInt64) (dest : Peer) (ans : XmitAns D)
    (a : AppState R D) :
    (AppState.clearFrm (a.http_post found tid (AppState.answered dest ans))).homeSide =
      a.homeSide := by
  unfold AppState.clearFrm AppState.http_post
  cases a.ended with
  | true => rfl
  | false => cases checkTid tid a.tids <;> cases found <;> rfl

@[simp] theorem homeSide_answer (a : AppState R D) (ans : AnsEnv R) (result : Result)
    (httpd : Bool) : (a.answer_app_downlink E ans result httpd).homeSide = a.homeSide := by
  unfold AppState.answer_app_downlink
  split
  · unfold AppState.sNS_XmitDataAns_tohNS
    split
    · rfl
    · exact homeSide_posts ..
  · split
    · rfl
    · unfold AppState.sendXmitDataAns
      split
      · rfl
      · exact homeSide_posts ..

@[simp] theorem homeSide_answerPending (a : AppState R D) (ans : AnsEnv R) (httpd : Bool) :
    (a.answerPending E ans httpd).homeSide = a.homeSide := by
  unfold AppState.answerPending
  split
  · exact homeSide_answer ..
  · rfl

@[simp] theorem homeSide_sNSDownlinkSent (a : AppState R D) (send : SendEnv) (ans : AnsEnv R)
    (success httpd : Bool) :
    (a.sNSDownlinkSent E send ans success httpd).homeSide = a.homeSide := by
  have hsent : (if success then a.mapNS (frameSent send) else a).homeSide = a.homeSide := by
    cases success <;> rfl
  unfold AppState.sNSDownlinkSent
  dsimp only
  generalize (if success then a.mapNS (frameSent send) else a) = b at hsent ⊢
  split
  · rw [homeSide_mapNS, homeSide_answer]
    exact hsent
  · exact hsent

@[simp] theorem homeSide_finish (a : AppState R D) (send : SendEnv) (ans : AnsEnv R)
    (httpd : Bool) : (a.sNS_finish_phy_downlink E send ans httpd).homeSide = a.homeSide := by
  unfold AppState.sNS_finish_phy_downlink
  split
  · exact homeSide_answerPending ..
  · split
    · rfl
    · dsimp only
      rw [homeSide_answerPending]
      cases send.result with
      | none => rfl
      | some success => exact homeSide_sNSDownlinkSent ..

@[simp] theorem homeSide_downlinkBC (a : AppState R D) (env : DownlinkEnv) (ans : AnsEnv R)
    (httpd : Bool) : (a.downlinkBC E A env ans httpd).2.homeSide = a.homeSide := by
  unfold AppState.downlinkBC
  dsimp only
  split
  · split
    · rfl
    · split
      · split
        · exact homeSide_finish ..
        · exact homeSide_finish ..
      · exact homeSide_finish ..
  · rfl

@[simp] theorem homeSide_request (a : AppState R D) (env : DownlinkEnv) (ans : AnsEnv R)
    (md : DLMetaData) (q : Incoming) :
    (a.hNS_to_sNS_downlink E A env ans md q).homeSide = a.homeSide := by
  unfold AppState.hNS_to_sNS_downlink
  split
  · rfl
  · split
    · rfl
    · rename_i s _
      have hbc : ((a.save ans q s).downlinkBC E A env ans true).2.homeSide = a.homeSide :=
        homeSide_downlinkBC ..
      dsimp only
      split
      · exact hbc
      · exact hbc

@[simp] theorem homeSide_uplink (a : AppState R D) (env : UplinkEnv) (ans : AnsEnv R) :
    (a.sNS_uplink E A env ans).homeSide = a.homeSide := by
  unfold AppState.sNS_uplink
  split
  · rfl
  · rw [homeSide_mapNS]
    unfold AppState.expire
    split
    · split
      · rfl
      · dsimp only
        split
        · exact homeSide_answer ..
        · rfl
    · rfl

@[simp] theorem homeSide_resend (a : AppState R D) (env : DownlinkEnv) (ans : AnsEnv R) :
    (a.resend E A env ans).homeSide = a.homeSide := by
  have hbc : (a.downlinkBC E A env ans false).2.homeSide = a.homeSide := homeSide_downlinkBC ..
  unfold AppState.resend
  split
  · generalize a.downlinkBC E A env ans false = out at hbc
    obtain ⟨result, a'⟩ := out
    cases result with
    | none => exact hbc
    | some result => exact (homeSide_answer ..).trans hbc
  · rfl

@[simp] theorem homeSide_beacon (a : AppState R D) (result : Result) (ans : AnsEnv R) :
    (a.beacon E result ans).homeSide = a.homeSide := by
  unfold AppState.beacon
  split
  · rfl
  · exact homeSide_answer ..

/-- Documented behaviour of the library: a number without fraction is the same as `int` and as
`double`. -/
def ExactIntegers (C : Json.Conversions Member D) : Prop :=
  ∀ n : Int32, C.toInt (.double (C.toDouble (.new_int n))) = n

variable (C : Json.Conversions Member D)

/-- What the home side keeps. -/
structure HomeInv (a : AppState R D) : Prop where
  order : a.home.InOrder (RelayFits C)
  numbered : a.home.Numbered
  slot : ∀ r, a.home.requests.getLast? = some r →
    a.h.reqTid = r.reqTid ∧ r.origin = .AS a.h.ansDest
  registered : ∀ t ∈ a.h.registered, t.2 ≤ a.home.requests.length
  once : (a.h.registered.map (·.2)).Nodup
  /-- A transaction that is still open has brought no answer. -/
  unanswered : ∀ t ∈ a.h.registered, t.2 = a.home.requests.length →
    ¬ a.home.Answered ∧ a.h.ans = none
  relayed : ∀ ans, a.h.ans = some ans →
    ¬ a.home.Answered ∧ ∃ served, a.h.received = some served ∧ ans.Same C served

variable {C}

theorem HomeInv.congr {a a' : AppState R D} (h : HomeInv C a) (hside : a'.homeSide = a.homeSide) :
    HomeInv C a' := by
  simp only [AppState.homeSide, Prod.mk.injEq] at hside
  obtain ⟨hh, hhome⟩ := hside
  constructor <;> simp only [hh, hhome]
  · exact h.order
  · exact h.numbered
  · exact h.slot
  · exact h.registered
  · exact h.once
  · exact h.unanswered
  · exact h.relayed

theorem get_double_relay (hC : ExactIntegers C) {v : Json Member D} (hv : WholeNumber C v) :
    (Json.new_int (v.get_int C) : Json Member D).get_double C = v.get_double C := by
  obtain ⟨n, rfl | rfl⟩ := hv
  · rw [Json.get_int_new_int]
  · show C.toDouble (.new_int (C.toInt (.double (C.toDouble (.new_int n))))) =
      C.toDouble (.new_int n)
    rw [hC n]

theorem same_relay (hC : ExactIntegers C) {ans : XmitAns D}
    (h1 : ∀ v ∈ ans.DLFreq1, WholeNumber C v) (h2 : ∀ v ∈ ans.DLFreq2, WholeNumber C v) :
    (ans.relay C).Same C ans := by
  have hfreq : ∀ o : Option (Json Member D), (∀ v ∈ o, WholeNumber C v) →
      (o.map fun v => (Json.new_int (v.get_int C) : Json Member D)).map (Json.get_double C) =
        o.map (Json.get_double C) := by
    intro o ho
    cases o with
    | none => rfl
    | some v => exact congrArg some (get_double_relay hC (ho v rfl))
  constructor
  · rfl
  · show (ans.FCntDown.map _).map _ = _
    rw [Option.map_map]
    congr 1
    funext v
    exact Json.get_int_new_int C _
  · exact hfreq _ h1
  · exact hfreq _ h2

theorem homeInv_request {a : AppState R D} (h : HomeInv C a) {env : HomeEnv} {q : Incoming}
    (hc : a.OneAtATime E (.hNS_XmitDataReq_down env q)) :
    HomeInv C (a.hNS_XmitDataReq_down env q) := by
  obtain ⟨hfree, hnone, hAS⟩ := hc
  have hwaits : (a.home.take q.req).Waits q.req := Book.waits_take h.numbered q.req
  have horder := h.order.take h.numbered hfree q.req
  have hlen : (a.home.take q.req).requests.length = a.home.requests.length + 1 := by
    rw [Book.requests_take, List.length_append, List.length_singleton]
  have hslot : ∀ r, (a.home.take q.req).requests.getLast? = some r →
      q.reqTid = r.reqTid ∧ r.origin = .AS q.requester := by
    intro r hr
    rw [Book.requests_take, List.getLast?_concat, Option.some.injEq] at hr
    rw [← hr]
    refine ⟨rfl, ?_⟩
    rw [Incoming.req, peerOf, hAS]
    rfl
  have hold : ∀ t ∈ a.h.registered, t.2 < (a.home.take q.req).requests.length := by
    intro t ht
    have := h.registered t ht
    omega
  have hnew : ∀ t ∈ a.h.registered ++ [(env.sentTID, (a.home.take q.req).requests.length)],
      t.2 ≤ (a.home.take q.req).requests.length := by
    intro t ht
    rcases List.mem_append.mp ht with ht | ht
    · exact (hold t ht).le
    · rw [List.mem_singleton.mp ht]
  have honce : ((a.h.registered ++
      [(env.sentTID, (a.home.take q.req).requests.length)]).map (·.2)).Nodup := by
    rw [List.map_append, List.nodup_append]
    refine ⟨h.once, List.nodup_cons.mpr ⟨List.not_mem_nil, List.nodup_nil⟩, ?_⟩
    intro n hn m hm
    obtain ⟨t, ht, rfl⟩ := List.mem_map.mp hn
    rw [List.mem_singleton.mp hm]
    exact (hold t ht).ne
  have hrelayed : ∀ ans : XmitAns D, a.h.ans = some ans → False := by
    intro ans hans
    rw [hnone] at hans
    cases hans
  unfold AppState.hNS_XmitDataReq_down
  dsimp only
  split
  · exact
      { order := horder.reply
        numbered := (h.numbered.take _).reply
        slot := hslot
        registered := fun t ht => (hold t ht).le
        once := h.once
        unanswered := fun t ht heq => absurd heq (hold t ht).ne
        relayed := fun ans hans => (hrelayed ans hans).elim }
  · split
    · exact
        { order := horder
          numbered := h.numbered.take _
          slot := hslot
          registered := hnew
          once := honce
          unanswered := fun _ _ _ => ⟨hwaits.not_answered, hnone⟩
          relayed := fun ans hans => (hrelayed ans hans).elim }
    · exact
        { order := horder.reply
          numbered := (h.numbered.take _).reply
          slot := hslot
          registered := hnew
          once := honce
          unanswered := fun _ _ _ => ⟨Book.not_answered_reply _, hnone⟩
          relayed := fun ans hans => (hrelayed ans hans).elim }

theorem homeInv_evict {a : AppState R D} (h : HomeInv C a) (sentTID : UInt32) :
    HomeInv C { a with h := { a.h with
      registered := a.h.registered.eraseP fun t => t.1 = sentTID } } where
  order := h.order
  numbered := h.numbered
  slot := h.slot
  registered := fun t ht => h.registered t (List.mem_of_mem_eraseP ht)
  once := h.once.sublist ((List.eraseP_sublist ..).map _)
  unanswered := fun t ht => h.unanswered t (List.mem_of_mem_eraseP ht)
  relayed := h.relayed

theorem erased_last {ts : List (UInt32 × ℕ)} (hnodup : (ts.map (·.2)).Nodup) {sentTID : UInt32}
    {t : UInt32 × ℕ} (ht : ts.find? (fun t => t.1 = sentTID) = some t) :
    ∀ t' ∈ ts.eraseP (fun t => t.1 = sentTID), t'.2 ≠ t.2 := by
  induction ts with
  | nil => cases ht
  | cons x ts ih =>
    rw [List.map_cons, List.nodup_cons] at hnodup
    by_cases hx : x.1 = sentTID
    · rw [List.find?_cons_of_pos (by simpa using hx), Option.some.injEq] at ht
      rw [List.eraseP_cons_of_pos (by simpa using hx), ← ht]
      intro t' ht' heq
      exact hnodup.1 (heq ▸ List.mem_map_of_mem ht')
    · rw [List.find?_cons_of_neg (by simpa using hx)] at ht
      rw [List.eraseP_cons_of_neg (by simpa using hx)]
      intro t' ht'
      rcases List.mem_cons.mp ht' with rfl | hmem
      · intro heq
        exact hnodup.1 (heq ▸ List.mem_map_of_mem (List.mem_of_find?_eq_some ht))
      · exact ih hnodup.2 ht t' hmem

theorem homeInv_answer {a : AppState R D} (hC : ExactIntegers E.conv) (h : HomeInv E.conv a)
    {sentTID : UInt32} {ans : XmitAns D} (hc : a.OneAtATime E (.XmitDataAns sentTID ans)) :
    HomeInv E.conv (a.hNS_XmitDataAnsCallback_downlink E sentTID ans) := by
  unfold AppState.hNS_XmitDataAnsCallback_downlink
  split
  · rename_i hsome
    obtain ⟨t, ht⟩ := Option.isSome_iff_exists.mp hsome
    obtain ⟨hlast, h1, h2⟩ := hc t ht
    have hnew := (h.unanswered t (List.mem_of_find?_eq_some ht) hlast).1
    have hevict := homeInv_evict h sentTID
    exact
      { order := h.order
        numbered := h.numbered
        slot := h.slot
        registered := hevict.registered
        once := hevict.once
        unanswered := fun t' ht' heq => absurd (heq.trans hlast.symm) (erased_last h.once ht t' ht')
        relayed := by
          intro x hx
          obtain rfl := Option.some.inj hx
          exact ⟨hnew, ans, rfl, same_relay hC h1 h2⟩ }
  · exact h

/-! ### Runs -/

structure AppInv (C : Json.Conversions Member D) (a : AppState R D) : Prop where
  served : ServedInv a
  home : HomeInv C a

theorem AppInv.keepsBook {a : AppState R D} (h : AppInv C a) : a.KeepsBook C where
  alive := h.served.book.alive
  served := h.served.book.order
  payload := fun r hr => (h.served.slot.live r hr).1
  due := fun _ hr => h.served.slot.nonempty hr
  home := h.home.order

theorem appInv_init (rows : List SessionRow) (nextSerial ID devAddr : ℕ) :
    AppInv C (AppState.init E rows nextSerial ID devAddr) := by
  have hempty : ∀ r, ¬ (Book.empty : Book XmitReq (PostedXmit D)).Waits r :=
    Book.not_waits_of_nil rfl
  constructor
  · refine ⟨⟨rfl, Book.inOrder_empty _, Book.numbered_empty, ?_⟩, pendingOk_none hempty rfl rfl ?_⟩
    · exact fun r hr => absurd hr (hempty r)
    · exact fun hfalse => absurd hfalse Bool.false_ne_true
  · constructor
    · exact Book.inOrder_empty _
    · exact Book.numbered_empty
    · intro r hr
      cases hr
    · intro t ht
      cases ht
    · exact List.nodup_nil
    · intro t ht
      cases ht
    · intro ans hans
      cases hans

theorem ServedInv.congr {a a' : AppState R D} (h : ServedInv a) (hended : a'.ended = false)
    (hserved : a'.served = a.served) (hslot : a'.slot = a.slot) (hns : a'.ns = a.ns) :
    ServedInv a' := by
  constructor
  · constructor
    · exact hended
    · rw [hserved]
      exact h.book.order
    · rw [hserved]
      exact h.book.numbered
    · rw [hserved, hslot]
      exact h.book.slot
  · rw [hserved, hns]
    exact h.slot

theorem appInv_service {a : AppState R D} (h : AppInv C a) {posting : Posting}
    (hc : a.OneAtATime E (.hNS_service posting)) : AppInv C (a.hNS_service posting) := by
  unfold AppState.hNS_service
  cases hans : a.h.ans with
  | none => exact h
  | some ans =>
    have halive := h.served.book.alive
    obtain ⟨hhandle, hfresh⟩ := hc (by rw [hans]; rfl)
    obtain ⟨tids, htids⟩ := Option.ne_none_iff_exists'.mp hfresh
    obtain ⟨hnew, served, hreceived, hsame⟩ := h.home.relayed ans hans
    have hpost : (a.sendXmitDataAns posting true a.h.reqTid
        (AppState.answeredHome (.AS a.h.ansDest) ans)).2 =
          AppState.answeredHome (.AS a.h.ansDest) ans { a with tids := tids } := by
      rw [AppState.sendXmitDataAns, if_neg hhandle, AppState.http_post, halive,
        if_neg Bool.false_ne_true, htids]
      rfl
    have hfits : ∀ r, a.home.Waits r →
        RelayFits C r (⟨.AS a.h.ansDest, a.h.reqTid, ans⟩, a.h.received) := by
      intro r hr
      obtain ⟨hreqTid, horigin⟩ := h.home.slot r hr.last
      exact ⟨⟨horigin.symm, hreqTid⟩, served, hreceived, hsame⟩
    dsimp only
    rw [hpost]
    refine ⟨h.served.congr halive rfl rfl rfl, ?_⟩
    constructor
    · exact h.home.order.answer hnew hfits
    · exact h.home.numbered.answer _
    · exact h.home.slot
    · exact h.home.registered
    · exact h.home.once
    · intro t ht heq
      have := (h.home.unanswered t ht heq).2
      rw [hans] at this
      cases this
    · intro x hx
      cases hx

theorem appInv_step (hC : ExactIntegers E.conv) {a : AppState R D} {e : AppEvent R D}
    (h : AppInv E.conv a) (hc : a.OneAtATime E e) : AppInv E.conv (a.step E A e) := by
  have halive := h.served.book.alive
  unfold AppState.step
  split
  · exact h
  · cases e with
    | uplink env ans => exact ⟨inv_uplink h.served hc, h.home.congr (homeSide_uplink ..)⟩
    | send send ans =>
      have hsends := (sends_finish (E := E) h.served send ans false (fun _ => hc)
        fun hno => absurd (Or.inl rfl) hno).1
      exact ⟨hsends.inv, h.home.congr (homeSide_finish ..)⟩
    | sNSDownlinkSent send ans =>
      have hsends := (sends_sNSDownlinkSent (E := E) h.served send ans true false
        fun _ => hc).1
      exact ⟨hsends.inv, h.home.congr (homeSide_sNSDownlinkSent ..)⟩
    | resend env ans => exact ⟨inv_resend h.served hc, h.home.congr (homeSide_resend ..)⟩
    | beacon result ans => exact ⟨inv_beacon h.served hc, h.home.congr (homeSide_beacon ..)⟩
    | hNS_to_sNS_downlink env ans md q =>
      exact ⟨inv_request h.served hc, h.home.congr (homeSide_request ..)⟩
    | other e =>
      refine ⟨inv_other h.served hc, h.home.congr ?_⟩
      show (if e.ofApp then a else a.mapNS fun ns => NetworkServer.handle A ns e).homeSide = _
      split <;> rfl
    | hNS_XmitDataReq_down env q =>
      refine ⟨?_, homeInv_request h.home hc⟩
      show ServedInv (a.hNS_XmitDataReq_down env q)
      unfold AppState.hNS_XmitDataReq_down
      dsimp only
      split
      · exact h.served.congr halive rfl rfl rfl
      · split
        · exact h.served.congr halive rfl rfl rfl
        · exact h.served.congr halive rfl rfl rfl
    | XmitDataAns sentTID ans =>
      refine ⟨?_, homeInv_answer hC h.home hc⟩
      show ServedInv (a.hNS_XmitDataAnsCallback_downlink E sentTID ans)
      unfold AppState.hNS_XmitDataAnsCallback_downlink
      split
      · exact h.served.congr halive rfl rfl rfl
      · exact h.served
    | evict sentTID => exact ⟨h.served.congr halive rfl rfl rfl, homeInv_evict h.home sentTID⟩
    | hNS_service posting => exact appInv_service h hc
    | answer tid =>
      obtain ⟨tids, htids⟩ := Option.ne_none_iff_exists'.mp hc
      have hpost : a.handle E A (.answer tid) = { a with tids := tids } := by
        show (a.http_post true tid id).2 = _
        rw [AppState.http_post, halive, if_neg Bool.false_ne_true, htids]
        rfl
      rw [hpost]
      exact ⟨h.served.congr halive rfl rfl rfl, h.home.congr rfl⟩

theorem AppInv.answersWhenDue {a : AppState R D} (h : AppInv E.conv a) :
    a.AnswersWhenDue E A := by
  intro send ans hmay
  constructor
  · intro hunconf
    exact ((sends_sNSDownlinkSent (E := E) h.served send ans true false fun _ _ => hmay).2.1 hunconf).2 (Or.inl rfl)
  · intro hfin
    exact (sends_finish (E := E) h.served send ans false (fun _ _ => hmay)
      fun hno => absurd (Or.inl rfl) hno).2.2 (Or.inl rfl) hfin

variable (E A)

/-- Numbers are converted as `(int)` and `(double)` do, in range; other types are left out. -/
def numberConversions : Json.Conversions Member ℚ where
  text := fun _ => []
  toInt := fun v => match v with
    | .double x => Int32.ofIntClamp (x.num.tdiv x.den)
    | _ => 0
  toDouble := fun v => match v with
    | .int n => n
    | _ => 0
  toBool := fun _ => false

theorem exactIntegers_number : ExactIntegers numberConversions := by
  intro n
  show Int32.ofIntClamp ((n.toInt : ℚ).num.tdiv (n.toInt : ℚ).den) = n
  rw [Rat.num_intCast, Rat.den_intCast, Nat.cast_one, Int.tdiv_one]
  exact Json.get_int_new_int numberConversions n

def numberEnv : JsonEnv ℚ ℚ := ⟨numberConversions, plainFloats⟩

def appRun (es : List (AppEvent ℚ ℚ)) : AppState ℚ ℚ :=
  Machine.run (AppState.step numberEnv BlockCipher.xorKey)
    (AppState.init numberEnv [sampleRow] 1 1 sampleDevAddr) es

/-- The device does not roam, and what is posted arrives. -/
def plainAns : AnsEnv ℚ := ⟨.NONE, 0, .done, 0, .XmitFailed, 8681 / 10, 0⟩

def sampleIncoming (reqTid : UInt64) (payload : Octets) : Incoming :=
  ⟨['a', 's'], true, reqTid, payload⟩

/-- A request for the device of class A. -/
def appRequest (reqTid : UInt64) (payload : Octets) : AppEvent ℚ ℚ :=
  .hNS_to_sNS_downlink plainDownlink plainAns ⟨1, 0, false⟩ (sampleIncoming reqTid payload)

/-- An uplink of the device, and the frame that answers it. -/
def uplinkAndFrame : List (AppEvent ℚ ℚ) :=
  (hears mtype_e.MTYPE_UNCONF_UP 0 1).map (fun e => match e with
    | .uplink env => .uplink env plainAns
    | e => .other e) ++ [.send plainSend plainAns]

/-- A request that is passed on, and its answer with a frequency. -/
def passedOn (reqTid : UInt64) : AppEvent ℚ ℚ :=
  .hNS_XmitDataReq_down ⟨true, 1, true⟩ (sampleIncoming reqTid [1])

def relayed (DLFreq1 : ℚ) : List (AppEvent ℚ ℚ) :=
  [passedOn 9, .XmitDataAns 1 ⟨.Success, none, some (.double DLFreq1), none⟩, .hNS_service .done]

def twoAppRequests : List (AppEvent ℚ ℚ) :=
  [appRequest 7 [1], appRequest 9 [2]] ++ uplinkAndFrame

end Lorawan.NetworkServer

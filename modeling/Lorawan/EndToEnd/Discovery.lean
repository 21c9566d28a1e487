import Lorawan.JoinServer.HomeNS
import Lorawan.NetworkServer.Discovery

/-!
# Finding the network of a visitor (fNS.c:823-1267, join_server/web.c:57-173)

A visited network server, the join servers, the other networks and the answers between them, which
are lost, repeated and overtaken. Roaming is only started with a network that the visited server has
an agreement with, and that the frame, its own table or the policy of a join server named.
-/

namespace Lorawan.EndToEnd
open Lorawan Lorawan.Backend NetworkServer JoinServer

variable (own : UInt32)

/-! ### The servers, and the answers on the way -/

/-- The join servers by their JoinEUI, and every answer that was ever sent: it may arrive at any
time, and more than once. -/
structure Discovery where
  visited : Visited
  js : ℕ → HomeTables
  answers : List (Header × DiscoveryAns)

inductive DiscoveryEvent
  /-- `getMote` makes a mote. -/
  | getMote
  | free_mote (k : ℕ)
  /-- What the rest of the server makes of a mote. -/
  | device (k : ℕ) (d : Roamer)
  /-- What becomes of the tables. -/
  | tables (t : VisitedTables)
  /-- Another request of the server. -/
  | request (k : ℕ) (mt : MessageType) (destID : List Char)
  | uplink (env : AskEnv) (k : ℕ) (roamState : RoamState)
  /-- A form on the page of a join server. -/
  | joinServer (JoinEUI : ℕ) (e : HomeEvent)
  /-- A join server answers a HomeNSReq. -/
  | answerHome (env : JoinServer.HomeEnv) (n : ℕ)
  /-- Another request is answered, by the server it was sent to. -/
  | answered (n : ℕ) (result : Result) (RoamingActivationType : Option (List Char)) (profile : Bool)
  /-- An answer arrives. -/
  | deliver (env : AskEnv) (i : ℕ)

/-- The name of the server that a request is sent to. -/
def responder : Ask → List Char
  | .HomeNSReq _ JoinEUI => Text.print 16 JoinEUI
  | .ProfileReq _ NetID | .PRStartReq NetID _ | .HRStartReq NetID .. =>
    Text.printPad 6 16 NetID.toNat
  | .other _ destID => destID

def ansHeader (req : Ask) (sentTID : UInt32) (result : Result) : Header :=
  ⟨.Success, none, req.MessageType.ansMt, some (responder req), echo sentTID, some result⟩

/-- The request under the registration, and its TransactionID, where it was posted. -/
def receivedReq (n : ℕ) (v : Visited) : Option (Ask × UInt32) :=
  match v.asked[n]?, v.tids.issued[n]? with
  | some ⟨_, req, true⟩, some r => some (req, r.tid)
  | _, _ => none

namespace Discovery

/-- `ParseJson` of the join server (join_server/web.c:140-173). -/
def answerHome (env : JoinServer.HomeEnv) (n : ℕ) (s : Discovery) : Discovery :=
  match receivedReq n s.visited with
  | some (.HomeNSReq DevEUI JoinEUI, tid) =>
    let req := Ask.HomeNSReq DevEUI JoinEUI
    match getHomeNS env (some (.string (Text.print 16 DevEUI)))
      (Text.printPad 6 16 own.toNat) (s.js JoinEUI) with
    | .ok text =>
      { s with answers := s.answers ++ [(ansHeader req tid .Success, ⟨some text, none, false⟩)] }
    | .error (.result result) =>
      { s with answers := s.answers ++ [(ansHeader req tid result, ⟨none, none, false⟩)] }
    | .error .undefined => s
  | _ => s

def answered (n : ℕ) (result : Result) (RoamingActivationType : Option (List Char))
    (profile : Bool) (s : Discovery) : Discovery :=
  match receivedReq n s.visited with
  | some (.HomeNSReq .., _) | none => s
  | some (req, tid) =>
    { s with
      answers := s.answers ++
        [(ansHeader req tid result, ⟨none, RoamingActivationType, profile⟩)] }

def step (s : Discovery) : DiscoveryEvent → Discovery
  | .getMote =>
    { s with visited.tids.motes := addMote s.visited.tids.motes }
  | .free_mote k => { s with visited.tids.motes := s.visited.tids.motes.set k none }
  | .device k d => { s with visited := s.visited.setDevice k fun _ => d }
  | .tables t => { s with visited.tables := t }
  | .request k mt destID => { s with visited := s.visited.ask k (.other mt destID) true }
  | .uplink env k roamState =>
    { s with visited := (s.visited.fNS_uplink_finish own env k roamState).1 }
  | .joinServer JoinEUI e =>
    { s with js := Function.update s.js JoinEUI ((s.js JoinEUI).step e) }
  | .answerHome env n => s.answerHome own env n
  | .answered n result type profile => s.answered n result type profile
  | .deliver env i =>
    match s.answers[i]? with
    | none => s
    | some (h, ans) => { s with visited := s.visited.answer own env h ans }

/-- `rand` gives `start`. -/
def init (tables : VisitedTables) (start : UInt32) : Discovery where
  visited :=
    ⟨tables, .init start, fun _ => ⟨Backend.NONE_DEVEUI, Backend.NONE_DEVADDR, [], 0, none⟩, []⟩
  js := fun _ => .empty
  answers := []

end Discovery

/-! ### What a request rests on -/

section

variable (tables : VisitedTables) (start : UInt32)

def discoveryAfter (es : List DiscoveryEvent) : Discovery :=
  Machine.run (Discovery.step own) (.init tables start) es

/-- The forms on the page of one join server. -/
def formsOf (JoinEUI : ℕ) (es : List DiscoveryEvent) : List HomeEvent :=
  es.filterMap fun
    | .joinServer JoinEUI' e => if JoinEUI' = JoinEUI then some e else none
    | _ => none

/-- At some time in the run. -/
def Earlier (P : List DiscoveryEvent → Prop) (es : List DiscoveryEvent) : Prop :=
  ∃ before, before <+: es ∧ P before

/-- How the server knows that a device belongs to `NetID`: from its frame, from the row of the
DevEUI in the frame, or because a join server's policy let it know. -/
inductive Named (es : List DiscoveryEvent) (k : ℕ) (NetID : UInt32) : Prop
  | frame : frameNetID ((discoveryAfter own tables start es).visited.devices k).ULPayloadBin =
      some NetID → NetID ≠ own → Named es k NetID
  | row (devEui : ℕ) :
      frameDevEUI ((discoveryAfter own tables start es).visited.devices k).ULPayloadBin =
        some devEui →
      (discoveryAfter own tables start es).visited.fwdto_netId own devEui = some NetID →
      NetID ≠ own → Named es k NetID
  | told (DevEUI JoinEUI : ℕ) (posted : Bool) (text : List Char) (junk : UInt32) :
      ⟨k, .HomeNSReq DevEUI JoinEUI, posted⟩ ∈ (discoveryAfter own tables start es).visited.asked →
      Earlier (fun before =>
        (policyAfter (formsOf JoinEUI before)).answer DevEUI own.toNat = .ok text) es →
      readNetID junk text = NetID → Named es k NetID

/-- The agreements, as they are now, have the request for a network that is known. -/
def Chosen (es : List DiscoveryEvent) (k : ℕ) (req : Ask) : Prop :=
  ∃ NetID, Named own tables start es k NetID ∧
    Agreed own (discoveryAfter own tables start es).visited NetID req

/-- At the time of the `n`-th request. -/
def WhenAsked (n : ℕ) (P : List DiscoveryEvent → Prop) : List DiscoveryEvent → Prop :=
  Earlier fun before => (discoveryAfter own tables start before).visited.asked.length = n ∧ P before

/-- The network was asked for the profile, by choice, and answered with the kind of roaming. -/
def ByProfile (es : List DiscoveryEvent) (k : ℕ) (NetID : UInt32) (type : String) : Prop :=
  ∃ n DevEUI posted profile,
    (discoveryAfter own tables start es).visited.asked[n]? =
      some ⟨k, .ProfileReq DevEUI NetID, posted⟩ ∧
    WhenAsked own tables start n
      (fun before => Chosen own tables start before k (.ProfileReq DevEUI NetID)) es ∧
    .answered n .Success (some type.toList) profile ∈ es

/-- What a request rests on that is made now. -/
def Justified (es : List DiscoveryEvent) (a : Asked) : Prop :=
  match a.req with
  | .HomeNSReq DevEUI _ => DevEUI < 2 ^ 64
  | .ProfileReq .. => Chosen own tables start es a.mote a.req
  | .PRStartReq NetID _ => Chosen own tables start es a.mote a.req ∨
      ByProfile own tables start es a.mote NetID "Passive"
  | .HRStartReq NetID .. => NetID ≠ own ∧ (Chosen own tables start es a.mote a.req ∨
      ByProfile own tables start es a.mote NetID "Handover")
  | .other .. => True

end

/-! ### One step -/

/-- What one event makes the visited server ask. -/
def StepAsks (s : Discovery) : DiscoveryEvent → Asked → Prop
  | .request .., a => ∃ mt destID, a.req = .other mt destID
  | .uplink _ k _, a => UplinkAsks own s.visited k a
  | .deliver env i, a =>
    ∃ h ans, s.answers[i]? = some (h, ans) ∧ AnswerAsks own s.visited env h ans a
  | _, _ => False

theorem answerHome_visited (env : JoinServer.HomeEnv) (n : ℕ) (s : Discovery) :
    (s.answerHome own env n).visited = s.visited := by
  unfold Discovery.answerHome
  split
  · dsimp only
    split <;> rfl
  · rfl

theorem answered_visited (n : ℕ) (result : Result) (type : Option (List Char)) (profile : Bool)
    (s : Discovery) : (s.answered n result type profile).visited = s.visited := by
  unfold Discovery.answered
  split <;> rfl

variable {tables : VisitedTables} {start : UInt32}

theorem step_grows {s : Discovery} (h : s.visited.Sound start) (e : DiscoveryEvent) :
    s.visited.Grows start (StepAsks own s e) (s.step own e).visited := by
  cases e with
  | getMote => exact grows_of_sound (sound_getMote h) rfl rfl
  | free_mote k => exact grows_of_sound (sound_free_mote h k) rfl rfl
  | device k d => exact grows_of_sound (sound_devices h _) rfl rfl
  | tables t => exact grows_of_sound (sound_tables h t) rfl rfl
  | request k mt destID => exact (asks_ask ⟨mt, destID, rfl⟩).grows h
  | uplink env k roamState => exact (fNS_uplink_finish_asks own s.visited env k roamState).grows h
  | joinServer JoinEUI e => exact grows_of_sound h rfl rfl
  | answerHome env n =>
    have hsame : (s.step own (.answerHome env n)).visited = s.visited :=
      answerHome_visited own env n s
    rw [hsame]
    exact grows_of_sound h rfl rfl
  | answered n result type profile =>
    have hsame : (s.step own (.answered n result type profile)).visited = s.visited :=
      answered_visited n result type profile s
    rw [hsame]
    exact grows_of_sound h rfl rfl
  | deliver env i =>
    unfold Discovery.step
    dsimp only
    cases hi : s.answers[i]? with
    | none => exact grows_of_sound h rfl rfl
    | some p =>
      obtain ⟨hd, ans⟩ := p
      have hgrows := answer_grows own h env hd ans
      obtain ⟨more, hasked, hmore⟩ := hgrows.asked
      exact ⟨hgrows.sound, ⟨more, hasked, fun a ha => ⟨hd, ans, hi, hmore a ha⟩⟩, hgrows.issued⟩

theorem after_concat (es : List DiscoveryEvent) (e : DiscoveryEvent) :
    discoveryAfter own tables start (es ++ [e]) = (discoveryAfter own tables start es).step own e :=
  Machine.run_concat _ _ es e

theorem sound_after (es : List DiscoveryEvent) :
    (discoveryAfter own tables start es).visited.Sound start :=
  have hinit : (Discovery.init tables start).visited.Sound start :=
    ⟨tidInv_init start, rfl, fun k m hm => absurd hm (by simp [Discovery.init, TidState.init])⟩
  have hstep : ∀ (s : Discovery) (e : DiscoveryEvent), s.visited.Sound start →
      (s.step own e).visited.Sound start := fun _ e h => (step_grows own h e).sound
  Machine.run_invariant_always (Discovery.step own) hstep hinit es

theorem after_grows (es : List DiscoveryEvent) (e : DiscoveryEvent) :
    (discoveryAfter own tables start es).visited.Grows start
      (StepAsks own (discoveryAfter own tables start es) e)
      (discoveryAfter own tables start (es ++ [e])).visited := by
  rw [after_concat]
  exact step_grows own (sound_after own es) e

/-! ### The join servers keep their policies -/

theorem formsOf_concat (JoinEUI : ℕ) (es : List DiscoveryEvent) (e : DiscoveryEvent) :
    formsOf JoinEUI (es ++ [e]) = formsOf JoinEUI es ++ formsOf JoinEUI [e] :=
  List.filterMap_append

theorem js_step (s : Discovery) (e : DiscoveryEvent) (JoinEUI : ℕ) :
    (s.step own e).js JoinEUI =
      Machine.run HomeTables.step (s.js JoinEUI) (formsOf JoinEUI [e]) := by
  cases e with
  | joinServer JoinEUI' e =>
    by_cases heq : JoinEUI' = JoinEUI
    · subst heq
      simp [Discovery.step, formsOf]
    · simp [Discovery.step, formsOf, heq, Function.update_of_ne (Ne.symm heq)]
  | answerHome env n =>
    change (s.answerHome own env n).js JoinEUI = s.js JoinEUI
    unfold Discovery.answerHome
    split
    · dsimp only
      split <;> rfl
    · rfl
  | answered n result type profile =>
    change (s.answered n result type profile).js JoinEUI = s.js JoinEUI
    unfold Discovery.answered
    split <;> rfl
  | deliver env i =>
    change (s.step own (.deliver env i)).js JoinEUI = s.js JoinEUI
    unfold Discovery.step
    dsimp only
    split <;> rfl
  | _ => rfl

theorem js_after (es : List DiscoveryEvent) (JoinEUI : ℕ) :
    (discoveryAfter own tables start es).js JoinEUI = homeTablesAfter (formsOf JoinEUI es) := by
  induction es using List.reverseRecOn with
  | nil => rfl
  | append_singleton es e ih =>
    rw [after_concat, js_step, ih, formsOf_concat]
    exact (Machine.run_append _ _ _ _).symm

/-! ### What was so stays so -/

section

variable {own} {es es' : List DiscoveryEvent}

theorem Earlier.later {P : List DiscoveryEvent → Prop} (h : Earlier P es) (hpre : es <+: es') :
    Earlier P es' := by
  obtain ⟨before, hbefore, hP⟩ := h
  exact ⟨before, hbefore.trans hpre, hP⟩

theorem Earlier.now {P : List DiscoveryEvent → Prop} (h : P es) : Earlier P es :=
  ⟨es, List.prefix_rfl, h⟩

theorem asked_concat {n : ℕ} {a : Asked} (e : DiscoveryEvent)
    (h : (discoveryAfter own tables start es).visited.asked[n]? = some a) :
    (discoveryAfter own tables start (es ++ [e])).visited.asked[n]? = some a := by
  obtain ⟨more, hmore, -⟩ := (after_grows own es e).asked
  rw [hmore]
  exact getElem?_append_of_some h

theorem issued_concat {n : ℕ} {r : IssuedReq} (e : DiscoveryEvent)
    (h : (discoveryAfter own tables start es).visited.tids.issued[n]? = some r) :
    (discoveryAfter own tables start (es ++ [e])).visited.tids.issued[n]? = some r := by
  obtain ⟨more, hmore⟩ := (after_grows own es e).issued
  rw [hmore]
  exact getElem?_append_of_some h

end

/-! ### The answers on the way -/

/-- An answer says what the server that was asked could say. -/
def Honest (es : List DiscoveryEvent) (n : ℕ) (h : Header) (ans : DiscoveryAns) : Ask → Prop
  | .HomeNSReq DevEUI JoinEUI => ∀ text, ans.HNetID = some text →
      Earlier (fun before =>
        (policyAfter (formsOf JoinEUI before)).answer DevEUI own.toNat = .ok text) es
  | .ProfileReq _ NetID => h.senderID = some (Text.printPad 6 16 NetID.toNat) ∧
      ∀ type, h.receivedResult = some .Success → ans.RoamingActivationType = some type →
        ∃ profile, DiscoveryEvent.answered n .Success (some type) profile ∈ es
  | _ => True

/-- An answer has the number of the request it is for. -/
def Answers (tables : VisitedTables) (start : UInt32) (es : List DiscoveryEvent) (h : Header)
    (ans : DiscoveryAns) : Prop :=
  ∃ (n : ℕ) (a : Asked) (r : IssuedReq),
    (discoveryAfter own tables start es).visited.asked[n]? = some a ∧
    (discoveryAfter own tables start es).visited.tids.issued[n]? = some r ∧
    h.tid = echo r.tid ∧ Honest own es n h ans a.req

structure DiscoveryInv (tables : VisitedTables) (start : UInt32) (es : List DiscoveryEvent) :
    Prop where
  answers : ∀ p ∈ (discoveryAfter own tables start es).answers, Answers own tables start es p.1 p.2
  justified : ∀ (n : ℕ) (a : Asked),
    (discoveryAfter own tables start es).visited.asked[n]? = some a →
    WhenAsked own tables start n (fun before => Justified own tables start before a) es

variable {es : List DiscoveryEvent}

theorem answers_concat {h : Header} {ans : DiscoveryAns} (e : DiscoveryEvent)
    (ha : Answers own tables start es h ans) : Answers own tables start (es ++ [e]) h ans := by
  obtain ⟨n, a, r, hasked, hissued, htid, hhonest⟩ := ha
  refine ⟨n, a, r, asked_concat e hasked, issued_concat e hissued, htid, ?_⟩
  cases hreq : a.req with
  | HomeNSReq DevEUI JoinEUI =>
    rw [hreq] at hhonest
    exact fun text htext => (hhonest text htext).later (List.prefix_append es [e])
  | ProfileReq DevEUI NetID =>
    rw [hreq] at hhonest
    refine ⟨hhonest.1, fun type hok htype => ?_⟩
    obtain ⟨profile, hanswered⟩ := hhonest.2 type hok htype
    exact ⟨profile, List.mem_append_left _ hanswered⟩
  | _ => trivial

theorem receivedReq_some {n : ℕ} {v : Visited} {req : Ask} {tid : UInt32}
    (h : receivedReq n v = some (req, tid)) : ∃ (a : Asked) (r : IssuedReq),
      v.asked[n]? = some a ∧ v.tids.issued[n]? = some r ∧ a.req = req ∧ r.tid = tid := by
  unfold receivedReq at h
  split at h
  · rename_i k req' r hasked hissued
    cases h
    exact ⟨_, r, hasked, hissued, rfl, rfl⟩
  · cases h

/-! ### What is asked rests on what was known -/

theorem justified_of_agreed {a : Asked} {NetID : UInt32}
    (hnamed : Named own tables start es a.mote NetID)
    (hagreed : Agreed own (discoveryAfter own tables start es).visited NetID a.req) :
    Justified own tables start es a := by
  have hchosen : Chosen own tables start es a.mote a.req := ⟨NetID, hnamed, hagreed⟩
  obtain ⟨k, req, posted⟩ := a
  cases req with
  | HomeNSReq => exact hagreed.elim
  | ProfileReq => exact hchosen
  | PRStartReq => exact Or.inl hchosen
  | HRStartReq =>
    obtain ⟨rfl, hown, -⟩ := hagreed
    exact ⟨hown, Or.inl hchosen⟩
  | other => trivial

theorem justified_uplink {k : ℕ} {a : Asked}
    (h : UplinkAsks own (discoveryAfter own tables start es).visited k a) :
    Justified own tables start es a := by
  obtain ⟨rfl, ⟨DevEUI, JoinEUI, hreq, hlt⟩ | ⟨NetID, hnamed, hown, hagreed⟩⟩ := h
  · unfold Justified
    rw [hreq]
    exact hlt
  · refine justified_of_agreed own ?_ hagreed
    rcases hnamed with hframe | ⟨devEui, hframe, hrow⟩
    · exact .frame hframe hown
    · exact .row devEui hframe hrow hown

theorem readNetID_printPad (junk NetID : UInt32) :
    readNetID junk (Text.printPad 6 16 NetID.toNat) = NetID := by
  have hscan : Text.scan 16 32 (Text.printPad 6 16 NetID.toNat) = some NetID.toNat :=
    Text.scan_printPad 6 32 NetID.toNat (by omega) (by omega) (by omega) NetID.toNat_lt
  simp only [readNetID, hscan, Option.map_some, Option.getD_some, UInt32.ofNat_toNat]

/-- An answer reaches the request it is for, and no other, as long as the numbers do not come
round again. -/
theorem answer_reaches (hlen : (discoveryAfter own tables start es).visited.asked.length < 2 ^ 32)
    {h : Header} {ans : DiscoveryAns} (hanswer : Answers own tables start es h ans) {n : ℕ}
    {a : Asked} {r : IssuedReq}
    (hasked : (discoveryAfter own tables start es).visited.asked[n]? = some a)
    (hissued : (discoveryAfter own tables start es).visited.tids.issued[n]? = some r)
    (htid : r.tid.toUInt64 = h.tid) : Honest own es n h ans a.req := by
  have hsound : (discoveryAfter own tables start es).visited.Sound start := sound_after own es
  obtain ⟨n', a', r', hasked', hissued', htid', hhonest⟩ := hanswer
  have hsame : r.tid = r'.tid := sent_of_echo (htid.trans htid')
  have hissuedLen : (discoveryAfter own tables start es).visited.tids.issued.length < 2 ^ 32 := by
    rw [← hsound.length]
    exact hlen
  obtain rfl : n = n' := hsound.tid.tid_inj hissuedLen hissued hissued' hsame
  obtain rfl : a = a' := Option.some.inj (hasked.symm.trans hasked')
  exact hhonest

theorem justified_answer (hinv : DiscoveryInv own tables start es)
    (hlen : (discoveryAfter own tables start es).visited.asked.length < 2 ^ 32) {env : AskEnv}
    {p : Header × DiscoveryAns} (hp : p ∈ (discoveryAfter own tables start es).answers) {a : Asked}
    (h : AnswerAsks own (discoveryAfter own tables start es).visited env p.1 p.2 a) :
    Justified own tables start es a := by
  obtain ⟨hok, n, req, posted, r, hasked, hissued, htid, hanswer⟩ := h
  have hhonest : Honest own es n p.1 p.2 req :=
    answer_reaches own hlen (hinv.answers p hp) hasked hissued htid
  cases req with
  | HomeNSReq DevEUI JoinEUI =>
    obtain ⟨text, htext, hagreed⟩ := hanswer
    refine justified_of_agreed own ?_ hagreed
    exact .told DevEUI JoinEUI posted text env.junk (List.mem_of_getElem? hasked)
      (hhonest text htext) rfl
  | ProfileReq DevEUI NetID =>
    obtain ⟨senderID, type, hsender, htype, hreq⟩ := hanswer
    obtain ⟨hname, hsaid⟩ := hhonest
    obtain ⟨profile, hanswered⟩ := hsaid type hok htype
    obtain rfl : Text.printPad 6 16 NetID.toNat = senderID :=
      Option.some.inj (hname.symm.trans hsender)
    rw [readNetID_printPad] at hreq
    have hchosen : WhenAsked own tables start n
        (fun before => Chosen own tables start before a.mote (.ProfileReq DevEUI NetID)) es :=
      hinv.justified n _ hasked
    obtain ⟨k, req, posted'⟩ := a
    cases req with
    | PRStartReq N phy =>
      obtain ⟨rfl, rfl⟩ := hreq
      exact Or.inr ⟨n, DevEUI, posted, profile, hasked, hchosen, hanswered⟩
    | HRStartReq N phy timestamp devAddr =>
      obtain ⟨rfl, hown, rfl⟩ := hreq
      exact ⟨hown, Or.inr ⟨n, DevEUI, posted, profile, hasked, hchosen, hanswered⟩⟩
    | _ => exact hreq.elim
  | _ => exact hanswer.elim

theorem justified_asks (hinv : DiscoveryInv own tables start es)
    (hlen : (discoveryAfter own tables start es).visited.asked.length < 2 ^ 32)
    {e : DiscoveryEvent} {a : Asked}
    (h : StepAsks own (discoveryAfter own tables start es) e a) :
    Justified own tables start es a := by
  cases e with
  | request =>
    obtain ⟨mt, destID, hreq⟩ := h
    unfold Justified
    rw [hreq]
    trivial
  | uplink => exact justified_uplink own h
  | deliver =>
    obtain ⟨hd, ans, hi, hanswer⟩ := h
    exact justified_answer own hinv hlen (List.mem_of_getElem? hi) hanswer
  | _ => exact h.elim

/-! ### What is answered is what the servers said -/

theorem policy_of_told {forms : List HomeEvent} {env : JoinServer.HomeEnv} {DevEUI NetID : ℕ}
    {text : List Char} (hdev : DevEUI < 2 ^ 64) (hnet : NetID < 2 ^ 32)
    (h : getHomeNS env (some (.string (Text.print 16 DevEUI))) (Text.printPad 6 16 NetID)
      (homeTablesAfter forms) = .ok text) : (policyAfter forms).answer DevEUI NetID = .ok text := by
  have hscanDev : Text.scan 16 64 (JsonValue.string (Text.print 16 DevEUI)).get_string =
      some DevEUI := Text.scan_print 64 DevEUI (by omega) (by omega) (by omega) hdev
  have hscanNet : Text.scan 16 32 (Text.printPad 6 16 NetID) = some NetID :=
    Text.scan_printPad 6 32 NetID (by omega) (by omega) (by omega) hnet
  rw [getHomeNS_eq (grants_after forms), hscanDev, hscanNet, Option.getD_some, Option.getD_some]
    at h
  split at h
  · cases h
  · split at h
    · rename_i hanswer
      split at h
      · cases h
      · rw [hanswer, h]
    · cases h

/-- An answer that is sent has the number of its request. -/
theorem answers_sent {n : ℕ} {a : Asked} {r : IssuedReq} {result : Result} {ans : DiscoveryAns}
    {sent : List (Header × DiscoveryAns)}
    (hasked : (discoveryAfter own tables start es).visited.asked[n]? = some a)
    (hissued : (discoveryAfter own tables start es).visited.tids.issued[n]? = some r)
    (hhonest : Honest own es n (ansHeader a.req r.tid result) ans a.req)
    {p : Header × DiscoveryAns} (hp : p ∈ sent ++ [(ansHeader a.req r.tid result, ans)]) :
    p ∈ sent ∨ Answers own tables start es p.1 p.2 := by
  refine (List.mem_append.mp hp).imp_right fun hp => ?_
  obtain rfl := List.mem_singleton.mp hp
  exact ⟨n, a, r, hasked, hissued, rfl, hhonest⟩

theorem answerHome_honest (hinv : DiscoveryInv own tables start es) {env : JoinServer.HomeEnv}
    {n : ℕ} {p : Header × DiscoveryAns}
    (hp : p ∈ ((discoveryAfter own tables start es).answerHome own env n).answers) :
    p ∈ (discoveryAfter own tables start es).answers ∨ Answers own tables start es p.1 p.2 := by
  unfold Discovery.answerHome at hp
  cases hreceived : receivedReq n (discoveryAfter own tables start es).visited with
  | none =>
    rw [hreceived] at hp
    exact Or.inl hp
  | some q =>
    obtain ⟨req, tid⟩ := q
    obtain ⟨a, r, hasked, hissued, rfl, rfl⟩ := receivedReq_some hreceived
    rw [hreceived] at hp
    obtain ⟨before, -, -, hjust⟩ := hinv.justified n a hasked
    obtain ⟨k, req, posted⟩ := a
    cases req with
    | HomeNSReq DevEUI JoinEUI =>
      dsimp only at hp
      rw [js_after] at hp
      cases htold : getHomeNS env (some (.string (Text.print 16 DevEUI)))
        (Text.printPad 6 16 own.toNat) (homeTablesAfter (formsOf JoinEUI es)) with
      | ok text =>
        rw [htold] at hp
        refine answers_sent own hasked hissued (fun text' htext => ?_) hp
        obtain rfl := Option.some.inj htext
        exact Earlier.now (policy_of_told hjust own.toNat_lt htold)
      | error stop =>
        rw [htold] at hp
        cases stop with
        | undefined => exact Or.inl hp
        | result result =>
          exact answers_sent own hasked hissued (fun text' htext => by cases htext) hp
    | _ => exact Or.inl hp

theorem answered_honest {n : ℕ} {result : Result} {type : Option (List Char)} {profile : Bool}
    {p : Header × DiscoveryAns}
    (hp : p ∈ ((discoveryAfter own tables start es).answered n result type profile).answers) :
    p ∈ (discoveryAfter own tables start es).answers ∨
      Answers own tables start (es ++ [.answered n result type profile]) p.1 p.2 := by
  unfold Discovery.answered at hp
  cases hreceived : receivedReq n (discoveryAfter own tables start es).visited with
  | none =>
    rw [hreceived] at hp
    exact Or.inl hp
  | some q =>
    obtain ⟨req, tid⟩ := q
    obtain ⟨a, r, hasked, hissued, rfl, rfl⟩ := receivedReq_some hreceived
    rw [hreceived] at hp
    have hasked' := asked_concat (.answered n result type profile) hasked
    have hissued' := issued_concat (.answered n result type profile) hissued
    obtain ⟨k, req, posted⟩ := a
    cases req with
    | HomeNSReq => exact Or.inl hp
    | ProfileReq DevEUI NetID =>
      refine answers_sent own hasked' hissued' ?_ hp
      refine ⟨rfl, fun type' hok htype => ⟨profile, ?_⟩⟩
      obtain rfl : result = .Success := Option.some.inj hok
      obtain rfl : type = some type' := htype
      exact List.mem_append_right _ List.mem_cons_self
    | _ => exact answers_sent own hasked' hissued' trivial hp

theorem answers_step (hinv : DiscoveryInv own tables start es) (e : DiscoveryEvent)
    {p : Header × DiscoveryAns} (hp : p ∈ (discoveryAfter own tables start (es ++ [e])).answers) :
    Answers own tables start (es ++ [e]) p.1 p.2 := by
  rw [after_concat] at hp
  have hold : p ∈ (discoveryAfter own tables start es).answers →
      Answers own tables start (es ++ [e]) p.1 p.2 :=
    fun hp => answers_concat own e (hinv.answers p hp)
  cases e with
  | answerHome env n => exact (answerHome_honest own hinv hp).elim hold (answers_concat own _)
  | answered n result type profile => exact (answered_honest own hp).elim hold id
  | deliver env i =>
    refine hold ?_
    unfold Discovery.step at hp
    dsimp only at hp
    cases hi : (discoveryAfter own tables start es).answers[i]? with
    | none =>
      rw [hi] at hp
      exact hp
    | some q =>
      rw [hi] at hp
      exact hp
  | _ => exact hold hp

/-! ### Every run -/

theorem discoveryInv_step (e : DiscoveryEvent) (hinv : DiscoveryInv own tables start es)
    (hlen : (discoveryAfter own tables start es).visited.asked.length < 2 ^ 32) :
    DiscoveryInv own tables start (es ++ [e]) where
  answers _ hp := answers_step own hinv e hp
  justified n a ha := by
    refine Earlier.later ?_ (List.prefix_append es [e])
    obtain ⟨more, hmore, hasks⟩ := (after_grows own es e).asked
    rw [hmore] at ha
    cases more with
    | none =>
      rw [Option.toList_none, List.append_nil] at ha
      exact hinv.justified n a ha
    | some b =>
      rw [Option.toList_some] at ha
      rcases Nat.lt_or_ge n (discoveryAfter own tables start es).visited.asked.length with
        hold | hnew
      · rw [List.getElem?_append_left hold] at ha
        exact hinv.justified n a ha
      · rw [List.getElem?_append_right hnew, List.getElem?_singleton] at ha
        split at ha
        · obtain rfl := Option.some.inj ha
          exact Earlier.now ⟨by omega, justified_asks own hinv hlen (hasks b rfl)⟩
        · cases ha

theorem discoveryInv_after (es : List DiscoveryEvent)
    (hlen : (discoveryAfter own tables start es).visited.asked.length < 2 ^ 32) :
    DiscoveryInv own tables start es := by
  induction es using List.reverseRecOn with
  | nil => exact ⟨fun p hp => absurd hp List.not_mem_nil, fun n a ha => by cases ha⟩
  | append_singleton es e ih =>
    have hgrows : (discoveryAfter own tables start es).visited.Grows start
        (StepAsks own (discoveryAfter own tables start es) e)
        (discoveryAfter own tables start (es ++ [e])).visited := after_grows own es e
    obtain ⟨more, hmore, -⟩ := hgrows.asked
    rw [hmore, List.length_append] at hlen
    have hbefore : (discoveryAfter own tables start es).visited.asked.length < 2 ^ 32 := by omega
    exact discoveryInv_step own e (ih hbefore) hbefore

/-- The own network is 60, the device belongs to network 13, and its join request is not known
here. -/
def sampleVisited : VisitedTables where
  motes := [⟨1, some 2, none, .NONE, none, none, none⟩]
  sessions := []
  scan := []
  roaming := [⟨some 0x13, true, false⟩]
  serviceProfiles := []
  deviceProfiles := []
  roamingOk := true
  profilesOk := true
  scanOk := true
  timestampOk := true
  deviceProfileOk := true
  junk := false
  fwdToNetID := fun _ => some NONE_NETID32
  fwdOk := true

/-- A join request with the JoinEUI 1 and the DevEUI 2. -/
def visitorJoin : Octets :=
  [0, 1, 0, 0, 0, 0, 0, 0, 0, 2, 0, 0, 0, 0, 0, 0, 0, 5, 0, 1, 2, 3, 4]

def sampleAsk : AskEnv := ⟨true, true, true, 0⟩

def sampleDiscovery : List DiscoveryEvent :=
  [.getMote, .device 0 ⟨2, Backend.NONE_DEVADDR, visitorJoin, 23, none⟩] ++
    sampleForms.map (DiscoveryEvent.joinServer 1) ++
    [.uplink sampleAsk 0 .NONE, .answerHome quietHome 0, .deliver sampleAsk 0]

end Lorawan.EndToEnd

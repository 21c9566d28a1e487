import Lorawan.Lib.Text
import Lorawan.NetworkServer.JoinAnswer

/-!
# The session that a join answer brings (sNS.c:107-208, 884-981, common.c:693-823, 2805-2870)

The home network server takes the keys of a JoinAns and queues the session before it
relays the join accept. Whether that succeeded is tested, and the test is written over:
the accept goes out in any case.
-/

namespace Lorawan.NetworkServer
open Lorawan Lorawan.Backend

/-! ### take_JoinAns -/

/-- A JoinAns, with the members that are read here. -/
structure JoinAnsMsg where
  senderID : List Char
  Lifetime : Option UInt32
  DevAddr : Option (List Char)
  /-- `none` also for an object without `AESKey`. -/
  keys : KeyName → Option KeyEnvelopeJson

/-- What is queued for the table of sessions. -/
structure QueuedSession where
  devEui : UInt64
  devAddr : UInt32
  session : NwkKeys
  lifetime : UInt32
deriving DecidableEq

structure TakeEnv where
  W : KeyWrap
  junk : UInt8
  key_envelope_ns_js : key_envelope_t
  /-- `SELECT KEK FROM roaming WHERE NetID = .. AND KEKlabel = ..` -/
  roamingKEK : List Char → List Char → Option Octets
  /-- `mq_send` of the JoinEUI, of the session, and of OptNeg. -/
  mqJoinEUI : Bool
  mqInsert : Bool
  mqOptNeg : Bool

/-- From a join server. -/
def TakeEnv.getKey (E : TakeEnv) (obj : Option KeyEnvelopeJson) : Option Octets :=
  obj.bind fun obj => parse_key_envelope E.W E.junk obj E.key_envelope_ns_js

/-- From a network server; a key in the clear is read without a look at its length. -/
def TakeEnv.get_nsns_key (E : TakeEnv) (netIDstr : List Char) (obj : Option KeyEnvelopeJson) :
    Option Octets :=
  obj.bind fun obj =>
    match obj.KEKLabel with
    | none => some ((Text.scanOctets E.junk obj.AESKey ++ List.replicate 16 E.junk).take 16)
    | some label =>
      (E.roamingKEK netIDstr label).bind fun KEK => parse_key_envelope E.W E.junk obj ⟨some label, KEK⟩

def JoinAnsMsg.fromJS (msg : JoinAnsMsg) : Bool := decide (8 < msg.senderID.length)

/-- `none` when the key was not obtained. -/
def TakeEnv.key (E : TakeEnv) (msg : JoinAnsMsg) (name : KeyName) : Option Octets :=
  if msg.fromJS then E.getKey (msg.keys name) else E.get_nsns_key msg.senderID (msg.keys name)

/-- The return value, and what was queued. -/
def TakeEnv.add_database_session (E : TakeEnv) (m : JoinMote) (lifetime : UInt32) :
    ℤ × Option QueuedSession :=
  if m.devEui.toNat = Backend.NONE_DEVEUI then (-1, none)
  else if !E.mqInsert then (-1, none)
  else (if E.mqOptNeg then 0 else -1, some ⟨m.devEui, m.devAddr, m.session, lifetime⟩)

/-- The keys of LoRaWAN 1.0, or of 1.1, and how many were not obtained. -/
def keysTaken (key : KeyName → Option Octets) (old : NwkKeys) : NwkKeys × ℕ :=
  match key .NwkSKey with
  | some k => (⟨k, k, k, false⟩, 0)
  | none =>
    ({ FNwkSIntKeyBin := (key .FNwkSIntKey).getD old.FNwkSIntKeyBin
       SNwkSIntKeyBin := (key .SNwkSIntKey).getD old.SNwkSIntKeyBin
       NwkSEncKeyBin := (key .NwkSEncKey).getD old.NwkSEncKeyBin
       OptNeg := true },
      [KeyName.SNwkSIntKey, .FNwkSIntKey, .NwkSEncKey].countP fun name => (key name).isNone)

/-- The return value, what was queued, and the mote. -/
def TakeEnv.take_JoinAns (E : TakeEnv) (msg : JoinAnsMsg) (lifetime : UInt32) (m : JoinMote) :
    ℤ × Option QueuedSession × JoinMote :=
  if lifetime = 0 then (-1, none, m)
  else
    let devAddr := ((msg.DevAddr.bind (Text.scan 16 32)).map UInt32.ofNat).getD m.devAddr
    let ret : ℤ := if msg.fromJS && !E.mqJoinEUI then -1 else 0
    let taken := keysTaken (E.key msg) m.session
    let m := { m with devAddr := devAddr, session := taken.1 }
    let ret := ret - taken.2
    if ret = 0 then
      let added := E.add_database_session m lifetime
      (added.1, added.2, m)
    else (ret, none, m)

/-! ### hNs_to_sNS_JoinAns -/

/-- What surrounds the handling of a JoinAns. -/
structure RelayEnv where
  take : TakeEnv
  slots : ℕ → JoinEnv
  /-- `generateDLMetaData` of the best requester's uplink. -/
  dlmdOk : Bool
  /-- `fNS_downlink` sends the frame, or keeps it to be sent later. -/
  radio : Bool

structure JoinOutcome where
  queued : Option QueuedSession
  /-- The join accept goes to a gateway of this server. -/
  sentLocal : Bool
  posted : List PostedAns
deriving DecidableEq

/-- The only requester that is told of a failure; an answer of a type that the server does not know
is left out here. -/
def postBest (E : RelayEnv) (i : ℕ) (result : Result) (Rs : List (Option JoinRequester)) :
    List PostedAns :=
  match Rs[i]?.join with
  | none => []
  | some r =>
    match ansMtOf r.MessageType with
    | none => []
    | some ansMt =>
      if r.needsAnswer && (E.slots i).easyOk && (E.slots i).postOk then
        [⟨i, r.ClientID, r.inTid, ansMt, result, .empty⟩]
      else []

/-- The join accept, or the failure, goes to where the best signal was. -/
def relayJoinAns (E : RelayEnv) (result : Result) (rfBuf : Octets) (bestR : Option ℕ)
    (Rs : List (Option JoinRequester)) (m : JoinMote) : Bool × List PostedAns :=
  match bestR with
  | some i =>
    -- without a requester there, or with metadata that cannot be generated, the server ends
    if Rs[i]?.join.isSome && E.dlmdOk then
      (false, (sNS_JoinAnsJson E.take.W m rfBuf E.slots result Rs).posted)
    else (false, [])
  | none => (decide (result = .Success) && decide (rfBuf ≠ []) && E.radio, [])

def RelayEnv.hNs_to_sNS_JoinAns (E : RelayEnv) (rxResult : Result) (msg : JoinAnsMsg) (rfBuf : Octets)
    (bestR : Option ℕ) (Rs : List (Option JoinRequester)) (m : JoinMote) : JoinOutcome :=
  if rxResult ≠ .Success then
    ⟨none, false, bestR.elim [] fun i => postBest E i rxResult Rs⟩
  else
    let (queued, result, m) := match msg.Lifetime with
      | some lifetime =>
        let taken := E.take.take_JoinAns msg lifetime m
        -- the result that the return value gave is written over
        (taken.2.1, Result.Success, taken.2.2)
      | none => (none, Result.Other, m)
    let relayed := relayJoinAns E result rfBuf bestR Rs m
    ⟨queued, relayed.1, relayed.2⟩

/-! ### When the session is stored -/

/-- The keys of one of the versions can be obtained. -/
def KeysObtained (E : TakeEnv) (msg : JoinAnsMsg) : Prop :=
  (E.key msg .NwkSKey).isSome ∨
    (E.key msg .SNwkSIntKey).isSome ∧ (E.key msg .FNwkSIntKey).isSome ∧
      (E.key msg .NwkSEncKey).isSome

/-- The session of the answer is queued. -/
structure Stores (E : TakeEnv) (msg : JoinAnsMsg) (lifetime : UInt32) (m : JoinMote) : Prop where
  lifetime : lifetime ≠ 0
  devEui : m.devEui.toNat ≠ Backend.NONE_DEVEUI
  joinEUI : msg.fromJS = true → E.mqJoinEUI = true
  keys : KeysObtained E msg
  insert : E.mqInsert = true

theorem keysTaken_missing (key : KeyName → Option Octets) (old : NwkKeys) :
    (keysTaken key old).2 = 0 ↔ (key .NwkSKey).isSome ∨
      (key .SNwkSIntKey).isSome ∧ (key .FNwkSIntKey).isSome ∧ (key .NwkSEncKey).isSome := by
  rw [keysTaken]
  cases hN : key .NwkSKey with
  | some k => simp
  | none =>
    simp only [List.countP_eq_zero, Option.isSome_none, Bool.false_eq_true, false_or]
    simp [Option.isSome_iff_ne_none]

theorem add_database_session_queued (E : TakeEnv) (m : JoinMote) (lifetime : UInt32) :
    (E.add_database_session m lifetime).2.isSome ↔
      m.devEui.toNat ≠ Backend.NONE_DEVEUI ∧ E.mqInsert = true := by
  rw [TakeEnv.add_database_session]
  split
  · rename_i h
    simp [h]
  · rename_i h
    cases E.mqInsert <;> simp [h]

theorem take_ret_iff (E : TakeEnv) (msg : JoinAnsMsg) (old : NwkKeys) :
    (if msg.fromJS && !E.mqJoinEUI then -1 else 0 : ℤ) - (keysTaken (E.key msg) old).2 = 0 ↔
      (msg.fromJS = true → E.mqJoinEUI = true) ∧ KeysObtained E msg := by
  rw [KeysObtained, ← keysTaken_missing (E.key msg) old]
  cases msg.fromJS with
  | false => simp
  | true =>
    cases E.mqJoinEUI with
    | true => simp
    | false =>
      simp only [Bool.not_false, Bool.and_self, if_true, Bool.false_eq_true, imp_false,
        not_true_eq_false, false_and, iff_false]
      omega

theorem take_JoinAns_queued (E : TakeEnv) (msg : JoinAnsMsg) (lifetime : UInt32) (m : JoinMote) :
    (E.take_JoinAns msg lifetime m).2.1.isSome ↔ Stores E msg lifetime m := by
  rw [TakeEnv.take_JoinAns]
  by_cases hlife : lifetime = 0
  · rw [if_pos hlife]
    constructor
    · intro h
      cases h
    · intro h
      exact absurd hlife h.lifetime
  · rw [if_neg hlife]
    dsimp only
    have hret := take_ret_iff E msg m.session
    by_cases h0 : (if msg.fromJS && !E.mqJoinEUI then -1 else 0 : ℤ) -
        (keysTaken (E.key msg) m.session).2 = 0
    · obtain ⟨hmq, hkeys⟩ := hret.mp h0
      rw [if_pos h0, add_database_session_queued]
      exact ⟨fun h => ⟨hlife, h.1, hmq, hkeys, h.2⟩, fun h => ⟨h.devEui, h.insert⟩⟩
    · rw [if_neg h0]
      constructor
      · intro h
        cases h
      · intro h
        exact absurd (hret.mpr ⟨h.joinEUI, h.keys⟩) h0

/-! ### When the join accept is withheld -/

/-- The home network server passes on no session that it has not queued. -/
def Withheld (out : JoinOutcome) : Prop :=
  out.queued = none → out.sentLocal = false ∧ ∀ p ∈ out.posted, p.result ≠ .Success

/-- Some requester is told of the success: all that are answered before it start roaming. -/
def TellsSuccess (slots : ℕ → JoinEnv) (Rs : List (Option JoinRequester)) : Prop :=
  ∃ j r, Rs[j]? = some (some r) ∧ r.needsAnswer = true ∧ Answerable (slots j) r.MessageType ∧
    ∀ i < j, ∀ R r' ansMt, Rs[i]? = some R → Awaits R r' ansMt → Serves (slots i) r'.MessageType

theorem posted_success_iff (W : KeyWrap) (m : JoinMote) (rfBuf : Octets) (slots : ℕ → JoinEnv)
    (Rs : List (Option JoinRequester)) :
    (∃ p ∈ (sNS_JoinAnsJson W m rfBuf slots .Success Rs).posted, p.result = .Success) ↔
      TellsSuccess slots Rs := by
  constructor
  · rintro ⟨p, hp, hres⟩
    rcases (mem_joinFrom_posted W m rfBuf slots Rs _ p).mp hp with hp | ⟨j, R, r, ansMt, hR, hr, hp⟩
    · cases hp
    · obtain ⟨heasy, hpost, rfl⟩ := hp
      rw [Nat.zero_add] at heasy hpost
      obtain ⟨hbefore, hserves⟩ := (makeAnswer_result W m rfBuf _ _ _).mp hres
      rw [Nat.zero_add] at hserves
      rw [hr.1] at hR
      refine ⟨j, r, hR, hr.2.1, ⟨hserves, heasy, hpost⟩, ?_⟩
      intro i hi R' r' ansMt' hR' hr'
      have hall := ((joinFrom_result W m rfBuf slots _ _).mp hbefore).2 i R' r' ansMt'
        (by rw [List.getElem?_take, if_pos hi]; exact hR') hr'
      rw [Nat.zero_add] at hall
      exact hall
  · rintro ⟨j, r, hr, hneeds, ⟨hserves, heasy, hpost⟩, hbefore⟩
    obtain ⟨ansMt, hans⟩ := ansMtOf_of_serves hserves
    have hres : (joinFrom W m rfBuf slots 0 (Rs.take j) ⟨.Success, [], [], [], false⟩).result =
        .Success := by
      refine (joinFrom_result W m rfBuf slots _ _).mpr ⟨rfl, ?_⟩
      intro i R' r' ansMt' hR' hr'
      rw [Nat.zero_add]
      rw [List.getElem?_take] at hR'
      split at hR'
      · rename_i hi
        exact hbefore i hi R' r' ansMt' hR' hr'
      · cases hR'
    refine ⟨answerFor W m rfBuf (slots j) j r ansMt .Success, ?_, ?_⟩
    · refine (mem_joinFrom_posted W m rfBuf slots Rs _ _).mpr (Or.inr ?_)
      refine ⟨j, some r, r, ansMt, hr, ⟨rfl, hneeds, hans⟩, ?_⟩
      rw [Nat.zero_add, hres]
      exact ⟨heasy, hpost, rfl⟩
    · exact (makeAnswer_result W m rfBuf _ _ _).mpr ⟨rfl, hserves⟩

theorem posted_other (W : KeyWrap) (m : JoinMote) (rfBuf : Octets) (slots : ℕ → JoinEnv)
    {result : Result} (hres : result ≠ .Success) (Rs : List (Option JoinRequester)) :
    ∀ p ∈ (sNS_JoinAnsJson W m rfBuf slots result Rs).posted, p.result ≠ .Success := by
  intro p hp hsuccess
  rcases (mem_joinFrom_posted W m rfBuf slots Rs _ p).mp hp with hp | ⟨j, R, r, ansMt, -, -, hp⟩
  · cases hp
  · obtain ⟨-, -, rfl⟩ := hp
    have hbefore := ((makeAnswer_result W m rfBuf _ _ _).mp hsuccess).1
    exact hres ((joinFrom_result W m rfBuf slots _ _).mp hbefore).1

/-- The join accept reaches a gateway, or a requester with the result Success. -/
def Goes (E : RelayEnv) (rfBuf : Octets) (bestR : Option ℕ) (Rs : List (Option JoinRequester)) :
    Prop :=
  match bestR with
  | none => rfBuf ≠ [] ∧ E.radio = true
  | some i => Rs[i]?.join.isSome ∧ E.dlmdOk = true ∧ TellsSuccess E.slots Rs

/-- What is sent when it is not withheld. -/
def Passes (relayed : Bool × List PostedAns) : Prop :=
  relayed.1 = true ∨ ∃ p ∈ relayed.2, p.result = .Success

theorem relayJoinAns_success (E : RelayEnv) (rfBuf : Octets) (bestR : Option ℕ)
    (Rs : List (Option JoinRequester)) (m : JoinMote) :
    Passes (relayJoinAns E .Success rfBuf bestR Rs m) ↔ Goes E rfBuf bestR Rs := by
  cases bestR with
  | none => simp [relayJoinAns, Passes, Goes]
  | some i =>
    by_cases hlive : Rs[i]?.join.isSome ∧ E.dlmdOk = true
    · rw [relayJoinAns, if_pos (by simpa using hlive), Passes, posted_success_iff, Goes]
      simp [hlive]
    · rw [relayJoinAns, if_neg (by simpa using hlive), Passes, Goes, ← and_assoc]
      simp [hlive]

theorem relayJoinAns_other (E : RelayEnv) {result : Result} (hres : result ≠ .Success)
    (rfBuf : Octets) (bestR : Option ℕ) (Rs : List (Option JoinRequester)) (m : JoinMote) :
    ¬ Passes (relayJoinAns E result rfBuf bestR Rs m) := by
  cases bestR with
  | none => simp [relayJoinAns, Passes, hres]
  | some i =>
    rw [relayJoinAns, Passes]
    split
    · rintro (h | ⟨p, hp, hsuccess⟩)
      · cases h
      · exact posted_other E.take.W m rfBuf E.slots hres Rs p hp hsuccess
    · simp

theorem postBest_other (E : RelayEnv) (i : ℕ) {result : Result} (hres : result ≠ .Success)
    (Rs : List (Option JoinRequester)) : ∀ p ∈ postBest E i result Rs, p.result ≠ .Success := by
  intro p hp
  rw [postBest] at hp
  split at hp
  · cases hp
  · split at hp
    · cases hp
    · split at hp
      · rw [List.mem_singleton.mp hp]
        exact hres
      · cases hp

theorem withheld_iff (out : JoinOutcome) :
    Withheld out ↔ out.queued.isSome ∨ ¬ Passes (out.sentLocal, out.posted) := by
  rw [Withheld, Passes]
  cases out.queued with
  | some q => simp
  | none => simp [not_or]

/-- A join accept goes out only with its session queued exactly when the session of the answer is
queued, or the answer is no success, or has no lifetime, or nothing goes out for a reason of its
own. -/
theorem withheld_iff_stores (E : RelayEnv) (rxResult : Result) (msg : JoinAnsMsg) (rfBuf : Octets)
    (bestR : Option ℕ) (Rs : List (Option JoinRequester)) (m : JoinMote) :
    Withheld (E.hNs_to_sNS_JoinAns rxResult msg rfBuf bestR Rs m) ↔
      (∃ lifetime, msg.Lifetime = some lifetime ∧ Stores E.take msg lifetime m) ∨
        rxResult ≠ .Success ∨ msg.Lifetime = none ∨ ¬ Goes E rfBuf bestR Rs := by
  rw [withheld_iff, RelayEnv.hNs_to_sNS_JoinAns]
  by_cases hrx : rxResult ≠ .Success
  · rw [if_pos hrx]
    refine iff_of_true (Or.inr ?_) (Or.inr (Or.inl hrx))
    rintro (h | ⟨p, hp, hsuccess⟩)
    · cases h
    · cases bestR with
      | none => cases hp
      | some i => exact postBest_other E i hrx Rs p hp hsuccess
  · rw [if_neg hrx]
    cases hlife : msg.Lifetime with
    | none =>
      refine iff_of_true (Or.inr ?_) (Or.inr (Or.inr (Or.inl rfl)))
      exact relayJoinAns_other E (by decide) rfBuf bestR Rs m
    | some lifetime =>
      dsimp only
      rw [take_JoinAns_queued]
      have hgoes := relayJoinAns_success E rfBuf bestR Rs (E.take.take_JoinAns msg lifetime m).2.2
      simp [hrx, hgoes]

/-- A server with all it needs, and a gateway that sends. -/
def localRelay : RelayEnv :=
  { take := ⟨noWrap, 0, ⟨none, []⟩, fun _ _ => none, true, true, true⟩
    slots := fun _ => goodEnv
    dlmdOk := true
    radio := true }

/-- A JoinAns of a join server, without keys. -/
def keylessAns : JoinAnsMsg := ⟨"0102030405060708".toList, some 60, none, fun _ => none⟩

/-- The join accept is sent though no key was obtained. -/
theorem keyless_accept_sent :
    ¬ Withheld (localRelay.hNs_to_sNS_JoinAns .Success keylessAns [0x20] none [] someMote) := by
  intro h
  have hlocal := (h rfl).1
  revert hlocal
  decide +kernel

end Lorawan.NetworkServer

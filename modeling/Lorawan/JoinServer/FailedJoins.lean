import Lorawan.JoinServer.Replay

/-!
# Requests that fail (join_server/main.c:338-496, 521-637)

The counter of a request is saved as soon as it was compared, before the rest of
the request is looked at. No check after that takes it back, and no check before
it writes to the tables.
-/

namespace Lorawan.JoinServer
open Lorawan Lorawan.Backend mtype_e

variable (A : BlockCipher) (W : KeyWrap) (cfg : Config)

/-! ### The counter of a request -/

/-- The request's counter is above the last one, or new, and the statement that saves it is
executed. -/
def savesCounter (env : Env) (t : Tables) (devEui64 : ℕ) (d : Dispatch) : Bool :=
  !env.refused (.selectKey .AppKey) &&
    match t.row devEui64 with
    | none => false
    | some m =>
      if m.AppKey.isSome then
        !env.refused .selectCounter && m.joinNonce.isSome &&
          decide ((m.counter (nonceColumn d.MType)).getD 0 < d.rxNonce) &&
          !env.refused .updateCounter &&
          !t.joinmotes.any fun r => r.eui = devEui64 && r.outOfRange (nonceColumn d.MType)
      else
        !check_nonce t (env.refused .selectNonce) devEui64 d.rxNonce && !env.refused .insertNonce

/-- The tables with the counter: the `UPDATE` of a LoRaWAN 1.1 device, the `INSERT` of a 1.0
device. -/
def savedCounter (t : Tables) (devEui64 : ℕ) (d : Dispatch) : Tables :=
  if (t.row devEui64).any (·.AppKey.isSome) then
    { t with joinmotes := t.joinmotes.map fun m =>
        if m.eui = devEui64 then m.increment (nonceColumn d.MType) else m }
  else { t with nonces := (devEui64, d.rxNonce) :: t.nonces }

/-! ### The property -/

/-- A request that is not answered with Success leaves the rows of `joinmotes` and `nonces` as they
were. -/
def FailureAtomic (e : Request) (t : Tables) : Prop :=
  ∀ r, (parse_rf_join_req A W cfg e.network_id e.env e.inJobj t).2 = .error (.result r) →
    let t' := (parse_rf_join_req A W cfg e.network_id e.env e.inJobj t).1
    (∀ eui, t'.row eui = t.row eui) ∧ t'.nonces = t.nonces

/-- The request without its DevAddr. -/
def Request.withoutDevAddr (e : Request) : Request :=
  { e with inJobj := { e.inJobj with DevAddr := none } }

/-- A LoRaWAN 1.0 device. -/
def mote1v0 : JoinMote := { mote1v1 with AppKey := none, JSIntKey := none, JSEncKey := none }

/-- The answer to the whole request, after the one without a DevAddr. -/
def answerToWhole (m : JoinMote) : Except Stop JoinAnsJson :=
  let s := step BlockCipher.xorKey noWrap plainConfig (.init ⟨[m], []⟩)
    (joinRequest 1).withoutDevAddr
  answer BlockCipher.xorKey noWrap plainConfig s (joinRequest 1)

/-- A malformed request uses the DevNonce up, and the whole one is then not allowed, for a device
of either version. -/
theorem malformed_request_consumes :
    (¬FailureAtomic BlockCipher.xorKey noWrap plainConfig (joinRequest 1).withoutDevAddr
        ⟨[mote1v1], []⟩ ∧
      answerToWhole mote1v1 = .error (.result .ActivationDisallowed)) ∧
    ¬FailureAtomic BlockCipher.xorKey noWrap plainConfig (joinRequest 1).withoutDevAddr
        ⟨[mote1v0], []⟩ ∧
      answerToWhole mote1v0 = .error (.result .ActivationDisallowed) := by
  have hfails : ∀ m ∈ [mote1v1, mote1v0],
      (parse_rf_join_req BlockCipher.xorKey noWrap plainConfig 0x13 quietEnv
        (joinRequest 1).withoutDevAddr.inJobj ⟨[m], []⟩).2 = .error (.result .MalformedRequest) := by
    decide +kernel
  have hchanged : ∀ m ∈ [mote1v1, mote1v0],
      let t' := (parse_rf_join_req BlockCipher.xorKey noWrap plainConfig 0x13 quietEnv
        (joinRequest 1).withoutDevAddr.inJobj ⟨[m], []⟩).1
      ¬(t'.row 2 = some m ∧ t'.nonces = []) := by
    decide +kernel
  have hrow : ∀ m ∈ [mote1v1, mote1v0], Tables.row ⟨[m], []⟩ 2 = some m := by decide
  have hatomic : ∀ m ∈ [mote1v1, mote1v0],
      ¬FailureAtomic BlockCipher.xorKey noWrap plainConfig (joinRequest 1).withoutDevAddr
        ⟨[m], []⟩ := by
    intro m hm h
    obtain ⟨hrows, hnonces⟩ := h .MalformedRequest (hfails m hm)
    exact hchanged m hm ⟨(hrows 2).trans (hrow m hm), hnonces⟩
  have hretry : ∀ m ∈ [mote1v1, mote1v0],
      answerToWhole m = .error (.result .ActivationDisallowed) := by
    decide +kernel
  exact ⟨⟨hatomic mote1v1 (by simp), hretry mote1v1 (by simp)⟩,
    hatomic mote1v0 (by simp), hretry mote1v0 (by simp)⟩

/-! ### What a request leaves -/

/-- The tables `t'` after a request whose counter was not saved are those before it. A counter that
was saved stays saved, and the same frame is not allowed again, when it skipped no counter. -/
structure RequestOutcome (e : Request) (t t' : Tables) : Prop where
  unsaved : (∀ devEui64 d, receive A cfg.myJoinEui64 e.env t e.inJobj = .ok (devEui64, d) →
    savesCounter e.env t devEui64 d = false) → t' = t
  saved : ∀ devEui64 d, receive A cfg.myJoinEui64 e.env t e.inJobj = .ok (devEui64, d) →
    savesCounter e.env t devEui64 d = true →
    t' = savedCounter t devEui64 d ∧ ¬(t'.row devEui64 = t.row devEui64 ∧ t'.nonces = t.nonces)
  retried : ∀ devEui64 d, receive A cfg.myJoinEui64 e.env t e.inJobj = .ok (devEui64, d) →
    savesCounter e.env t devEui64 d = true → SkipsNoCounter A cfg (.init t) e →
    ∀ e' : Request, (∀ u, e'.env.refused u = false) →
      receive A cfg.myJoinEui64 e'.env t' e'.inJobj = .ok (devEui64, d) →
      (parse_rf_join_req A W cfg e'.network_id e'.env e'.inJobj t').2 =
        .error (.result .ActivationDisallowed)

/-! ### What is saved -/

variable {A W cfg} {env : Env} {t : Tables} {devEui64 : ℕ} {d : Dispatch} {m : JoinMote}

theorem admit1v1_tables {AppKey : Octets} (hrow : t.row devEui64 = some m)
    (hkey : m.AppKey.isSome = true) :
    (admit1v1 env t devEui64 d AppKey).1 =
      if !env.refused .selectCounter && m.joinNonce.isSome &&
          decide ((m.counter (nonceColumn d.MType)).getD 0 < d.rxNonce) &&
          !env.refused .updateCounter &&
          !(t.joinmotes.any fun r => r.eui = devEui64 && r.outOfRange (nonceColumn d.MType))
      then savedCounter t devEui64 d else t := by
  unfold admit1v1 savedCounter Tables.updateCounter
  rw [hrow, Option.any_some, if_pos hkey]
  cases env.refused .selectCounter with
  | true => rfl
  | false =>
    cases hn : m.joinNonce with
    | none => simp [hn]
    | some n =>
      by_cases hle : d.rxNonce ≤ (m.counter (nonceColumn d.MType)).getD 0
      · have hlt : ¬(m.counter (nonceColumn d.MType)).getD 0 < d.rxNonce := by omega
        simp [hn, hle, hlt]
      · have hlt : (m.counter (nonceColumn d.MType)).getD 0 < d.rxNonce := by omega
        cases env.refused .updateCounter with
        | true => simp [hn, hle, hlt]
        | false =>
          cases hany : t.joinmotes.any fun r =>
              r.eui = devEui64 && r.outOfRange (nonceColumn d.MType) with
          | true => simp [hn, hle]
          | false => simp [hn, hle, hlt]

theorem admit1v0_tables (hrow : t.row devEui64 = some m) (hkey : m.AppKey.isSome = false) :
    (admit1v0 env t devEui64 d).1 =
      if !check_nonce t (env.refused .selectNonce) devEui64 d.rxNonce && !env.refused .insertNonce
      then savedCounter t devEui64 d else t := by
  unfold admit1v0 check_nonce savedCounter Tables.insertNonce
  rw [hrow, Option.any_some, hkey, if_neg Bool.false_ne_true]
  by_cases hmem : (devEui64, d.rxNonce) ∈ t.nonces
  · simp [hmem]
  · cases env.refused .selectNonce <;> cases env.refused .insertNonce <;> simp [hmem]

theorem admitNonce_tables (env : Env) (t : Tables) (devEui64 : ℕ) (d : Dispatch) :
    (admitNonce env t devEui64 d).1 =
      if savesCounter env t devEui64 d then savedCounter t devEui64 d else t := by
  unfold admitNonce get_sql_joinmote_key_ savesCounter
  cases env.refused (.selectKey .AppKey) with
  | true => rfl
  | false =>
    cases hrow : t.row devEui64 with
    | none => rfl
    | some m =>
      cases hkey : m.AppKey with
      | none =>
        have hnone : m.AppKey.isSome = false := by rw [hkey]; rfl
        simp only [JoinMote.key, hkey]
        exact admit1v0_tables hrow hnone
      | some AppKey =>
        have hsome : m.AppKey.isSome = true := by rw [hkey]; rfl
        simp only [JoinMote.key, hkey]
        exact admit1v1_tables hrow hsome

/-- The tables after a request do not depend on what comes after its counter. -/
theorem parse_rf_join_req_saves (e : Request) (t : Tables) :
    (parse_rf_join_req A W cfg e.network_id e.env e.inJobj t).1 =
      match receive A cfg.myJoinEui64 e.env t e.inJobj with
      | .error _ => t
      | .ok (devEui64, d) =>
        if savesCounter e.env t devEui64 d then savedCounter t devEui64 d else t := by
  unfold parse_rf_join_req
  cases receive A cfg.myJoinEui64 e.env t e.inJobj with
  | error s => rfl
  | ok p =>
    dsimp only
    rw [← admitNonce_tables]
    rcases admitNonce e.env t p.1 p.2 with ⟨t', s | a⟩
    · rfl
    · rfl

/-- A counter that is saved, by the version of the device. -/
theorem savesCounter_cases (h : savesCounter env t devEui64 d = true) :
    (∃ m n, t.row devEui64 = some m ∧ m.AppKey.isSome = true ∧ m.joinNonce = some n ∧
        t.updateCounter false (nonceColumn d.MType) devEui64 =
          some (savedCounter t devEui64 d)) ∨
      ∃ m, t.row devEui64 = some m ∧ m.AppKey = none ∧
        savedCounter t devEui64 d = { t with nonces := (devEui64, d.rxNonce) :: t.nonces } := by
  unfold savesCounter at h
  cases hrow : t.row devEui64 with
  | none => simp [hrow] at h
  | some m =>
    simp only [hrow, Bool.and_eq_true] at h
    cases hkey : m.AppKey with
    | none =>
      right
      refine ⟨m, rfl, hkey, ?_⟩
      unfold savedCounter
      rw [hrow, Option.any_some, hkey, if_neg (by decide)]
    | some AppKey =>
      left
      simp only [hkey, Option.isSome_some, if_true, Bool.and_eq_true] at h
      obtain ⟨-, ⟨⟨⟨-, hn⟩, -⟩, -⟩, hrange⟩ := h
      obtain ⟨n, hn⟩ := Option.isSome_iff_exists.mp hn
      refine ⟨m, n, rfl, by rw [hkey]; rfl, hn, ?_⟩
      unfold Tables.updateCounter savedCounter
      have hfits : ¬(false = true ∨ (t.joinmotes.any fun r =>
          r.eui = devEui64 && r.outOfRange (nonceColumn d.MType)) = true) := by
        rintro (hfalse | hany)
        · cases hfalse
        · rw [hany] at hrange
          cases hrange
      rw [if_neg hfits]
      simp only [hrow, Option.any_some, hkey, Option.isSome_some, if_true]

theorem savedCounter_changes (h : savesCounter env t devEui64 d = true) :
    ¬((savedCounter t devEui64 d).row devEui64 = t.row devEui64 ∧
      (savedCounter t devEui64 d).nonces = t.nonces) := by
  rintro ⟨hrow', hnonces⟩
  rcases savesCounter_cases h with ⟨m, n, hrow, -, hn, hupdate⟩ | ⟨m, -, -, hinsert⟩
  · rw [updateCounter_row hupdate, hrow, Option.map_some, if_pos (row_eui hrow)] at hrow'
    have hjoin := congrArg JoinMote.joinNonce (Option.some.inj hrow')
    have hcounted : (m.increment (nonceColumn d.MType)).joinNonce = some (n + 1) := by
      cases nonceColumn d.MType <;> simp [JoinMote.increment, hn]
    rw [hcounted, hn] at hjoin
    exact absurd (Option.some.inj hjoin) (Nat.succ_ne_self n)
  · rw [hinsert] at hnonces
    exact absurd (congrArg List.length hnonces) (by simp)

theorem answer_used_nonce {s : Server} {e : Request}
    (hrx : receive A cfg.myJoinEui64 e.env s.tables e.inJobj = .ok (devEui64, d))
    (hsql : e.env.refused (.selectKey .AppKey) = false) (hrow : s.tables.row devEui64 = some m)
    (hkey : m.AppKey = none) (hused : (devEui64, d.rxNonce) ∈ s.tables.nonces) :
    answer A W cfg s e = .error (.result .ActivationDisallowed) := by
  have hadm : admitNonce e.env s.tables devEui64 d =
      (s.tables, .error (.result .ActivationDisallowed)) := by
    simp only [admitNonce, get_sql_joinmote_key_, hsql, hrow, JoinMote.key, hkey, admit1v0,
      check_nonce, hused, decide_true, Bool.or_true, if_true, Bool.false_eq_true, if_false]
  simp only [answer, parse_rf_join_req, hrx, hadm]

theorem retry_disallowed {e e' : Request}
    (hrx : receive A cfg.myJoinEui64 e.env t e.inJobj = .ok (devEui64, d))
    (hsaves : savesCounter e.env t devEui64 d = true) (hskip : SkipsNoCounter A cfg (.init t) e)
    (hsql : ∀ u, e'.env.refused u = false)
    (hrx' : receive A cfg.myJoinEui64 e'.env (savedCounter t devEui64 d) e'.inJobj =
      .ok (devEui64, d)) :
    answer A W cfg (.init (savedCounter t devEui64 d)) e' =
      .error (.result .ActivationDisallowed) := by
  rcases savesCounter_cases hsaves with ⟨m, n, hrow, hkey, hn, hupdate⟩ | ⟨m, hrow, hkey, hinsert⟩
  · have hrow' := updateCounter_row hupdate devEui64
    rw [hrow, Option.map_some, if_pos (row_eui hrow)] at hrow'
    obtain ⟨last, hlast, hle⟩ := (hskip devEui64 d m hrx hrow).1 hkey
    have hkey' : (m.increment (nonceColumn d.MType)).AppKey.isSome = true := by
      rw [increment_AppKey]
      exact hkey
    have hn' : (m.increment (nonceColumn d.MType)).joinNonce.isSome = true := by
      rw [increment_joinNonce_isSome, hn]
      rfl
    have hlast' : (m.increment (nonceColumn d.MType)).counter (nonceColumn d.MType) =
        some (last + 1) := by
      rw [increment_counter_self, hlast]
      rfl
    exact answer_disallowed A W cfg hrx' (hsql _) (hsql _) hrow' hkey' hn' hlast' hle
  · have hrow' : (savedCounter t devEui64 d).row devEui64 = some m := by
      rw [hinsert]
      exact hrow
    have hused : (devEui64, d.rxNonce) ∈ (savedCounter t devEui64 d).nonces := by
      rw [hinsert]
      exact List.mem_cons_self
    exact answer_used_nonce hrx' (hsql _) hrow' hkey hused

/-- Whatever the request is answered, for every request and all tables. -/
theorem request_outcome (A : BlockCipher) (W : KeyWrap) (cfg : Config) (e : Request) (t : Tables) :
    RequestOutcome A W cfg e t (parse_rf_join_req A W cfg e.network_id e.env e.inJobj t).1 := by
  have htables : (parse_rf_join_req A W cfg e.network_id e.env e.inJobj t).1 = _ :=
    parse_rf_join_req_saves e t
  have hsaved : ∀ devEui64 d, receive A cfg.myJoinEui64 e.env t e.inJobj = .ok (devEui64, d) →
      savesCounter e.env t devEui64 d = true →
      (parse_rf_join_req A W cfg e.network_id e.env e.inJobj t).1 = savedCounter t devEui64 d := by
    intro devEui64 d hrx hsaves
    rw [htables, hrx]
    exact if_pos hsaves
  constructor
  · intro hnone
    rw [htables]
    cases hrx : receive A cfg.myJoinEui64 e.env t e.inJobj with
    | error s => rfl
    | ok p =>
      dsimp only
      rw [hnone p.1 p.2 hrx, if_neg Bool.false_ne_true]
  · intro devEui64 d hrx hsaves
    rw [hsaved devEui64 d hrx hsaves]
    exact ⟨rfl, savedCounter_changes hsaves⟩
  · intro devEui64 d hrx hsaves hskip e' hsql hrx'
    rw [hsaved devEui64 d hrx hsaves] at hrx' ⊢
    exact retry_disallowed hrx hsaves hskip hsql hrx'

end Lorawan.JoinServer

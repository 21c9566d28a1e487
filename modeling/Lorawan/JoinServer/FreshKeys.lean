import Lorawan.JoinServer.FailedJoins

/-!
# Session keys are fresh (join_server/main.c:92-166, 338-419)

Session keys are derived from a JoinNonce and the nonce of the request. The
JoinNonce of a device with an AppKey is counted with every request that is
admitted, answered or not; a device without one has a random JoinNonce, and no
nonce of its requests is admitted twice.
-/

namespace Lorawan.JoinServer
open Lorawan Lorawan.Backend mtype_e

variable (A : BlockCipher) (W : KeyWrap) (cfg : Config)

/-! ### What the keys of an answer are derived from -/

/-- The pair that `GenerateSessionKey` is called with, and the device it is for. -/
structure KeyInput where
  devEui : ℕ
  OptNeg : Bool
  joinNonce : ℕ
  rxNonce : ℕ
deriving DecidableEq

def keyInput (e : Request) (t : Tables) : Option KeyInput :=
  match receive A cfg.myJoinEui64 e.env t e.inJobj with
  | .error _ => none
  | .ok (devEui64, d) =>
    match (admitNonce e.env t devEui64 d).2 with
    | .error _ => none
    | .ok a => some ⟨devEui64, a.OptNeg, a.joinNonce, d.rxNonce⟩

theorem keyInput_eq {e : Request} {t t' : Tables} {devEui64 : ℕ} {d : Dispatch} {a : Admission}
    (hrx : receive A cfg.myJoinEui64 e.env t e.inJobj = .ok (devEui64, d))
    (hadm : admitNonce e.env t devEui64 d = (t', .ok a)) :
    keyInput A cfg e t = some ⟨devEui64, a.OptNeg, a.joinNonce, d.rxNonce⟩ := by
  unfold keyInput
  simp only [hrx, hadm]

/-- Of an answer that holds an envelope of the AppSKey: the key in it is derived from the pair. -/
theorem answer_keyInput {e : Request} {t t' : Tables} {ans : JoinAnsJson}
    (h : parse_rf_join_req A W cfg e.network_id e.env e.inJobj t = (t', .ok ans)) :
    ∃ k root rfJoinEUI, keyInput A cfg e t = some k ∧
      create_KeyEnvelope W (GenerateSessionKey A k.OptNeg .keyType_AppSKey root k.joinNonce rfJoinEUI
        k.rxNonce e.network_id) cfg.key_envelope_app = some ans.AppSKey := by
  obtain ⟨devEui64, d, a, hrx, hadm, hans⟩ := parse_rf_join_req_ok A W h
  obtain ⟨NwkKey, key, frame, lifetime, -, -, hanswer⟩ := joinAccept_ok A W hans
  obtain ⟨-, h1v1, h1v0⟩ := buildAnswer_ok A W hanswer
  cases hopt : a.OptNeg with
  | true =>
    obtain ⟨s, f, n, -, -, -, -, -, -, happ⟩ := h1v1 hopt
    exact ⟨_, a.AppKey, d.rfJoinEUI, keyInput_eq A cfg hrx hadm, by rw [hopt]; exact happ⟩
  | false =>
    obtain ⟨f, -, -, happ⟩ := h1v0 hopt
    exact ⟨_, NwkKey, d.rfJoinEUI, keyInput_eq A cfg hrx hadm, by rw [hopt]; exact happ⟩

/-! ### Runs -/

/-- The tables, and the pairs of the answers with Success, latest first. -/
structure KeyServer where
  tables : Tables
  used : List KeyInput
deriving DecidableEq

def keyStep (s : KeyServer) (e : Request) : KeyServer :=
  match parse_rf_join_req A W cfg e.network_id e.env e.inJobj s.tables with
  | (t', .ok _) => ⟨t', (keyInput A cfg e s.tables).toList ++ s.used⟩
  | (t', .error _) => ⟨t', s.used⟩

/-- `joinmotes` as the database holds it: `joinNonce` is a `mediumint`. -/
structure StoredTables extends Tables where
  joinNonce_lt : ∀ m ∈ joinmotes, ∀ n ∈ m.joinNonce, n < 2 ^ 24

/-- A later pair for the same device is another one: the JoinNonce of a device with an AppKey has
grown, and the nonce of one without is new. -/
structure Supersedes (k' k : KeyInput) : Prop where
  pair : (k'.joinNonce, k'.rxNonce) ≠ (k.joinNonce, k.rxNonce)
  OptNeg : k'.OptNeg = k.OptNeg
  joinNonce : k'.OptNeg = true → k.joinNonce < k'.joinNonce
  rxNonce : k'.OptNeg = false → k'.rxNonce ≠ k.rxNonce

/-- Any two answers with Success for one device. -/
def KeysFresh (used : List KeyInput) : Prop :=
  used.Pairwise fun k' k => k'.devEui = k.devEui → Supersedes k' k

/-- No key of a device is derived twice under one root key. -/
def KeysDiffer (used : List KeyInput) : Prop :=
  used.Pairwise fun k' k => k'.devEui = k.devEui →
    ∀ key_type root_key rxJoinEUI rxJoinEUI' network_id network_id',
      rxJoinEUI.length = 8 → rxJoinEUI'.length = 8 →
      GenerateSessionKey A k'.OptNeg key_type root_key k'.joinNonce rxJoinEUI' k'.rxNonce
          network_id' ≠
        GenerateSessionKey A k.OptNeg key_type root_key k.joinNonce rxJoinEUI k.rxNonce network_id

/-! ### What the tables know of the answers -/

/-- The JoinNonce of the device has passed the pair's, or `nonces` has the pair's nonce. -/
def Recorded (t : Tables) (k : KeyInput) : Prop :=
  ∃ m, t.row k.devEui = some m ∧ m.AppKey.isSome = k.OptNeg ∧
    (k.OptNeg = true → ∃ n, m.joinNonce = some n ∧ k.joinNonce < n) ∧
    (k.OptNeg = false → (k.devEui, k.rxNonce) ∈ t.nonces)

structure KeysInv (s : KeyServer) : Prop where
  stored : ∀ m ∈ s.tables.joinmotes, ∀ n ∈ m.joinNonce, n < 2 ^ 24
  joinNonce_lt : ∀ k ∈ s.used, k.joinNonce < 2 ^ 24
  rxNonce_lt : ∀ k ∈ s.used, k.rxNonce < 2 ^ 16
  recorded : ∀ k ∈ s.used, Recorded s.tables k
  fresh : KeysFresh s.used

variable {A W cfg} {s : KeyServer} {e : Request} {t t' : Tables} {devEui64 : ℕ} {d : Dispatch}
  {a : Admission} {k : KeyInput}

theorem increment_joinNonce (m : JoinMote) (column : CounterColumn) :
    (m.increment column).joinNonce = m.joinNonce.map (· + 1) := by
  cases column <;> rfl

theorem admit_stored (h : admitNonce e.env t devEui64 d = (t', .ok a))
    (ht : ∀ m ∈ t.joinmotes, ∀ n ∈ m.joinNonce, n < 2 ^ 24) :
    ∀ m ∈ t'.joinmotes, ∀ n ∈ m.joinNonce, n < 2 ^ 24 := by
  rcases admit_ok h with ⟨-, -, -, -, -, -, -, -, hupdate⟩ | ⟨-, -, -, -, -, rfl⟩
  · unfold Tables.updateCounter at hupdate
    split at hupdate
    · cases hupdate
    · rename_i hfits
      obtain rfl := Option.some.inj hupdate
      intro m hm n hn
      obtain ⟨q, hq, rfl⟩ := List.mem_map.mp hm
      split at hn
      · rename_i heui
        rw [increment_joinNonce] at hn
        obtain ⟨j, hj, rfl⟩ := Option.mem_map.mp hn
        have hlt := ht q hq j hj
        have hmax : j ≠ 2 ^ 24 - 1 := by
          rintro rfl
          apply hfits
          right
          rw [List.any_eq_true]
          exact ⟨q, hq, by simp [heui, JoinMote.outOfRange, Option.mem_def.mp hj]⟩
        omega
      · exact ht q hq n hn
  · unfold Tables.insertNonce
    split <;> exact ht

theorem admit_recorded (h : admitNonce e.env t devEui64 d = (t', .ok a)) (hk : Recorded t k) :
    Recorded t' k := by
  obtain ⟨m, hrow, hversion, hcounted, hused⟩ := hk
  rcases admit_ok h with ⟨-, -, -, -, -, -, -, -, hupdate⟩ | ⟨-, -, -, -, -, rfl⟩
  · have hrow' := updateCounter_row hupdate k.devEui
    rw [hrow, Option.map_some] at hrow'
    refine ⟨_, hrow', ?_, ?_, ?_⟩
    · split
      · rw [increment_AppKey]
        exact hversion
      · exact hversion
    · intro hopt
      obtain ⟨n, hn, hlt⟩ := hcounted hopt
      split
      · rw [increment_joinNonce, hn]
        exact ⟨n + 1, rfl, by omega⟩
      · exact ⟨n, hn, hlt⟩
    · intro hopt
      rw [updateCounter_nonces hupdate]
      exact hused hopt
  · refine ⟨m, ?_, hversion, hcounted, fun hopt => insertNonce_mono (hused hopt)⟩
    rw [insertNonce_row]
    exact hrow

/-! ### One request -/

/-- What a request does: nothing, or an admission, with or without an answer of Success. -/
theorem keyStep_cases (A : BlockCipher) (W : KeyWrap) (cfg : Config) (s : KeyServer) (e : Request) :
    keyStep A W cfg s e = s ∨
    ∃ devEui64 d a, receive A cfg.myJoinEui64 e.env s.tables e.inJobj = .ok (devEui64, d) ∧
      admitNonce e.env s.tables devEui64 d = ((keyStep A W cfg s e).tables, .ok a) ∧
      ((keyStep A W cfg s e).used = s.used ∨ (keyStep A W cfg s e).used =
        ⟨devEui64, a.OptNeg, a.joinNonce, d.rxNonce⟩ :: s.used) := by
  rcases hparse : parse_rf_join_req A W cfg e.network_id e.env e.inJobj s.tables with ⟨t', r | ans⟩
  · have hstep : keyStep A W cfg s e = ⟨t', s.used⟩ := by
      unfold keyStep
      rw [hparse]
    rw [hstep]
    have htables := parse_rf_join_req_tables A W cfg e.network_id e.env e.inJobj s.tables
    rw [hparse] at htables
    rcases htables with hsame | ⟨devEui64, d, a, hrx, hadm⟩
    · left
      obtain rfl : t' = s.tables := hsame
      rfl
    · exact Or.inr ⟨devEui64, d, a, hrx, hadm, Or.inl rfl⟩
  · obtain ⟨devEui64, d, a, hrx, hadm, -⟩ := parse_rf_join_req_ok A W hparse
    have hstep : keyStep A W cfg s e =
        ⟨t', ⟨devEui64, a.OptNeg, a.joinNonce, d.rxNonce⟩ :: s.used⟩ := by
      unfold keyStep
      rw [hparse, keyInput_eq A cfg hrx hadm]
      rfl
    rw [hstep]
    exact Or.inr ⟨devEui64, d, a, hrx, hadm, Or.inr rfl⟩

theorem rxNonce_lt_of_receive
    (hrx : receive A cfg.myJoinEui64 e.env t e.inJobj = .ok (devEui64, d)) : d.rxNonce < 2 ^ 16 := by
  obtain ⟨rx, -, -, hd, -⟩ := receive_ok hrx
  have hlt : ∀ i, Octets.toNat (rx.bytes i 2) < 2 ^ 16 := by
    intro i
    have h := Octets.toNat_lt (rx.bytes i 2)
    simpa [RxFrame.bytes] using h
  rcases dispatch_ok hd with ⟨-, -, key, rfl⟩ | ⟨-, -, rfl⟩
  · exact hlt 17
  · exact hlt 13

theorem admit_records_pair (h : admitNonce e.env t devEui64 d = (t', .ok a))
    (hinsert : e.env.refused .insertNonce = false) :
    Recorded t' ⟨devEui64, a.OptNeg, a.joinNonce, d.rxNonce⟩ := by
  rcases admit_ok h with ⟨m, AppKey, hrow, hkey, -, hn, hopt, -, hupdate⟩ |
    ⟨m, hrow, hkey, -, rfl, rfl⟩
  · have hrow' := updateCounter_row hupdate devEui64
    rw [hrow, Option.map_some, if_pos (row_eui hrow)] at hrow'
    refine ⟨_, hrow', ?_, ?_, ?_⟩
    · rw [increment_AppKey, hkey, hopt]
      rfl
    · intro _
      rw [increment_joinNonce, hn]
      exact ⟨a.joinNonce + 1, rfl, Nat.lt_succ_self _⟩
    · intro hfalse
      rw [hopt] at hfalse
      cases hfalse
  · refine ⟨m, ?_, ?_, ?_, ?_⟩
    · rw [insertNonce_row]
      exact hrow
    · rw [hkey]
      rfl
    · intro htrue
      cases htrue
    · intro _
      rw [hinsert]
      exact insertNonce_mem t devEui64 d.rxNonce

theorem admit_supersedes (h : admitNonce e.env t devEui64 d = (t', .ok a)) (hk : Recorded t k)
    (heui : devEui64 = k.devEui) :
    Supersedes ⟨devEui64, a.OptNeg, a.joinNonce, d.rxNonce⟩ k := by
  obtain ⟨m, hrow, hversion, hcounted, hused⟩ := hk
  rw [← heui] at hrow hused
  rcases admit_ok h with ⟨m', AppKey, hrow', hkey, -, hn, hopt, -⟩ | ⟨m', hrow', hkey, hnew, rfl, -⟩
  · obtain rfl := Option.some.inj (hrow.symm.trans hrow')
    have hsame : k.OptNeg = true := by
      rw [← hversion, hkey]
      rfl
    obtain ⟨n, hn', hlt⟩ := hcounted hsame
    obtain rfl := Option.some.inj (hn.symm.trans hn')
    refine ⟨?_, hopt.trans hsame.symm, fun _ => hlt, ?_⟩
    · intro heq
      exact absurd (congrArg Prod.fst heq) (Nat.ne_of_gt hlt)
    · intro hfalse
      rw [hopt] at hfalse
      cases hfalse
  · obtain rfl := Option.some.inj (hrow.symm.trans hrow')
    have hsame : k.OptNeg = false := by
      rw [← hversion, hkey]
      rfl
    have hne : d.rxNonce ≠ k.rxNonce := by
      intro heq
      rw [heq] at hnew
      exact hnew (hused hsame)
    refine ⟨?_, hsame.symm, ?_, fun _ => hne⟩
    · intro heq
      exact hne (congrArg Prod.snd heq)
    · intro htrue
      cases htrue

theorem keysInv_init (t : StoredTables) : KeysInv ⟨t.toTables, []⟩ where
  stored := t.joinNonce_lt
  joinNonce_lt := by simp
  rxNonce_lt := by simp
  recorded := by simp
  fresh := List.Pairwise.nil

theorem keysInv_step (hs : KeysInv s) (hinsert : e.env.refused .insertNonce = false) :
    KeysInv (keyStep A W cfg s e) := by
  rcases keyStep_cases A W cfg s e with hsame | ⟨devEui64, d, a, hrx, hadm, hused⟩
  · rw [hsame]
    exact hs
  · have hstored := admit_stored hadm hs.stored
    have hold : ∀ k ∈ s.used, Recorded (keyStep A W cfg s e).tables k :=
      fun k hk => admit_recorded hadm (hs.recorded k hk)
    rcases hused with hused | hused
    · constructor
      · exact hstored
      · rw [hused]
        exact hs.joinNonce_lt
      · rw [hused]
        exact hs.rxNonce_lt
      · rw [hused]
        exact hold
      · rw [hused]
        exact hs.fresh
    · have hnonce : a.joinNonce < 2 ^ 24 := by
        rcases admit_ok hadm with ⟨m, -, hrow, -, -, hn, -⟩ | ⟨-, -, -, -, rfl, -⟩
        · exact hs.stored m (List.mem_of_find?_eq_some hrow) _ hn
        · exact Nat.mod_lt _ (by norm_num)
      constructor
      · exact hstored
      · rw [hused]
        exact List.forall_mem_cons.mpr ⟨hnonce, hs.joinNonce_lt⟩
      · rw [hused]
        exact List.forall_mem_cons.mpr ⟨rxNonce_lt_of_receive hrx, hs.rxNonce_lt⟩
      · rw [hused]
        exact List.forall_mem_cons.mpr ⟨admit_records_pair hadm hinsert, hold⟩
      · rw [hused]
        refine List.pairwise_cons.mpr ⟨?_, hs.fresh⟩
        intro k hk heui
        exact admit_supersedes hadm (hs.recorded k hk) heui

/-! ### Every run -/

theorem keysInv_run (A : BlockCipher) (W : KeyWrap) (cfg : Config) (t : StoredTables)
    {es : List Request} (hsql : ∀ e ∈ es, ∀ u, e.env.refused u = false) :
    KeysInv (Machine.run (keyStep A W cfg) ⟨t.toTables, []⟩ es) := by
  have hquiet : ∀ e ∈ es, e.env.refused .insertNonce = false :=
    fun e he => hsql e he .insertNonce
  exact Machine.run_invariant (keyStep A W cfg) (fun s e hs hinsert => keysInv_step hs hinsert)
    (keysInv_init t) (Machine.along_of_forall _ _ hquiet)

theorem sessionKeyInput_inj {OptNeg : Bool} {key_type : keyType_e} {n n' r r' nid nid' : ℕ}
    {eui eui' : Octets} (hlen : eui.length = 8) (hlen' : eui'.length = 8)
    (h : sessionKeyInput OptNeg key_type n eui r nid =
      sessionKeyInput OptNeg key_type n' eui' r' nid') :
    n % 2 ^ 24 = n' % 2 ^ 24 ∧ r % 2 ^ 16 = r' % 2 ^ 16 := by
  have h24 : 256 ^ 3 = 2 ^ 24 := by norm_num
  have h16 : 256 ^ 2 = 2 ^ 16 := by norm_num
  have hmiddle : (if OptNeg then eui else Octets.ofNat 3 nid).length =
      (if OptNeg then eui' else Octets.ofNat 3 nid').length := by
    cases OptNeg with
    | false => simp
    | true => exact hlen.trans hlen'.symm
  unfold sessionKeyInput at h
  dsimp only at h
  obtain ⟨hinput, -⟩ := List.append_inj h (by simp [hmiddle])
  obtain ⟨hrest, hr⟩ := List.append_inj hinput (by simp [hmiddle])
  obtain ⟨hfirst, -⟩ := List.append_inj hrest (by simp)
  obtain ⟨-, hn⟩ := List.append_inj hfirst rfl
  rw [← h24, ← h16]
  exact ⟨Octets.ofNat_inj hn, Octets.ofNat_inj hr⟩

theorem sessionKeyInput_length (OptNeg : Bool) (key_type : keyType_e) (n r nid : ℕ) {eui : Octets}
    (hlen : eui.length = 8) :
    (sessionKeyInput OptNeg key_type n eui r nid).length = 16 := by
  cases OptNeg <;> simp [sessionKeyInput, hlen]

theorem keysDiffer_of_inv (hs : KeysInv s) : KeysDiffer A s.used := by
  have hpair := List.Pairwise.and_mem.mp hs.fresh
  refine hpair.imp ?_
  rintro k' k ⟨hk', hk, hfresh⟩ heui key_type root rxJoinEUI rxJoinEUI' nid nid' hlen hlen' hkey
  have hnew := hfresh heui
  rw [hnew.OptNeg] at hkey
  have hinput := A.encrypt_inj root (sessionKeyInput_length _ _ _ _ _ hlen')
    (sessionKeyInput_length _ _ _ _ _ hlen) hkey
  obtain ⟨hn, hr⟩ := sessionKeyInput_inj hlen' hlen hinput
  rw [Nat.mod_eq_of_lt (hs.joinNonce_lt k' hk'), Nat.mod_eq_of_lt (hs.joinNonce_lt k hk)] at hn
  rw [Nat.mod_eq_of_lt (hs.rxNonce_lt k' hk'), Nat.mod_eq_of_lt (hs.rxNonce_lt k hk)] at hr
  exact hnew.pair (by rw [hn, hr])

/-- Over every sequence of requests whose statements all succeed, no two answers with Success for
one device are derived from the same pair, nor have they a key in common. -/
theorem session_keys_fresh (A : BlockCipher) (W : KeyWrap) (cfg : Config) (t : StoredTables)
    (es : List Request) (hsql : ∀ e ∈ es, ∀ u, e.env.refused u = false) :
    let s := Machine.run (keyStep A W cfg) ⟨t.toTables, []⟩ es
    KeysFresh s.used ∧ KeysDiffer A s.used ∧
      ∀ k ∈ s.used, k.joinNonce < 2 ^ 24 ∧ k.rxNonce < 2 ^ 16 := by
  have hs := keysInv_run A W cfg t hsql
  exact ⟨hs.fresh, keysDiffer_of_inv hs, fun k hk => ⟨hs.joinNonce_lt k hk, hs.rxNonce_lt k hk⟩⟩

/-- After two joins of the device `m`. -/
def twoJoins (m : JoinMote) : KeyServer :=
  Machine.run (keyStep BlockCipher.xorKey noWrap plainConfig) ⟨⟨[m], []⟩, []⟩
    [joinRequest 1, joinRequest 2]

/-- Two joins of a device with an AppKey, and of one without. -/
theorem two_joins_fresh :
    ((twoJoins mote1v1).used.map (·.rxNonce) = [2, 1] ∧ KeysFresh (twoJoins mote1v1).used) ∧
      (twoJoins mote1v0).used.map (·.rxNonce) = [2, 1] ∧ KeysFresh (twoJoins mote1v0).used := by
  have hused : ∀ m ∈ [mote1v1, mote1v0], (twoJoins m).used.map (·.rxNonce) = [2, 1] := by
    decide +kernel
  have hlt : ∀ m ∈ [mote1v1, mote1v0], ∀ m' ∈ [m], ∀ n ∈ m'.joinNonce, n < 2 ^ 24 := by decide
  have hquiet : ∀ e ∈ [joinRequest 1, joinRequest 2], ∀ u, e.env.refused u = false := by
    intro e he u
    rcases List.mem_cons.mp he with rfl | he
    · rfl
    · obtain rfl := List.mem_singleton.mp he
      rfl
  have hfresh : ∀ m ∈ [mote1v1, mote1v0], KeysFresh (twoJoins m).used := by
    intro m hm
    exact (session_keys_fresh BlockCipher.xorKey noWrap plainConfig
      ⟨⟨[m], []⟩, hlt m hm⟩ [joinRequest 1, joinRequest 2] hquiet).1
  exact ⟨⟨hused mote1v1 (by simp), hfresh mote1v1 (by simp)⟩,
    hused mote1v0 (by simp), hfresh mote1v0 (by simp)⟩

end Lorawan.JoinServer

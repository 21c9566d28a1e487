import Lorawan.JoinServer.Accept
import Lorawan.Lib.Machine

/-!
# Replay protection of the join server

The join server as a machine: each event is one request, handled by
`parse_rf_join_req`. The history of counters that led to a join accept is kept
beside the tables, for the statements only.

For a device with an AppKey the `last` column is incremented by one, whatever
counter was received (main.c:386). The column therefore bounds the accepted
counters as long as no request skips a value.
-/

namespace Lorawan.JoinServer
open Lorawan Lorawan.Backend mtype_e

variable (A : BlockCipher) (W : KeyWrap) (cfg : Config)

/-! ### Counters -/

/-- The counters of join requests and of rejoin requests of type 0/2 and 1. -/
inductive CounterKind
  | DevNonce
  | RJcount0
  | RJcount1
deriving DecidableEq, Repr

structure Counter where
  devEui : ℕ
  kind : CounterKind
  value : ℕ
deriving DecidableEq, Repr

/-- One message to the join server, with what happens around its handling. -/
structure Request where
  network_id : ℕ
  env : Env
  inJobj : JoinReqJson

/-- The counter a frame carries, by the layout of its type (lorawan.h:51-77). -/
def frameCounter (devEui64 : ℕ) (rx : RxFrame) : Option Counter :=
  match MType (rx.byte 0) with
  | MTYPE_JOIN_REQ => some ⟨devEui64, .DevNonce, Octets.toNat (rx.bytes 17 2)⟩
  | MTYPE_REJOIN_REQ =>
    if rx.byte 1 = 1 then some ⟨devEui64, .RJcount1, Octets.toNat (rx.bytes 18 2)⟩
    else if rx.byte 1 = 0 ∨ rx.byte 1 = 2 then
      some ⟨devEui64, .RJcount0, Octets.toNat (rx.bytes 13 2)⟩
    else none
  | _ => none

def Request.counter (e : Request) : Option Counter :=
  match receivePHYPayload e.env e.inJobj, receiveDevEUI e.env e.inJobj with
  | .ok rx, .ok devEui64 => frameCounter devEui64 rx
  | _, _ => none

/-- The column that stands for the accepted counters of a kind. -/
def CounterKind.column : CounterKind → CounterColumn
  | .DevNonce => .DevNonce_last
  | _ => .RJcount1_last

def counterKind : mtype_e → CounterKind
  | MTYPE_REJOIN_REQ => .RJcount0
  | _ => .DevNonce

theorem counterKind_column (mt : mtype_e) : (counterKind mt).column = nonceColumn mt := by
  cases mt <;> rfl

theorem receive_counter {e : Request} {t : Tables} {devEui64 : ℕ} {d : Dispatch}
    (h : receive A cfg.myJoinEui64 e.env t e.inJobj = .ok (devEui64, d)) :
    e.counter = some ⟨devEui64, counterKind d.MType, d.rxNonce⟩ := by
  obtain ⟨rx, hrx, heui, hd, -⟩ := receive_ok h
  simp only [Request.counter, hrx, heui, frameCounter]
  rcases dispatch_ok hd with ⟨hmt, -, key, rfl⟩ | ⟨hmt, htype, rfl⟩
  · simp only [hmt, counterKind]
  · have h1 : rx.byte 1 ≠ 1 := by
      intro h1
      rw [h1] at htype
      exact absurd htype (by decide)
    simp only [hmt, h1, htype, if_true, if_false, counterKind]

/-! ### The machine -/

/-- The tables, and the counters that led to a join accept, latest first. -/
structure Server where
  tables : Tables
  accepted : List Counter

def Server.init (t : Tables) : Server := ⟨t, []⟩

def answer (s : Server) (e : Request) : Except Stop JoinAnsJson :=
  (parse_rf_join_req A W cfg e.network_id e.env e.inJobj s.tables).2

def step (s : Server) (e : Request) : Server :=
  match parse_rf_join_req A W cfg e.network_id e.env e.inJobj s.tables with
  | (t', .ok _) => ⟨t', e.counter.toList ++ s.accepted⟩
  | (t', .error _) => ⟨t', s.accepted⟩

/-- What one request can do: nothing, or count as admitted, with or without a join accept. -/
theorem step_cases (s : Server) (e : Request) :
    step A W cfg s e = s ∨
    ∃ devEui64 d a, receive A cfg.myJoinEui64 e.env s.tables e.inJobj = .ok (devEui64, d) ∧
      admitNonce e.env s.tables devEui64 d = ((step A W cfg s e).tables, .ok a) ∧
      ((step A W cfg s e).accepted = s.accepted ∨
        (step A W cfg s e).accepted =
          ⟨devEui64, counterKind d.MType, d.rxNonce⟩ :: s.accepted) := by
  unfold step parse_rf_join_req
  cases hrx : receive A cfg.myJoinEui64 e.env s.tables e.inJobj with
  | error r => exact Or.inl rfl
  | ok p =>
    obtain ⟨devEui64, d⟩ := p
    rcases hadm : admitNonce e.env s.tables devEui64 d with ⟨t', r | a⟩
    · left
      simp only [hadm, admit_error hadm]
    · right
      refine ⟨devEui64, d, a, rfl, ?_⟩
      simp only [hadm]
      cases joinAccept A W cfg e.network_id e.env t' devEui64 d a e.inJobj with
      | error r => exact ⟨rfl, Or.inl rfl⟩
      | ok ans =>
        refine ⟨rfl, Or.inr ?_⟩
        simp only [receive_counter A cfg hrx, Option.toList_some, List.cons_append,
          List.nil_append]

/-! ### The law -/

/-- No counter value was accepted twice, and a device with an AppKey is refused every
counter that does not exceed all accepted ones of its kind. -/
structure ReplayProtected (s : Server) : Prop where
  once : s.accepted.Nodup
  disallowed : ∀ (e : Request) (devEui64 : ℕ) (d : Dispatch) (m : JoinMote) (c : Counter),
    receive A cfg.myJoinEui64 e.env s.tables e.inJobj = .ok (devEui64, d) →
    e.env.refused (.selectKey .AppKey) = false → e.env.refused .selectCounter = false →
    s.tables.row devEui64 = some m → m.AppKey.isSome →
    c ∈ s.accepted → c.devEui = devEui64 → c.kind = counterKind d.MType → d.rxNonce ≤ c.value →
    answer A W cfg s e = .error (.result .ActivationDisallowed)

/-- The request skips no counter value: with an AppKey, a request that passed the checks of
the frame carries at most the successor of its column; without one, the `INSERT` that
records its counter is not refused. -/
def SkipsNoCounter (s : Server) (e : Request) : Prop :=
  ∀ devEui64 d m, receive A cfg.myJoinEui64 e.env s.tables e.inJobj = .ok (devEui64, d) →
    s.tables.row devEui64 = some m →
    (m.AppKey.isSome → ∃ last, m.counter (nonceColumn d.MType) = some last ∧
      d.rxNonce ≤ last + 1) ∧
    (m.AppKey = none → e.env.refused .insertNonce = false)

/-! ### The tables remember what was accepted -/

/-- The counter is bounded by its column, or stands in `nonces`. -/
def Remembered (t : Tables) (c : Counter) : Prop :=
  ∃ m, t.row c.devEui = some m ∧
    (m.AppKey.isSome → m.joinNonce.isSome ∧
      ∃ last, m.counter c.kind.column = some last ∧ c.value ≤ last) ∧
    (m.AppKey = none → (c.devEui, c.value) ∈ t.nonces)

theorem increment_remembers (m : JoinMote) (column k : CounterColumn) {v last : ℕ}
    (h : m.counter k = some last) (hv : v ≤ last) :
    ∃ last', (m.increment column).counter k = some last' ∧ v ≤ last' := by
  by_cases hk : column = k
  · subst hk
    exact ⟨last + 1, by rw [increment_counter_self, h, Option.map_some], by omega⟩
  · exact ⟨last, by rw [increment_counter_other m hk, h], hv⟩

theorem increment_joinNonce_isSome (m : JoinMote) (column : CounterColumn) :
    (m.increment column).joinNonce.isSome = m.joinNonce.isSome := by
  cases column <;> simp only [JoinMote.increment, Option.isSome_map]

theorem increment_AppKey (m : JoinMote) (column : CounterColumn) :
    (m.increment column).AppKey = m.AppKey := increment_key m column .AppKey

theorem remembered_update {t t' : Tables} {refused : Bool} {column : CounterColumn} {eui : ℕ}
    (h : t.updateCounter refused column eui = some t') {c : Counter} (hc : Remembered t c) :
    Remembered t' c := by
  obtain ⟨m, hrow, h1v1, h1v0⟩ := hc
  have hrow' := updateCounter_row h c.devEui
  have hnonces := updateCounter_nonces h
  rw [hrow, Option.map_some] at hrow'
  by_cases heui : m.eui = eui
  · rw [if_pos heui] at hrow'
    refine ⟨m.increment column, hrow', ?_, ?_⟩
    · intro hkey
      rw [increment_AppKey] at hkey
      obtain ⟨hn, last, hlast, hle⟩ := h1v1 hkey
      exact ⟨by rw [increment_joinNonce_isSome]; exact hn,
        increment_remembers m column c.kind.column hlast hle⟩
    · intro hkey
      rw [increment_AppKey] at hkey
      rw [hnonces]
      exact h1v0 hkey
  · rw [if_neg heui] at hrow'
    exact ⟨m, hrow', h1v1, fun hkey => by rw [hnonces]; exact h1v0 hkey⟩

theorem remembered_insert {t : Tables} {refused : Bool} {eui DevNonce : ℕ} {c : Counter}
    (hc : Remembered t c) : Remembered (t.insertNonce refused eui DevNonce) c := by
  obtain ⟨m, hrow, h1v1, h1v0⟩ := hc
  refine ⟨m, ?_, h1v1, fun hkey => insertNonce_mono (h1v0 hkey)⟩
  rw [insertNonce_row]
  exact hrow

theorem admit_remembers {env : Env} {t t' : Tables} {devEui64 : ℕ} {d : Dispatch} {a : Admission}
    (h : admitNonce env t devEui64 d = (t', .ok a)) {c : Counter} (hc : Remembered t c) :
    Remembered t' c := by
  rcases admit_ok h with ⟨m, AppKey, -, -, -, -, -, -, hup⟩ | ⟨m, -, -, -, -, rfl⟩
  · exact remembered_update hup hc
  · exact remembered_insert hc

theorem admit_fresh {env : Env} {t t' : Tables} {devEui64 : ℕ} {d : Dispatch} {a : Admission}
    (h : admitNonce env t devEui64 d = (t', .ok a)) :
    ¬Remembered t ⟨devEui64, counterKind d.MType, d.rxNonce⟩ := by
  rintro ⟨m, hrow, h1v1, h1v0⟩
  rcases admit_ok h with ⟨m', AppKey, hrow', hkey, hlt, -⟩ | ⟨m', hrow', hkey, hnew, -⟩
  · obtain rfl := Option.some.inj (hrow.symm.trans hrow')
    obtain ⟨-, last, hlast, hle⟩ := h1v1 (by rw [hkey]; rfl)
    rw [counterKind_column] at hlast
    rw [hlast, Option.getD_some] at hlt
    exact absurd hle (by simp only; omega)
  · obtain rfl := Option.some.inj (hrow.symm.trans hrow')
    exact hnew (h1v0 hkey)

theorem admit_records {s : Server} {e : Request} {t' : Tables} {devEui64 : ℕ} {d : Dispatch}
    {a : Admission} (hc : SkipsNoCounter A cfg s e)
    (hrx : receive A cfg.myJoinEui64 e.env s.tables e.inJobj = .ok (devEui64, d))
    (h : admitNonce e.env s.tables devEui64 d = (t', .ok a)) :
    Remembered t' ⟨devEui64, counterKind d.MType, d.rxNonce⟩ := by
  rcases admit_ok h with ⟨m, AppKey, hrow, hkey, -, hn, -, -, hup⟩ | ⟨m, hrow, hkey, -, -, rfl⟩
  · obtain ⟨hskip, -⟩ := hc devEui64 d m hrx hrow
    obtain ⟨last, hlast, hle⟩ := hskip (by rw [hkey]; rfl)
    have hrow' := updateCounter_row hup devEui64
    rw [hrow, Option.map_some, if_pos (row_eui hrow)] at hrow'
    refine ⟨m.increment (nonceColumn d.MType), hrow', ?_, ?_⟩
    · intro _
      refine ⟨by rw [increment_joinNonce_isSome, hn]; rfl, last + 1, ?_, hle⟩
      rw [counterKind_column, increment_counter_self, hlast, Option.map_some]
    · intro hnone
      rw [increment_AppKey, hkey] at hnone
      exact absurd hnone (by simp)
  · obtain ⟨-, hins⟩ := hc devEui64 d m hrx hrow
    rw [hins hkey]
    refine ⟨m, by rw [insertNonce_row]; exact hrow, ?_, fun _ => insertNonce_mem ..⟩
    intro hsome
    rw [hkey] at hsome
    exact absurd hsome (by simp)

/-! ### Runs -/

/-- The invariant of the runs: the tables remember every accepted counter, once. -/
structure History (s : Server) : Prop where
  once : s.accepted.Nodup
  remembered : ∀ c ∈ s.accepted, Remembered s.tables c

theorem history_init (t : Tables) : History (Server.init t) :=
  ⟨List.nodup_nil, fun _ hc => absurd hc List.not_mem_nil⟩

theorem history_step (s : Server) (e : Request) (hs : History s)
    (hc : SkipsNoCounter A cfg s e) : History (step A W cfg s e) := by
  rcases step_cases A W cfg s e with hsame | ⟨devEui64, d, a, hrx, hadm, hacc⟩
  · rw [hsame]
    exact hs
  · have hold : ∀ c ∈ s.accepted, Remembered (step A W cfg s e).tables c :=
      fun c hmem => admit_remembers hadm (hs.remembered c hmem)
    rcases hacc with hacc | hacc
    · exact ⟨by rw [hacc]; exact hs.once, by rw [hacc]; exact hold⟩
    · refine ⟨?_, ?_⟩
      · rw [hacc, List.nodup_cons]
        exact ⟨fun hmem => admit_fresh hadm (hs.remembered _ hmem), hs.once⟩
      · rw [hacc]
        intro c hmem
        rcases List.mem_cons.mp hmem with rfl | hmem
        · exact admit_records A cfg hc hrx hadm
        · exact hold c hmem

/-- The answer to a request of a device with an AppKey whose counter its column reaches. -/
theorem answer_disallowed {s : Server} {e : Request} {devEui64 : ℕ} {d : Dispatch} {m : JoinMote}
    {last : ℕ} (hrx : receive A cfg.myJoinEui64 e.env s.tables e.inJobj = .ok (devEui64, d))
    (hkeySql : e.env.refused (.selectKey .AppKey) = false)
    (hsql : e.env.refused .selectCounter = false)
    (hrow : s.tables.row devEui64 = some m) (hkey : m.AppKey.isSome) (hn : m.joinNonce.isSome)
    (hlast : m.counter (nonceColumn d.MType) = some last) (hle : d.rxNonce ≤ last) :
    answer A W cfg s e = .error (.result .ActivationDisallowed) := by
  obtain ⟨AppKey, hAppKey⟩ := Option.isSome_iff_exists.mp hkey
  obtain ⟨n, hjoin⟩ := Option.isSome_iff_exists.mp hn
  have hadm : admitNonce e.env s.tables devEui64 d =
      (s.tables, .error (.result .ActivationDisallowed)) := by
    simp only [admitNonce, get_sql_joinmote_key_, hkeySql, hrow, JoinMote.key, hAppKey, admit1v1, hsql,
      hjoin, hlast, Option.getD_some, hle, if_true, Bool.false_eq_true, if_false]
  simp only [answer, parse_rf_join_req, hrx, hadm]

theorem history_protects {s : Server} (hs : History s) : ReplayProtected A W cfg s := by
  refine ⟨hs.once, ?_⟩
  intro e devEui64 d m c hrx hkeySql hsql hrow hkey hmem heui hkind hle
  obtain ⟨m', hrow', h1v1, -⟩ := hs.remembered c hmem
  rw [heui] at hrow'
  obtain rfl := Option.some.inj (hrow.symm.trans hrow')
  obtain ⟨hn, last, hlast, hle'⟩ := h1v1 hkey
  rw [hkind, counterKind_column] at hlast
  exact answer_disallowed A W cfg hrx hkeySql hsql hrow hkey hn hlast (by omega)

/-- In every run whose requests skip no counter value, every state reached is protected
against replay. -/
theorem replay_protected_of_no_skip (t : Tables) (es : List Request)
    (h : Machine.Along (step A W cfg) (SkipsNoCounter A cfg) (Server.init t) es) :
    ReplayProtected A W cfg (Machine.run (step A W cfg) (Server.init t) es) :=
  history_protects A W cfg
    (Machine.run_invariant (step A W cfg) (history_step A W cfg) (history_init t) h)

/-! ### A device that skips values -/

/-- A LoRaWAN 1.1 device, its counters as the web page of the join server leaves them. -/
def mote1v1 : JoinMote where
  eui := 2
  NwkKey := some (List.replicate 16 0x11)
  AppKey := some (List.replicate 16 0x22)
  RJcount1_last := some 0
  DevNonce_last := some 0
  JSIntKey := some (List.replicate 16 0x33)
  JSEncKey := some (List.replicate 16 0x44)
  Lifetime := 3600
  joinNonce := some 0

def joinFrame (DevNonce : ℕ) : Octets :=
  let msg := [mhdr MTYPE_JOIN_REQ] ++ Octets.ofNat 8 1 ++ Octets.ofNat 8 2 ++
    Octets.ofNat 2 DevNonce
  msg ++ LoRa_GenerateJoinFrameIntegrityCode BlockCipher.xorKey (List.replicate 16 0x11) msg

def joinRequest (DevNonce : ℕ) : Request where
  network_id := 0x13
  env := quietEnv
  inJobj := {
    PHYPayload := some (.string (Text.printOctets (joinFrame DevNonce)))
    DevEUI := some (.string (Text.print 16 2))
    DevAddr := some (.string (Text.print 16 0x26000001))
    DLSettings := some (.string (Text.print2 0x02))
    RxDelay := some (.int 1)
    CFList := none }

/-- The column goes from 0 to 1 when DevNonce 5 is accepted, so 5 is accepted again. -/
theorem skipped_DevNonce_accepted_twice :
    ¬ReplayProtected BlockCipher.xorKey noWrap plainConfig
      (Machine.run (step BlockCipher.xorKey noWrap plainConfig) (.init ⟨[mote1v1], []⟩)
        [joinRequest 5, joinRequest 5]) := by
  intro h
  have hlog : (Machine.run (step BlockCipher.xorKey noWrap plainConfig) (.init ⟨[mote1v1], []⟩)
      [joinRequest 5, joinRequest 5]).accepted = [⟨2, .DevNonce, 5⟩, ⟨2, .DevNonce, 5⟩] := by
    decide +kernel
  have honce := h.once
  rw [hlog] at honce
  exact absurd honce (by decide)

theorem skipsNoCounter_of_receive {s : Server} {e : Request} {devEui64 last : ℕ} {d : Dispatch}
    {m : JoinMote} (hrx : receive A cfg.myJoinEui64 e.env s.tables e.inJobj = .ok (devEui64, d))
    (hrow : s.tables.row devEui64 = some m) (hkey : m.AppKey.isSome)
    (hlast : m.counter (nonceColumn d.MType) = some last) (hle : d.rxNonce ≤ last + 1) :
    SkipsNoCounter A cfg s e := by
  intro devEui64' d' m' hrx' hrow'
  obtain ⟨rfl, rfl⟩ := Prod.mk.inj (Except.ok.inj (hrx.symm.trans hrx'))
  obtain rfl := Option.some.inj (hrow.symm.trans hrow')
  refine ⟨fun _ => ⟨last, hlast, hle⟩, fun hnone => ?_⟩
  rw [hnone] at hkey
  exact absurd hkey (by simp)

/-- DevNonce 1, the same again, then 2: what a device sends whose join accept was lost. -/
theorem replay_protected_consecutive :
    ReplayProtected BlockCipher.xorKey noWrap plainConfig
      (Machine.run (step BlockCipher.xorKey noWrap plainConfig) (.init ⟨[mote1v1], []⟩)
        [joinRequest 1, joinRequest 1, joinRequest 2]) := by
  have hdispatch (s : Server) (n : ℕ) (m : JoinMote) (last : ℕ)
      (hrx : receive BlockCipher.xorKey 1 quietEnv s.tables (joinRequest n).inJobj =
        .ok (2, ⟨MTYPE_JOIN_REQ, 0xff, n, Octets.ofNat 8 1, some (List.replicate 16 0x11)⟩))
      (hrow : s.tables.row 2 = some m) (hkey : m.AppKey.isSome)
      (hlast : m.DevNonce_last = some last) (hle : n ≤ last + 1) :
      SkipsNoCounter BlockCipher.xorKey plainConfig s (joinRequest n) :=
    skipsNoCounter_of_receive BlockCipher.xorKey plainConfig hrx hrow hkey hlast hle
  apply replay_protected_of_no_skip
  refine ⟨hdispatch _ 1 mote1v1 0 ?_ ?_ rfl rfl (by decide),
    hdispatch _ 1 { mote1v1 with DevNonce_last := some 1, joinNonce := some 1 } 1
      ?_ ?_ rfl rfl (by decide),
    hdispatch _ 2 { mote1v1 with DevNonce_last := some 1, joinNonce := some 1 } 1
      ?_ ?_ rfl rfl (by decide), trivial⟩
  all_goals decide +kernel

end Lorawan.JoinServer

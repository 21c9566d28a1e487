import Mathlib.Logic.Function.Basic
import Lorawan.Lib.FirstRow
import Lorawan.JoinServer.Device
import Lorawan.JoinServer.FreshKeys

/-!
# The join server's web page (join_server/web.c:705-857, 887-901)

Devices are added and removed on a web page, while the join server answers
requests. `REPLACE INTO joinmotes` replaces nothing, since `eui` has no unique
index: a device that is added again gets a second row, and a `SELECT` goes on
reading the first.
-/

namespace Lorawan.JoinServer
open Lorawan Lorawan.Backend mtype_e

variable (A : BlockCipher) (W : KeyWrap) (cfg : Config)

/-! ### The form -/

/-- The statements of the page, as the points where one may be refused. -/
inductive PageStatement
  | replaceMote
  | deleteMote
  | deleteNonces
  | updateLifetime
deriving DecidableEq, Repr

/-- What a form's handling finds outside the form and the tables. -/
structure PageEnv where
  refused : PageStatement → Bool
  mysql_error : String
  junkByte : UInt8

inductive op_e
  | OP_NONE
  | OP_ADD
  | OP_DEL
  | OP_SET_HOME_NETID
  | OP_ADD_ROAM_NETID
  | OP_DEL_ROAM_NETID
  | OP_LIFETIME
deriving DecidableEq, Repr

/-- What `post_iterator` has collected; the texts are the C strings that start there. -/
structure appInfo_t where
  DevEUI : ℕ
  NwkKeyStr : List Char
  AppKeyStr : List Char
  op : op_e
  Lifetime : ℕ
deriving DecidableEq

/-- Sixteen times `sscanf(strPtr, "%02x", &octet)`. -/
def scanKey (env : PageEnv) (strPtr : List Char) : Octets :=
  (Text.scanOctets env.junkByte strPtr).take 16

/-! ### Adding a device (web.c:707-791) -/

def DEFAULT_LIFETIME : ℕ := 3600

/-- The inserted row: what the statement does not name has its column's default. -/
def newMote (env : PageEnv) (ai : appInfo_t) : JoinMote :=
  let NwkKey_bin := scanKey env ai.NwkKeyStr
  let withAppKey := !ai.AppKeyStr.isEmpty
  { eui := ai.DevEUI
    NwkKey := some NwkKey_bin
    AppKey := if withAppKey then some (scanKey env ai.AppKeyStr) else none
    RJcount1_last := some 0
    DevNonce_last := some 0
    JSIntKey := if withAppKey then some (GenerateJoinKey A 0x06 NwkKey_bin ai.DevEUI) else none
    JSEncKey := if withAppKey then some (GenerateJoinKey A 0x05 NwkKey_bin ai.DevEUI) else none
    Lifetime := DEFAULT_LIFETIME
    joinNonce := some 0 }

/-- The tables, and `failMsg`. The new row has the highest `ID`: it comes last. -/
def mote_ota_add (env : PageEnv) (ai : appInfo_t) (t : Tables) : Tables × String :=
  if env.refused .replaceMote then
    (t, "\x1b[31mJS (ota add) Error querying server: " ++ env.mysql_error ++ "\x1b[0m\n")
  else ({ t with joinmotes := t.joinmotes ++ [newMote A env ai] }, "")

/-! ### Removing a device (web.c:793-813) -/

def delMote (env : PageEnv) (DevEUI : ℕ) (t : Tables) : Tables × String :=
  if env.refused .deleteMote then (t, "joinmotes mysql_query() " ++ env.mysql_error)
  else
    let t' : Tables := { t with joinmotes := t.joinmotes.filter (·.eui ≠ DevEUI) }
    if env.refused .deleteNonces then (t', "nonces mysql_query() " ++ env.mysql_error)
    else ({ t' with nonces := t'.nonces.filter (·.1 ≠ DevEUI) }, "")

/-! ### The page (web.c:815-857, 887-901) -/

def isHexChar (ch : Char) : Bool :=
  (decide ('a' ≤ ch) && decide (ch ≤ 'f')) || (decide ('A' ≤ ch) && decide (ch ≤ 'F')) ||
    (decide ('0' ≤ ch) && decide (ch ≤ '9'))

def nwkKeyMsg (NwkKeyStr : List Char) : String :=
  if NwkKeyStr.length < 32 then "NwkKey less than 32 chars"
  else
    match (NwkKeyStr.take 32).findIdx? (!isHexChar ·) with
    | some i => "NwkKey: bad hex char at " ++ toString i
    | none => ""

/-- `failMsg` after the checks. Of an AppKey only the length is checked, and its message
takes the place of the other. -/
def addMsg (ai : appInfo_t) : String :=
  if !ai.AppKeyStr.isEmpty && decide (ai.AppKeyStr.length < 32) then "AppKey less than 32 chars"
  else nwkKeyMsg ai.NwkKeyStr

/-- The tables, and `failMsg`; the return value is `0` when that is empty. -/
def otaMotesSubmitted (env : PageEnv) (ai : appInfo_t) (t : Tables) : Tables × String :=
  match ai.op with
  | .OP_DEL => delMote env ai.DevEUI t
  | .OP_ADD => if addMsg ai = "" then mote_ota_add A env ai t else (t, addMsg ai)
  | _ => (t, "")

/-- A row that has the new value already is not an affected one. -/
def updateLifetime (env : PageEnv) (ai : appInfo_t) (t : Tables) : Tables × String :=
  if env.refused .updateLifetime then (t, "joinmotes mysql_query() " ++ env.mysql_error)
  else
    ({ t with joinmotes := t.joinmotes.map fun m =>
        if m.eui = ai.DevEUI then { m with Lifetime := ai.Lifetime } else m },
      if t.joinmotes.any fun m => decide (m.eui = ai.DevEUI) && decide (m.Lifetime ≠ ai.Lifetime)
      then "" else "set lifetime: nothing updated")

/-! ### Requests and forms in any order -/

inductive Event
  | request (e : Request)
  | otaMotes (env : PageEnv) (ai : appInfo_t)
  | lifetime (env : PageEnv) (ai : appInfo_t)

def adminStep (s : KeyServer) : Event → KeyServer
  | .request e => keyStep A W cfg s e
  | .otaMotes env ai => { s with tables := (otaMotesSubmitted A env ai s.tables).1 }
  | .lifetime env ai => { s with tables := (updateLifetime env ai s.tables).1 }

/-- The join server, from empty tables on. -/
def serverAfter (es : List Event) : KeyServer :=
  Machine.run (adminStep A W cfg) ⟨⟨[], []⟩, []⟩ es

/-! ### What the page is for -/

structure RootKeys where
  NwkKey : Octets
  AppKey : Option Octets
deriving DecidableEq

/-- The root keys of the devices that are registered. -/
abbrev Registry := ℕ → Option RootKeys

inductive Change
  | register (devEui : ℕ) (keys : RootKeys)
  | remove (devEui : ℕ)
deriving DecidableEq

/-- A device keeps the keys it was first registered with, until it is removed. -/
def Registry.apply (r : Registry) : Change → Registry
  | .register devEui keys =>
    if (r devEui).isSome then r else Function.update r devEui (some keys)
  | .remove devEui => Function.update r devEui none

def formKeys (env : PageEnv) (ai : appInfo_t) : RootKeys where
  NwkKey := scanKey env ai.NwkKeyStr
  AppKey := if !ai.AppKeyStr.isEmpty then some (scanKey env ai.AppKeyStr) else none

/-- What a form asks for, when it passes its checks and its statement is executed. -/
def Event.change : Event → Option Change
  | .request _ => none
  | .otaMotes env ai =>
    match ai.op with
    | .OP_ADD =>
      if addMsg ai = "" then
        if env.refused .replaceMote then none
        else some (.register ai.DevEUI (formKeys env ai))
      else none
    | .OP_DEL => if env.refused .deleteMote then none else some (.remove ai.DevEUI)
    | _ => none
  | .lifetime _ _ => none

def Registry.step (r : Registry) (e : Event) : Registry :=
  match e.change with
  | none => r
  | some c => r.apply c

def registryAfter (es : List Event) : Registry := Machine.run Registry.step (fun _ => none) es

/-- The key columns of a registered device. -/
def RootKeys.column (keys : RootKeys) (devEui : ℕ) : KeyColumn → Option Octets
  | .NwkKey => some keys.NwkKey
  | .AppKey => keys.AppKey
  | .JSIntKey => keys.AppKey.map fun _ => GenerateJoinKey A 0x06 keys.NwkKey devEui
  | .JSEncKey => keys.AppKey.map fun _ => GenerateJoinKey A 0x05 keys.NwkKey devEui

/-- What a `SELECT` reads of any device is what is registered, and the JoinNonces that are
counted fit their column. -/
structure Holds (t : Tables) (r : Registry) : Prop where
  keys : ∀ devEui, (t.row devEui).map JoinMote.key = (r devEui).map (·.column A devEui)
  counted : ∀ m ∈ t.joinmotes, m.joinNonce.isSome
  joinNonce_lt : ∀ m ∈ t.joinmotes, ∀ n ∈ m.joinNonce, n < 2 ^ 24

/-- Whom the join server answers: a registered device, and a join request only when its MIC was
made under the NwkKey that is registered. -/
def AnswersRegistered (s : KeyServer) (r : Registry) : Prop :=
  ∀ (e : Request) (t' : Tables) (ans : JoinAnsJson),
    parse_rf_join_req A W cfg e.network_id e.env e.inJobj s.tables = (t', .ok ans) →
    ∃ devEui keys rx, receiveDevEUI e.env e.inJobj = .ok devEui ∧
      receivePHYPayload e.env e.inJobj = .ok rx ∧ r devEui = some keys ∧
      (MType (rx.byte 0) = MTYPE_JOIN_REQ → rx.bytes (rx.rxLen - 4) 4 =
        LoRa_GenerateJoinFrameIntegrityCode A keys.NwkKey (rx.bytes 0 (rx.rxLen - 4)))

variable {A W cfg} {env : PageEnv} {ai : appInfo_t} {t : Tables} {r : Registry} {devEui : ℕ}

/-! ### The first row of a device -/

theorem row_append (t : Tables) (m : JoinMote) (devEui : ℕ) :
    Tables.row { t with joinmotes := t.joinmotes ++ [m] } devEui =
      (t.row devEui).or (if m.eui = devEui then some m else none) :=
  FirstRow.first_append devEui t.joinmotes m

theorem row_filter (t : Tables) (removed devEui : ℕ) (nonces : List (ℕ × ℕ)) :
    Tables.row ⟨t.joinmotes.filter (·.eui ≠ removed), nonces⟩ devEui =
      if devEui = removed then none else t.row devEui :=
  FirstRow.first_remove devEui removed t.joinmotes

/-- An `UPDATE` of a column that is no key keeps what a `SELECT` reads of the others. -/
theorem row_lifetime (t : Tables) (changed lifetime devEui : ℕ) :
    Tables.row { t with joinmotes := t.joinmotes.map fun m =>
        if m.eui = changed then { m with Lifetime := lifetime } else m } devEui =
      (t.row devEui).map fun m =>
        if m.eui = changed then { m with Lifetime := lifetime } else m := by
  refine FirstRow.first_map (fun m => ?_) devEui t.joinmotes
  split <;> rfl

/-! ### What the page does to the tables -/

/-- What a form of `/otaMotes` does: nothing, a new last row, or a device's rows are gone. -/
theorem otaMotesSubmitted_cases (A : BlockCipher) (env : PageEnv) (ai : appInfo_t) (t : Tables) :
    ((otaMotesSubmitted A env ai t).1 = t ∧ (Event.otaMotes env ai).change = none) ∨
    ((otaMotesSubmitted A env ai t).1 = { t with joinmotes := t.joinmotes ++ [newMote A env ai] } ∧
      (Event.otaMotes env ai).change = some (.register ai.DevEUI (formKeys env ai))) ∨
    (∃ nonces, (otaMotesSubmitted A env ai t).1 =
        ⟨t.joinmotes.filter (·.eui ≠ ai.DevEUI), nonces⟩ ∧
      (nonces = t.nonces ∨ nonces = t.nonces.filter (·.1 ≠ ai.DevEUI)) ∧
      (Event.otaMotes env ai).change = some (.remove ai.DevEUI)) := by
  cases hop : ai.op with
  | OP_ADD =>
    by_cases hmsg : addMsg ai = ""
    · cases hsql : env.refused .replaceMote with
      | true =>
        left
        simp [otaMotesSubmitted, Event.change, mote_ota_add, hop, hmsg, hsql]
      | false =>
        right; left
        simp [otaMotesSubmitted, Event.change, mote_ota_add, hop, hmsg, hsql]
    · left
      simp [otaMotesSubmitted, Event.change, hop, hmsg]
  | OP_DEL =>
    cases hsql : env.refused .deleteMote with
    | true =>
      left
      simp [otaMotesSubmitted, Event.change, delMote, hop, hsql]
    | false =>
      right; right
      cases hnonces : env.refused .deleteNonces with
      | true =>
        refine ⟨t.nonces, ?_, Or.inl rfl, ?_⟩
        · simp [otaMotesSubmitted, delMote, hop, hsql, hnonces]
        · simp [Event.change, hop, hsql]
      | false =>
        refine ⟨t.nonces.filter (·.1 ≠ ai.DevEUI), ?_, Or.inr rfl, ?_⟩
        · simp [otaMotesSubmitted, delMote, hop, hsql, hnonces]
        · simp [Event.change, hop, hsql]
  | _ =>
    left
    simp [otaMotesSubmitted, Event.change, hop]

theorem newMote_key (A : BlockCipher) (env : PageEnv) (ai : appInfo_t) :
    (newMote A env ai).key = (formKeys env ai).column A ai.DevEUI := by
  funext k
  cases happ : ai.AppKeyStr.isEmpty <;> cases k <;>
    simp [newMote, formKeys, JoinMote.key, RootKeys.column, happ]

theorem newMote_joinNonce_lt (A : BlockCipher) (env : PageEnv) (ai : appInfo_t) :
    ∀ n ∈ (newMote A env ai).joinNonce, n < 2 ^ 24 := by
  intro n hn
  obtain rfl := Option.some.inj hn
  exact Nat.two_pow_pos 24

theorem updateLifetime_cases (env : PageEnv) (ai : appInfo_t) (t : Tables) :
    (updateLifetime env ai t).1 = t ∨
    (updateLifetime env ai t).1 = { t with joinmotes := t.joinmotes.map fun m =>
      if m.eui = ai.DevEUI then { m with Lifetime := ai.Lifetime } else m } := by
  unfold updateLifetime
  cases env.refused .updateLifetime with
  | true => exact Or.inl rfl
  | false => exact Or.inr rfl

theorem otaMotesSubmitted_rows {P : JoinMote → Prop} (hnew : P (newMote A env ai))
    (ht : ∀ m ∈ t.joinmotes, P m) : ∀ m ∈ (otaMotesSubmitted A env ai t).1.joinmotes, P m := by
  rcases otaMotesSubmitted_cases A env ai t with ⟨htables, -⟩ | ⟨htables, -⟩ |
    ⟨nonces, htables, -⟩
  · rw [htables]
    exact ht
  · rw [htables]
    intro m hm
    rcases List.mem_append.mp hm with hm | hm
    · exact ht m hm
    · rw [List.mem_singleton.mp hm]
      exact hnew
  · rw [htables]
    exact fun m hm => ht m (List.mem_of_mem_filter hm)

theorem updateLifetime_rows {P : JoinMote → Prop}
    (hkeep : ∀ m, P m → P { m with Lifetime := ai.Lifetime }) (ht : ∀ m ∈ t.joinmotes, P m) :
    ∀ m ∈ (updateLifetime env ai t).1.joinmotes, P m := by
  rcases updateLifetime_cases env ai t with htables | htables
  · rw [htables]
    exact ht
  · rw [htables]
    intro m hm
    obtain ⟨m', hm', rfl⟩ := List.mem_map.mp hm
    split
    · exact hkeep m' (ht m' hm')
    · exact ht m' hm'

/-! ### Each event keeps what is registered -/

theorem keys_register (h : Holds A t r) (devEui : ℕ) :
    (Tables.row { t with joinmotes := t.joinmotes ++ [newMote A env ai] } devEui).map JoinMote.key =
      (r.apply (.register ai.DevEUI (formKeys env ai)) devEui).map (·.column A devEui) := by
  have hkeys := h.keys devEui
  have hrow := row_append t (newMote A env ai) devEui
  rw [show (newMote A env ai).eui = ai.DevEUI from rfl] at hrow
  rw [hrow]
  by_cases he : ai.DevEUI = devEui
  · subst he
    rw [if_pos rfl]
    by_cases hsome : (r ai.DevEUI).isSome
    · -- the device has a row: the new one is not read
      obtain ⟨k, hk⟩ := Option.isSome_iff_exists.mp hsome
      rw [Registry.apply, if_pos hsome, hk]
      rw [hk] at hkeys
      obtain ⟨m, hm, -⟩ := Option.map_eq_some_iff.mp hkeys
      rw [hm] at hkeys ⊢
      exact hkeys
    · rw [Registry.apply, if_neg hsome, Function.update_self]
      rw [Option.not_isSome_iff_eq_none.mp hsome, Option.map_none, Option.map_eq_none_iff] at hkeys
      rw [hkeys, Option.none_or, Option.map_some, Option.map_some, newMote_key]
  · rw [if_neg he, Option.or_none, hkeys, Registry.apply]
    split
    · rfl
    · rw [Function.update_of_ne (Ne.symm he)]

theorem keys_remove (h : Holds A t r) (removed : ℕ) (nonces : List (ℕ × ℕ)) (devEui : ℕ) :
    (Tables.row ⟨t.joinmotes.filter (·.eui ≠ removed), nonces⟩ devEui).map JoinMote.key =
      (r.apply (.remove removed) devEui).map (·.column A devEui) := by
  rw [row_filter, Registry.apply]
  by_cases he : devEui = removed
  · rw [if_pos he, he, Function.update_self]
    rfl
  · rw [if_neg he, Function.update_of_ne he]
    exact h.keys devEui

theorem holds_otaMotes (h : Holds A t r) :
    Holds A (otaMotesSubmitted A env ai t).1 (r.step (.otaMotes env ai)) := by
  refine ⟨?_, otaMotesSubmitted_rows rfl h.counted,
    otaMotesSubmitted_rows (newMote_joinNonce_lt A env ai) h.joinNonce_lt⟩
  rcases otaMotesSubmitted_cases A env ai t with ⟨htables, hchange⟩ | ⟨htables, hchange⟩ |
    ⟨nonces, htables, -, hchange⟩
  all_goals
    simp only [Registry.step, htables, hchange]
  · exact h.keys
  · exact keys_register h
  · exact keys_remove h ai.DevEUI nonces

theorem holds_lifetime (h : Holds A t r) : Holds A (updateLifetime env ai t).1 r := by
  refine ⟨fun e => ?_, updateLifetime_rows (fun _ hm => hm) h.counted,
    updateLifetime_rows (fun _ hm => hm) h.joinNonce_lt⟩
  rcases updateLifetime_cases env ai t with heq | heq
  · rw [heq]
    exact h.keys e
  · rw [heq, row_lifetime, Option.map_map, ← h.keys e]
    congr 1
    funext m k
    simp only [Function.comp_apply]
    split <;> cases k <;> rfl

theorem admit_key {env : Env} {t' : Tables} {devEui64 : ℕ} {d : Dispatch} {a : Admission}
    (h : admitNonce env t devEui64 d = (t', .ok a)) (e : ℕ) :
    (t'.row e).map JoinMote.key = (t.row e).map JoinMote.key := by
  rcases admit_ok h with ⟨-, -, -, -, -, -, -, -, hupdate⟩ | ⟨-, -, -, -, -, rfl⟩
  · rw [updateCounter_row hupdate, Option.map_map]
    congr 1
    funext m k
    simp only [Function.comp_apply]
    split
    · exact increment_key m _ k
    · rfl
  · rw [insertNonce_row]

theorem admit_counted {env : Env} {t' : Tables} {devEui64 : ℕ} {d : Dispatch} {a : Admission}
    (h : admitNonce env t devEui64 d = (t', .ok a)) (ht : ∀ m ∈ t.joinmotes, m.joinNonce.isSome) :
    ∀ m ∈ t'.joinmotes, m.joinNonce.isSome := by
  rcases admit_ok h with ⟨-, -, -, -, -, -, -, -, hupdate⟩ | ⟨-, -, -, -, -, rfl⟩
  · unfold Tables.updateCounter at hupdate
    split at hupdate
    · cases hupdate
    · obtain rfl := Option.some.inj hupdate
      intro m hm
      obtain ⟨m', hm', rfl⟩ := List.mem_map.mp hm
      have hcounted := ht m' hm'
      split
      · rw [increment_joinNonce_isSome]
        exact hcounted
      · exact hcounted
  · unfold Tables.insertNonce
    split <;> exact ht

theorem holds_request (W : KeyWrap) (cfg : Config) {s : KeyServer} (h : Holds A s.tables r)
    (e : Request) : Holds A (keyStep A W cfg s e).tables r := by
  rcases keyStep_cases A W cfg s e with hsame | ⟨devEui64, d, a, -, hadm, -⟩
  · rw [hsame]
    exact h
  · exact ⟨fun eui => (admit_key hadm eui).trans (h.keys eui), admit_counted hadm h.counted,
      admit_stored hadm h.joinNonce_lt⟩

theorem holds_step (W : KeyWrap) (cfg : Config) (s : KeyServer) (r : Registry) (e : Event)
    (h : Holds A s.tables r) : Holds A (adminStep A W cfg s e).tables (r.step e) := by
  cases e with
  | request e => exact holds_request W cfg h e
  | lifetime env ai => exact holds_lifetime h
  | otaMotes env ai => exact holds_otaMotes h

theorem holds_empty : Holds A ⟨[], []⟩ fun _ => none where
  keys _ := rfl
  counted _ hm := absurd hm List.not_mem_nil
  joinNonce_lt _ hm := absurd hm List.not_mem_nil

theorem holds_after (A : BlockCipher) (W : KeyWrap) (cfg : Config) (es : List Event) :
    Holds A (serverAfter A W cfg es).tables (registryAfter es) :=
  Machine.run_refines (R := fun (s : KeyServer) r => Holds A s.tables r) (holds_step W cfg)
    holds_empty es

/-! ### Who is answered -/

theorem dispatch_join_key {myJoinEui64 devEui64 : ℕ} {env : Env} {t : Tables} {rx : RxFrame}
    {d : Dispatch} (h : dispatch myJoinEui64 env t devEui64 rx = .ok d)
    (hmt : MType (rx.byte 0) = MTYPE_JOIN_REQ) :
    ∃ m key, t.row devEui64 = some m ∧ m.NwkKey = some key ∧ d.MicKey = some key := by
  unfold dispatch at h
  simp only [hmt, bind, Except.bind, throw, throwThe, MonadExceptOf.throw, pure, Except.pure] at h
  by_cases heui : devEui64 = eui_buf_to_uint64 (rx.bytes 9 8)
  · rw [if_neg (not_not_intro heui)] at h
    split at h
    · rename_i key hkey
      obtain ⟨-, m, hrow, hNwkKey⟩ := key_found hkey
      rw [← Except.ok.inj h]
      exact ⟨m, key, hrow, hNwkKey, rfl⟩
    · cases h
  · rw [if_pos heui] at h
    cases h

theorem checkMic_ok {rx : RxFrame} {key : Octets} (h : checkMic A rx (some key) = .ok ()) :
    rx.bytes (rx.rxLen - 4) 4 =
      LoRa_GenerateJoinFrameIntegrityCode A key (rx.bytes 0 (rx.rxLen - 4)) := by
  unfold checkMic at h
  by_contra hmic
  simp only [throw, throwThe, MonadExceptOf.throw, ne_eq, hmic, not_false_eq_true, if_true] at h
  split at h <;> cases h

theorem receive_checkMic {myJoinEui64 devEui64 : ℕ} {env : Env} {t : Tables}
    {inJobj : JoinReqJson} {d : Dispatch}
    (h : receive A myJoinEui64 env t inJobj = .ok (devEui64, d)) :
    ∃ rx, receivePHYPayload env inJobj = .ok rx ∧ receiveDevEUI env inJobj = .ok devEui64 ∧
      dispatch myJoinEui64 env t devEui64 rx = .ok d ∧ checkMic A rx d.MicKey = .ok () := by
  obtain ⟨rx, hrx, heui, hdisp, hjoin⟩ := receive_ok h
  refine ⟨rx, hrx, heui, hdisp, ?_⟩
  simp only [receive, hrx, heui, hdisp, hjoin, bind, Except.bind, ne_eq, not_true_eq_false,
    if_false, pure, Except.pure] at h
  split at h
  · cases h
  · assumption

theorem Holds.registered {m : JoinMote} (h : Holds A t r) (hrow : t.row devEui = some m) :
    ∃ keys, r devEui = some keys ∧ m.key = keys.column A devEui := by
  have hkeys := h.keys devEui
  rw [hrow, Option.map_some] at hkeys
  obtain ⟨keys, hreg, hcolumn⟩ := Option.map_eq_some_iff.mp hkeys.symm
  exact ⟨keys, hreg, hcolumn.symm⟩

theorem answersRegistered_of_holds {s : KeyServer} (h : Holds A s.tables r) :
    AnswersRegistered A W cfg s r := by
  intro e t' ans hans
  obtain ⟨devEui, d, a, hrx, hadm, -⟩ := parse_rf_join_req_ok A W hans
  obtain ⟨rx, hphy, heui, hdisp, hmic⟩ := receive_checkMic hrx
  have hrow : ∃ m, s.tables.row devEui = some m := by
    rcases admit_ok hadm with ⟨m, -, hrow, -⟩ | ⟨m, hrow, -⟩
    · exact ⟨m, hrow⟩
    · exact ⟨m, hrow⟩
  obtain ⟨m, hrow⟩ := hrow
  obtain ⟨keys, hreg, hcolumn⟩ := h.registered hrow
  refine ⟨devEui, keys, rx, heui, hphy, hreg, fun hmt => ?_⟩
  obtain ⟨m', key, hrow', hNwkKey, hkey⟩ := dispatch_join_key hdisp hmt
  obtain rfl := Option.some.inj (hrow.symm.trans hrow')
  have hNwk : key = keys.NwkKey :=
    Option.some.inj (hNwkKey.symm.trans (congrFun hcolumn .NwkKey))
  rw [hkey, hNwk] at hmic
  exact checkMic_ok hmic

/-- After every sequence of forms and requests, what is read of a device are the keys it was first
registered with since its last removal, and no other device is answered. -/
theorem registry_served (A : BlockCipher) (W : KeyWrap) (cfg : Config) (es : List Event) :
    (∀ devEui, ((serverAfter A W cfg es).tables.row devEui).map JoinMote.key =
      (registryAfter es devEui).map (·.column A devEui)) ∧
    AnswersRegistered A W cfg (serverAfter A W cfg es) (registryAfter es) :=
  ⟨(holds_after A W cfg es).keys, answersRegistered_of_holds (holds_after A W cfg es)⟩

end Lorawan.JoinServer

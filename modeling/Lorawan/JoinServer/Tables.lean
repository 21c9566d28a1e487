import Lorawan.Backend.Frame

/-!
# The join server's tables (structure.sql:122-145, join_server/main.c:57-127)

`joinmotes` has no unique index on `eui`: a `SELECT` reads the first row of a
device, an `UPDATE` changes all of them. `nonces` holds the DevNonces that
devices without an AppKey have used. Every statement may be refused by the SQL
server; which ones are is part of the input (`refused`).
-/

namespace Lorawan.JoinServer
open Lorawan Lorawan.Backend

/-- The key columns that `get_sql_joinmote_key_` reads. -/
inductive KeyColumn
  | NwkKey
  | AppKey
  | JSIntKey
  | JSEncKey
deriving DecidableEq, Repr

/-- The counter columns, `nonceColumn` of `parse_rf_join_req`. -/
inductive CounterColumn
  | RJcount1_last
  | DevNonce_last
deriving DecidableEq, Repr

/-- The SQL statements of `parse_rf_join_req`, as the points where it may be refused. -/
inductive Statement
  | selectMicKey (column : KeyColumn)
  | selectKey (column : KeyColumn)
  | selectCounter
  | updateCounter
  | selectNonce
  | insertNonce
  | selectLifetime
deriving DecidableEq, Repr

/-- A row of `joinmotes`; `none` is SQL `NULL`. -/
structure JoinMote where
  eui : ℕ
  NwkKey : Option Octets
  AppKey : Option Octets
  RJcount1_last : Option ℕ
  DevNonce_last : Option ℕ
  JSIntKey : Option Octets
  JSEncKey : Option Octets
  Lifetime : ℕ
  joinNonce : Option ℕ
deriving DecidableEq

def JoinMote.key (m : JoinMote) : KeyColumn → Option Octets
  | .NwkKey => m.NwkKey
  | .AppKey => m.AppKey
  | .JSIntKey => m.JSIntKey
  | .JSEncKey => m.JSEncKey

def JoinMote.counter (m : JoinMote) : CounterColumn → Option ℕ
  | .RJcount1_last => m.RJcount1_last
  | .DevNonce_last => m.DevNonce_last

structure Tables where
  joinmotes : List JoinMote
  nonces : List (ℕ × ℕ)
deriving DecidableEq

/-- The row a `SELECT .. WHERE eui = ..` fetches. -/
def Tables.row (t : Tables) (devEui64 : ℕ) : Option JoinMote :=
  t.joinmotes.find? (·.eui = devEui64)

/-! ### Reading a key (main.c:57-91) -/

/-- What `get_sql_joinmote_key_` returns: `-1`, `0` or `1` with the key. -/
inductive KeyRead
  | failed
  | null
  | found (key : Octets)
deriving DecidableEq

def get_sql_joinmote_key_ (t : Tables) (refused : Bool) (column : KeyColumn) (devEui64 : ℕ) :
    KeyRead :=
  if refused then .failed
  else
    match t.row devEui64 with
    | none => .failed
    | some m =>
      match m.key column with
      | some key => .found key
      | none => .null

/-! ### DevNonces of devices without an AppKey (main.c:93-127) -/

/-- `check_nonce`: whether its return value is nonzero. -/
def check_nonce (t : Tables) (refused : Bool) (dev_eui64 DevNonce : ℕ) : Bool :=
  refused || decide ((dev_eui64, DevNonce) ∈ t.nonces)

/-- `INSERT INTO nonces`; the primary key refuses a pair that is there. -/
def Tables.insertNonce (t : Tables) (refused : Bool) (dev_eui64 DevNonce : ℕ) : Tables :=
  if refused ∨ (dev_eui64, DevNonce) ∈ t.nonces then t
  else { t with nonces := (dev_eui64, DevNonce) :: t.nonces }

/-! ### Counting a request of a device with an AppKey (main.c:386-396) -/

/-- `SET column = column + 1, joinNonce = joinNonce + 1`; `NULL + 1` is `NULL`. -/
def JoinMote.increment (m : JoinMote) : CounterColumn → JoinMote
  | .RJcount1_last =>
    { m with RJcount1_last := m.RJcount1_last.map (· + 1), joinNonce := m.joinNonce.map (· + 1) }
  | .DevNonce_last =>
    { m with DevNonce_last := m.DevNonce_last.map (· + 1), joinNonce := m.joinNonce.map (· + 1) }

/-- A value that its column, `int` or `mediumint` unsigned, cannot hold. -/
def JoinMote.outOfRange (m : JoinMote) (column : CounterColumn) : Bool :=
  decide (m.counter column = some (2 ^ 32 - 1)) || decide (m.joinNonce = some (2 ^ 24 - 1))

/-- The `UPDATE`; in strict mode it fails as a whole when a value leaves its column. -/
def Tables.updateCounter (t : Tables) (refused : Bool) (column : CounterColumn) (devEui64 : ℕ) :
    Option Tables :=
  if refused ∨ (t.joinmotes.any fun m => m.eui = devEui64 && m.outOfRange column) then none
  else
    some { t with
      joinmotes := t.joinmotes.map fun m => if m.eui = devEui64 then m.increment column else m }

/-! ### What the statements leave unchanged -/

@[simp] theorem increment_eui (m : JoinMote) (column : CounterColumn) :
    (m.increment column).eui = m.eui := by
  cases column <;> rfl

@[simp] theorem increment_key (m : JoinMote) (column : CounterColumn) (k : KeyColumn) :
    (m.increment column).key k = m.key k := by
  cases column <;> cases k <;> rfl

theorem increment_counter_self (m : JoinMote) (column : CounterColumn) :
    (m.increment column).counter column = (m.counter column).map (· + 1) := by
  cases column <;> rfl

theorem increment_counter_other (m : JoinMote) {c d : CounterColumn} (h : c ≠ d) :
    (m.increment c).counter d = m.counter d := by
  cases c <;> cases d <;> first | rfl | exact absurd rfl h

@[simp] theorem insertNonce_row (t : Tables) (refused : Bool) (eui DevNonce e : ℕ) :
    (t.insertNonce refused eui DevNonce).row e = t.row e := by
  unfold Tables.insertNonce
  split <;> rfl

theorem insertNonce_mono {t : Tables} {refused : Bool} {eui DevNonce : ℕ} {p : ℕ × ℕ}
    (h : p ∈ t.nonces) : p ∈ (t.insertNonce refused eui DevNonce).nonces := by
  unfold Tables.insertNonce
  split
  · exact h
  · exact List.mem_cons_of_mem _ h

theorem insertNonce_mem (t : Tables) (eui DevNonce : ℕ) :
    (eui, DevNonce) ∈ (t.insertNonce false eui DevNonce).nonces := by
  unfold Tables.insertNonce
  split
  · rename_i h
    rcases h with h | h
    · exact absurd h (by decide)
    · exact h
  · exact List.mem_cons_self ..

theorem updateCounter_row {t t' : Tables} {refused : Bool} {column : CounterColumn} {eui : ℕ}
    (h : t.updateCounter refused column eui = some t') (e : ℕ) :
    t'.row e = (t.row e).map fun m => if m.eui = eui then m.increment column else m := by
  unfold Tables.updateCounter at h
  split at h
  · exact absurd h (by simp)
  · obtain rfl := Option.some.inj h
    simp only [Tables.row, List.find?_map]
    congr 1
    apply congrArg (fun p => List.find? p t.joinmotes)
    funext m
    simp only [Function.comp_apply]
    split
    · rw [increment_eui]
    · rfl

theorem updateCounter_nonces {t t' : Tables} {refused : Bool} {column : CounterColumn} {eui : ℕ}
    (h : t.updateCounter refused column eui = some t') : t'.nonces = t.nonces := by
  unfold Tables.updateCounter at h
  split at h
  · exact absurd h (by simp)
  · obtain rfl := Option.some.inj h
    rfl

theorem row_eui {t : Tables} {eui : ℕ} {m : JoinMote} (h : t.row eui = some m) : m.eui = eui := by
  have := List.find?_some h
  simpa using this

theorem key_found {t : Tables} {refused : Bool} {column : KeyColumn} {eui : ℕ} {key : Octets}
    (h : get_sql_joinmote_key_ t refused column eui = .found key) :
    refused = false ∧ ∃ m, t.row eui = some m ∧ m.key column = some key := by
  unfold get_sql_joinmote_key_ at h
  split at h
  · exact absurd h (by simp)
  · rename_i hrefused
    refine ⟨by simpa using hrefused, ?_⟩
    split at h
    · exact absurd h (by simp)
    · rename_i m hrow
      split at h
      · rename_i k hk
        exact ⟨m, hrow, by rw [hk, KeyRead.found.inj h]⟩
      · exact absurd h (by simp)

theorem key_null {t : Tables} {refused : Bool} {column : KeyColumn} {eui : ℕ}
    (h : get_sql_joinmote_key_ t refused column eui = .null) :
    refused = false ∧ ∃ m, t.row eui = some m ∧ m.key column = none := by
  unfold get_sql_joinmote_key_ at h
  split at h
  · exact absurd h (by simp)
  · rename_i hrefused
    refine ⟨by simpa using hrefused, ?_⟩
    split at h
    · exact absurd h (by simp)
    · rename_i m hrow
      split at h
      · exact absurd h (by simp)
      · rename_i hk
        exact ⟨m, hrow, hk⟩

end Lorawan.JoinServer

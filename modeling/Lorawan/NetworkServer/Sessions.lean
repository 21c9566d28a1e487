import Lorawan.Lib.Octets
import Lorawan.Lib.WriteBehind
import Mathlib.Data.List.Perm.Basic
import Mathlib.Data.List.Perm.Subperm

/-!
# Sessions (structure.sql:362-374, network_server/common.c:587-833, 1222-1340)

Sessions are read from the table by the network server and written by the
process of `child.c`, which executes the statements of a message queue. Rows
stand in the order of `createdAt`, newest first; a statement with `ORDER BY
createdAt DESC LIMIT 1` changes the first row its condition matches.
-/

namespace Lorawan.NetworkServer
open Lorawan

/-- A row of `sessions`; `none` is SQL `NULL`. History: the serial number of the session. -/
structure SessionRow where
  ID : ℕ
  Until : Option ℕ
  DevAddr : ℕ
  NFCntDown : Option ℕ
  FCntUp : Option ℕ
  FNwkSIntKey : Option Octets
  SNwkSIntKey : Option Octets
  NwkSEncKey : Option Octets
  createdAt : ℕ
  serial : ℕ
deriving DecidableEq

/-- The statements on `sessions` that the server puts into its queue. -/
inductive Statement
  /-- `UPDATE sessions SET FCntUp = n WHERE DevAddr = devAddr ..` -/
  | setFCntUp (n devAddr : ℕ)
  /-- `UPDATE sessions SET NFCntDown = 0 WHERE DevAddr = devAddr ..` -/
  | zeroNFCntDown (devAddr : ℕ)
  /-- `UPDATE sessions SET NFCntDown = NFCntDown + 1 WHERE DevAddr = devAddr ..` -/
  | incrNFCntDown (devAddr : ℕ)
  /-- `add_database_session` -/
  | insert (row : SessionRow)
  /-- `DELETE FROM sessions WHERE ID = id AND FCntUp IS NULL` -/
  | deleteNeverUsed (id : ℕ)
  /-- `DELETE FROM sessions WHERE ID = id`, with `AND createdAt < before` or without. -/
  | deleteOld (id : ℕ) (before : Option ℕ)
deriving DecidableEq

/-- The change of the newest row with a DevAddr. -/
def modifyNewest (devAddr : ℕ) (f : SessionRow → SessionRow) : List SessionRow → List SessionRow
  | [] => []
  | r :: rs => if r.DevAddr = devAddr then f r :: rs else r :: modifyNewest devAddr f rs

/-- `NFCntDown + 1`: `NULL` stays, and a value that would leave the column makes the statement
fail. -/
def SessionRow.incrNFCntDown (r : SessionRow) : SessionRow :=
  { r with NFCntDown := r.NFCntDown.map fun n => if n + 1 < 2 ^ 32 then n + 1 else n }

/-- Whether a statement that deletes takes the row away. -/
def Statement.deletes (r : SessionRow) : Statement → Bool
  | .deleteNeverUsed id => decide (r.ID = id) && r.FCntUp.isNone
  | .deleteOld id before => decide (r.ID = id) && before.all fun t => decide (r.createdAt < t)
  | _ => false

def execute (rows : List SessionRow) : Statement → List SessionRow
  | .setFCntUp n devAddr => modifyNewest devAddr (fun r => { r with FCntUp := some n }) rows
  | .zeroNFCntDown devAddr => modifyNewest devAddr (fun r => { r with NFCntDown := some 0 }) rows
  | .incrNFCntDown devAddr => modifyNewest devAddr SessionRow.incrNFCntDown rows
  | .insert row => row :: rows
  | .deleteNeverUsed id => rows.filter fun r => !(Statement.deleteNeverUsed id).deletes r
  | .deleteOld id before => rows.filter fun r => !(Statement.deleteOld id before).deletes r

/-! ### The copy in memory (ns.h:200-218) -/

/-- `session_t.until`: zero, `ULONG_MAX`, or a time. -/
inductive SessionEnd
  | none
  | never
  | at (t : ℕ)
deriving DecidableEq

/-- `session_t`. History: the serial number of the row that was read. -/
structure Session where
  until_ : SessionEnd
  expired : Bool
  nullNFCntDown : Bool
  NFCntDown : ℕ
  FCntUp : ℕ
  FNwkSIntKeyBin : Octets
  SNwkSIntKeyBin : Octets
  NwkSEncKeyBin : Octets
  OptNeg : Bool
  row : ℕ
deriving DecidableEq

/-- Freshly allocated memory. -/
def Session.zero : Session :=
  ⟨.none, false, false, 0, 0, List.replicate 16 0, List.replicate 16 0, List.replicate 16 0, false, 0⟩

/-- The row that `getSession` reads: by the device's ID, or by DevAddr. -/
def newestByID (id : ℕ) (rows : List SessionRow) : Option SessionRow := rows.find? (·.ID = id)

def newestByDevAddr (devAddr : ℕ) (rows : List SessionRow) : Option SessionRow :=
  rows.find? (·.DevAddr = devAddr)

/-- A row taken into memory at the time `now`; a `NULL` key leaves what was there. -/
def Session.ofRow (now : ℕ) (r : SessionRow) (old : Session) : Session :=
  let fNwk := r.FNwkSIntKey.getD old.FNwkSIntKeyBin
  let sNwk := r.SNwkSIntKey.getD old.SNwkSIntKeyBin
  let nwkSEnc := r.NwkSEncKey.getD old.NwkSEncKeyBin
  { until_ := match r.Until with
      | none => .never
      | some t => .at t
    expired := match r.Until with
      | none => false
      | some t => decide (t < now)
    nullNFCntDown := r.NFCntDown.isNone
    NFCntDown := r.NFCntDown.getD 0
    FCntUp := r.FCntUp.getD 0
    FNwkSIntKeyBin := fNwk
    SNwkSIntKeyBin := sNwk
    NwkSEncKeyBin := nwkSEnc
    OptNeg := decide (fNwk ≠ sNwk) && decide (fNwk ≠ nwkSEnc)
    row := r.serial }

/-- `getSession` with `nth = 0`. Its `LIMIT 0,1` returns one row, so `next` is never set and no
caller asks for another one. -/
def getSession (found : Option SessionRow) (now : ℕ) (old : Session) : Session :=
  match found with
  | none => { old with until_ := .none, expired := true }
  | some r => Session.ofRow now r old

/-! ### What a statement changes -/

theorem newest_modifyNewest (devAddr : ℕ) (f : SessionRow → SessionRow)
    (hf : ∀ r, (f r).DevAddr = r.DevAddr) (rows : List SessionRow) :
    newestByDevAddr devAddr (modifyNewest devAddr f rows) =
      (newestByDevAddr devAddr rows).map f := by
  induction rows with
  | nil => rfl
  | cons r rs ih =>
    by_cases h : r.DevAddr = devAddr
    · simp [modifyNewest, newestByDevAddr, h, hf]
    · simpa [modifyNewest, newestByDevAddr, h] using ih

theorem mem_modifyNewest {devAddr : ℕ} {f : SessionRow → SessionRow} {rows : List SessionRow}
    {r' : SessionRow} (h : r' ∈ modifyNewest devAddr f rows) :
    r' ∈ rows ∨ ∃ r, newestByDevAddr devAddr rows = some r ∧ r' = f r := by
  induction rows with
  | nil => cases h
  | cons r rs ih =>
    by_cases haddr : r.DevAddr = devAddr
    · simp only [modifyNewest, haddr, if_true] at h
      rcases List.mem_cons.mp h with rfl | hmem
      · exact Or.inr ⟨r, by simp [newestByDevAddr, haddr], rfl⟩
      · exact Or.inl (List.mem_cons_of_mem r hmem)
    · simp only [modifyNewest, haddr, if_false] at h
      rcases List.mem_cons.mp h with rfl | hmem
      · exact Or.inl List.mem_cons_self
      · rcases ih hmem with hold | ⟨q, hq, rfl⟩
        · exact Or.inl (List.mem_cons_of_mem r hold)
        · refine Or.inr ⟨q, ?_, rfl⟩
          simpa [newestByDevAddr, haddr] using hq

theorem map_serial_modifyNewest (devAddr : ℕ) (f : SessionRow → SessionRow)
    (hf : ∀ r, (f r).serial = r.serial) (rows : List SessionRow) :
    (modifyNewest devAddr f rows).map (·.serial) = rows.map (·.serial) := by
  induction rows with
  | nil => rfl
  | cons r rs ih =>
    unfold modifyNewest
    split
    · simp [hf]
    · simp [ih]

theorem newestByDevAddr_mem {devAddr : ℕ} {rows : List SessionRow} {r : SessionRow}
    (h : newestByDevAddr devAddr rows = some r) : r ∈ rows ∧ r.DevAddr = devAddr :=
  ⟨List.mem_of_find?_eq_some h, by simpa using List.find?_some h⟩

/-! ### Serial numbers -/

/-- The serial number a statement brings into the table. -/
def Statement.newSerial : Statement → Option ℕ
  | .insert row => some row.serial
  | _ => none

/-- History: the session that a statement inserts gets its serial number. -/
def Statement.number (n : ℕ) : Statement → Statement
  | .insert row => .insert { row with serial := n }
  | u => u

/-- The serial numbers in the table and in the queue. -/
def serials (rows : List SessionRow) (queue : List Statement) : List ℕ :=
  rows.map (·.serial) ++ queue.filterMap Statement.newSerial

theorem execute_serials (rows : List SessionRow) (u : Statement) :
    ((execute rows u).map (·.serial)).Subperm (rows.map (·.serial) ++ u.newSerial.toList) := by
  have hmodify : ∀ devAddr f, (∀ r : SessionRow, (f r).serial = r.serial) →
      ((modifyNewest devAddr f rows).map (·.serial)).Subperm (rows.map (·.serial) ++ []) := by
    intro devAddr f hf
    rw [map_serial_modifyNewest devAddr f hf, List.append_nil]
  cases u with
  | setFCntUp n devAddr => exact hmodify _ _ fun _ => rfl
  | zeroNFCntDown devAddr => exact hmodify _ _ fun _ => rfl
  | incrNFCntDown devAddr => exact hmodify _ _ fun _ => rfl
  | insert row =>
    simp only [execute, Statement.newSerial, Option.toList_some, List.map_cons]
    exact (List.perm_append_singleton _ _).symm.subperm
  | deleteNeverUsed id =>
    simp only [execute, Statement.newSerial, Option.toList_none, List.append_nil]
    exact (List.filter_sublist.map _).subperm
  | deleteOld id before =>
    simp only [execute, Statement.newSerial, Option.toList_none, List.append_nil]
    exact (List.filter_sublist.map _).subperm

theorem serials_execute (rows : List SessionRow) (u : Statement) (us : List Statement) :
    (serials (execute rows u) us).Subperm (serials rows (u :: us)) := by
  have hcons : serials rows (u :: us) =
      (rows.map (·.serial) ++ u.newSerial.toList) ++ us.filterMap Statement.newSerial := by
    unfold serials
    cases hu : u.newSerial with
    | none => simp [hu]
    | some n => simp [hu]
  rw [hcons]
  exact (List.subperm_append_right _).mpr (execute_serials rows u)

/-- The drained table has no serial number that the table and the queue do not have. -/
theorem serials_drained (rows : List SessionRow) (us : List Statement) :
    ((Machine.run execute rows us).map (·.serial)).Subperm (serials rows us) := by
  induction us generalizing rows with
  | nil =>
    simp only [serials, List.filterMap_nil, List.append_nil]
    exact List.Subperm.refl _
  | cons u us ih => exact (ih (execute rows u)).trans (serials_execute rows u us)

theorem serials_enqueue (s : WriteBehind.Store (List SessionRow) Statement) (u : Statement) :
    serials (s.enqueue u).table (s.enqueue u).queue =
      serials s.table s.queue ++ u.newSerial.toList := by
  simp only [serials, WriteBehind.Store.enqueue, List.filterMap_append, List.append_assoc]
  cases h : u.newSerial <;> simp [h]

/-! ### Rows that a statement leaves -/

/-- One row before and after statements that do not store an uplink's counter. -/
structure SameRow (r r' : SessionRow) : Prop where
  ID : r'.ID = r.ID
  DevAddr : r'.DevAddr = r.DevAddr
  FCntUp : r'.FCntUp = r.FCntUp
  createdAt : r'.createdAt = r.createdAt
  serial : r'.serial = r.serial

theorem SameRow.refl (r : SessionRow) : SameRow r r := ⟨rfl, rfl, rfl, rfl, rfl⟩

/-- A row of the table after the statement comes from one before it, is new, or was the newest
one with the DevAddr whose counter is stored. -/
theorem execute_cases {rows : List SessionRow} {u : Statement} {r' : SessionRow}
    (h : r' ∈ execute rows u) :
    (∃ r ∈ rows, SameRow r r') ∨ u = .insert r' ∨
      ∃ n devAddr r, u = .setFCntUp n devAddr ∧ newestByDevAddr devAddr rows = some r ∧
        r' = { r with FCntUp := some n } := by
  cases u with
  | setFCntUp n devAddr =>
    rcases mem_modifyNewest h with hold | ⟨r, hr, rfl⟩
    · exact Or.inl ⟨r', hold, .refl r'⟩
    · exact Or.inr (Or.inr ⟨n, devAddr, r, rfl, hr, rfl⟩)
  | zeroNFCntDown devAddr =>
    rcases mem_modifyNewest h with hold | ⟨r, hr, rfl⟩
    · exact Or.inl ⟨r', hold, .refl r'⟩
    · exact Or.inl ⟨r, (newestByDevAddr_mem hr).1, ⟨rfl, rfl, rfl, rfl, rfl⟩⟩
  | incrNFCntDown devAddr =>
    rcases mem_modifyNewest h with hold | ⟨r, hr, rfl⟩
    · exact Or.inl ⟨r', hold, .refl r'⟩
    · exact Or.inl ⟨r, (newestByDevAddr_mem hr).1, ⟨rfl, rfl, rfl, rfl, rfl⟩⟩
  | insert row =>
    rcases List.mem_cons.mp h with rfl | hold
    · exact Or.inr (Or.inl rfl)
    · exact Or.inl ⟨r', hold, .refl r'⟩
  | deleteNeverUsed id => exact Or.inl ⟨r', (List.mem_filter.mp h).1, .refl r'⟩
  | deleteOld id before => exact Or.inl ⟨r', (List.mem_filter.mp h).1, .refl r'⟩

/-- Newest first. -/
def NewestFirst (rows : List SessionRow) : Prop :=
  rows.Pairwise fun r r' => r'.createdAt ≤ r.createdAt

theorem newestFirst_modifyNewest (devAddr : ℕ) {f : SessionRow → SessionRow}
    (hf : ∀ r, (f r).createdAt = r.createdAt) {rows : List SessionRow} (h : NewestFirst rows) :
    NewestFirst (modifyNewest devAddr f rows) := by
  have hmap : (modifyNewest devAddr f rows).map (·.createdAt) = rows.map (·.createdAt) := by
    clear h
    induction rows with
    | nil => rfl
    | cons r rs ih =>
      unfold modifyNewest
      split
      · simp [hf]
      · simp [ih]
  unfold NewestFirst at h ⊢
  have := List.pairwise_map (f := SessionRow.createdAt) (R := fun a b => b ≤ a) |>.mpr h
  rw [← hmap] at this
  exact List.pairwise_map.mp this

theorem newestFirst_execute {rows : List SessionRow} {u : Statement} (h : NewestFirst rows)
    (hins : ∀ row, u = .insert row → ∀ r ∈ rows, r.createdAt ≤ row.createdAt) :
    NewestFirst (execute rows u) := by
  cases u with
  | setFCntUp n devAddr => exact newestFirst_modifyNewest devAddr (by intro r; rfl) h
  | zeroNFCntDown devAddr => exact newestFirst_modifyNewest devAddr (by intro r; rfl) h
  | incrNFCntDown devAddr => exact newestFirst_modifyNewest devAddr (by intro r; rfl) h
  | insert row => exact List.pairwise_cons.mpr ⟨hins row rfl, h⟩
  | deleteNeverUsed id => exact List.Pairwise.filter _ h
  | deleteOld id before => exact List.Pairwise.filter _ h

end Lorawan.NetworkServer

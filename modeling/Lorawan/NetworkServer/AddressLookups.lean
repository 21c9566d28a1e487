import Lorawan.Lib.Query
import Lorawan.NetworkServer.MotesTable
import Lorawan.NetworkServer.Serving

/-!
# Lookups by DevAddr (network_server/common.c:1032-1120, 1222-1278)

`getMoteID` and `getSession` read the newest session with a DevAddr, and
`getMotesWhere` any one, because its query has no order. They name one device as
long as the sessions with the address belong to one.
-/

namespace Lorawan.NetworkServer
open Lorawan Lorawan.Backend

/-- The rows of a query with `ORDER BY createdAt DESC`. -/
abbrev LatestSessions (rows answer : List SessionRow) : Prop :=
  Query.Latest SessionRow.createdAt rows answer

/-- Whatever orders the three queries return the rows in, `getMotesWhere` writes the ID of the
session that `getSession` reads, and `getMoteID` returns it; without a session the one finds no
address and the other returns zero. -/
def LookupsAgree (rows : List SessionRow) (devAddr : ℕ) : Prop :=
  ∀ scan answer answer', scan.Perm rows → LatestSessions rows answer →
    LatestSessions rows answer' →
    getMotesWhere true scan NONE_DEVEUI devAddr =
        (match newestByDevAddr devAddr answer with
        | none => .error .UnknownDevAddr
        | some r => .ok (.ID r.ID)) ∧
      getMoteID answer' devAddr = ((newestByDevAddr devAddr answer).map (·.ID)).getD 0

/-- The condition: the sessions with the DevAddr belong to one device. -/
def OneOwner (rows : List SessionRow) (devAddr : ℕ) : Prop :=
  ∀ r ∈ rows, ∀ r' ∈ rows, r.DevAddr = devAddr → r'.DevAddr = devAddr → r.ID = r'.ID

/-! ### An address that went to another device -/

/-- The device 1 had the address before the device 2; it has not been heard since. -/
def reusedAddress : List SessionRow :=
  [{ sampleRow with createdAt := 5 }, { sampleRow with ID := 2, createdAt := 9, serial := 1 }]

/-- In the order of the insertions `getMotesWhere` names the old owner of the address. -/
theorem old_owner_named : ¬LookupsAgree reusedAddress sampleDevAddr := by
  have hlatest : LatestSessions reusedAddress reusedAddress.reverse :=
    ⟨List.reverse_perm _, by decide⟩
  intro h
  exact absurd (h reusedAddress reusedAddress.reverse reusedAddress.reverse (List.Perm.refl _)
    hlatest hlatest).1 (by decide)

/-! ### One owner -/

variable {rows scan answer : List SessionRow} {devAddr : ℕ}

theorem getMotesWhere_scan (scan : List SessionRow) (devAddr : ℕ) :
    getMotesWhere true scan NONE_DEVEUI devAddr =
      match (scan.find? (·.DevAddr = devAddr)).map (·.ID) with
      | none => .error .UnknownDevAddr
      | some id => .ok (.ID id) := by
  unfold getMotesWhere
  rw [if_neg (by simp), if_pos rfl]
  cases scan.find? (·.DevAddr = devAddr) <;> rfl

theorem getMotesWhere_eq_iff (scan answer : List SessionRow) (devAddr : ℕ) :
    getMotesWhere true scan NONE_DEVEUI devAddr =
        (match newestByDevAddr devAddr answer with
        | none => .error .UnknownDevAddr
        | some r => .ok (.ID r.ID)) ↔
      (scan.find? (·.DevAddr = devAddr)).map (·.ID) =
        (answer.find? (·.DevAddr = devAddr)).map (·.ID) := by
  rw [getMotesWhere_scan, newestByDevAddr]
  cases scan.find? (·.DevAddr = devAddr) <;> cases answer.find? (·.DevAddr = devAddr) <;> simp

theorem lookups_agree_iff (rows : List SessionRow) (devAddr : ℕ) :
    LookupsAgree rows devAddr ↔ OneOwner rows devAddr := by
  have howner : OneOwner rows devAddr ↔ ∀ answer answer' : List SessionRow, answer.Perm rows →
      answer'.Perm rows → (answer.find? (·.DevAddr = devAddr)).map (·.ID) =
        (answer'.find? (·.DevAddr = devAddr)).map (·.ID) := by
    rw [Query.first_unique_iff]
    simp [OneOwner]
  rw [howner]
  constructor
  · intro h scan scan' hscan hscan'
    obtain ⟨answer, hanswer⟩ := Query.exists_latest SessionRow.createdAt rows
    have hfirst := (getMotesWhere_eq_iff ..).mp (h scan answer answer hscan hanswer hanswer).1
    have hfirst' := (getMotesWhere_eq_iff ..).mp (h scan' answer answer hscan' hanswer hanswer).1
    rw [hfirst, hfirst']
  · intro h scan answer answer' hscan hanswer hanswer'
    refine ⟨(getMotesWhere_eq_iff ..).mpr (h scan answer hscan hanswer.perm), ?_⟩
    unfold getMoteID newestByDevAddr
    rw [h answer' answer hanswer'.perm hanswer.perm]

end Lorawan.NetworkServer

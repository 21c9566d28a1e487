import Lorawan.Lib.Machine

/-!
# Write-behind stores

A table is read directly, and written through a queue of statements that
another process executes in order, at any later time. The table as it will be
when the queue is drained does not depend on when that happens.
-/

namespace Lorawan.WriteBehind

variable {τ υ : Type*} (apply : τ → υ → τ)

structure Store (τ υ : Type*) where
  table : τ
  queue : List υ
deriving DecidableEq

namespace Store

/-- The table once every queued statement was executed. -/
def drained (s : Store τ υ) : τ := Machine.run apply s.table s.queue

def enqueue (s : Store τ υ) (u : υ) : Store τ υ := { s with queue := s.queue ++ [u] }

/-- The first queued statement is executed. -/
def writeNext (s : Store τ υ) : Store τ υ :=
  match s.queue with
  | [] => s
  | u :: us => ⟨apply s.table u, us⟩

/-- Each queued statement meets `C` on the table it will be executed on. -/
def Queued (C : τ → υ → Prop) (s : Store τ υ) : Prop := Machine.Along apply C s.table s.queue

@[simp] theorem drained_enqueue (s : Store τ υ) (u : υ) :
    (s.enqueue u).drained apply = apply (s.drained apply) u :=
  Machine.run_concat apply s.table s.queue u

@[simp] theorem drained_writeNext (s : Store τ υ) :
    (s.writeNext apply).drained apply = s.drained apply := by
  obtain ⟨t, us⟩ := s
  cases us with
  | nil => rfl
  | cons u us => rfl

theorem queued_enqueue {C : τ → υ → Prop} {s : Store τ υ} {u : υ} (h : s.Queued apply C)
    (hu : C (s.drained apply) u) : (s.enqueue u).Queued apply C :=
  (Machine.along_append apply C s.table s.queue [u]).mpr ⟨h, hu, trivial⟩

theorem queued_writeNext {C : τ → υ → Prop} {s : Store τ υ} (h : s.Queued apply C) :
    (s.writeNext apply).Queued apply C := by
  obtain ⟨t, us⟩ := s
  cases us with
  | nil => exact h
  | cons u us => exact h.2

end Store

end Lorawan.WriteBehind

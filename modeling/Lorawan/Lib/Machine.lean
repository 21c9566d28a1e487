import Mathlib.Data.List.Basic

/-!
# Event driven machines

A machine is a total step function on a state type. A run is the fold of the
step over a list of events. `Along` says that every event of a run meets a
condition in the state in which the machine receives it: a condition on the
input and on the state before the step, never on what the step computes.
-/

namespace Lorawan.Machine

variable {σ ε : Type*} (step : σ → ε → σ)

/-- The state after the events `es`, handled left to right. -/
def run (s : σ) (es : List ε) : σ := es.foldl step s

@[simp] theorem run_nil (s : σ) : run step s [] = s := rfl

@[simp] theorem run_cons (s : σ) (e : ε) (es : List ε) :
    run step s (e :: es) = run step (step s e) es := rfl

theorem run_append (s : σ) (es fs : List ε) :
    run step s (es ++ fs) = run step (run step s es) fs := by
  simp only [run, List.foldl_append]

theorem run_concat (s : σ) (es : List ε) (e : ε) :
    run step s (es ++ [e]) = step (run step s es) e := by
  rw [run_append, run_cons, run_nil]

/-- Each event meets `C` in the state before it is handled. -/
def Along (C : σ → ε → Prop) : σ → List ε → Prop
  | _, [] => True
  | s, e :: es => C s e ∧ Along C (step s e) es

@[simp] theorem along_nil (C : σ → ε → Prop) (s : σ) : Along step C s [] := trivial

@[simp] theorem along_cons (C : σ → ε → Prop) (s : σ) (e : ε) (es : List ε) :
    Along step C s (e :: es) ↔ C s e ∧ Along step C (step s e) es := Iff.rfl

instance decidableAlong (C : σ → ε → Prop) [∀ s e, Decidable (C s e)] :
    ∀ (s : σ) (es : List ε), Decidable (Along step C s es)
  | _, [] => .isTrue trivial
  | s, e :: es =>
    have := decidableAlong C (step s e) es
    inferInstanceAs (Decidable (C s e ∧ Along step C (step s e) es))

theorem along_append (C : σ → ε → Prop) (s : σ) (es fs : List ε) :
    Along step C s (es ++ fs) ↔ Along step C s es ∧ Along step C (run step s es) fs := by
  induction es generalizing s with
  | nil => simp
  | cons e es ih =>
    simp only [List.cons_append, along_cons, run_cons, ih, and_assoc]

theorem along_mono {C D : σ → ε → Prop} (h : ∀ s e, C s e → D s e) (s : σ) (es : List ε) :
    Along step C s es → Along step D s es := by
  induction es generalizing s with
  | nil => exact fun _ => trivial
  | cons e es ih =>
    rintro ⟨hc, hrest⟩
    exact ⟨h s e hc, ih (step s e) hrest⟩

theorem along_of_forall {C : ε → Prop} (s : σ) {es : List ε} (h : ∀ e ∈ es, C e) :
    Along step (fun _ e => C e) s es := by
  induction es generalizing s with
  | nil => trivial
  | cons e es ih =>
    obtain ⟨he, hes⟩ := List.forall_mem_cons.mp h
    exact ⟨he, ih (step s e) hes⟩

/-- A conditional invariant: kept by every step that meets `C`, it holds after
every run whose steps all meet `C`. -/
theorem run_invariant {Inv : σ → Prop} {C : σ → ε → Prop}
    (hstep : ∀ s e, Inv s → C s e → Inv (step s e))
    {s : σ} {es : List ε} (hinit : Inv s) (hc : Along step C s es) : Inv (run step s es) := by
  induction es generalizing s with
  | nil => exact hinit
  | cons e es ih => exact ih (hstep s e hinit hc.1) hc.2

theorem along_of_invariant {Inv : σ → Prop} {C D : σ → ε → Prop}
    (hstep : ∀ s e, Inv s → C s e → Inv (step s e) ∧ D s e)
    {s : σ} {es : List ε} (hinit : Inv s) (hc : Along step C s es) : Along step D s es := by
  induction es generalizing s with
  | nil => trivial
  | cons e es ih =>
    obtain ⟨hinv, hd⟩ := hstep s e hinit hc.1
    exact ⟨hd, ih hinv hc.2⟩

theorem run_invariant_always {Inv : σ → Prop} (hstep : ∀ s e, Inv s → Inv (step s e))
    {s : σ} (hinit : Inv s) (es : List ε) : Inv (run step s es) := by
  induction es generalizing s with
  | nil => exact hinit
  | cons e es ih => exact ih (hstep s e hinit)

/-- Where a step keeps the invariant exactly if it meets `C`, the runs that keep it are those whose
steps all meet `C`. -/
theorem always_iff_along {Inv : σ → Prop} {C : σ → ε → Prop}
    (hstep : ∀ s e, Inv s → (Inv (step s e) ↔ C s e)) {s : σ} (hinit : Inv s) (es : List ε) :
    (∀ n, Inv (run step s (es.take n))) ↔ Along step C s es := by
  induction es generalizing s with
  | nil => exact ⟨fun _ => trivial, fun _ n => by rwa [List.take_nil]⟩
  | cons e es ih =>
    rw [along_cons]
    constructor
    · intro h
      have hnext : Inv (step s e) := h 1
      exact ⟨(hstep s e hinit).mp hnext, (ih hnext).mp fun n => h (n + 1)⟩
    · rintro ⟨hc, hrest⟩ n
      cases n with
      | zero => exact hinit
      | succ n => exact (ih ((hstep s e hinit).mpr hc)).mpr hrest n

/-! ### Two machines with the same events -/

/-- A refinement: what one machine's steps keep of its relation to another, runs keep. -/
theorem run_refines {τ : Type*} {step : σ → ε → σ} {step' : τ → ε → τ} {R : σ → τ → Prop}
    (hstep : ∀ s t e, R s t → R (step s e) (step' t e)) {s : σ} {t : τ} (h : R s t) (es : List ε) :
    R (run step s es) (run step' t es) := by
  induction es generalizing s t with
  | nil => exact h
  | cons e es ih => exact ih (hstep s t e h)

/-! ### Two runs of the same events -/

/-- Related states show the same, and events that meet `C` keep them related. -/
structure Unwinding {ω : Type*} (C : ε → Prop) (shown : σ → ω) (R : σ → σ → Prop) : Prop where
  step : ∀ {s t : σ} {e : ε}, R s t → C e → R (step s e) (step t e)
  shown : ∀ {s t : σ}, R s t → shown s = shown t

variable {step}

theorem Unwinding.run {ω : Type*} {C : ε → Prop} {shown : σ → ω} {R : σ → σ → Prop}
    (h : Unwinding step C shown R) {s t : σ} {es : List ε} (hR : R s t) (hc : ∀ e ∈ es, C e) :
    R (run step s es) (run step t es) := by
  induction es generalizing s t with
  | nil => exact hR
  | cons e es ih =>
    have hstep := h.step hR (hc e List.mem_cons_self)
    exact ih hstep fun e' he' => hc e' (List.mem_cons_of_mem e he')

theorem Unwinding.shown_run {ω : Type*} {C : ε → Prop} {shown : σ → ω} {R : σ → σ → Prop}
    (h : Unwinding step C shown R) {s t : σ} {es : List ε} (hR : R s t) (hc : ∀ e ∈ es, C e) :
    shown (Machine.run step s es) = shown (Machine.run step t es) :=
  h.shown (h.run hR hc)

end Lorawan.Machine

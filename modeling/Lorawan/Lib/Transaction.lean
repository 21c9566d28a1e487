import Mathlib.Data.List.Basic

/-!
# Transactions of a database connection

Some tables take part in transactions (`τ`), others are written at once (`δ`). A
statement that fails changes nothing and ends neither the transaction nor what was
written in it; `BEGIN` commits a transaction that is still open.
-/

namespace Lorawan.Database

variable {τ δ : Type*}

structure Connection (τ δ : Type*) where
  /-- The tables without transactions. -/
  direct : δ
  /-- What others see. -/
  committed : τ
  /-- The tables within the open transaction. -/
  opened : Option τ
deriving DecidableEq

/-- What this connection sees. -/
def Connection.view (c : Connection τ δ) : τ := c.opened.getD c.committed

def Connection.begin (c : Connection τ δ) : Connection τ δ :=
  { c with committed := c.view, opened := some c.view }

def Connection.commit (c : Connection τ δ) : Connection τ δ :=
  { c with committed := c.view, opened := none }

/-- A statement that writes. -/
inductive Write (τ δ : Type*)
  | tables (f : τ → τ)
  | direct (f : δ → δ)

def Connection.write (c : Connection τ δ) : Write τ δ → Connection τ δ
  | .direct f => { c with direct := f c.direct }
  | .tables f =>
    match c.opened with
    | some t => { c with opened := some (f t) }
    | none => { c with committed := f c.committed }

/-- Statements in order, up to the first that fails. -/
def Connection.writes (c : Connection τ δ) : List (Bool × Write τ δ) → Connection τ δ × Bool
  | [] => (c, true)
  | (ok, w) :: ws => if ok then (c.write w).writes ws else (c, false)

/-- `BEGIN`, the statements and `COMMIT`; nothing is rolled back. -/
def Connection.transaction (c : Connection τ δ) (beginOk : Bool) (ws : List (Bool × Write τ δ))
    (commitOk : Bool) : Connection τ δ × Bool :=
  if beginOk then
    let done := c.begin.writes ws
    if done.2 && commitOk then (done.1.commit, true) else (done.1, false)
  else (c, false)

/-! ### What the statements do -/

def Write.apply : Write τ δ → τ × δ → τ × δ
  | .tables f, (t, d) => (f t, d)
  | .direct f, (t, d) => (t, f d)

/-- The statements before the first that fails. -/
def executed (ws : List (Bool × Write τ δ)) : List (Write τ δ) :=
  (ws.takeWhile Prod.fst).map Prod.snd

def applyAll (ws : List (Write τ δ)) (x : τ × δ) : τ × δ := ws.foldl (fun x w => w.apply x) x

@[simp] theorem applyAll_nil (x : τ × δ) : applyAll [] x = x := rfl

@[simp] theorem applyAll_cons (w : Write τ δ) (ws : List (Write τ δ)) (x : τ × δ) :
    applyAll (w :: ws) x = applyAll ws (w.apply x) := rfl

@[simp] theorem executed_nil : executed ([] : List (Bool × Write τ δ)) = [] := rfl

@[simp] theorem executed_true (w : Write τ δ) (ws : List (Bool × Write τ δ)) :
    executed ((true, w) :: ws) = w :: executed ws := rfl

@[simp] theorem executed_false (w : Write τ δ) (ws : List (Bool × Write τ δ)) :
    executed ((false, w) :: ws) = [] := rfl

theorem applyAll_keeps {γ : Type*} (part : τ × δ → γ) {ws : List (Bool × Write τ δ)}
    (h : ∀ a ∈ ws, ∀ x, part (a.2.apply x) = part x) (x : τ × δ) :
    part (applyAll (executed ws) x) = part x := by
  induction ws generalizing x with
  | nil => rfl
  | cons a ws ih =>
    obtain ⟨ok, w⟩ := a
    obtain ⟨hw, hws⟩ := List.forall_mem_cons.mp h
    cases ok with
    | false => rfl
    | true => rw [executed_true, applyAll_cons, ih hws, hw]

theorem applyAll_cons_of_self {w : Write τ δ} {x : τ × δ} (h : w.apply x = x) (ok : Bool)
    (ws : List (Bool × Write τ δ)) :
    applyAll (executed ((ok, w) :: ws)) x = x ↔ (ok = true → applyAll (executed ws) x = x) := by
  cases ok with
  | false => simp
  | true =>
    rw [executed_true, applyAll_cons, h]
    simp

/-- A statement changes a part of the tables that the later ones do not write: then all of them
change nothing exactly when each that is executed changes nothing. -/
theorem applyAll_cons_eq_self_iff {γ : Type*} (part : τ × δ → γ) {w : Write τ δ} {x : τ × δ}
    (hown : part (w.apply x) = part x → w.apply x = x) {ws : List (Bool × Write τ δ)}
    (hws : ∀ a ∈ ws, ∀ y, part (a.2.apply y) = part y) (ok : Bool) :
    applyAll (executed ((ok, w) :: ws)) x = x ↔
      (ok = true → w.apply x = x ∧ applyAll (executed ws) x = x) := by
  by_cases hw : w.apply x = x
  · rw [applyAll_cons_of_self hw]
    simp only [hw, true_and]
  · cases ok with
    | false => simp
    | true =>
      rw [executed_true, applyAll_cons]
      constructor
      · intro heq
        have hpart := applyAll_keeps part hws (w.apply x)
        rw [heq] at hpart
        exact absurd (hown hpart.symm) hw
      · intro h
        exact absurd (h rfl).1 hw

/-- Within a transaction nothing but the tables without transactions is seen by others. -/
theorem writes_opened {c : Connection τ δ} {t : τ} (h : c.opened = some t)
    (ws : List (Bool × Write τ δ)) :
    (c.writes ws).1 =
        ⟨(applyAll (executed ws) (t, c.direct)).2, c.committed,
          some (applyAll (executed ws) (t, c.direct)).1⟩ ∧
      (c.writes ws).2 = ws.all Prod.fst := by
  induction ws generalizing c t with
  | nil =>
    obtain ⟨direct, committed, opened⟩ := c
    exact ⟨by simp_all [Connection.writes], rfl⟩
  | cons a ws ih =>
    obtain ⟨ok, w⟩ := a
    unfold Connection.writes
    cases ok with
    | false => exact ⟨by obtain ⟨direct, committed, opened⟩ := c; simp_all, rfl⟩
    | true =>
      have hw : (c.write w).opened = some (w.apply (t, c.direct)).1 ∧
          (c.write w).direct = (w.apply (t, c.direct)).2 ∧
          (c.write w).committed = c.committed := by
        cases w with
        | tables f => simp [Connection.write, Write.apply, h]
        | direct f => simp [Connection.write, Write.apply, h]
      obtain ⟨hopened, hdirect, hcommitted⟩ := hw
      obtain ⟨hstate, hok⟩ := ih hopened
      rw [hdirect, hcommitted] at hstate
      rw [if_pos rfl]
      exact ⟨hstate, by rw [hok]; simp⟩

/-- No statement of the transaction fails. -/
def AllOk (beginOk : Bool) (ws : List (Bool × Write τ δ)) (commitOk : Bool) : Prop :=
  beginOk = true ∧ ws.all Prod.fst = true ∧ commitOk = true

theorem transaction_succeeds_iff (c : Connection τ δ) (beginOk : Bool)
    (ws : List (Bool × Write τ δ)) (commitOk : Bool) :
    (c.transaction beginOk ws commitOk).2 = true ↔ AllOk beginOk ws commitOk := by
  have hws := (writes_opened (c := c.begin) rfl ws).2
  unfold Connection.transaction AllOk
  cases beginOk with
  | false => simp
  | true =>
    simp only [if_true, hws]
    cases ws.all Prod.fst <;> cases commitOk <;> simp

/-- After success the tables are those the statements make, and no transaction is open. -/
theorem transaction_of_allOk (c : Connection τ δ) {beginOk : Bool} {ws : List (Bool × Write τ δ)}
    {commitOk : Bool} (h : AllOk beginOk ws commitOk) :
    (c.transaction beginOk ws commitOk).1 =
      ⟨(applyAll (executed ws) (c.view, c.direct)).2,
        (applyAll (executed ws) (c.view, c.direct)).1, none⟩ := by
  obtain ⟨hbegin, hall, hcommit⟩ := h
  obtain ⟨hstate, hok⟩ := writes_opened (c := c.begin) rfl ws
  simp only [Connection.transaction, hbegin, hok, hall, hcommit, hstate, Bool.and_self, if_true]
  rfl

/-! ### Leaving the tables as they were -/

/-- All tables are as before, also once a later `BEGIN` has committed what is still open. -/
structure Kept (c c' : Connection τ δ) : Prop where
  direct : c'.direct = c.direct
  committed : c'.committed = c.committed
  later : c'.begin.committed = c.committed

theorem kept_self_iff (c : Connection τ δ) : Kept c c ↔ c.view = c.committed :=
  ⟨fun h => h.later, fun h => ⟨rfl, rfl, h⟩⟩

/-- A transaction that fails leaves the tables as they were exactly when the statements before
the failure change nothing, and none that was open before did. -/
theorem kept_transaction_iff (c : Connection τ δ) {beginOk : Bool}
    {ws : List (Bool × Write τ δ)} {commitOk : Bool} (h : ¬AllOk beginOk ws commitOk) :
    Kept c (c.transaction beginOk ws commitOk).1 ↔ c.view = c.committed ∧
      (beginOk = true → applyAll (executed ws) (c.view, c.direct) = (c.view, c.direct)) := by
  cases beginOk with
  | false =>
    simp only [Connection.transaction, Bool.false_eq_true, if_false, false_imp_iff, and_true]
    exact kept_self_iff c
  | true =>
    obtain ⟨hstate, hok⟩ := writes_opened (c := c.begin) rfl ws
    have hfail : ((c.begin.writes ws).2 && commitOk) = false := by
      rw [hok]
      cases hall : ws.all Prod.fst with
      | false => rfl
      | true =>
        cases commitOk with
        | false => rfl
        | true => exact absurd ⟨rfl, hall, rfl⟩ h
    have hresult : (c.transaction true ws commitOk).1 = (c.begin.writes ws).1 := by
      simp only [Connection.transaction, if_true, hfail, Bool.false_eq_true, if_false]
    rw [hresult, hstate]
    constructor
    · rintro ⟨hdirect, hcommitted, hlater⟩
      have hview : c.view = c.committed := hcommitted
      exact ⟨hview, fun _ => Prod.ext (hlater.trans hview.symm) hdirect⟩
    · rintro ⟨hview, hsame⟩
      have heq : applyAll (executed ws) (c.view, c.begin.direct) = (c.view, c.direct) := hsame rfl
      rw [heq]
      exact ⟨rfl, hview, hview⟩

end Lorawan.Database

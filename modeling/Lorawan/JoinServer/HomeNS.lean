import Mathlib.Data.Set.Insert
import Lorawan.JoinServer.Registry

/-!
# Home networks (join_server/web.c:57-138, 859-974)

The web page also keeps, for each device, the NetID of its home network and the
NetIDs that may ask for it; `getHomeNS` answers them. The permissions stand in a
table of their own, under the device's `ID`. Removing a device leaves them
there, but no later device has that `ID`.
-/

namespace Lorawan.JoinServer
open Lorawan Lorawan.Backend

/-! ### The tables -/

/-- The columns of `joinmotes` that no join reads. -/
structure HomeRow where
  ID : ℕ
  eui : ℕ
  homeNetID : Option ℕ
deriving DecidableEq

structure HomeTables where
  joinmotes : List HomeRow
  /-- `moteID` and `NetID`. -/
  roamingNetIDs : List (ℕ × ℕ)
  /-- `AUTO_INCREMENT` of `joinmotes`. -/
  nextID : ℕ
deriving DecidableEq

def HomeTables.row (t : HomeTables) (devEui : ℕ) : Option HomeRow :=
  FirstRow.first HomeRow.eui devEui t.joinmotes

def HomeTables.empty : HomeTables := ⟨[], [], 1⟩

/-! ### The forms -/

inductive HomeStatement
  | updateHome
  | selectID
  | insertRoaming
  | deleteRoaming
  | selectHome
  | selectRoaming
deriving DecidableEq, Repr

structure HomeEnv where
  refused : HomeStatement → Bool
  mysql_error : String
  junkNetID : ℕ
  junkEUI : ℕ

def NONE_NETID : ℕ := 0xffffff

/-- `appInfo_t`, with the two fields that the forms of `/edit` have. -/
structure NetIDInfo extends appInfo_t where
  roamNetID : ℕ
  homeNetID : ℕ
deriving DecidableEq

/-- `none` for `ULONG_MAX`. -/
def getMoteID (env : HomeEnv) (devEui : ℕ) (t : HomeTables) : Option ℕ :=
  if env.refused .selectID then none else (t.row devEui).map (·.ID)

def getMoteIDMsg (devEui : ℕ) : String :=
  "getMoteID(" ++ String.ofList (Text.print 16 devEui) ++ ") failed"

/-- The new value of `homeNetID`. -/
def newHome (ai : NetIDInfo) : Option ℕ :=
  if ai.homeNetID = NONE_NETID then none else some ai.homeNetID

/-- The new value of a home network, in the rows of a device. -/
def HomeRow.setHome (changed : ℕ) (home : Option ℕ) (m : HomeRow) : HomeRow :=
  if m.eui = changed then { m with homeNetID := home } else m

def updateHomeQuery (ai : NetIDInfo) : String :=
  "UPDATE joinmotes SET homeNetID = " ++ ((newHome ai).map toString).getD "NULL" ++
    " WHERE eui = " ++ toString ai.DevEUI

def updateHomeNetID (env : HomeEnv) (ai : NetIDInfo) (t : HomeTables) : HomeTables × String :=
  if env.refused .updateHome then (t, "joinmotes mysql_query() " ++ env.mysql_error)
  else
    ({ t with joinmotes := t.joinmotes.map (HomeRow.setHome ai.DevEUI (newHome ai)) },
      if t.joinmotes.any fun m => decide (m.eui = ai.DevEUI) && decide (m.homeNetID ≠ newHome ai)
      then "" else "set netid: nothing updated<br>" ++ updateHomeQuery ai)

def addRoamableNetID (env : HomeEnv) (ai : NetIDInfo) (t : HomeTables) : HomeTables × String :=
  match getMoteID env ai.DevEUI t with
  | none => (t, getMoteIDMsg ai.DevEUI)
  | some moteID =>
    if env.refused .insertRoaming then (t, "INSERT roamingNetIDs " ++ env.mysql_error)
    else ({ t with roamingNetIDs := t.roamingNetIDs ++ [(moteID, ai.roamNetID)] }, "")

/-- All rows of the pair are deleted, also when there are several and the page says it failed. -/
def delRoamableNetID (env : HomeEnv) (ai : NetIDInfo) (t : HomeTables) : HomeTables × String :=
  match getMoteID env ai.DevEUI t with
  | none => (t, getMoteIDMsg ai.DevEUI)
  | some moteID =>
    if env.refused .deleteRoaming then (t, "DELETE roamingNetIDs " ++ env.mysql_error)
    else
      let affected := t.roamingNetIDs.count (moteID, ai.roamNetID)
      ({ t with roamingNetIDs := t.roamingNetIDs.filter (· ≠ (moteID, ai.roamNetID)) },
        if affected = 1 then "" else "DELETE roamingNetIDs affected rows " ++ toString affected)

/-- What the statements of `/otaMotes` do to these columns; they leave `roamingNetIDs` alone. -/
def HomeTables.otaMotes (t : HomeTables) (env : PageEnv) (ai : appInfo_t) : HomeTables :=
  match (Event.otaMotes env ai).change with
  | none => t
  | some (.register devEui _) =>
    { t with joinmotes := t.joinmotes ++ [⟨t.nextID, devEui, none⟩], nextID := t.nextID + 1 }
  | some (.remove devEui) => { t with joinmotes := t.joinmotes.filter (·.eui ≠ devEui) }

/-! ### getHomeNS (web.c:57-138) -/

/-- The text of `HNetID`. A refused first `SELECT` is reported through a format that is written
into itself. -/
def getHomeNS (env : HomeEnv) (DevEUI : Option JsonValue) (sender_id : List Char)
    (t : HomeTables) : Except Stop (List Char) :=
  let askingNetID := (Text.scan 16 32 sender_id).getD env.junkNetID
  match DevEUI with
  | none => .error (.result .MalformedRequest)
  | some v =>
    let devEui := (Text.scan 16 64 v.get_string).getD env.junkEUI
    if env.refused .selectHome then .error .undefined
    else
      match t.row devEui with
      | none => .error (.result .UnknownDevEUI)
      | some m =>
        match m.homeNetID with
        | none => .error (.result .Other)
        | some ans_netid =>
          if env.refused .selectRoaming then .error (.result .NoRoamingAgreement)
          else if t.roamingNetIDs.contains (m.ID, askingNetID) then
            .ok (Text.printPad 6 16 ans_netid)
          else .error (.result .NoRoamingAgreement)

/-! ### Runs -/

inductive HomeEvent
  | otaMotes (env : PageEnv) (ai : appInfo_t)
  | setHome (env : HomeEnv) (ai : NetIDInfo)
  | addRoaming (env : HomeEnv) (ai : NetIDInfo)
  | delRoaming (env : HomeEnv) (ai : NetIDInfo)

def HomeTables.step (t : HomeTables) : HomeEvent → HomeTables
  | .otaMotes env ai => t.otaMotes env ai
  | .setHome env ai => (updateHomeNetID env ai t).1
  | .addRoaming env ai => (addRoamableNetID env ai t).1
  | .delRoaming env ai => (delRoamableNetID env ai t).1

def homeTablesAfter (es : List HomeEvent) : HomeTables :=
  Machine.run HomeTables.step .empty es

/-! ### What the page is for -/

/-- The home network of a device, and who may ask for it. -/
structure Agreement where
  home : Option ℕ
  allowed : Set ℕ

/-- Of the devices that are registered. -/
abbrev Policy := ℕ → Option Agreement

namespace Policy

variable (p : Policy)

/-- A device starts without a home network, and nobody may ask. -/
def register (devEui : ℕ) : Policy :=
  if (p devEui).isSome then p else Function.update p devEui (some ⟨none, ∅⟩)

def remove (devEui : ℕ) : Policy := Function.update p devEui none

def modify (devEui : ℕ) (f : Agreement → Agreement) : Policy :=
  Function.update p devEui ((p devEui).map f)

def step (p : Policy) : HomeEvent → Policy
  | .otaMotes env ai =>
    match (Event.otaMotes env ai).change with
    | none => p
    | some (.register devEui _) => p.register devEui
    | some (.remove devEui) => p.remove devEui
  | .setHome env ai =>
    if env.refused .updateHome then p
    else p.modify ai.DevEUI fun a => { a with home := newHome ai }
  | .addRoaming env ai =>
    if env.refused .selectID || env.refused .insertRoaming then p
    else p.modify ai.DevEUI fun a => { a with allowed := insert ai.roamNetID a.allowed }
  | .delRoaming env ai =>
    if env.refused .selectID || env.refused .deleteRoaming then p
    else p.modify ai.DevEUI fun a => { a with allowed := a.allowed \ {ai.roamNetID} }

/-- What a network that asks is told. -/
noncomputable def answer (devEui NetID : ℕ) : Except Stop (List Char) :=
  open Classical in
  match p devEui with
  | none => .error (.result .UnknownDevEUI)
  | some a =>
    match a.home with
    | none => .error (.result .Other)
    | some home =>
      if NetID ∈ a.allowed then .ok (Text.printPad 6 16 home)
      else .error (.result .NoRoamingAgreement)

end Policy

def policyAfter (es : List HomeEvent) : Policy := Machine.run Policy.step (fun _ => none) es

/-- What the tables say about the device of a row. -/
def HomeTables.agreement (t : HomeTables) (m : HomeRow) : Agreement :=
  ⟨m.homeNetID, fun NetID => (m.ID, NetID) ∈ t.roamingNetIDs⟩

/-- The tables hold the policy; permissions are of an `ID` that was given to a device. -/
structure Grants (t : HomeTables) (p : Policy) : Prop where
  row : ∀ devEui, (t.row devEui).map t.agreement = p devEui
  distinct : (t.joinmotes.map (·.ID)).Nodup
  below : ∀ m ∈ t.joinmotes, m.ID < t.nextID
  roaming_below : ∀ q ∈ t.roamingNetIDs, q.1 < t.nextID

variable {t : HomeTables} {p : Policy} {devEui : ℕ} {m : HomeRow}

/-! ### The first row of a device -/

theorem homeRow_append (t : HomeTables) (m : HomeRow) (next devEui : ℕ) :
    HomeTables.row { t with joinmotes := t.joinmotes ++ [m], nextID := next } devEui =
      (t.row devEui).or (if m.eui = devEui then some m else none) :=
  FirstRow.first_append devEui t.joinmotes m

theorem homeRow_filter (t : HomeTables) (removed devEui : ℕ) :
    HomeTables.row { t with joinmotes := t.joinmotes.filter (·.eui ≠ removed) } devEui =
      if devEui = removed then none else t.row devEui :=
  FirstRow.first_remove devEui removed t.joinmotes

theorem setHome_eui (changed : ℕ) (home : Option ℕ) (m : HomeRow) :
    (m.setHome changed home).eui = m.eui := by
  unfold HomeRow.setHome
  split <;> rfl

theorem setHome_ID (changed : ℕ) (home : Option ℕ) (m : HomeRow) :
    (m.setHome changed home).ID = m.ID := by
  unfold HomeRow.setHome
  split <;> rfl

theorem homeRow_map (t : HomeTables) (changed : ℕ) (home : Option ℕ) (devEui : ℕ) :
    HomeTables.row { t with joinmotes := t.joinmotes.map (HomeRow.setHome changed home) } devEui =
      (t.row devEui).map (HomeRow.setHome changed home) :=
  FirstRow.first_map (setHome_eui changed home) devEui t.joinmotes

/-! ### Each form keeps the policy -/

theorem Grants.id_ne (h : Grants t p) {devEui' : ℕ} {m' : HomeRow} (hrow : t.row devEui = some m)
    (hrow' : t.row devEui' = some m') (hne : devEui ≠ devEui') : m.ID ≠ m'.ID := by
  intro hid
  obtain rfl := List.inj_on_of_nodup_map h.distinct (FirstRow.mem_of_first hrow)
    (FirstRow.mem_of_first hrow') hid
  exact hne ((FirstRow.key_of_first hrow).symm.trans (FirstRow.key_of_first hrow'))

theorem grants_register (h : Grants t p) (devEui : ℕ) :
    Grants { t with joinmotes := t.joinmotes ++ [⟨t.nextID, devEui, none⟩], nextID := t.nextID + 1 }
      (p.register devEui) := by
  refine ⟨fun e => ?_, ?_, ?_, fun q hq => Nat.lt_succ_of_lt (h.roaming_below q hq)⟩
  · have hrow := h.row e
    have hnew : t.agreement ⟨t.nextID, devEui, none⟩ = ⟨none, ∅⟩ := by
      refine congrArg (Agreement.mk none) (Set.eq_empty_of_forall_notMem fun n hn => ?_)
      exact absurd (h.roaming_below _ hn) (lt_irrefl _)
    rw [homeRow_append, Policy.register]
    change Option.map t.agreement _ = _
    by_cases he : devEui = e
    · subst he
      rw [if_pos rfl]
      cases hfirst : t.row devEui with
      | some m =>
        -- the device has a row: the new one is not read
        rw [hfirst, Option.map_some] at hrow
        rw [← hrow, Option.isSome_some, if_pos rfl, ← hrow]
        rfl
      | none =>
        rw [hfirst, Option.map_none] at hrow
        rw [← hrow, Option.isSome_none, if_neg Bool.false_ne_true, Function.update_self,
          Option.none_or, Option.map_some, hnew]
    · rw [if_neg he, Option.or_none]
      split
      · exact hrow
      · rw [Function.update_of_ne (Ne.symm he)]
        exact hrow
  · rw [List.map_append, List.nodup_append]
    refine ⟨h.distinct, List.nodup_singleton _, fun i hi j hj => ?_⟩
    obtain ⟨m, hm, rfl⟩ := List.mem_map.mp hi
    rw [List.mem_singleton.mp hj]
    exact Nat.ne_of_lt (h.below m hm)
  · intro m hm
    rcases List.mem_append.mp hm with hm | hm
    · exact Nat.lt_succ_of_lt (h.below m hm)
    · rw [List.mem_singleton.mp hm]
      exact Nat.lt_succ_self _

theorem grants_remove (h : Grants t p) (removed : ℕ) :
    Grants { t with joinmotes := t.joinmotes.filter (·.eui ≠ removed) } (p.remove removed) := by
  refine ⟨fun e => ?_, h.distinct.sublist (List.filter_sublist.map _),
    fun m hm => h.below m (List.mem_of_mem_filter hm), h.roaming_below⟩
  rw [homeRow_filter, Policy.remove]
  by_cases he : e = removed
  · rw [if_pos he, he, Function.update_self]
    rfl
  · rw [if_neg he, Function.update_of_ne he]
    exact h.row e

theorem row_modify {t' : HomeTables} {f : Agreement → Agreement} (h : Grants t p)
    (hself : (t'.row devEui).map t'.agreement = ((t.row devEui).map t.agreement).map f)
    (hother : ∀ e, e ≠ devEui → (t'.row e).map t'.agreement = (t.row e).map t.agreement) (e : ℕ) :
    (t'.row e).map t'.agreement = p.modify devEui f e := by
  unfold Policy.modify
  by_cases he : e = devEui
  · rw [he, Function.update_self, ← h.row devEui]
    exact hself
  · rw [Function.update_of_ne he, ← h.row e]
    exact hother e he

theorem grants_home (h : Grants t p) (devEui : ℕ) (home : Option ℕ) :
    Grants { t with joinmotes := t.joinmotes.map (HomeRow.setHome devEui home) }
      (p.modify devEui fun a => { a with home := home }) := by
  refine ⟨row_modify h ?_ fun e he => ?_, ?_, ?_, h.roaming_below⟩
  · rw [homeRow_map, Option.map_map, Option.map_map]
    refine Option.map_congr fun m hm => ?_
    simp [HomeTables.agreement, HomeRow.setHome, FirstRow.key_of_first hm]
  · rw [homeRow_map, Option.map_map]
    refine Option.map_congr fun m hm => ?_
    have hne : m.eui ≠ devEui := fun heq => he ((FirstRow.key_of_first hm).symm.trans heq)
    simp [HomeTables.agreement, HomeRow.setHome, hne]
  · rw [List.map_map, show HomeRow.ID ∘ HomeRow.setHome devEui home = HomeRow.ID from
      funext (setHome_ID devEui home)]
    exact h.distinct
  · intro m hm
    obtain ⟨m', hm', rfl⟩ := List.mem_map.mp hm
    rw [setHome_ID]
    exact h.below m' hm'

/-- A change of the permissions under the `ID` of one device. -/
theorem grants_roaming (h : Grants t p) (hrow : t.row devEui = some m)
    {roaming : List (ℕ × ℕ)} {f : Set ℕ → Set ℕ}
    (hself : {n | (m.ID, n) ∈ roaming} = f {n | (m.ID, n) ∈ t.roamingNetIDs})
    (hother : ∀ id n, id ≠ m.ID → ((id, n) ∈ roaming ↔ (id, n) ∈ t.roamingNetIDs))
    (hbelow : ∀ q ∈ roaming, q.1 < t.nextID) :
    Grants { t with roamingNetIDs := roaming }
      (p.modify devEui fun a => { a with allowed := f a.allowed }) := by
  refine ⟨row_modify h ?_ fun e he => ?_, h.distinct, h.below, hbelow⟩
  · change Option.map _ (t.row devEui) = _
    rw [hrow]
    exact congrArg some (congrArg (Agreement.mk m.homeNetID) hself)
  · change Option.map _ (t.row e) = _
    refine Option.map_congr fun m' hm' => ?_
    have hid : m'.ID ≠ m.ID := h.id_ne hm' hrow he
    exact congrArg (Agreement.mk m'.homeNetID) (Set.ext fun n => hother m'.ID n hid)

theorem modify_none (h : Grants t p) (hrow : t.row devEui = none) (f : Agreement → Agreement) :
    p.modify devEui f = p := by
  have hnone := h.row devEui
  rw [hrow, Option.map_none] at hnone
  unfold Policy.modify
  rw [← hnone, Option.map_none, hnone, Function.update_eq_self]

theorem grants_addRoaming (h : Grants t p) (env : HomeEnv) (ai : NetIDInfo) :
    Grants (addRoamableNetID env ai t).1 (p.step (.addRoaming env ai)) := by
  simp only [addRoamableNetID, getMoteID, Policy.step]
  cases env.refused .selectID with
  | true => exact h
  | false =>
    cases hrow : t.row ai.DevEUI with
    | none =>
      cases env.refused .insertRoaming with
      | true => exact h
      | false =>
        have hmodify := modify_none h hrow fun a => { a with allowed := insert ai.roamNetID a.allowed }
        simp only [Bool.or_self, Bool.false_eq_true, if_false, Option.map_none, hmodify]
        exact h
    | some m =>
      cases env.refused .insertRoaming with
      | true => exact h
      | false =>
        simp only [Bool.or_self, Bool.false_eq_true, if_false, Option.map_some]
        refine @grants_roaming t p ai.DevEUI m h hrow _ (insert ai.roamNetID) ?_ ?_ ?_
        · ext n
          simp [or_comm]
        · intro id n hne
          simp [hne]
        · intro q hq
          rcases List.mem_append.mp hq with hq | hq
          · exact h.roaming_below q hq
          · rw [List.mem_singleton.mp hq]
            exact h.below m (FirstRow.mem_of_first hrow)

theorem grants_delRoaming (h : Grants t p) (env : HomeEnv) (ai : NetIDInfo) :
    Grants (delRoamableNetID env ai t).1 (p.step (.delRoaming env ai)) := by
  simp only [delRoamableNetID, getMoteID, Policy.step]
  cases env.refused .selectID with
  | true => exact h
  | false =>
    cases hrow : t.row ai.DevEUI with
    | none =>
      cases env.refused .deleteRoaming with
      | true => exact h
      | false =>
        have hmodify := modify_none h hrow fun a => { a with allowed := a.allowed \ {ai.roamNetID} }
        simp only [Bool.or_self, Bool.false_eq_true, if_false, Option.map_none, hmodify]
        exact h
    | some m =>
      cases env.refused .deleteRoaming with
      | true => exact h
      | false =>
        simp only [Bool.or_self, Bool.false_eq_true, if_false, Option.map_some]
        refine @grants_roaming t p ai.DevEUI m h hrow _ (fun s => s \ {ai.roamNetID}) ?_ ?_ ?_
        · ext n
          simp
        · intro id n hne
          simp [hne]
        · exact fun q hq => h.roaming_below q (List.mem_of_mem_filter hq)

theorem grants_step (t : HomeTables) (p : Policy) (e : HomeEvent) (h : Grants t p) :
    Grants (t.step e) (p.step e) := by
  cases e with
  | otaMotes env ai =>
    simp only [HomeTables.step, HomeTables.otaMotes, Policy.step]
    cases (Event.otaMotes env ai).change with
    | none => exact h
    | some c =>
      cases c with
      | register devEui keys => exact grants_register h devEui
      | remove devEui => exact grants_remove h devEui
  | setHome env ai =>
    simp only [HomeTables.step, updateHomeNetID, Policy.step]
    cases env.refused .updateHome with
    | true => exact h
    | false => exact grants_home h ai.DevEUI (newHome ai)
  | addRoaming env ai => exact grants_addRoaming h env ai
  | delRoaming env ai => exact grants_delRoaming h env ai

theorem grants_empty : Grants .empty fun _ => none where
  row _ := rfl
  distinct := List.nodup_nil
  below _ hm := absurd hm List.not_mem_nil
  roaming_below _ hq := absurd hq List.not_mem_nil

theorem grants_after (es : List HomeEvent) : Grants (homeTablesAfter es) (policyAfter es) :=
  Machine.run_refines grants_step grants_empty es

/-! ### What is answered -/

/-- What is answered, as far as no statement is refused. -/
theorem getHomeNS_eq (h : Grants t p) (env : HomeEnv) (v : JsonValue) (sender_id : List Char) :
    getHomeNS env (some v) sender_id t =
      if env.refused .selectHome then .error .undefined
      else
        match p.answer ((Text.scan 16 64 v.get_string).getD env.junkEUI)
          ((Text.scan 16 32 sender_id).getD env.junkNetID) with
        | .ok text =>
          if env.refused .selectRoaming then .error (.result .NoRoamingAgreement) else .ok text
        | .error s => .error s := by
  unfold getHomeNS
  dsimp only
  generalize (Text.scan 16 64 v.get_string).getD env.junkEUI = devEui
  generalize (Text.scan 16 32 sender_id).getD env.junkNetID = NetID
  have hrow := h.row devEui
  cases env.refused .selectHome with
  | true => rfl
  | false =>
    cases hm : t.row devEui with
    | none =>
      rw [hm, Option.map_none] at hrow
      simp only [Policy.answer, ← hrow, Bool.false_eq_true, if_false]
    | some m =>
      rw [hm, Option.map_some] at hrow
      cases hhome : m.homeNetID with
      | none => simp only [Policy.answer, ← hrow, HomeTables.agreement, hhome, Bool.false_eq_true,
          if_false]
      | some home =>
        have hiff : NetID ∈ (t.agreement m).allowed ↔ (m.ID, NetID) ∈ t.roamingNetIDs := Iff.rfl
        have hhome' : (t.agreement m).home = some home := hhome
        by_cases hmem : (m.ID, NetID) ∈ t.roamingNetIDs
        · simp only [Policy.answer, ← hrow, hhome, hhome', hiff.mpr hmem, List.contains_iff_mem, hmem,
            Bool.false_eq_true, if_true, if_false]
        · have hnot : NetID ∉ (t.agreement m).allowed := fun hin => hmem (hiff.mp hin)
          simp only [Policy.answer, ← hrow, hhome, hhome', hnot, List.contains_iff_mem, hmem,
            Bool.false_eq_true, if_false, ite_self]

/-- After every sequence of forms a network is told the home network of a device exactly when the
policy has one and allows it, and Success is never answered beside the policy. -/
theorem home_ns_served (es : List HomeEvent) (env : HomeEnv) (v : JsonValue)
    (sender_id : List Char) :
    let told := (policyAfter es).answer ((Text.scan 16 64 v.get_string).getD env.junkEUI)
      ((Text.scan 16 32 sender_id).getD env.junkNetID)
    let answered := getHomeNS env (some v) sender_id (homeTablesAfter es)
    (∀ text, answered = .ok text → told = .ok text) ∧
      (env.refused .selectHome = false → env.refused .selectRoaming = false → answered = told) := by
  dsimp only
  rw [getHomeNS_eq (grants_after es)]
  generalize (policyAfter es).answer _ _ = told
  cases env.refused .selectHome <;> cases env.refused .selectRoaming <;> cases told <;> simp

/-! ### A device with a home, and a network that may ask -/

def sampleForm (op : op_e) : NetIDInfo where
  DevEUI := 2
  NwkKeyStr := List.replicate 32 '1'
  AppKeyStr := []
  op := op
  Lifetime := 0
  roamNetID := 0x60
  homeNetID := 0x13

def quietHome : HomeEnv := ⟨fun _ => false, "", 0, 0⟩

def sampleForms : List HomeEvent :=
  [.otaMotes ⟨fun _ => false, "", 0⟩ (sampleForm .OP_ADD).toappInfo_t,
    .setHome quietHome (sampleForm .OP_SET_HOME_NETID),
    .addRoaming quietHome (sampleForm .OP_ADD_ROAM_NETID)]

/-- The network that may ask is told the home network, another is not. -/
theorem home_told_when_allowed :
    (policyAfter sampleForms).answer 2 0x60 = .ok "000013".toList ∧
      (policyAfter sampleForms).answer 2 0x61 = .error (.result .NoRoamingAgreement) := by
  have hallowed := (home_ns_served sampleForms quietHome (.string "2".toList) "60".toList).2 rfl rfl
  have hother := (home_ns_served sampleForms quietHome (.string "2".toList) "61".toList).2 rfl rfl
  exact ⟨hallowed.symm.trans (by decide +kernel), hother.symm.trans (by decide +kernel)⟩

end Lorawan.JoinServer

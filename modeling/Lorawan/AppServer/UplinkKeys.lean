import Lorawan.AppServer.Keystream
import Lorawan.Lib.WriteBehind

/-!
# The AppSKey of an uplink (app_server/web.c:301-483)

An uplink brings an AppSKey when its session is new, and is deciphered under it. A later one is
deciphered under the AppSKey of the device's row, which a second process writes when it comes to
it. Beside the server the machine keeps the AppSKey that was last accepted for each device.
-/

namespace Lorawan.AppServer
open Lorawan Lorawan.Backend

variable (A : BlockCipher) (W : KeyWrap) (cfg : Config)

/-! ### The key that is used -/

/-- What an uplink is deciphered under, if it is; `unset` is the content of a variable that nothing
was written to. -/
inductive UplinkKey
  | refused
  | unset
  | key (AppSKey : Octets)
deriving DecidableEq

/-- `getAppSKey` (web.c:348-399). -/
def getAppSKey (sqlOk : Bool) (rows : List ActiveMote) (devEui devAddr : ℕ) : UplinkKey :=
  match if sqlOk then rows.find? (·.selected devEui devAddr) else none with
  | none => .refused
  | some row =>
    match row.AppSKey with
    | none => .unset
    | some AppSKey => .key AppSKey

/-- `saveAppSKey` returns success: the row holds the key, or the `UPDATE` is in the queue. -/
def acceptsAppSKey (env : Surroundings) (rows : List ActiveMote) (DevEui64 : ℕ) (key : Octets) :
    Bool :=
  keepsAppSKey env.sqlOk rows DevEui64 key || env.mqOk

/-- The key that `app_uplink` gets. -/
def uplinkKey (env : Surroundings) (req : UplinkReq) (s : Server) : UplinkKey :=
  match uplinkDevAddr env req s.activemotes with
  | none => .refused
  | some rows =>
    match req.AppSKey with
    | none => getAppSKey env.sqlOk rows (req.DevEUI.getD NONE_DEVEUI) (req.DevAddr.getD NONE_DEVADDR)
    | some obj =>
      match parse_key_envelope W cfg.junkByte obj cfg.key_envelope_app with
      | none => .refused
      | some key =>
        if acceptsAppSKey env rows (req.DevEUI.getD req.junkEui) key then .key key else .refused

/-! ### The machine with its history -/

/-- The devices and AppSKeys that are accepted in the handling of an event. -/
def accepted (s : Server) : Event → List (ℕ × Octets)
  | .uplink env req =>
    match uplinkDevAddr env req s.activemotes, openAppSKey W cfg req.AppSKey with
    | some rows, some key =>
      if acceptsAppSKey env rows (req.DevEUI.getD req.junkEui) key then
        [(req.DevEUI.getD req.junkEui, key)]
      else []
    | _, _ => []
  | .keyAnswer env trans_id rxResult AppSKey _ =>
    match if rxResult = .Success then openAppSKey W cfg AppSKey else none with
    | none => []
    | some key =>
      ((s.tlist.filter (·.tid = trans_id)).map (·.msg.devEui)).filterMap fun devEui =>
        if acceptsAppSKey env s.activemotes devEui key then some (devEui, key) else none
  | _ => []

structure Traced where
  server : Server
  /-- History: the AppSKey that was last accepted for a device. -/
  current : ℕ → Option Octets

def note (current : ℕ → Option Octets) (keys : List (ℕ × Octets)) : ℕ → Option Octets :=
  keys.foldl (fun current k => Function.update current k.1 (some k.2)) current

def tracedStep (t : Traced) (e : Event) : Traced :=
  ⟨step A W cfg t.server e, note t.current (accepted W cfg t.server e)⟩

def Traced.init (activemotes : List ActiveMote) (next_req_tid : ℕ) : Traced :=
  ⟨Server.init activemotes next_req_tid, fun _ => none⟩

/-! ### Waiting for the second process -/

/-- No `UPDATE` of the device waits. -/
def Written (s : Server) (devEui : ℕ) : Prop := ∀ u ∈ s.mq, u.devEui ≠ devEui

/-- Where the row is read in place of the queue, nothing of the device waits there: by an uplink
without an AppSKey, and by the comparison that finds an AppSKey in its row. -/
def ReadsWritten (t : Traced) : Event → Prop
  | .uplink env req =>
    match req.AppSKey with
    | none => ∀ devEui, req.DevEUI = some devEui → Written t.server devEui
    | some _ => ∀ key, openAppSKey W cfg req.AppSKey = some key →
      keepsAppSKey env.sqlOk t.server.activemotes (req.DevEUI.getD req.junkEui) key →
        Written t.server (req.DevEUI.getD req.junkEui)
  | .keyAnswer env trans_id _ AppSKey _ =>
    ∀ key, openAppSKey W cfg AppSKey = some key → ∀ e ∈ t.server.tlist, e.tid = trans_id →
      keepsAppSKey env.sqlOk t.server.activemotes e.msg.devEui key →
        Written t.server e.msg.devEui
  | _ => True

/-- An uplink of a device is refused, or deciphered under the AppSKey that it brings, or else under
the one that was last accepted for the device. -/
def DecipheredUnderCurrent (t : Traced) : Event → Prop
  | .uplink env req => ∀ devEui, req.DevEUI = some devEui → devEui ≠ NONE_DEVEUI →
    ∀ key, (match req.AppSKey with
      | none => t.current devEui
      | some obj => parse_key_envelope W cfg.junkByte obj cfg.key_envelope_app) = some key →
    uplinkKey W cfg env req t.server = .refused ∨ uplinkKey W cfg env req t.server = .key key
  | _ => True

/-! ### The rows of a device -/

/-- The AppSKey of the row that a `SELECT` for the device reads. -/
def rowKey (rows : List ActiveMote) (devEui : ℕ) : Option (Option Octets) :=
  (rows.find? fun r => r.eui = some devEui).map (·.AppSKey)

theorem find_map_of_eui {f : ActiveMote → ActiveMote} (hf : ∀ r, (f r).eui = r.eui)
    (rows : List ActiveMote) (devEui : ℕ) :
    (rows.map f).find? (fun r => r.eui = some devEui) =
      (rows.find? fun r => r.eui = some devEui).map f := by
  rw [List.find?_map]
  congr 2
  funext r
  rw [Function.comp_apply, hf]

theorem rowKey_map {f : ActiveMote → ActiveMote} (hf : ∀ r, (f r).eui = r.eui)
    (hkey : ∀ r, (f r).AppSKey = r.AppSKey) (rows : List ActiveMote) (devEui : ℕ) :
    rowKey (rows.map f) devEui = rowKey rows devEui := by
  rw [rowKey, find_map_of_eui hf, Option.map_map, rowKey]
  congr 1
  funext r
  exact hkey r

/-- The second process executes an `UPDATE`. -/
def writeSKey (rows : List ActiveMote) (u : SKeyUpdate) : List ActiveMote := rows.map u.apply

theorem rowKey_writeSKey (rows : List ActiveMote) (u : SKeyUpdate) (devEui : ℕ) :
    rowKey (writeSKey rows u) devEui =
      if u.devEui = devEui then (rowKey rows devEui).map fun _ => some u.AppSKey
      else rowKey rows devEui := by
  rw [writeSKey, rowKey, find_map_of_eui u.apply_eui, rowKey]
  cases hrow : rows.find? fun r => r.eui = some devEui with
  | none => split <;> rfl
  | some row =>
    have heui : row.eui = some devEui := by
      simpa using List.find?_some hrow
    by_cases hu : u.devEui = devEui
    · have happly : (u.apply row).AppSKey = some u.AppSKey := by
        rw [SKeyUpdate.apply, if_pos (by rw [heui, hu])]
      rw [if_pos hu]
      exact congrArg some happly
    · have happly : u.apply row = row := by
        rw [SKeyUpdate.apply, if_neg (by rw [heui, Option.some.injEq]; exact fun h => hu h.symm)]
      rw [if_neg hu, Option.map_some, happly]

/-- The table and the queue. -/
def Server.store (s : Server) : WriteBehind.Store (List ActiveMote) SKeyUpdate :=
  ⟨s.activemotes, s.mq⟩

/-- What the row of the device holds once the queue is empty. -/
def finalKey (s : Server) (devEui : ℕ) : Option (Option Octets) :=
  rowKey (s.store.drained writeSKey) devEui

theorem rowKey_run_congr {rows rows' : List ActiveMote} {devEui : ℕ}
    (h : rowKey rows devEui = rowKey rows' devEui) (mq : List SKeyUpdate) :
    rowKey (Machine.run writeSKey rows mq) devEui =
      rowKey (Machine.run writeSKey rows' mq) devEui := by
  induction mq generalizing rows rows' with
  | nil => exact h
  | cons u mq ih =>
    rw [Machine.run_cons, Machine.run_cons]
    exact ih (by rw [rowKey_writeSKey, rowKey_writeSKey, h])

theorem finalKey_congr {s s' : Server} {devEui : ℕ}
    (hrow : rowKey s.activemotes devEui = rowKey s'.activemotes devEui) (hmq : s.mq = s'.mq) :
    finalKey s devEui = finalKey s' devEui := by
  have h := rowKey_run_congr hrow s.mq
  rw [finalKey, finalKey, WriteBehind.Store.drained, WriteBehind.Store.drained, Server.store,
    Server.store, ← hmq]
  exact h

theorem finalKey_written {s : Server} {devEui : ℕ} (h : Written s devEui) :
    finalKey s devEui = rowKey s.activemotes devEui := by
  have hrun : ∀ mq : List SKeyUpdate, (∀ u ∈ mq, u.devEui ≠ devEui) → ∀ rows,
      rowKey (Machine.run writeSKey rows mq) devEui = rowKey rows devEui := by
    intro mq
    induction mq with
    | nil => exact fun _ _ => rfl
    | cons u mq ih =>
      intro hmq rows
      obtain ⟨hu, hmq⟩ := List.forall_mem_cons.mp hmq
      rw [Machine.run_cons, ih hmq, rowKey_writeSKey, if_neg hu]
  exact hrun s.mq h s.activemotes

/-! ### What an event does to the key of a device -/

theorem rowKey_of_keeps {sqlOk : Bool} {rows : List ActiveMote} {devEui : ℕ} {key : Octets}
    (h : keepsAppSKey sqlOk rows devEui key = true) : rowKey rows devEui = some (some key) := by
  rw [keepsAppSKey, Bool.and_eq_true, decide_eq_true_iff] at h
  obtain ⟨row, hrow, hkey⟩ := Option.bind_eq_some_iff.mp h.2
  rw [rowKey, hrow, Option.map_some, hkey]

theorem rowKey_set_sql (rows : List ActiveMote) (devEui devAddr fcnt d : ℕ) :
    rowKey (set_sql_AFCntDown rows devEui devAddr fcnt) d = rowKey rows d := by
  apply rowKey_map
  · intro r
    split <;> rfl
  · intro r
    split <;> rfl

theorem rowKey_incr_sql {rows rows' : List ActiveMote} {devEui devAddr : ℕ}
    (h : incr_sql_AFCntDown rows devEui devAddr = some rows') (d : ℕ) :
    rowKey rows' d = rowKey rows d := by
  unfold incr_sql_AFCntDown at h
  split at h
  · cases h
  · rw [← Option.some.inj h]
    apply rowKey_map
    · intro r
      split <;> rfl
    · intro r
      split <;> rfl

theorem rowKey_uplinkDevAddr {env : Surroundings} {req : UplinkReq} {rows rows' : List ActiveMote}
    (h : uplinkDevAddr env req rows = some rows') (d : ℕ) : rowKey rows' d = rowKey rows d := by
  unfold uplinkDevAddr updateDevAddr at h
  split at h
  · split at h
    · rw [← Option.some.inj h]
    · split at h
      · cases h
      · split at h
        · rw [← Option.some.inj h]
        · split at h
          · rw [← Option.some.inj h]
            apply rowKey_map
            · intro r
              split <;> rfl
            · intro r
              split <;> rfl
          · cases h
  · rw [← Option.some.inj h]

theorem keepsAppSKey_congr {sqlOk : Bool} {rows rows' : List ActiveMote} {devEui : ℕ}
    (h : rowKey rows devEui = rowKey rows' devEui) (key : Octets) :
    keepsAppSKey sqlOk rows devEui key = keepsAppSKey sqlOk rows' devEui key := by
  have hjoin : ∀ rows : List ActiveMote,
      (rows.find? fun r => r.eui = some devEui).bind (·.AppSKey) = (rowKey rows devEui).join := by
    intro rows
    rw [rowKey]
    cases rows.find? fun r => r.eui = some devEui <;> rfl
  rw [keepsAppSKey, keepsAppSKey, hjoin, hjoin, h]

/-- A saved AppSKey is what the row will hold, if there is one; other rows are left alone. -/
theorem finalKey_saveAppSKey {env : Surroundings} {clr : Bool} {key : Octets} {DevAddr : Option ℕ}
    {devEui : ℕ} {s : Server}
    (hw : keepsAppSKey env.sqlOk s.activemotes devEui key = true → Written s devEui) (d : ℕ) :
    finalKey (saveAppSKey env clr key DevAddr devEui s) d =
      if d = devEui ∧ acceptsAppSKey env s.activemotes devEui key = true then
        (finalKey s d).map fun _ => some key
      else finalKey s d := by
  rw [saveAppSKey, acceptsAppSKey]
  by_cases hkeeps : keepsAppSKey env.sqlOk s.activemotes devEui key = true
  · have hsame : ∀ s' : Server, s'.mq = s.mq →
        rowKey s'.activemotes d = rowKey s.activemotes d → finalKey s' d = finalKey s d :=
      fun s' hmq hrow => finalKey_congr hrow hmq
    have hleft : finalKey (if clr = true ∧ env.updateOk = true then
        { s with activemotes := set_sql_AFCntDown s.activemotes devEui NONE_DEVADDR 0 } else s) d =
        finalKey s d := by
      split
      · exact hsame _ rfl (rowKey_set_sql ..)
      · rfl
    rw [if_pos hkeeps, hleft, hkeeps, Bool.true_or]
    by_cases hd : d = devEui
    · rw [if_pos ⟨hd, rfl⟩, hd, finalKey_written (hw hkeeps), rowKey_of_keeps hkeeps]
      rfl
    · rw [if_neg fun h => hd h.1]
  · have hnot : keepsAppSKey env.sqlOk s.activemotes devEui key = false :=
      Bool.not_eq_true _ ▸ hkeeps
    rw [if_neg hkeeps, hnot, Bool.false_or, updateSKey]
    cases env.mqOk with
    | false => rw [if_neg Bool.false_ne_true, if_neg fun h => Bool.false_ne_true h.2]
    | true =>
      have hqueue := WriteBehind.Store.drained_enqueue writeSKey s.store ⟨clr, key, devEui, DevAddr⟩
      have hfinal : finalKey { s with mq := s.mq ++ [⟨clr, key, devEui, DevAddr⟩] } d =
          rowKey (writeSKey (s.store.drained writeSKey) ⟨clr, key, devEui, DevAddr⟩) d :=
        congrArg (rowKey · d) hqueue
      rw [if_pos rfl, hfinal, rowKey_writeSKey]
      by_cases hd : d = devEui
      · rw [if_pos hd.symm, if_pos ⟨hd, rfl⟩, finalKey]
      · rw [if_neg fun h => hd h.symm, if_neg fun h => hd h.1, finalKey]

/-! ### The history follows the rows -/

/-- What was accepted for a device is what its row will hold. -/
def Follows (t : Traced) : Prop :=
  ∀ devEui key, t.current devEui = some key → ∀ held, finalKey t.server devEui = some held →
    held = some key

theorem follows_accepted {t : Traced} {s' : Server} {keys : List (ℕ × Octets)} (key : Octets)
    (h : Follows t) (hkeys : ∀ k ∈ keys, k.2 = key)
    (hfinal : ∀ d, finalKey s' d = if d ∈ keys.map (·.1) then
      (finalKey t.server d).map fun _ => some key else finalKey t.server d) :
    Follows ⟨s', note t.current keys⟩ := by
  have hnote : ∀ (keys : List (ℕ × Octets)) (current : ℕ → Option Octets) (d : ℕ),
      (∀ k ∈ keys, k.2 = key) →
      note current keys d = if d ∈ keys.map (·.1) then some key else current d := by
    intro keys
    induction keys with
    | nil => intro current d _; rfl
    | cons k keys ih =>
      intro current d hkeys
      obtain ⟨hk, hkeys⟩ := List.forall_mem_cons.mp hkeys
      have hrest := ih (Function.update current k.1 (some k.2)) d hkeys
      rw [note, List.foldl_cons, ← note, hrest]
      simp only [List.map_cons, List.mem_cons]
      by_cases hlater : d ∈ keys.map (·.1)
      · rw [if_pos hlater, if_pos (Or.inr hlater)]
      · by_cases hd : d = k.1
        · rw [if_neg hlater, if_pos (Or.inl hd), hd, Function.update_self, hk]
        · rw [if_neg hlater, if_neg (by simp [hd, hlater]), Function.update_of_ne hd]
  intro d k hcurrent held hheld
  rw [show (⟨s', note t.current keys⟩ : Traced).current = note t.current keys from rfl,
    hnote keys t.current d hkeys] at hcurrent
  rw [show (⟨s', note t.current keys⟩ : Traced).server = s' from rfl, hfinal d] at hheld
  by_cases hd : d ∈ keys.map (·.1)
  · rw [if_pos hd] at hcurrent hheld
    obtain ⟨_, -, rfl⟩ := Option.map_eq_some_iff.mp hheld
    exact hcurrent
  · rw [if_neg hd] at hcurrent hheld
    exact h d k hcurrent held hheld

theorem follows_same {t : Traced} {s' : Server} (h : Follows t)
    (hrow : ∀ d, rowKey s'.activemotes d = rowKey t.server.activemotes d)
    (hmq : s'.mq = t.server.mq) : Follows ⟨s', t.current⟩ := by
  intro d k hcurrent held hheld
  exact h d k hcurrent held ((finalKey_congr (hrow d) hmq).symm.trans hheld)

theorem send_downlink_mq (sqlOk posted : Bool) (msg : Msg) (s : Server) :
    (send_downlink A sqlOk posted msg s).1.mq = s.mq := by
  rcases send_downlink_cases A sqlOk posted msg s with heq | ⟨e, -, heq | ⟨tl, heq, -⟩⟩ <;> rw [heq]

theorem retryDownlink_keys (env : Surroundings) (e : Transaction) (fcnt : ℕ) (s : Server) :
    (∀ d, rowKey (retryDownlink A env e fcnt s).activemotes d = rowKey s.activemotes d) ∧
      (retryDownlink A env e fcnt s).mq = s.mq := by
  rw [retryDownlink]
  by_cases hok : env.updateOk = false
  · rw [if_pos hok]
    exact ⟨fun _ => rfl, rfl⟩
  · rw [if_neg hok]
    dsimp only
    rw [(send_downlink_frame A env.sqlOk env.posted e.msg _).1, send_downlink_mq]
    exact ⟨fun d => rowKey_set_sql .., rfl⟩

theorem countDownlink_keys (env : Surroundings) (e : Transaction) (s : Server) :
    (∀ d, rowKey (countDownlink env e s).activemotes d = rowKey s.activemotes d) ∧
      (countDownlink env e s).mq = s.mq := by
  rw [countDownlink]
  split
  · exact ⟨fun _ => rfl, rfl⟩
  · rename_i rows hrows
    split at hrows
    · exact ⟨fun d => rowKey_incr_sql hrows d, rfl⟩
    · cases hrows

theorem xmitDataAns_keys (env : Surroundings) (trans_id : ℕ) (rxResult : Result)
    (FCntDown : Option ℕ) (s : Server) :
    (∀ d, rowKey (xmitDataAns A env trans_id rxResult FCntDown s).activemotes d =
      rowKey s.activemotes d) ∧ (xmitDataAns A env trans_id rxResult FCntDown s).mq = s.mq := by
  rw [xmitDataAns]
  split
  · exact ⟨fun _ => rfl, rfl⟩
  · split
    · exact ⟨fun _ => rfl, rfl⟩
    · split
      · dsimp only
        split <;> exact countDownlink_keys env _ s
      · split
        · exact retryDownlink_keys A env _ _ s
        · split <;> exact ⟨fun _ => rfl, rfl⟩

theorem applyUpdate_final (s : Server) (d : ℕ) : finalKey (applyUpdate s) d = finalKey s d := by
  have hstore : (applyUpdate s).store = s.store.writeNext writeSKey := by
    rw [applyUpdate, WriteBehind.Store.writeNext, Server.store, Server.store]
    cases hmq : s.mq <;> simp only [hmq, writeSKey]
  rw [finalKey, hstore, WriteBehind.Store.drained_writeNext, finalKey]

/-! ### The steps -/

theorem saveAppSKey_rows {env : Surroundings} {key : Octets} {DevAddr : Option ℕ} {devEui : ℕ}
    {s : Server} :
    (saveAppSKey env false key DevAddr devEui s).activemotes = s.activemotes ∧
      ∀ u ∈ (saveAppSKey env false key DevAddr devEui s).mq, u ∈ s.mq ∨
        u.devEui = devEui ∧ ¬keepsAppSKey env.sqlOk s.activemotes devEui key = true := by
  rw [saveAppSKey]
  by_cases hkeeps : keepsAppSKey env.sqlOk s.activemotes devEui key = true
  · rw [if_pos hkeeps, if_neg fun h => Bool.false_ne_true h.1]
    exact ⟨rfl, fun u hu => Or.inl hu⟩
  · rw [if_neg hkeeps, updateSKey]
    split
    · refine ⟨rfl, fun u hu => ?_⟩
      rcases List.mem_append.mp hu with hold | hnew
      · exact Or.inl hold
      · rw [List.mem_singleton.mp hnew]
        exact Or.inr ⟨rfl, hkeeps⟩
    · exact ⟨rfl, fun u hu => Or.inl hu⟩

/-- The entries of an `AppSKeyAns` save one AppSKey for their devices. -/
theorem finalKey_saves {env : Surroundings} {key : Octets} {DevAddr : Option ℕ}
    (hit : List Transaction) {s : Server}
    (hw : ∀ e ∈ hit, keepsAppSKey env.sqlOk s.activemotes e.msg.devEui key = true →
      Written s e.msg.devEui) (d : ℕ) :
    finalKey (hit.foldl (fun s (e : Transaction) =>
        saveAppSKey env false key DevAddr e.msg.devEui s) s) d =
      if ∃ e ∈ hit, d = e.msg.devEui ∧
          acceptsAppSKey env s.activemotes e.msg.devEui key = true then
        (finalKey s d).map fun _ => some key
      else finalKey s d := by
  induction hit generalizing s with
  | nil => simp
  | cons e hit ih =>
    obtain ⟨hwe, hw⟩ := List.forall_mem_cons.mp hw
    obtain ⟨hrows, hmq⟩ := @saveAppSKey_rows env key DevAddr e.msg.devEui s
    have hw' : ∀ e' ∈ hit, keepsAppSKey env.sqlOk
        (saveAppSKey env false key DevAddr e.msg.devEui s).activemotes e'.msg.devEui key = true →
        Written (saveAppSKey env false key DevAddr e.msg.devEui s) e'.msg.devEui := by
      intro e' he' hkeeps u hu
      rw [hrows] at hkeeps
      rcases hmq u hu with hold | ⟨hdev, hnot⟩
      · exact hw e' he' hkeeps u hold
      · intro heq
        rw [← hdev, heq] at hnot
        exact hnot hkeeps
    rw [List.foldl_cons, ih hw', hrows, finalKey_saveAppSKey hwe]
    by_cases hfirst : d = e.msg.devEui ∧
        acceptsAppSKey env s.activemotes e.msg.devEui key = true
    · rw [if_pos hfirst]
      have hsome : ∃ e' ∈ e :: hit, d = e'.msg.devEui ∧
          acceptsAppSKey env s.activemotes e'.msg.devEui key = true :=
        ⟨e, List.mem_cons_self, hfirst⟩
      rw [if_pos hsome, Option.map_map]
      split <;> rfl
    · have hiff : (∃ e' ∈ e :: hit, d = e'.msg.devEui ∧
          acceptsAppSKey env s.activemotes e'.msg.devEui key = true) ↔
          ∃ e' ∈ hit, d = e'.msg.devEui ∧
            acceptsAppSKey env s.activemotes e'.msg.devEui key = true := by
        simp only [List.exists_mem_cons_iff, hfirst, false_or]
      rw [if_neg hfirst]
      simp only [hiff]

theorem mem_accepted_keys {env : Surroundings} {rows : List ActiveMote} {key : Octets}
    (hit : List Transaction) (d : ℕ) :
    d ∈ ((hit.map (·.msg.devEui)).filterMap fun devEui =>
        if acceptsAppSKey env rows devEui key then some (devEui, key) else none).map (·.1) ↔
      ∃ e ∈ hit, d = e.msg.devEui ∧ acceptsAppSKey env rows e.msg.devEui key = true := by
  simp only [List.mem_map, List.mem_filterMap, Option.ite_none_right_eq_some, Option.some.injEq]
  constructor
  · rintro ⟨_, ⟨_, ⟨e, he, rfl⟩, hok, rfl⟩, rfl⟩
    exact ⟨e, he, rfl, hok⟩
  · rintro ⟨e, he, rfl, hok⟩
    exact ⟨_, ⟨_, ⟨e, he, rfl⟩, hok, rfl⟩, rfl⟩

theorem follows_keyAnswer {t : Traced} (h : Follows t) {env : Surroundings} {trans_id : ℕ}
    {rxResult : Result} {AppSKey : Option KeyEnvelopeJson} {DevAddr : Option ℕ}
    (hread : ReadsWritten W cfg t (.keyAnswer env trans_id rxResult AppSKey DevAddr)) :
    Follows (tracedStep A W cfg t (.keyAnswer env trans_id rxResult AppSKey DevAddr)) := by
  rw [tracedStep, step, accepted, appSKeyAns]
  cases hkey : if rxResult = .Success then openAppSKey W cfg AppSKey else none with
  | none => exact follows_same h (fun _ => rfl) rfl
  | some key =>
    have hopen : openAppSKey W cfg AppSKey = some key := by
      split at hkey
      · exact hkey
      · cases hkey
    have hw : ∀ e ∈ t.server.tlist.filter (·.tid = trans_id),
        keepsAppSKey env.sqlOk t.server.activemotes e.msg.devEui key = true →
          Written t.server e.msg.devEui := by
      intro e he
      obtain ⟨hmem, htid⟩ := List.mem_filter.mp he
      exact hread key hopen e hmem (of_decide_eq_true htid)
    refine follows_accepted key h ?_ ?_
    · intro k hk
      obtain ⟨devEui, -, hsome⟩ := List.mem_filterMap.mp hk
      rw [Option.ite_none_right_eq_some, Option.some.injEq] at hsome
      rw [← hsome.2]
    · intro d
      have hsaves := @finalKey_saves env key DevAddr (t.server.tlist.filter (·.tid = trans_id))
        t.server hw d
      simp only [mem_accepted_keys]
      exact hsaves

theorem accepted_uplink {s : Server} {env : Surroundings} {req : UplinkReq}
    {rows : List ActiveMote} {key : Octets}
    (hrows : uplinkDevAddr env req s.activemotes = some rows)
    (hkey : openAppSKey W cfg req.AppSKey = some key) :
    accepted W cfg s (.uplink env req) =
      if acceptsAppSKey env rows (req.DevEUI.getD req.junkEui) key then
        [(req.DevEUI.getD req.junkEui, key)]
      else [] := by
  rw [accepted, hrows, hkey]

theorem follows_uplink {t : Traced} (h : Follows t) {env : Surroundings} {req : UplinkReq}
    (hread : ReadsWritten W cfg t (.uplink env req)) :
    Follows (tracedStep A W cfg t (.uplink env req)) := by
  rw [tracedStep, step, xmitDataReqUplink]
  cases hrows : uplinkDevAddr env req t.server.activemotes with
  | none =>
    have hnone : accepted W cfg t.server (.uplink env req) = [] := by rw [accepted, hrows]
    rw [hnone]
    exact h
  | some rows =>
    have hsame := rowKey_uplinkDevAddr hrows
    dsimp only
    cases hkey : openAppSKey W cfg req.AppSKey with
    | none =>
      have hnone : accepted W cfg t.server (.uplink env req) = [] := by rw [accepted, hrows, hkey]
      rw [hnone]
      exact follows_same h hsame rfl
    | some key =>
      obtain ⟨obj, hobj⟩ : ∃ obj, req.AppSKey = some obj := by
        cases hobj : req.AppSKey with
        | none => rw [hobj] at hkey; cases hkey
        | some obj => exact ⟨obj, rfl⟩
      have hw : keepsAppSKey env.sqlOk rows (req.DevEUI.getD req.junkEui) key = true →
          Written { t.server with activemotes := rows } (req.DevEUI.getD req.junkEui) := by
        intro hkeeps
        rw [keepsAppSKey_congr (hsame _)] at hkeeps
        rw [ReadsWritten] at hread
        simp only [hobj] at hread hkey
        exact hread key hkey hkeeps
      have hfinal := @finalKey_saveAppSKey env true key req.topDevAddr _
        { t.server with activemotes := rows } hw
      have hstart : ∀ d, finalKey { t.server with activemotes := rows } d = finalKey t.server d :=
        fun d => finalKey_congr (hsame d) rfl
      rw [accepted_uplink W cfg hrows hkey]
      refine follows_accepted key h ?_ ?_
      · intro k hk
        split at hk
        · rw [List.mem_singleton.mp hk]
        · cases hk
      · intro d
        dsimp only
        rw [hfinal d, hstart d]
        by_cases haccepts : acceptsAppSKey env rows (req.DevEUI.getD req.junkEui) key = true
        · simp only [haccepts, and_true, if_true, List.map_singleton, List.mem_singleton]
        · simp only [haccepts, Bool.false_eq_true, and_false, if_false, List.map_nil,
            List.not_mem_nil]

theorem follows_step {t : Traced} {e : Event} (h : Follows t) (hread : ReadsWritten W cfg t e) :
    Follows (tracedStep A W cfg t e) := by
  cases e with
  | downlink env msg =>
    have hrows := (send_downlink_frame A env.sqlOk env.posted msg t.server).1
    exact follows_same h (fun d => congrArg (rowKey · d) hrows)
      (send_downlink_mq A env.sqlOk env.posted msg t.server)
  | answer env trans_id rxResult FCntDown =>
    have hkeys := xmitDataAns_keys A env trans_id rxResult FCntDown t.server
    exact follows_same h hkeys.1 hkeys.2
  | uplink env req => exact follows_uplink A W cfg h hread
  | keyRequest env devEui devAddr =>
    have hframe : (requestAppSKey env devEui devAddr t.server).activemotes =
        t.server.activemotes ∧ (requestAppSKey env devEui devAddr t.server).mq = t.server.mq := by
      rw [requestAppSKey]
      split <;> exact ⟨rfl, rfl⟩
    exact follows_same h (fun d => congrArg (rowKey · d) hframe.1) hframe.2
  | keyAnswer env trans_id rxResult AppSKey DevAddr => exact follows_keyAnswer A W cfg h hread
  | writer =>
    intro d key hcurrent held hheld
    exact h d key hcurrent held ((applyUpdate_final t.server d).symm.trans hheld)

/-! ### Uplinks -/

theorem selected_eui {devEui : ℕ} (h : devEui ≠ NONE_DEVEUI) (devAddr : ℕ) :
    (fun r : ActiveMote => r.selected devEui devAddr) = fun r => decide (r.eui = some devEui) := by
  funext r
  rw [ActiveMote.selected, if_neg h]

theorem deciphered_of_follows {t : Traced} {e : Event} (h : Follows t)
    (hread : ReadsWritten W cfg t e) : DecipheredUnderCurrent W cfg t e := by
  cases e with
  | uplink env req =>
    intro devEui hdev hnone key hkey
    rw [uplinkKey]
    cases hrows : uplinkDevAddr env req t.server.activemotes with
    | none => exact Or.inl rfl
    | some rows =>
      dsimp only
      cases hobj : req.AppSKey with
      | some obj =>
        rw [hobj] at hkey
        dsimp only at hkey ⊢
        rw [hkey]
        dsimp only
        split
        · exact Or.inr rfl
        · exact Or.inl rfl
      | none =>
        rw [hobj] at hkey
        rw [ReadsWritten, hobj] at hread
        have hfinal := finalKey_written (hread devEui hdev)
        have hrow := rowKey_uplinkDevAddr hrows devEui
        dsimp only
        rw [hdev, Option.getD_some, getAppSKey, selected_eui hnone]
        split
        · exact Or.inl rfl
        · rename_i row hfound
          right
          split at hfound
          · have hheld : rowKey rows devEui = some row.AppSKey := by
              rw [rowKey, hfound, Option.map_some]
            rw [h devEui key hkey row.AppSKey (by rw [hfinal, ← hrow, hheld])]
          · cases hfound
  | downlink env msg => trivial
  | answer env trans_id rxResult FCntDown => trivial
  | keyRequest env devEui devAddr => trivial
  | keyAnswer env trans_id rxResult AppSKey DevAddr => trivial
  | writer => trivial

/-- In every run in which rows are read where nothing of the device waits, an uplink is deciphered
under the AppSKey it brings, or under the one that was last accepted, however the second process
falls behind in between. -/
theorem uplinks_deciphered_under_current (activemotes : List ActiveMote) (tid : ℕ)
    (es : List Event)
    (h : Machine.Along (tracedStep A W cfg) (ReadsWritten W cfg) (Traced.init activemotes tid) es) :
    Machine.Along (tracedStep A W cfg) (DecipheredUnderCurrent W cfg)
      (Traced.init activemotes tid) es := by
  have hstart : Follows (Traced.init activemotes tid) := by
    intro d key hcurrent
    cases hcurrent
  exact Machine.along_of_invariant (tracedStep A W cfg) (fun t e hinv hread =>
    ⟨follows_step A W cfg hinv hread, deciphered_of_follows W cfg hinv hread⟩) hstart h

/-! ### A new session -/

def newAppSKey : Octets := List.replicate 16 0x3c

/-- An uplink of `soleMote`'s device. -/
def uplinkWith (AppSKey : Option KeyEnvelopeJson) : Event :=
  .uplink quiet ⟨some 0x1122334455667788, none, 0, none, AppSKey⟩

theorem uplinks_of_new_session :
    Machine.Along (tracedStep BlockCipher.xorKey noWrap ⟨⟨none, []⟩, 0⟩)
      (DecipheredUnderCurrent noWrap ⟨⟨none, []⟩, 0⟩) (Traced.init [soleMote] 1)
      [uplinkWith (some ⟨none, Text.printOctets newAppSKey⟩), .writer, uplinkWith none] := by
  refine uplinks_deciphered_under_current _ _ _ [soleMote] 1 _ ⟨?_, trivial, ?_, trivial⟩
  · intro key _ _ u hu
    cases hu
  · have hmq : (Machine.run (tracedStep BlockCipher.xorKey noWrap ⟨⟨none, []⟩, 0⟩)
        (Traced.init [soleMote] 1)
        [uplinkWith (some ⟨none, Text.printOctets newAppSKey⟩), .writer]).server.mq = [] := by
      decide +kernel
    intro devEui _ u hu
    exact absurd (hmq ▸ hu) List.not_mem_nil

/-- The second process has not come to the row: the second uplink is deciphered under the AppSKey
of the session before. -/
theorem uplink_before_writer :
    ¬Machine.Along (tracedStep BlockCipher.xorKey noWrap ⟨⟨none, []⟩, 0⟩)
      (DecipheredUnderCurrent noWrap ⟨⟨none, []⟩, 0⟩) (Traced.init [soleMote] 1)
      [uplinkWith (some ⟨none, Text.printOctets newAppSKey⟩), uplinkWith none] := by
  intro h
  have hsecond := h.2.1 0x1122334455667788 rfl (by decide) newAppSKey (by decide +kernel)
  revert hsecond
  decide +kernel

end Lorawan.AppServer

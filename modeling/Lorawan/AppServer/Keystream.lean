import Lorawan.AppServer.Downlink
import Lorawan.Lib.Machine

/-!
# Keystream uniqueness of the application server

The keystream of a downlink depends on AppSKey, DevAddr and AFCntDown only, so no
two payloads may be encrypted under the same three. The counter is read when a
downlink is sent and advanced when its answer comes, so this holds as long as the
frames of a session are sent in turn, the counters the network server names do
not lie behind, and an AppSKey comes only once.
-/

namespace Lorawan.AppServer
open Lorawan Lorawan.Backend

variable (A : BlockCipher) (W : KeyWrap) (cfg : Config)

/-! ### The machine -/

inductive Event
  | downlink (env : Surroundings) (msg : Msg)
  | answer (env : Surroundings) (trans_id : ℕ) (rxResult : Result) (FCntDown : Option ℕ)
  | uplink (env : Surroundings) (req : UplinkReq)
  | keyRequest (env : Surroundings) (devEui devAddr : ℕ)
  | keyAnswer (env : Surroundings) (trans_id : ℕ) (rxResult : Result)
      (AppSKey : Option KeyEnvelopeJson) (DevAddr : Option ℕ)
  | writer
deriving DecidableEq

def step (s : Server) : Event → Server
  | .downlink env msg => (send_downlink A env.sqlOk env.posted msg s).1
  | .answer env trans_id rxResult FCntDown => xmitDataAns A env trans_id rxResult FCntDown s
  | .uplink env req => xmitDataReqUplink W cfg env req s
  | .keyRequest env devEui devAddr => requestAppSKey env devEui devAddr s
  | .keyAnswer env trans_id rxResult AppSKey DevAddr =>
    appSKeyAns W cfg env trans_id rxResult AppSKey DevAddr s
  | .writer => applyUpdate s

/-- No two different payloads under one AppSKey, DevAddr and AFCntDown. -/
def KeystreamUnique (s : Server) : Prop :=
  ∀ e ∈ s.log, ∀ f ∈ s.log, e.AppSKey = f.AppSKey → e.DevAddr = f.DevAddr →
    e.AFCntDown = f.AFCntDown → e.payload = f.payload

instance (s : Server) : Decidable (KeystreamUnique s) :=
  inferInstanceAs (Decidable (∀ e ∈ s.log, ∀ f ∈ s.log, e.AppSKey = f.AppSKey →
    e.DevAddr = f.DevAddr → e.AFCntDown = f.AFCntDown → e.payload = f.payload))

/-! ### Sending in turn -/

/-- Each frame under the key that is still unanswered carries this payload. -/
def OnlyRepeats (s : Server) (key payload : Octets) : Prop :=
  ∀ e ∈ s.log, e.AppSKey = key → e.serial ∉ s.answered → e.payload = payload

/-- A downlink waits for the answers to the frames before it; one that is addressed by
DevAddr goes to an ABP device. -/
def SentInTurn (s : Server) (msg : Msg) : Prop :=
  ∀ msg' row key, selectMote s.activemotes msg = some (msg', row) → row.AppSKey = some key →
    OnlyRepeats s key msg.payload ∧ (msg.devEui = NONE_DEVEUI → row.eui = none)

/-- The counter that a failure names is not behind the stored one, and when it is the stored
one, the frame that failed is the only one that waits. -/
def NamesNextCounter (s : Server) (e : Transaction) (fcnt : ℕ) : Prop :=
  ∀ row ∈ s.activemotes, row.selected e.msg.devEui e.msg.devAddr →
    row.counter ≤ fcnt ∧
    (row.counter = fcnt → ∀ key, row.AppSKey = some key → OnlyRepeats s key e.msg.payload) ∧
    (e.msg.devEui = NONE_DEVEUI → row.eui = none)

/-- Nobody holds the key yet, it does not wait in the queue, nothing was encrypted under it. -/
def NewAppSKey (s : Server) (key : Octets) : Prop :=
  (∀ row ∈ s.activemotes, row.AppSKey ≠ some key) ∧ (∀ u ∈ s.mq, u.AppSKey ≠ key) ∧
    ∀ e ∈ s.log, e.AppSKey ≠ key

/-- An AppSKey that is delivered is new; one that the device has, and that resets its
counter, was not used. -/
def DeliversNewKey (env : Surroundings) (clrAFCntDown : Bool) (key : Octets) (DevEui64 : ℕ)
    (s : Server) : Prop :=
  if keepsAppSKey env.sqlOk s.activemotes DevEui64 key then
    clrAFCntDown = true → ∀ row ∈ s.activemotes, row.selected DevEui64 NONE_DEVADDR →
      ∀ e ∈ s.log, row.AppSKey ≠ some e.AppSKey
  else NewAppSKey s key

/-- The condition on an event, in the state in which it is handled. -/
def InTurn (s : Server) : Event → Prop
  | .downlink _ msg => SentInTurn s msg
  | .answer _ trans_id rxResult FCntDown =>
    rxResult ≠ .Success → ∀ fcnt, FCntDown = some fcnt →
      ∀ e, s.tlist.find? (·.tid = trans_id) = some e → NamesNextCounter s e (fcnt % 2 ^ 32)
  | .uplink env req =>
    ∀ rows key, uplinkDevAddr env req s.activemotes = some rows →
      openAppSKey W cfg req.AppSKey = some key →
      DeliversNewKey env true key (req.DevEUI.getD req.junkEui) { s with activemotes := rows }
  | .keyRequest _ _ _ => True
  | .keyAnswer env trans_id _ AppSKey DevAddr =>
    ∀ key, openAppSKey W cfg AppSKey = some key →
      Machine.Along
        (fun s (e : Transaction) => saveAppSKey env false key DevAddr e.msg.devEui s)
        (fun s (e : Transaction) => DeliversNewKey env false key e.msg.devEui s)
        s (s.tlist.filter (·.tid = trans_id))
  | .writer => True

/-- The table as the web page fills it: one row for a device, no AppSKey twice, and no `NULL`
counter. -/
structure OneRowEach (rows : List ActiveMote) : Prop where
  counters : ∀ r ∈ rows, r.AFCntDown.isSome
  euis : ∀ r ∈ rows, ∀ r' ∈ rows, ∀ e, r.eui = some e → r'.eui = some e → r = r'
  abp : ∀ r ∈ rows, ∀ r' ∈ rows, r.eui = none → r'.eui = none → r.DevAddr = r'.DevAddr → r = r'
  keys : ∀ r ∈ rows, ∀ r' ∈ rows, ∀ k, r.AppSKey = some k → r'.AppSKey = some k → r = r'

/-! ### The invariant -/

/-- The row is the one the frame was encrypted for. -/
def Owns (r : ActiveMote) (e : Encryption) : Prop :=
  if e.devEui = NONE_DEVEUI then r.eui = none ∧ r.DevAddr = some e.DevAddr
  else r.eui = some e.devEui

/-- The row's counter is past the frame's, or at it while a frame with the same payload still
waits for its answer. -/
def Behind (s : Server) (r : ActiveMote) (e : Encryption) : Prop :=
  e.AFCntDown < r.counter ∨
    (e.AFCntDown = r.counter ∧ ∃ w ∈ s.log, w.AppSKey = e.AppSKey ∧ w.AFCntDown = e.AFCntDown ∧
      w.payload = e.payload ∧ w.serial ∉ s.answered)

/-- A used entry that has a serial waits for the answer to that frame. -/
def Linked (s : Server) (t : Transaction) : Prop :=
  ∀ n, t.serial = some n → t.isFree = false →
    ∃ e ∈ s.log, e.serial = n ∧ e.devEui = t.msg.devEui ∧ e.DevAddr = t.msg.devAddr ∧
      e.payload = t.msg.payload

structure Inv (s : Server) : Prop where
  rows : OneRowEach s.activemotes
  serials : ∀ e ∈ s.log, s.log[e.serial]? = some e
  answered_lt : ∀ n ∈ s.answered, n < s.log.length
  queue_rows : ∀ u ∈ s.mq, ∀ r ∈ s.activemotes, r.AppSKey ≠ some u.AppSKey
  queue_log : ∀ u ∈ s.mq, ∀ e ∈ s.log, e.AppSKey ≠ u.AppSKey
  queue_keys : s.mq.Pairwise fun u v => u.AppSKey ≠ v.AppSKey
  owns : ∀ r ∈ s.activemotes, ∀ e ∈ s.log, r.AppSKey = some e.AppSKey → Owns r e
  behind : ∀ r ∈ s.activemotes, ∀ e ∈ s.log, r.AppSKey = some e.AppSKey → Behind s r e
  entries : ∀ t ∈ s.tlist, Linked s t
  unique : ∀ e ∈ s.log, ∀ f ∈ s.log, e.AppSKey = f.AppSKey → e.AFCntDown = f.AFCntDown →
    e.payload = f.payload

theorem inv_init {rows : List ActiveMote} (h : OneRowEach rows) (tid : ℕ) :
    Inv (Server.init rows tid) where
  rows := h
  serials := by simp [Server.init]
  answered_lt := by simp [Server.init]
  queue_rows := by simp [Server.init]
  queue_log := by simp [Server.init]
  queue_keys := by simp [Server.init]
  owns := by simp [Server.init]
  behind := by simp [Server.init]
  entries := by simp [Server.init]
  unique := by simp [Server.init]

theorem Inv.keystreamUnique {s : Server} (h : Inv s) : KeystreamUnique s :=
  fun e he f hf hkey _ hcnt => h.unique e he f hf hkey hcnt

theorem owns_selected {r : ActiveMote} {e : Encryption} (h : Owns r e) :
    r.selected e.devEui e.DevAddr = true := by
  unfold Owns at h
  unfold ActiveMote.selected
  by_cases hnone : e.devEui = NONE_DEVEUI
  · rw [if_pos hnone] at h
    simp [hnone, h.2]
  · rw [if_neg hnone] at h
    simp [hnone, h]

theorem Inv.serial_inj {s : Server} (h : Inv s) {e f : Encryption} (he : e ∈ s.log)
    (hf : f ∈ s.log) (hs : e.serial = f.serial) : e = f := by
  have h1 := h.serials e he
  rw [hs, h.serials f hf] at h1
  exact (Option.some.inj h1).symm

/-! ### Changes of the table -/

/-- A change of single rows that keeps who they are and takes no counter back, unless nothing
was encrypted under the row's key. -/
structure Advances (s : Server) (f : ActiveMote → ActiveMote) : Prop where
  eui : ∀ r ∈ s.activemotes, (f r).eui = r.eui
  key : ∀ r ∈ s.activemotes, (f r).AppSKey = r.AppSKey
  addr : ∀ r ∈ s.activemotes, r.eui = none → (f r).DevAddr = r.DevAddr
  isSome : ∀ r ∈ s.activemotes, (f r).AFCntDown.isSome
  counter : ∀ r ∈ s.activemotes, ∀ e ∈ s.log, r.AppSKey = some e.AppSKey →
    r.counter ≤ (f r).counter

theorem oneRowEach_map {s : Server} {f : ActiveMote → ActiveMote} (h : OneRowEach s.activemotes)
    (hf : Advances s f) : OneRowEach (s.activemotes.map f) where
  counters := by
    intro r hr
    obtain ⟨r0, hr0, rfl⟩ := List.mem_map.mp hr
    exact hf.isSome r0 hr0
  euis := by
    intro r hr r' hr' e he he'
    obtain ⟨r0, hr0, rfl⟩ := List.mem_map.mp hr
    obtain ⟨r1, hr1, rfl⟩ := List.mem_map.mp hr'
    rw [hf.eui r0 hr0] at he
    rw [hf.eui r1 hr1] at he'
    rw [h.euis r0 hr0 r1 hr1 e he he']
  abp := by
    intro r hr r' hr' hnone hnone' haddr
    obtain ⟨r0, hr0, rfl⟩ := List.mem_map.mp hr
    obtain ⟨r1, hr1, rfl⟩ := List.mem_map.mp hr'
    rw [hf.eui r0 hr0] at hnone
    rw [hf.eui r1 hr1] at hnone'
    rw [hf.addr r0 hr0 hnone, hf.addr r1 hr1 hnone'] at haddr
    rw [h.abp r0 hr0 r1 hr1 hnone hnone' haddr]
  keys := by
    intro r hr r' hr' k hk hk'
    obtain ⟨r0, hr0, rfl⟩ := List.mem_map.mp hr
    obtain ⟨r1, hr1, rfl⟩ := List.mem_map.mp hr'
    rw [hf.key r0 hr0] at hk
    rw [hf.key r1 hr1] at hk'
    rw [h.keys r0 hr0 r1 hr1 k hk hk']

theorem owns_advance {r r' : ActiveMote} {e : Encryption} (heui : r'.eui = r.eui)
    (haddr : r.eui = none → r'.DevAddr = r.DevAddr) (h : Owns r e) : Owns r' e := by
  unfold Owns at h ⊢
  split
  · rename_i hnone
    rw [if_pos hnone] at h
    exact ⟨by rw [heui]; exact h.1, by rw [haddr h.1]; exact h.2⟩
  · rename_i hsome
    rw [if_neg hsome] at h
    rw [heui, h]

theorem behind_advance {s : Server} {r r' : ActiveMote} {e : Encryption}
    (hle : r.counter ≤ r'.counter) (h : Behind s r e) : Behind s r' e := by
  rcases h with hlt | ⟨heq, w⟩
  · exact Or.inl (by omega)
  · rcases Nat.lt_or_eq_of_le hle with hlt | hcnt
    · exact Or.inl (by omega)
    · exact Or.inr ⟨by omega, w⟩

theorem inv_advance {s : Server} {f : ActiveMote → ActiveMote} (h : Inv s) (hf : Advances s f) :
    Inv { s with activemotes := s.activemotes.map f } where
  rows := oneRowEach_map h.rows hf
  serials := h.serials
  answered_lt := h.answered_lt
  queue_rows := by
    intro u hu r hr
    obtain ⟨r0, hr0, rfl⟩ := List.mem_map.mp hr
    rw [hf.key r0 hr0]
    exact h.queue_rows u hu r0 hr0
  queue_log := h.queue_log
  queue_keys := h.queue_keys
  owns := by
    intro r hr e he hkey
    obtain ⟨r0, hr0, rfl⟩ := List.mem_map.mp hr
    rw [hf.key r0 hr0] at hkey
    exact owns_advance (hf.eui r0 hr0) (hf.addr r0 hr0) (h.owns r0 hr0 e he hkey)
  behind := by
    intro r hr e he hkey
    obtain ⟨r0, hr0, rfl⟩ := List.mem_map.mp hr
    rw [hf.key r0 hr0] at hkey
    exact behind_advance (hf.counter r0 hr0 e he hkey) (h.behind r0 hr0 e he hkey)
  entries := h.entries
  unique := h.unique

/-! ### The list of transactions -/

theorem mem_tlistAdd {e t : Transaction} {ts : List Transaction} (h : t ∈ tlistAdd e ts) :
    t = e ∨ t ∈ ts := by
  induction ts with
  | nil =>
    simp only [tlistAdd, List.mem_singleton] at h
    exact Or.inl h
  | cons t0 ts ih =>
    unfold tlistAdd at h
    split at h
    · rcases List.mem_cons.mp h with rfl | hmem
      · exact Or.inl rfl
      · exact Or.inr (List.mem_cons_of_mem _ hmem)
    · rcases List.mem_cons.mp h with rfl | hmem
      · exact Or.inr List.mem_cons_self
      · rcases ih hmem with rfl | hold
        · exact Or.inl rfl
        · exact Or.inr (List.mem_cons_of_mem _ hold)

theorem clear_isFree (e : Transaction) : e.clear.isFree = true := by
  simp [Transaction.clear, Transaction.isFree]

theorem linked_clear (s : Server) (e : Transaction) : Linked s e.clear := by
  intro n _ hfree
  rw [clear_isFree] at hfree
  cases hfree

theorem inv_tlist {s : Server} (h : Inv s) {tl : List Transaction} (tid : ℕ)
    (hl : ∀ t ∈ tl, Linked s t) : Inv { s with tlist := tl, next_req_tid := tid } where
  rows := h.rows
  serials := h.serials
  answered_lt := h.answered_lt
  queue_rows := h.queue_rows
  queue_log := h.queue_log
  queue_keys := h.queue_keys
  owns := h.owns
  behind := h.behind
  entries := hl
  unique := h.unique

theorem inv_clear {s : Server} (h : Inv s) (i : ℕ) (e : Transaction) :
    Inv (setEntry i e.clear s) := by
  refine inv_tlist h s.next_req_tid ?_
  intro t ht
  rcases List.mem_or_eq_of_mem_set ht with hold | rfl
  · exact h.entries t hold
  · exact linked_clear s e

/-! ### Encrypting -/

structure Selects (rows : List ActiveMote) (msg msg' : Msg) (row : ActiveMote) : Prop where
  mem : row ∈ rows
  selected : row.selected msg.devEui msg.devAddr = true
  devEui : msg'.devEui = msg.devEui
  payload : msg'.payload = msg.payload
  devAddr : row.DevAddr = some msg'.devAddr

theorem selectMote_some {rows : List ActiveMote} {msg msg' : Msg} {row : ActiveMote}
    (h : selectMote rows msg = some (msg', row)) : Selects rows msg msg' row := by
  unfold selectMote at h
  split at h
  · cases hrow : rows.find? (·.selected msg.devEui msg.devAddr) with
    | none => rw [hrow] at h; cases h
    | some r =>
      rw [hrow] at h
      obtain ⟨devAddr, haddr, heq⟩ := Option.map_eq_some_iff.mp h
      obtain ⟨rfl, rfl⟩ := Prod.mk.inj heq
      exact ⟨List.mem_of_find?_eq_some hrow, List.find?_some hrow, rfl, rfl, haddr⟩
  · rename_i hnone
    split at h
    · cases h
    · obtain ⟨r, hrow, heq⟩ := Option.map_eq_some_iff.mp h
      obtain ⟨rfl, rfl⟩ := Prod.mk.inj heq
      have hsel := List.find?_some hrow
      refine ⟨List.mem_of_find?_eq_some hrow, hsel, rfl, rfl, ?_⟩
      simpa [ActiveMote.selected, not_ne_iff.mp hnone] using hsel

theorem encryption_some {s : Server} {msg : Msg} {e : Encryption}
    (h : encryption s msg = some e) : ∃ msg' row key, selectMote s.activemotes msg =
      some (msg', row) ∧ row.AppSKey = some key ∧
      e = ⟨s.log.length, msg'.devEui, key, msg'.devAddr, row.counter, msg'.payload⟩ := by
  unfold encryption at h
  cases hsel : selectMote s.activemotes msg with
  | none => rw [hsel] at h; cases h
  | some p =>
    obtain ⟨msg', row⟩ := p
    rw [hsel] at h
    obtain ⟨key, hkey, heq⟩ := Option.map_eq_some_iff.mp h
    exact ⟨msg', row, key, rfl, hkey, heq.symm⟩

/-- What makes an encryption harmless: no frame with another payload has its counter, and it
goes to the device the message names. -/
def Fresh (s : Server) (msg : Msg) : Prop :=
  ∀ msg' row key, selectMote s.activemotes msg = some (msg', row) → row.AppSKey = some key →
    (∀ f ∈ s.log, f.AppSKey = key → f.AFCntDown = row.counter → f.payload = msg.payload) ∧
      (msg.devEui = NONE_DEVEUI → row.eui = none)

theorem Selects.owns {rows : List ActiveMote} {msg msg' : Msg} {row : ActiveMote}
    (h : Selects rows msg msg' row) (habp : msg.devEui = NONE_DEVEUI → row.eui = none)
    (serial : ℕ) (key : Octets) :
    Owns row ⟨serial, msg'.devEui, key, msg'.devAddr, row.counter, msg'.payload⟩ := by
  have hselected := h.selected
  unfold ActiveMote.selected at hselected
  unfold Owns
  simp only [h.devEui]
  split
  · rename_i hnone
    exact ⟨habp hnone, h.devAddr⟩
  · rename_i hsome
    rw [if_neg hsome] at hselected
    exact of_decide_eq_true hselected

theorem unique_append {s : Server} (h : Inv s) {e : Encryption}
    (hnew : ∀ f ∈ s.log, f.AppSKey = e.AppSKey → f.AFCntDown = e.AFCntDown →
      f.payload = e.payload) :
    ∀ f ∈ s.log ++ [e], ∀ g ∈ s.log ++ [e], f.AppSKey = g.AppSKey → f.AFCntDown = g.AFCntDown →
      f.payload = g.payload := by
  intro f hf g hg hkeys hcnts
  rcases List.mem_append.mp hf with hold | hf
  · rcases List.mem_append.mp hg with hold' | hg
    · exact h.unique f hold g hold' hkeys hcnts
    · rw [List.mem_singleton.mp hg] at hkeys hcnts ⊢
      exact hnew f hold hkeys hcnts
  · rw [List.mem_singleton.mp hf] at hkeys hcnts ⊢
    rcases List.mem_append.mp hg with hold' | hg
    · exact (hnew g hold' hkeys.symm hcnts.symm).symm
    · rw [List.mem_singleton.mp hg]

theorem inv_encrypt {s : Server} (h : Inv s) {msg : Msg} {e : Encryption}
    (hfresh : Fresh s msg) (he : encryption s msg = some e) :
    Inv { s with log := s.log ++ [e] } := by
  obtain ⟨msg', row, key, hsel, hkey, rfl⟩ := encryption_some he
  obtain ⟨hunused, habp⟩ := hfresh msg' row key hsel hkey
  have hrow := selectMote_some hsel
  have hlen : s.log.length ∉ s.answered := fun hmem =>
    Nat.lt_irrefl _ (h.answered_lt _ hmem)
  -- the frame's key is the key of one row only
  have honly : ∀ r ∈ s.activemotes, r.AppSKey = some key → r = row := fun r hr hrkey =>
    h.rows.keys r hr row hrow.mem key hrkey hkey
  exact {
    rows := h.rows
    serials := by
      intro f hf
      rcases List.mem_append.mp hf with hold | hnew
      · have hget := h.serials f hold
        rw [List.getElem?_append_left (List.getElem?_eq_some_iff.mp hget).1, hget]
      · rw [List.mem_singleton.mp hnew]
        simp
    answered_lt := by
      intro n hn
      have hlt := h.answered_lt n hn
      simp only [List.length_append, List.length_singleton]
      omega
    queue_rows := h.queue_rows
    queue_log := by
      intro u hu f hf
      rcases List.mem_append.mp hf with hold | hnew
      · exact h.queue_log u hu f hold
      · rw [List.mem_singleton.mp hnew]
        rintro rfl
        exact h.queue_rows u hu row hrow.mem hkey
    queue_keys := h.queue_keys
    owns := by
      intro r hr f hf hrkey
      rcases List.mem_append.mp hf with hold | hnew
      · exact h.owns r hr f hold hrkey
      · rw [List.mem_singleton.mp hnew] at hrkey ⊢
        rw [honly r hr hrkey]
        exact hrow.owns habp s.log.length key
    behind := by
      intro r hr f hf hrkey
      rcases List.mem_append.mp hf with hold | hnew
      · rcases h.behind r hr f hold hrkey with hlt | ⟨heq, w, hw, hwkey, hwcnt, hwpay, hwans⟩
        · exact Or.inl hlt
        · exact Or.inr ⟨heq, w, List.mem_append_left _ hw, hwkey, hwcnt, hwpay, hwans⟩
      · rw [List.mem_singleton.mp hnew] at hrkey ⊢
        rw [honly r hr hrkey]
        exact Or.inr ⟨rfl, _, List.mem_append_right _ List.mem_cons_self, rfl, rfl, rfl, hlen⟩
    entries := by
      intro t ht n hn hfree
      obtain ⟨f, hf, hrest⟩ := h.entries t ht n hn hfree
      exact ⟨f, List.mem_append_left _ hf, hrest⟩
    unique := by
      apply unique_append h
      intro f hf hfkey hcnt
      rw [hunused f hf hfkey hcnt]
      exact hrow.payload.symm }

theorem send_downlink_cases (sqlOk posted : Bool) (msg : Msg) (s : Server) :
    (send_downlink A sqlOk posted msg s).1 = s ∨
    ∃ e, encryption s msg = some e ∧
      ((send_downlink A sqlOk posted msg s).1 = { s with log := s.log ++ [e] } ∨
        ∃ tl, (send_downlink A sqlOk posted msg s).1 =
            { s with
              log := s.log ++ [e]
              next_req_tid := (s.next_req_tid + 1) % 2 ^ 32
              tlist := tl } ∧
          ∀ t ∈ tl, t ∈ s.tlist ∨
            t = ⟨{ msg with devAddr := e.DevAddr }, s.next_req_tid, some e.serial⟩) := by
  unfold send_downlink
  split
  · exact Or.inl rfl
  · cases he : encryption s msg with
    | none => exact Or.inl rfl
    | some e =>
      refine Or.inr ⟨e, rfl, ?_⟩
      cases hreq : xmitDataReq A s.next_req_tid msg e with
      | none => exact Or.inl (by simp only [hreq])
      | some req =>
        simp only [hreq]
        refine Or.inr ⟨_, rfl, ?_⟩
        intro t ht
        split at ht
        · exact (mem_tlistAdd ht).symm
        · exact Or.inl ht

theorem inv_send {s : Server} (h : Inv s) {msg : Msg} (hfresh : Fresh s msg)
    (sqlOk posted : Bool) : Inv (send_downlink A sqlOk posted msg s).1 := by
  rcases send_downlink_cases A sqlOk posted msg s with heq | ⟨e, he, heq | ⟨tl, heq, htl⟩⟩
  · rw [heq]
    exact h
  · rw [heq]
    exact inv_encrypt h hfresh he
  · rw [heq]
    refine inv_tlist (inv_encrypt h hfresh he) _ ?_
    intro t ht
    rcases htl t ht with hold | rfl
    · exact (inv_encrypt h hfresh he).entries t hold
    · intro n hn _
      obtain ⟨msg', row, key, hsel, hkey, rfl⟩ := encryption_some he
      have hrow := selectMote_some hsel
      exact ⟨_, List.mem_append_right _ List.mem_cons_self, Option.some.inj hn, hrow.devEui, rfl,
        hrow.payload⟩

/-- A frame that repeats what is still unanswered, or takes a counter past every frame, is
harmless. -/
theorem payload_of_behind {s : Server} {r : ActiveMote} {f : Encryption} {payload : Octets}
    (hb : Behind s r f) (hcnt : f.AFCntDown = r.counter)
    (honly : OnlyRepeats s f.AppSKey payload) : f.payload = payload := by
  rcases hb with hlt | ⟨_, w, hw, hwkey, _, hwpay, hwans⟩
  · omega
  · rw [← hwpay]
    exact honly w hw hwkey hwans

theorem fresh_of_sentInTurn {s : Server} (h : Inv s) {msg : Msg} (hturn : SentInTurn s msg) :
    Fresh s msg := by
  intro msg' row key hsel hkey
  obtain ⟨honly, habp⟩ := hturn msg' row key hsel hkey
  refine ⟨fun f hf hfkey hcnt => ?_, habp⟩
  have hb := h.behind row (selectMote_some hsel).mem f hf (by rw [hkey, hfkey])
  exact payload_of_behind hb hcnt (by rw [hfkey]; exact honly)

/-! ### Answers -/

/-- A frame may count as answered once no counter stands at it, or another frame with its
payload waits there. -/
theorem inv_mark {s : Server} (h : Inv s) {n : ℕ} (hn : n < s.log.length)
    (hw : ∀ r ∈ s.activemotes, ∀ w ∈ s.log, w.serial = n → r.AppSKey = some w.AppSKey →
      w.AFCntDown = r.counter → ∃ w' ∈ s.log, w'.AppSKey = w.AppSKey ∧
        w'.AFCntDown = w.AFCntDown ∧ w'.payload = w.payload ∧ w'.serial ∉ n :: s.answered) :
    Inv { s with answered := n :: s.answered } where
  rows := h.rows
  serials := h.serials
  answered_lt := by
    intro m hm
    rcases List.mem_cons.mp hm with rfl | hold
    · exact hn
    · exact h.answered_lt m hold
  queue_rows := h.queue_rows
  queue_log := h.queue_log
  queue_keys := h.queue_keys
  owns := h.owns
  behind := by
    intro r hr f hf hkey
    rcases h.behind r hr f hf hkey with hlt | ⟨heq, w, hwlog, hwkey, hwcnt, hwpay, hwans⟩
    · exact Or.inl hlt
    · refine Or.inr ⟨heq, ?_⟩
      by_cases hser : w.serial = n
      · obtain ⟨w', hw', hkey', hcnt', hpay', hans'⟩ :=
          hw r hr w hwlog hser (by rw [hkey, hwkey]) (by omega)
        exact ⟨w', hw', hkey'.trans hwkey, hcnt'.trans hwcnt, hpay'.trans hwpay, hans'⟩
      · exact ⟨w, hwlog, hwkey, hwcnt, hwpay, by simp [hser, hwans]⟩
  entries := h.entries
  unique := h.unique

theorem counter_lt_of_incr {r : ActiveMote} (h : r.AFCntDown.isSome) :
    r.counter < ({ r with AFCntDown := r.AFCntDown.map (· + 1) } : ActiveMote).counter := by
  obtain ⟨n, hn⟩ := Option.isSome_iff_exists.mp h
  simp [ActiveMote.counter, hn]

/-- The row that a used entry's frame was encrypted for is selected by the entry. -/
theorem selected_of_linked {s : Server} (h : Inv s) {t : Transaction} {n : ℕ}
    (hl : Linked s t) (hn : t.serial = some n) (hfree : t.isFree = false) {r : ActiveMote}
    {w : Encryption} (hr : r ∈ s.activemotes) (hw : w ∈ s.log) (hser : w.serial = n)
    (hkey : r.AppSKey = some w.AppSKey) :
    r.selected t.msg.devEui t.msg.devAddr = true ∧ Owns r w ∧ w.devEui = t.msg.devEui ∧
      w.payload = t.msg.payload := by
  obtain ⟨e, he, heser, heui, haddr, hpay⟩ := hl n hn hfree
  obtain rfl := h.serial_inj he hw (by rw [heser, hser])
  have howns := h.owns r hr e he hkey
  refine ⟨?_, howns, heui, hpay⟩
  rw [← heui, ← haddr]
  exact owns_selected howns

theorem linked_lt {s : Server} (h : Inv s) {t : Transaction} {n : ℕ} (hl : Linked s t)
    (hn : t.serial = some n) (hfree : t.isFree = false) : n < s.log.length := by
  obtain ⟨e, he, rfl, -⟩ := hl n hn hfree
  exact (List.getElem?_eq_some_iff.mp (h.serials e he)).1

theorem inv_countDownlink {s : Server} (h : Inv s) (env : Surroundings) {t : Transaction}
    (hl : Linked s t) : Inv (countDownlink env t s) := by
  unfold countDownlink
  cases hrows : (if env.updateOk then incr_sql_AFCntDown s.activemotes t.msg.devEui
      t.msg.devAddr else none) with
  | none => exact h
  | some rows =>
    simp only
    have hincr : incr_sql_AFCntDown s.activemotes t.msg.devEui t.msg.devAddr = some rows := by
      split at hrows
      · exact hrows
      · cases hrows
    unfold incr_sql_AFCntDown at hincr
    split at hincr
    · cases hincr
    · obtain rfl := Option.some.inj hincr
      have hadv : Advances s fun r => if r.selected t.msg.devEui t.msg.devAddr then
          { r with AFCntDown := r.AFCntDown.map (· + 1) } else r := by
        refine ⟨?_, ?_, ?_, ?_, ?_⟩
        · intro r _; split <;> rfl
        · intro r _; split <;> rfl
        · intro r _ _; split <;> rfl
        · intro r hr
          have := h.rows.counters r hr
          split <;> simpa using this
        · intro r hr _ _ _
          split
          · exact Nat.le_of_lt (counter_lt_of_incr (h.rows.counters r hr))
          · exact Nat.le_refl _
      have hinv := inv_advance h hadv
      cases hfree : t.isFree with
      | true => simpa using hinv
      | false =>
        cases hn : t.serial with
        | none => simpa using hinv
        | some n =>
          refine inv_mark hinv (linked_lt h hl hn hfree) ?_
          -- the counter of the frame's own row was taken past the frame
          intro r' hr' w hw hser hkey hcnt
          obtain ⟨r, hr, rfl⟩ := List.mem_map.mp hr'
          rw [hadv.key r hr] at hkey
          obtain ⟨hsel, -⟩ := selected_of_linked h hl hn hfree hr hw hser hkey
          simp only [hsel, if_true] at hcnt
          have hlt := counter_lt_of_incr (h.rows.counters r hr)
          rcases h.behind r hr w hw hkey with hb | ⟨hb, -⟩ <;> omega

/-- Two rows that one entry selects are one, when the entries by DevAddr go to ABP rows. -/
theorem selected_unique {rows : List ActiveMote} (h : OneRowEach rows) {devEui devAddr : ℕ}
    {r r' : ActiveMote} (hr : r ∈ rows) (hr' : r' ∈ rows)
    (hsel : r.selected devEui devAddr = true) (hsel' : r'.selected devEui devAddr = true)
    (habp : devEui = NONE_DEVEUI → r.eui = none ∧ r'.eui = none) : r = r' := by
  unfold ActiveMote.selected at hsel hsel'
  by_cases hnone : devEui = NONE_DEVEUI
  · rw [if_pos hnone] at hsel hsel'
    obtain ⟨h1, h2⟩ := habp hnone
    exact h.abp r hr r' hr' h1 h2 (by rw [of_decide_eq_true hsel, of_decide_eq_true hsel'])
  · rw [if_neg hnone] at hsel hsel'
    exact h.euis r hr r' hr' devEui (of_decide_eq_true hsel) (of_decide_eq_true hsel')

theorem advances_set {s : Server} (h : Inv s) {devEui devAddr fcnt : ℕ}
    (hle : ∀ r ∈ s.activemotes, r.selected devEui devAddr →
      ∀ e ∈ s.log, r.AppSKey = some e.AppSKey → r.counter ≤ fcnt) :
    Advances s fun r =>
      if r.selected devEui devAddr then { r with AFCntDown := some fcnt } else r := by
  refine ⟨?_, ?_, ?_, ?_, ?_⟩
  · intro r _; split <;> rfl
  · intro r _; split <;> rfl
  · intro r _ _; split <;> rfl
  · intro r hr
    have := h.rows.counters r hr
    split <;> simp [this]
  · intro r hr e he hkey
    split
    · rename_i hsel
      exact hle r hr hsel e he hkey
    · exact Nat.le_refl _

theorem mem_set_sql {rows : List ActiveMote} {devEui devAddr fcnt : ℕ} {r' : ActiveMote}
    (hr' : r' ∈ set_sql_AFCntDown rows devEui devAddr fcnt)
    (hsel : r'.selected devEui devAddr = true) :
    ∃ r ∈ rows, r.selected devEui devAddr = true ∧ r' = { r with AFCntDown := some fcnt } := by
  obtain ⟨r, hr, rfl⟩ := List.mem_map.mp hr'
  by_cases hold : r.selected devEui devAddr
  · exact ⟨r, hr, hold, by simp [hold]⟩
  · simp only [hold, Bool.false_eq_true, if_false] at hsel

/-- After the counter was set as a failure says, the payload may be encrypted again. -/
theorem fresh_retry {s : Server} (h : Inv s) {t : Transaction} {fcnt : ℕ}
    (hnext : NamesNextCounter s t fcnt) :
    Fresh { s with
      activemotes := set_sql_AFCntDown s.activemotes t.msg.devEui t.msg.devAddr fcnt } t.msg := by
  intro msg' row' key hsel hkey
  have hrow' := selectMote_some hsel
  obtain ⟨row, hrow, hselected, rfl⟩ := mem_set_sql hrow'.mem hrow'.selected
  obtain ⟨hle, hsame, habp⟩ := hnext row hrow hselected
  refine ⟨fun f hf hfkey hcnt => ?_, habp⟩
  have hb := h.behind row hrow f hf (by rw [← hfkey] at hkey; exact hkey)
  have hcnt : f.AFCntDown = fcnt := by simpa [ActiveMote.counter] using hcnt
  have hfle : f.AFCntDown ≤ row.counter := by
    rcases hb with hlt | ⟨heq, -⟩ <;> omega
  have heq : row.counter = fcnt := by omega
  exact payload_of_behind hb (by omega) (by rw [hfkey]; exact hsame heq key hkey)

theorem send_downlink_frame (sqlOk posted : Bool) (msg : Msg) (s : Server) :
    (send_downlink A sqlOk posted msg s).1.activemotes = s.activemotes ∧
    (send_downlink A sqlOk posted msg s).1.answered = s.answered := by
  rcases send_downlink_cases A sqlOk posted msg s with heq | ⟨e, -, heq | ⟨tl, heq, -⟩⟩ <;>
    rw [heq] <;> exact ⟨rfl, rfl⟩

/-- A frame whose payload was just encrypted again counts as answered. -/
theorem inv_resent {s : Server} (h : Inv s) {t : Transaction} {n : ℕ} (hl : Linked s t)
    (hn : t.serial = some n) (hfresh : Fresh s t.msg)
    (habp : ∀ r ∈ s.activemotes, r.selected t.msg.devEui t.msg.devAddr →
      t.msg.devEui = NONE_DEVEUI → r.eui = none) (sqlOk posted : Bool)
    (hlog : (send_downlink A sqlOk posted t.msg s).1.log ≠ s.log) :
    Inv { (send_downlink A sqlOk posted t.msg s).1 with
      answered := n :: (send_downlink A sqlOk posted t.msg s).1.answered } := by
  have hsent := inv_send A h hfresh sqlOk posted
  obtain ⟨hrows, hans⟩ := send_downlink_frame A sqlOk posted t.msg s
  obtain ⟨e, he, hlog'⟩ : ∃ e, encryption s t.msg = some e ∧
      (send_downlink A sqlOk posted t.msg s).1.log = s.log ++ [e] := by
    rcases send_downlink_cases A sqlOk posted t.msg s with heq | ⟨e, he, heq | ⟨tl, heq, -⟩⟩
    · exact absurd (by rw [heq]) hlog
    · exact ⟨e, he, by rw [heq]⟩
    · exact ⟨e, he, by rw [heq]⟩
  obtain ⟨msg', row, key, hsel, hkey, rfl⟩ := encryption_some he
  have hrow := selectMote_some hsel
  cases hfree : t.isFree with
  | true =>
    -- an entry that names no device selects no row
    exfalso
    have hdev : t.msg.devEui = NONE_DEVEUI ∧ t.msg.devAddr = NONE_DEVADDR := by
      simpa [Transaction.isFree] using hfree
    simp [selectMote, hdev] at hsel
  | false =>
    have hlt := linked_lt h hl hn hfree
    refine inv_mark hsent (by rw [hlog']; simp; omega) ?_
    intro r hr w hw hser hrkey hcnt
    rw [hrows] at hr
    rw [hlog'] at hw
    rcases List.mem_append.mp hw with hold | hnew
    · obtain ⟨hrsel, howns, heui, hpay⟩ := selected_of_linked h hl hn hfree hr hold hser hrkey
      obtain rfl : r = row := by
        refine selected_unique h.rows hr hrow.mem hrsel hrow.selected fun hnone =>
          ⟨habp r hr hrsel hnone, habp row hrow.mem hrow.selected hnone⟩
      -- the new frame stands where the old one stood
      refine ⟨_, by rw [hlog']; exact List.mem_append_right _ List.mem_cons_self, ?_, hcnt.symm,
        ?_, ?_⟩
      · exact Option.some.inj (hkey.symm.trans hrkey)
      · rw [hpay]
        exact hrow.payload
      · rw [hans, List.mem_cons]
        rintro (heq | hmem)
        · simp only at heq
          omega
        · exact Nat.lt_irrefl _ (h.answered_lt _ hmem)
    · rw [List.mem_singleton.mp hnew] at hser
      simp only at hser
      omega

/-- The answers to the entry's frame are noted when its payload was encrypted again. -/
theorem inv_retried {s : Server} (h : Inv s) {t : Transaction} (hl : Linked s t)
    (hfresh : Fresh s t.msg) (habp : ∀ r ∈ s.activemotes,
      r.selected t.msg.devEui t.msg.devAddr → t.msg.devEui = NONE_DEVEUI → r.eui = none)
    (sqlOk posted : Bool) {s' : Server} (hs' : (send_downlink A sqlOk posted t.msg s).1 = s') :
    Inv { s' with
      answered := if s'.log = s.log then s.answered else t.serial.toList ++ s.answered } := by
  have hsent := inv_send A h hfresh sqlOk posted
  obtain ⟨-, hans⟩ := send_downlink_frame A sqlOk posted t.msg s
  have hresent := fun n hn => inv_resent A h hl (n := n) hn hfresh habp sqlOk posted
  rw [hs'] at hsent hans hresent
  rw [← hans]
  split
  · exact hsent
  · rename_i hlog
    cases hn : t.serial with
    | none => exact hsent
    | some n => exact hresent n hn hlog

theorem inv_retryDownlink {s : Server} (h : Inv s) (env : Surroundings) {t : Transaction}
    {fcnt : ℕ} (hl : Linked s t) (hnext : NamesNextCounter s t fcnt) :
    Inv (retryDownlink A env t fcnt s) := by
  unfold retryDownlink
  split
  · exact h
  · have hset : Inv { s with
        activemotes := set_sql_AFCntDown s.activemotes t.msg.devEui t.msg.devAddr fcnt } :=
      inv_advance h (advances_set h fun r hr hsel _ _ _ => (hnext r hr hsel).1)
    refine inv_retried A hset hl (fresh_retry h hnext) ?_ env.sqlOk env.posted rfl
    intro r' hr' hsel
    obtain ⟨r, hr, hold, rfl⟩ := mem_set_sql hr' hsel
    exact (hnext r hr hold).2.2

theorem inv_xmitDataAns {s : Server} (h : Inv s) (env : Surroundings) (trans_id : ℕ)
    (rxResult : Result) (FCntDown : Option ℕ)
    (hturn : rxResult ≠ .Success → ∀ fcnt, FCntDown = some fcnt →
      ∀ e, s.tlist.find? (·.tid = trans_id) = some e →
        NamesNextCounter s e (fcnt % 2 ^ 32)) :
    Inv (xmitDataAns A env trans_id rxResult FCntDown s) := by
  unfold xmitDataAns
  cases hi : s.tlist.findIdx? (·.tid = trans_id) with
  | none => exact h
  | some i =>
    simp only
    cases he : s.tlist[i]? with
    | none => exact h
    | some e =>
      have hl : Linked s e := h.entries e (List.mem_of_getElem? he)
      have hfind : s.tlist.find? (·.tid = trans_id) = some e := by
        rw [List.find?_eq_bind_findIdx?_getElem?, hi]
        exact he
      simp only
      by_cases hres : rxResult = .Success
      · simp only [if_pos hres]
        have hcount := inv_countDownlink h env hl
        split
        · exact inv_clear hcount i e
        · exact hcount
      · simp only [if_neg hres]
        cases FCntDown with
        | some fcnt =>
          exact inv_clear (inv_retryDownlink A h env hl (hturn hres fcnt rfl e hfind)) i e
        | none =>
          simp only
          split
          · exact inv_clear h i e
          · exact h

/-! ### Application session keys -/

theorem inv_updateSKey {s : Server} (h : Inv s) (env : Surroundings) {u : SKeyUpdate}
    (hnew : NewAppSKey s u.AppSKey) : Inv (updateSKey env u s) := by
  obtain ⟨hrows, hqueue, hlog⟩ := hnew
  unfold updateSKey
  split
  · refine ⟨h.rows, h.serials, h.answered_lt, ?_, ?_, ?_, h.owns, h.behind, h.entries, h.unique⟩
    · intro v hv r hr
      rcases List.mem_append.mp hv with hold | hlast
      · exact h.queue_rows v hold r hr
      · rw [List.mem_singleton.mp hlast]
        exact hrows r hr
    · intro v hv e he
      rcases List.mem_append.mp hv with hold | hlast
      · exact h.queue_log v hold e he
      · rw [List.mem_singleton.mp hlast]
        exact hlog e he
    · refine List.pairwise_append.mpr ⟨h.queue_keys, List.pairwise_singleton _ _, ?_⟩
      intro v hv w hw
      rw [List.mem_singleton.mp hw]
      exact hqueue v hv
  · exact h

theorem inv_saveAppSKey {s : Server} (h : Inv s) (env : Surroundings) (clrAFCntDown : Bool)
    (key : Octets) (DevAddr : Option ℕ) (DevEui64 : ℕ)
    (hnew : DeliversNewKey env clrAFCntDown key DevEui64 s) :
    Inv (saveAppSKey env clrAFCntDown key DevAddr DevEui64 s) := by
  unfold saveAppSKey
  unfold DeliversNewKey at hnew
  by_cases hkeep : keepsAppSKey env.sqlOk s.activemotes DevEui64 key = true
  · rw [if_pos hkeep] at hnew ⊢
    split
    · rename_i hclr
      refine inv_advance h (advances_set h ?_)
      intro r hr hsel e he hkey
      exact absurd hkey (hnew hclr.1 r hr hsel e he)
    · exact h
  · rw [if_neg hkeep] at hnew ⊢
    exact inv_updateSKey h env hnew

theorem inv_updateDevAddr {s : Server} (h : Inv s) (sqlOk updateOk : Bool)
    (DevEui64 DevAddr32 : ℕ) {rows : List ActiveMote}
    (hrows : updateDevAddr sqlOk updateOk s.activemotes DevEui64 DevAddr32 = some rows) :
    Inv { s with activemotes := rows } := by
  unfold updateDevAddr at hrows
  split at hrows
  · cases hrows
  · split at hrows
    · obtain rfl := Option.some.inj hrows
      exact h
    · split at hrows
      · obtain rfl := Option.some.inj hrows
        refine inv_advance h ⟨?_, ?_, ?_, ?_, ?_⟩
        · intro r _; split <;> rfl
        · intro r _; split <;> rfl
        · intro r _ hnone
          simp [hnone]
        · intro r hr
          have := h.rows.counters r hr
          split <;> exact this
        · intro r _ _ _ _
          split <;> exact Nat.le_refl _
      · cases hrows

theorem inv_uplinkDevAddr {s : Server} (h : Inv s) (env : Surroundings) (req : UplinkReq)
    {rows : List ActiveMote} (hrows : uplinkDevAddr env req s.activemotes = some rows) :
    Inv { s with activemotes := rows } := by
  unfold uplinkDevAddr at hrows
  split at hrows
  · split at hrows
    · obtain rfl := Option.some.inj hrows
      exact h
    · exact inv_updateDevAddr h _ _ _ _ hrows
  · obtain rfl := Option.some.inj hrows
    exact h

theorem inv_uplink {s : Server} (h : Inv s) (env : Surroundings) (req : UplinkReq)
    (hnew : ∀ rows key, uplinkDevAddr env req s.activemotes = some rows →
      openAppSKey W cfg req.AppSKey = some key →
      DeliversNewKey env true key (req.DevEUI.getD req.junkEui) { s with activemotes := rows }) :
    Inv (xmitDataReqUplink W cfg env req s) := by
  unfold xmitDataReqUplink
  cases hrows : uplinkDevAddr env req s.activemotes with
  | none => exact h
  | some rows =>
    have hinv := inv_uplinkDevAddr h env req hrows
    simp only
    cases hkey : openAppSKey W cfg req.AppSKey with
    | none => exact hinv
    | some key => exact inv_saveAppSKey hinv env true key _ _ (hnew rows key hrows hkey)

@[simp] theorem SKeyUpdate.apply_eui (u : SKeyUpdate) (r : ActiveMote) : (u.apply r).eui = r.eui := by
  unfold SKeyUpdate.apply
  split <;> rfl

theorem SKeyUpdate.apply_of_abp {r : ActiveMote} (u : SKeyUpdate) (h : r.eui = none) : u.apply r = r := by
  simp [SKeyUpdate.apply, h]

theorem SKeyUpdate.apply_of_ne {u : SKeyUpdate} {r : ActiveMote} {k : Octets}
    (hk : (u.apply r).AppSKey = some k) (hne : k ≠ u.AppSKey) : u.apply r = r := by
  by_cases hsel : r.eui = some u.devEui
  · rw [SKeyUpdate.apply, if_pos hsel] at hk
    exact absurd (Option.some.inj hk).symm hne
  · exact if_neg hsel

theorem selected_of_apply {u : SKeyUpdate} {r : ActiveMote} (hnew : r.AppSKey ≠ some u.AppSKey)
    (hk : (u.apply r).AppSKey = some u.AppSKey) : r.eui = some u.devEui := by
  by_contra hsel
  rw [SKeyUpdate.apply, if_neg hsel] at hk
  exact hnew hk

theorem oneRowEach_apply {rows : List ActiveMote} {u : SKeyUpdate} (h : OneRowEach rows)
    (hnew : ∀ r ∈ rows, r.AppSKey ≠ some u.AppSKey) : OneRowEach (rows.map u.apply) where
  counters := by
    intro r' hr'
    obtain ⟨r, hr, rfl⟩ := List.mem_map.mp hr'
    have hcounter := h.counters r hr
    unfold SKeyUpdate.apply
    split
    · simp only
      split <;> simp [hcounter]
    · exact hcounter
  euis := by
    intro r' hr' q' hq' e he he'
    obtain ⟨r, hr, rfl⟩ := List.mem_map.mp hr'
    obtain ⟨q, hq, rfl⟩ := List.mem_map.mp hq'
    rw [SKeyUpdate.apply_eui] at he he'
    rw [h.euis r hr q hq e he he']
  abp := by
    intro r' hr' q' hq' hn hn' hda
    obtain ⟨r, hr, rfl⟩ := List.mem_map.mp hr'
    obtain ⟨q, hq, rfl⟩ := List.mem_map.mp hq'
    rw [SKeyUpdate.apply_eui] at hn hn'
    rw [SKeyUpdate.apply_of_abp u hn, SKeyUpdate.apply_of_abp u hn'] at hda ⊢
    exact h.abp r hr q hq hn hn' hda
  keys := by
    intro r' hr' q' hq' k hk hk'
    obtain ⟨r, hr, rfl⟩ := List.mem_map.mp hr'
    obtain ⟨q, hq, rfl⟩ := List.mem_map.mp hq'
    by_cases heq : k = u.AppSKey
    · subst heq
      have hr_selected := selected_of_apply (hnew r hr) hk
      have hq_selected := selected_of_apply (hnew q hq) hk'
      rw [h.euis r hr q hq _ hr_selected hq_selected]
    · have hr_same := SKeyUpdate.apply_of_ne hk heq
      have hq_same := SKeyUpdate.apply_of_ne hk' heq
      rw [hr_same] at hk ⊢
      rw [hq_same] at hk' ⊢
      exact h.keys r hr q hq k hk hk'

/-- The `UPDATE` gives the key to the one row of its device, and nobody else has it. -/
theorem inv_applyUpdate {s : Server} (h : Inv s) : Inv (applyUpdate s) := by
  unfold applyUpdate
  cases hmq : s.mq with
  | nil => exact h
  | cons u mq =>
    have hu : u ∈ s.mq := by rw [hmq]; exact List.mem_cons_self
    have hkeys := h.queue_keys
    rw [hmq, List.pairwise_cons] at hkeys
    have hrest : ∀ v ∈ mq, v ∈ s.mq := fun v hv => by rw [hmq]; exact List.mem_cons_of_mem u hv
    have hrows := oneRowEach_apply h.rows (h.queue_rows u hu)
    refine ⟨hrows, h.serials, h.answered_lt, ?_, ?_, hkeys.2, ?_, ?_, h.entries, h.unique⟩
    · intro v hv r' hr' hk
      obtain ⟨r, hr, rfl⟩ := List.mem_map.mp hr'
      have hne : v.AppSKey ≠ u.AppSKey := fun heq => hkeys.1 v hv heq.symm
      rw [SKeyUpdate.apply_of_ne hk hne] at hk
      exact h.queue_rows v (hrest v hv) r hr hk
    · exact fun v hv => h.queue_log v (hrest v hv)
    · intro r' hr' e he hk
      obtain ⟨r, hr, rfl⟩ := List.mem_map.mp hr'
      have hr_same := SKeyUpdate.apply_of_ne hk (h.queue_log u hu e he)
      rw [hr_same] at hk ⊢
      exact h.owns r hr e he hk
    · intro r' hr' e he hk
      obtain ⟨r, hr, rfl⟩ := List.mem_map.mp hr'
      have hr_same := SKeyUpdate.apply_of_ne hk (h.queue_log u hu e he)
      rw [hr_same] at hk ⊢
      exact h.behind r hr e he hk

theorem inv_appSKeyAns {s : Server} (h : Inv s) (env : Surroundings) (trans_id : ℕ)
    (rxResult : Result) (AppSKey : Option KeyEnvelopeJson) (DevAddr : Option ℕ)
    (hnew : ∀ key, openAppSKey W cfg AppSKey = some key →
      Machine.Along
        (fun s (e : Transaction) => saveAppSKey env false key DevAddr e.msg.devEui s)
        (fun s (e : Transaction) => DeliversNewKey env false key e.msg.devEui s)
        s (s.tlist.filter (·.tid = trans_id))) :
    Inv (appSKeyAns W cfg env trans_id rxResult AppSKey DevAddr s) := by
  have hcleared : ∀ {s'}, Inv s' → Inv { s' with
      tlist := s'.tlist.map fun (e : Transaction) => if e.tid = trans_id then e.clear else e } := by
    intro s' h'
    refine inv_tlist h' _ ?_
    intro t ht
    obtain ⟨e, he, rfl⟩ := List.mem_map.mp ht
    by_cases htid : e.tid = trans_id
    · rw [if_pos htid]
      exact linked_clear _ e
    · rw [if_neg htid]
      exact h'.entries e he
  unfold appSKeyAns
  cases hkey : (if rxResult = .Success then openAppSKey W cfg AppSKey else none) with
  | none => exact hcleared h
  | some key =>
    have hopen : openAppSKey W cfg AppSKey = some key := by
      split at hkey
      · exact hkey
      · cases hkey
    refine hcleared (Machine.run_invariant _ (fun s e (hinv : Inv s) hc => ?_) h (hnew key hopen))
    exact inv_saveAppSKey hinv env false key DevAddr e.msg.devEui hc

theorem inv_requestAppSKey {s : Server} (h : Inv s) (env : Surroundings) (devEui devAddr : ℕ) :
    Inv (requestAppSKey env devEui devAddr s) := by
  unfold requestAppSKey
  split
  · exact h
  · refine inv_tlist h _ ?_
    intro t ht
    split at ht
    · rcases mem_tlistAdd ht with rfl | hold
      · intro n hn
        cases hn
      · exact h.entries t hold
    · exact h.entries t ht

/-! ### Runs -/

theorem sentInTurn_of_answered {s : Server} {msg : Msg}
    (hans : ∀ e ∈ s.log, e.serial ∈ s.answered) (hota : msg.devEui ≠ NONE_DEVEUI) :
    SentInTurn s msg :=
  fun _ _ _ _ _ => ⟨fun e he _ hwait => absurd (hans e he) hwait, fun hnone => absurd hnone hota⟩

theorem inv_step {s : Server} {e : Event} (h : Inv s) (hturn : InTurn W cfg s e) :
    Inv (step A W cfg s e) := by
  cases e with
  | downlink env msg => exact inv_send A h (fresh_of_sentInTurn h hturn) env.sqlOk env.posted
  | answer env trans_id rxResult FCntDown =>
    exact inv_xmitDataAns A h env trans_id rxResult FCntDown hturn
  | uplink env req => exact inv_uplink W cfg h env req hturn
  | keyRequest env devEui devAddr => exact inv_requestAppSKey h env devEui devAddr
  | keyAnswer env trans_id rxResult AppSKey DevAddr =>
    exact inv_appSKeyAns W cfg h env trans_id rxResult AppSKey DevAddr hturn
  | writer => exact inv_applyUpdate h

/-- In every run whose frames are sent in turn, the keystream is used for one payload only. -/
theorem keystreamUnique_of_inTurn {rows : List ActiveMote} (h : OneRowEach rows) (tid : ℕ)
    {es : List Event} (hturn : Machine.Along (step A W cfg) (InTurn W cfg) (Server.init rows tid) es) :
    KeystreamUnique (Machine.run (step A W cfg) (Server.init rows tid) es) :=
  (Machine.run_invariant _ (fun _ _ hinv hc => inv_step A W cfg hinv hc) (inv_init h tid)
    hturn).keystreamUnique

/-! ### One device, two payloads -/

def soleMote : ActiveMote := ⟨some 0x1122334455667788, some (List.replicate 16 0x2b), some 1, some 0⟩

def quiet : Surroundings := ⟨true, true, true, true, true⟩

/-- The request for a downlink of one octet to the device. -/
def sendOctet (payload : UInt8) : Event :=
  .downlink quiet ⟨0x1122334455667788, NONE_DEVADDR, 1, false, [payload]⟩

/-- Nobody waits for the answer: the second payload is encrypted under the counter of the first. -/
theorem two_payloads_before_answer :
    ¬KeystreamUnique (Machine.run (step BlockCipher.xorKey noWrap ⟨⟨none, []⟩, 0⟩)
      (Server.init [soleMote] 1) [sendOctet 1, sendOctet 2]) := by
  decide +kernel

/-- With the answer between them the two payloads have two counters. -/
theorem two_payloads_after_answer :
    KeystreamUnique (Machine.run (step BlockCipher.xorKey noWrap ⟨⟨none, []⟩, 0⟩)
      (Server.init [soleMote] 1) [sendOctet 1, .answer quiet 1 .Success none, sendOctet 2]) := by
  refine keystreamUnique_of_inTurn _ _ _ ⟨?_, ?_, ?_, ?_⟩ 1 ⟨?_, ?_, ?_, trivial⟩
  · simp [soleMote]
  · simp [soleMote]
  · simp [soleMote]
  · simp [soleMote]
  · exact sentInTurn_of_answered (by decide +kernel) (by decide)
  · exact fun hne => absurd rfl hne
  · exact sentInTurn_of_answered (by decide +kernel) (by decide)

end Lorawan.AppServer

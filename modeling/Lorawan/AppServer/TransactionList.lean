import Lorawan.AppServer.Keystream

/-!
# The transaction list (app_server/main.c:393-433, web.c:485-557)

An entry of `tlist` is found by its transaction ID and released by the device it
names; ID and payload pointer stay in it. Beside the server `TList` keeps the
payload blocks, and the history of what was requested, answered and freed.
-/

namespace Lorawan.AppServer
open Lorawan Lorawan.Backend

variable (A : BlockCipher) (W : KeyWrap) (cfg : Config)

/-! ### The model -/

inductive ReqKind
  | XmitDataReq
  | AppSKeyReq
deriving DecidableEq

/-- What an entry of `tlist` holds beside its message: the block that `msg.payload` points
to, and as history the request that filled it. -/
structure Ticket where
  payload : Option ℕ
  request : ℕ
deriving DecidableEq

structure TList where
  server : Server
  /-- One for each entry of `server.tlist`. -/
  tickets : List Ticket
  /-- Payload blocks so far; a block is its number. -/
  mallocs : ℕ
  /-- History: the blocks given to `free`. -/
  frees : List ℕ
  /-- History: the kind of each request that was added, in their order. -/
  requests : List ReqKind
  /-- History: the transactions no answer has named yet. -/
  outstanding : List (ℕ × ReqKind)
  /-- History: the requests whose entry an answer was acted upon for, with its kind. -/
  acted : List (ℕ × ReqKind)
  /-- History: the requests whose entry was matched after its release. -/
  rematched : List ℕ
deriving DecidableEq

def TList.init (activemotes : List ActiveMote) (next_req_tid : ℕ) : TList :=
  ⟨Server.init activemotes next_req_tid, [], 0, [], [], [], [], []⟩

/-- Where `tlistAdd` puts an entry. -/
def firstFree (ts : List Transaction) : ℕ := ts.findIdx (·.isFree)

/-- Write at a place of the list, or at its end. -/
def place {α : Type} (i : ℕ) (x : α) (xs : List α) : List α :=
  if i < xs.length then xs.set i x else xs ++ [x]

/-- `tlistAdd` (main.c:393-431) has made `server`: the payload is copied into a new block. -/
def TList.added (kind : ReqKind) (payload : Octets) (server : Server) (t : TList) : TList :=
  { t with
    server := server
    tickets := place (firstFree t.server.tlist)
      ⟨if payload = [] then none else some t.mallocs, t.requests.length⟩ t.tickets
    mallocs := if payload = [] then t.mallocs else t.mallocs + 1
    requests := t.requests ++ [kind]
    outstanding := (t.server.next_req_tid, kind) ::
      t.outstanding.filter (·.1 ≠ t.server.next_req_tid) }

/-- `send_downlink` (main.c:458-598) adds an entry once the request is posted. -/
def TList.send (sqlOk posted : Bool) (msg : Msg) (t : TList) : TList :=
  let sent := send_downlink A sqlOk posted msg t.server
  if posted && sent.2.isSome then t.added .XmitDataReq msg.payload sent.1
  else { t with server := sent.1 }

/-- `requestAppSKey` (web.c:603-666). -/
def TList.requestKey (env : Surroundings) (devEui devAddr : ℕ) (t : TList) : TList :=
  let server := requestAppSKey env devEui devAddr t.server
  if env.posted && (parseDevAddr devAddr).isSome then t.added .AppSKeyReq [] server
  else { t with server := server }

/-- An answer has found the entry at `i`. -/
def TList.matched (kind : ReqKind) (i : ℕ) (t : TList) : TList :=
  match t.server.tlist[i]?, t.tickets[i]? with
  | some e, some k =>
    { t with
      outstanding := t.outstanding.filter (·.1 ≠ e.tid)
      acted := (k.request, kind) :: t.acted
      rematched := if e.isFree then k.request :: t.rematched else t.rematched }
  | _, _ => t

/-- The entry is cleared and its payload freed; the pointer stays. -/
def TList.release (i : ℕ) (e : Transaction) (t : TList) : TList :=
  { t with
    server := setEntry i e.clear t.server
    frees := (t.tickets[i]?.bind (·.payload)).toList ++ t.frees }

/-- `set_sql_AFCntDown`. -/
def TList.setCounter (e : Transaction) (fcnt : ℕ) (t : TList) : TList :=
  { t with server := { t.server with
      activemotes := set_sql_AFCntDown t.server.activemotes e.msg.devEui e.msg.devAddr fcnt } }

/-- The second try of web.c:503-512. -/
def TList.retry (env : Surroundings) (e : Transaction) (fcnt : ℕ) (t : TList) : TList :=
  if env.updateOk = false then t
  else
    { TList.send A env.sqlOk env.posted e.msg (t.setCounter e fcnt) with
      server := retryDownlink A env e fcnt t.server }

/-- `XmitDataAns` (web.c:485-530): the first entry of the transaction. -/
def TList.dataAnswer (env : Surroundings) (trans_id : ℕ) (rxResult : Result)
    (FCntDown : Option ℕ) (t : TList) : TList :=
  match t.server.tlist.findIdx? (·.tid = trans_id) with
  | none => t
  | some i =>
    match t.server.tlist[i]? with
    | none => t
    | some e =>
      let t := t.matched .XmitDataReq i
      if rxResult = .Success then
        let t := { t with server := countDownlink env e t.server }
        if env.statusOk then t.release i e else t
      else
        match FCntDown with
        | some fcnt => (t.retry A env e (fcnt % 2 ^ 32)).release i e
        | none => if env.statusOk then t.release i e else t

/-- The entries of a transaction. -/
def hits (trans_id : ℕ) (ts : List Transaction) : List ℕ :=
  (List.range ts.length).filter fun i => ts[i]?.map (·.tid) = some trans_id

/-- `AppSKeyAns` (web.c:531-557): every entry of the transaction, nothing is freed. -/
def TList.keyAnswer (env : Surroundings) (trans_id : ℕ) (rxResult : Result)
    (AppSKey : Option KeyEnvelopeJson) (DevAddr : Option ℕ) (t : TList) : TList :=
  { (hits trans_id t.server.tlist).foldl (fun t i => t.matched .AppSKeyReq i) t with
    server := appSKeyAns W cfg env trans_id rxResult AppSKey DevAddr t.server }

def TList.step (t : TList) : Event → TList
  | .downlink env msg => t.send A env.sqlOk env.posted msg
  | .answer env trans_id rxResult FCntDown => t.dataAnswer A env trans_id rxResult FCntDown
  | .uplink env req => { t with server := xmitDataReqUplink W cfg env req t.server }
  | .keyRequest env devEui devAddr => t.requestKey env devEui devAddr
  | .keyAnswer env trans_id rxResult AppSKey DevAddr =>
    t.keyAnswer W cfg env trans_id rxResult AppSKey DevAddr
  | .writer => { t with server := applyUpdate t.server }

/-! ### It is the server with a history -/

@[simp] theorem matched_server (kind : ReqKind) (i : ℕ) (t : TList) :
    (t.matched kind i).server = t.server := by
  unfold TList.matched
  split <;> rfl

@[simp] theorem send_server (sqlOk posted : Bool) (msg : Msg) (t : TList) :
    (t.send A sqlOk posted msg).server = (send_downlink A sqlOk posted msg t.server).1 := by
  unfold TList.send
  dsimp only
  split <;> rfl

@[simp] theorem requestKey_server (env : Surroundings) (devEui devAddr : ℕ) (t : TList) :
    (t.requestKey env devEui devAddr).server = requestAppSKey env devEui devAddr t.server := by
  unfold TList.requestKey
  dsimp only
  split <;> rfl

@[simp] theorem release_server (i : ℕ) (e : Transaction) (t : TList) :
    (t.release i e).server = setEntry i e.clear t.server := rfl

@[simp] theorem retry_server (env : Surroundings) (e : Transaction) (fcnt : ℕ) (t : TList) :
    (t.retry A env e fcnt).server = retryDownlink A env e fcnt t.server := by
  unfold TList.retry
  split
  · rename_i hfail
    simp [retryDownlink, hfail]
  · rfl

theorem dataAnswer_server (env : Surroundings) (trans_id : ℕ) (rxResult : Result)
    (FCntDown : Option ℕ) (t : TList) :
    (t.dataAnswer A env trans_id rxResult FCntDown).server =
      xmitDataAns A env trans_id rxResult FCntDown t.server := by
  unfold TList.dataAnswer xmitDataAns
  cases hfind : t.server.tlist.findIdx? (·.tid = trans_id) with
  | none => rfl
  | some i =>
    dsimp only
    cases he : t.server.tlist[i]? with
    | none => rfl
    | some e =>
      dsimp only
      by_cases hok : rxResult = .Success
      · rw [if_pos hok, if_pos hok]
        split <;> simp
      · rw [if_neg hok, if_neg hok]
        cases FCntDown with
        | some fcnt => simp
        | none =>
          dsimp only
          split <;> simp

theorem server_step (t : TList) (e : Event) :
    (t.step A W cfg e).server = step A W cfg t.server e := by
  cases e with
  | downlink env msg => exact send_server A env.sqlOk env.posted msg t
  | answer env trans_id rxResult FCntDown =>
    exact dataAnswer_server A env trans_id rxResult FCntDown t
  | uplink env req => rfl
  | keyRequest env devEui devAddr => exact requestKey_server env devEui devAddr t
  | keyAnswer env trans_id rxResult AppSKey DevAddr => rfl
  | writer => rfl

theorem server_run (t : TList) (es : List Event) :
    (Machine.run (TList.step A W cfg) t es).server = Machine.run (step A W cfg) t.server es := by
  induction es generalizing t with
  | nil => rfl
  | cons e es ih => rw [Machine.run_cons, Machine.run_cons, ih, server_step]

/-! ### What a list of transactions is for -/

/-- The entry at `i` waits, with the ticket `k`. -/
def TList.Live (t : TList) (i : ℕ) (k : Ticket) : Prop :=
  (∃ e, t.server.tlist[i]? = some e ∧ e.isFree = false) ∧ t.tickets[i]? = some k

structure TList.Sound (t : TList) : Prop where
  acted_once : (t.acted.map Prod.fst).Nodup
  acted_kind : ∀ a ∈ t.acted, t.requests[a.1]? = some a.2
  not_rematched : t.rematched = []
  freed_once : t.frees.Nodup
  freed_lt : ∀ b ∈ t.frees, b < t.mallocs
  freed_or_held : ∀ b < t.mallocs, b ∈ t.frees ↔ ¬∃ i k, t.Live i k ∧ k.payload = some b
  none_lost : ∀ r < t.requests.length,
    r ∈ t.acted.map Prod.fst ∨ ∃ i k, t.Live i k ∧ k.request = r

/-- An answer to a transaction that an entry holds is the first one, and of the kind that
was requested. -/
def TList.FirstAnswer (t : TList) (trans_id : ℕ) (kind : ReqKind) : Prop :=
  ∀ e ∈ t.server.tlist, e.tid = trans_id → (trans_id, kind) ∈ t.outstanding

/-- No entry keeps the transaction ID that the next request gets. -/
def TList.FreshTid (t : TList) : Prop :=
  ∀ e ∈ t.server.tlist.eraseIdx (firstFree t.server.tlist), e.tid ≠ t.server.next_req_tid

instance (t : TList) (trans_id : ℕ) (kind : ReqKind) : Decidable (t.FirstAnswer trans_id kind) :=
  inferInstanceAs (Decidable
    (∀ e ∈ t.server.tlist, e.tid = trans_id → (trans_id, kind) ∈ t.outstanding))

instance (t : TList) : Decidable t.FreshTid :=
  inferInstanceAs (Decidable (∀ e ∈ t.server.tlist.eraseIdx (firstFree t.server.tlist),
    e.tid ≠ t.server.next_req_tid))

/-- The condition on an event, in the state in which it is handled. -/
def TList.Orderly (t : TList) : Event → Prop
  | .downlink _ _ => t.FreshTid
  | .answer _ trans_id rxResult FCntDown =>
    t.FirstAnswer trans_id .XmitDataReq ∧ (rxResult ≠ .Success → FCntDown ≠ none → t.FreshTid)
  | .uplink _ _ => True
  | .keyRequest _ _ _ => t.FreshTid
  | .keyAnswer _ trans_id _ _ _ => t.FirstAnswer trans_id .AppSKeyReq
  | .writer => True

instance (t : TList) : ∀ e : Event, Decidable (t.Orderly e)
  | .downlink _ _ => inferInstanceAs (Decidable t.FreshTid)
  | .answer _ trans_id rxResult FCntDown =>
    inferInstanceAs (Decidable (t.FirstAnswer trans_id .XmitDataReq ∧
      (rxResult ≠ .Success → FCntDown ≠ none → t.FreshTid)))
  | .uplink _ _ => inferInstanceAs (Decidable True)
  | .keyRequest _ _ _ => inferInstanceAs (Decidable t.FreshTid)
  | .keyAnswer _ trans_id _ _ _ =>
    inferInstanceAs (Decidable (t.FirstAnswer trans_id .AppSKeyReq))
  | .writer => inferInstanceAs (Decidable True)

/-! ### The invariant -/

/-- The entry at `i` and its ticket. -/
def TList.At (t : TList) (i : ℕ) (e : Transaction) (k : Ticket) : Prop :=
  t.server.tlist[i]? = some e ∧ t.tickets[i]? = some k

structure TList.Inv (t : TList) : Prop where
  length : t.tickets.length = t.server.tlist.length
  tid_inj : ∀ i j e e' k k', t.At i e k → t.At j e' k' → e.tid = e'.tid → i = j
  request_inj : ∀ i j e e' k k', t.At i e k → t.At j e' k' → k.request = k'.request → i = j
  request_lt : ∀ i e k, t.At i e k → k.request < t.requests.length
  keyPayload : ∀ i e k, t.At i e k → t.requests[k.request]? = some .AppSKeyReq →
    k.payload = none
  waits : ∀ i e k kind, t.At i e k → (e.tid, kind) ∈ t.outstanding →
    e.isFree = false ∧ k.request ∉ t.acted.map Prod.fst ∧ t.requests[k.request]? = some kind
  acted_once : (t.acted.map Prod.fst).Nodup
  acted_kind : ∀ a ∈ t.acted, t.requests[a.1]? = some a.2
  not_rematched : t.rematched = []
  freed_once : t.frees.Nodup
  freed_lt : ∀ b ∈ t.frees, b < t.mallocs
  block : ∀ i k b, t.Live i k → k.payload = some b → b < t.mallocs ∧ b ∉ t.frees
  block_inj : ∀ i j k k' b, t.Live i k → t.Live j k' → k.payload = some b →
    k'.payload = some b → i = j
  freed_or_held : ∀ b < t.mallocs, b ∈ t.frees ∨ ∃ i k, t.Live i k ∧ k.payload = some b
  none_lost : ∀ r < t.requests.length,
    r ∈ t.acted.map Prod.fst ∨ ∃ i k, t.Live i k ∧ k.request = r

theorem inv_tlist_init (rows : List ActiveMote) (tid : ℕ) : (TList.init rows tid).Inv := by
  refine ⟨rfl, ?_, ?_, ?_, ?_, ?_, ?_, ?_, rfl, ?_, ?_, ?_, ?_, ?_, ?_⟩ <;>
    simp [TList.init, TList.Live, TList.At]

theorem TList.Inv.sound {t : TList} (h : t.Inv) : t.Sound where
  acted_once := h.acted_once
  acted_kind := h.acted_kind
  not_rematched := h.not_rematched
  freed_once := h.freed_once
  freed_lt := h.freed_lt
  freed_or_held := by
    intro b hb
    constructor
    · rintro hfree ⟨i, k, hlive, hk⟩
      exact (h.block i k b hlive hk).2 hfree
    · intro hnone
      rcases h.freed_or_held b hb with hfree | hheld
      · exact hfree
      · exact absurd hheld hnone
  none_lost := h.none_lost

theorem TList.Inv.tables {t : TList} (h : t.Inv) {server : Server}
    (heq : server.tlist = t.server.tlist) : TList.Inv { t with server := server } := by
  obtain ⟨rows, mq, ts, next, log, answered⟩ := server
  obtain rfl : ts = t.server.tlist := heq
  exact ⟨h.length, h.tid_inj, h.request_inj, h.request_lt, h.keyPayload, h.waits, h.acted_once,
    h.acted_kind, h.not_rematched, h.freed_once, h.freed_lt, h.block, h.block_inj,
    h.freed_or_held, h.none_lost⟩

theorem TList.At.live {t : TList} {i : ℕ} {e : Transaction} {k : Ticket} (h : t.At i e k)
    (hfree : e.isFree = false) : t.Live i k := ⟨⟨e, h.1, hfree⟩, h.2⟩

theorem TList.Inv.exists_at {t : TList} (h : t.Inv) {i : ℕ} {e : Transaction}
    (he : t.server.tlist[i]? = some e) : ∃ k, t.At i e k := by
  have hlt := (List.getElem?_eq_some_iff.mp he).1
  rw [← h.length] at hlt
  exact ⟨_, he, List.getElem?_eq_getElem hlt⟩

/-! ### An answer -/

theorem matched_eq {t : TList} {i : ℕ} {e : Transaction} {k : Ticket} (hat : t.At i e k)
    (hfree : e.isFree = false) (kind : ReqKind) : t.matched kind i =
      { t with
        outstanding := t.outstanding.filter (·.1 ≠ e.tid)
        acted := (k.request, kind) :: t.acted } := by
  simp only [TList.matched, hat.1, hat.2, hfree, Bool.false_eq_true, if_false]

theorem TList.Inv.matched {t : TList} (h : t.Inv) {i : ℕ} {e : Transaction} {k : Ticket}
    (hat : t.At i e k) {kind : ReqKind} (hwait : (e.tid, kind) ∈ t.outstanding) :
    (t.matched kind i).Inv := by
  obtain ⟨hfree, hnew, hkind⟩ := h.waits i e k kind hat hwait
  rw [matched_eq hat hfree]
  refine ⟨h.length, h.tid_inj, h.request_inj, h.request_lt, h.keyPayload, ?_, ?_, ?_,
    h.not_rematched, h.freed_once, h.freed_lt, h.block, h.block_inj, h.freed_or_held, ?_⟩
  · intro j e' k' kind' hat' hout
    obtain ⟨hmem, htid⟩ := List.mem_filter.mp hout
    obtain ⟨hfree', hnew', hkind'⟩ := h.waits j e' k' kind' hat' hmem
    refine ⟨hfree', ?_, hkind'⟩
    rw [List.map_cons, List.mem_cons, not_or]
    refine ⟨fun hreq => ?_, hnew'⟩
    -- the same request would be the same entry
    have hij := h.request_inj j i e' e k' k hat' hat hreq
    subst hij
    simp [Option.some.inj (hat'.1.symm.trans hat.1)] at htid
  · exact List.nodup_cons.mpr ⟨hnew, h.acted_once⟩
  · intro a ha
    rcases List.mem_cons.mp ha with rfl | hold
    · exact hkind
    · exact h.acted_kind a hold
  · intro r hr
    rcases h.none_lost r hr with hacted | hlive
    · exact Or.inl (List.mem_cons_of_mem _ hacted)
    · exact Or.inr hlive

section Cleared

variable {t : TList} {i : ℕ} {e : Transaction} {k : Ticket} {server : Server} {frees : List ℕ}

theorem at_cleared (hat : t.At i e k)
    (hserver : ∀ j, server.tlist[j]? = if j = i then some e.clear else t.server.tlist[j]?)
    {j : ℕ} {e' : Transaction} {k' : Ticket}
    (h : TList.At { t with server := server, frees := frees } j e' k') :
    ∃ e0, t.At j e0 k' ∧ e0.tid = e'.tid ∧ (e'.isFree = false → e0 = e' ∧ j ≠ i) := by
  obtain ⟨he, hk⟩ := h
  by_cases hij : j = i
  · subst hij
    rw [hserver, if_pos rfl] at he
    obtain rfl := Option.some.inj he
    refine ⟨e, ⟨hat.1, hk⟩, rfl, fun hfree => ?_⟩
    rw [clear_isFree] at hfree
    cases hfree
  · rw [hserver, if_neg hij] at he
    exact ⟨e', ⟨he, hk⟩, rfl, fun _ => ⟨rfl, hij⟩⟩

theorem live_cleared
    (hserver : ∀ j, server.tlist[j]? = if j = i then some e.clear else t.server.tlist[j]?)
    {j : ℕ} {k' : Ticket} :
    TList.Live { t with server := server, frees := frees } j k' ↔ j ≠ i ∧ t.Live j k' := by
  unfold TList.Live
  simp only [hserver]
  by_cases hij : j = i
  · simp [hij, clear_isFree]
  · simp [hij]

theorem freed_or_held_cleared (h : t.Inv) (hat : t.At i e k)
    (hserver : ∀ j, server.tlist[j]? = if j = i then some e.clear else t.server.tlist[j]?) {b : ℕ}
    (hb : b < t.mallocs) : b ∈ k.payload.toList ++ t.frees ∨
      ∃ j k', TList.Live { t with server := server, frees := frees } j k' ∧
        k'.payload = some b := by
  rcases h.freed_or_held b hb with hold | ⟨j, k1, hlive1, hk1⟩
  · exact Or.inl (List.mem_append_right _ hold)
  · by_cases hij : j = i
    · subst hij
      obtain rfl := Option.some.inj (hlive1.2.symm.trans hat.2)
      exact Or.inl (List.mem_append_left _ (Option.mem_toList.mpr hk1))
    · exact Or.inr ⟨j, k1, (live_cleared hserver).mpr ⟨hij, hlive1⟩, hk1⟩

theorem none_lost_cleared (h : t.Inv) (hat : t.At i e k)
    (hacted : k.request ∈ t.acted.map Prod.fst)
    (hserver : ∀ j, server.tlist[j]? = if j = i then some e.clear else t.server.tlist[j]?) {r : ℕ}
    (hr : r < t.requests.length) : r ∈ t.acted.map Prod.fst ∨
      ∃ j k', TList.Live { t with server := server, frees := frees } j k' ∧ k'.request = r := by
  rcases h.none_lost r hr with hold | ⟨j, k1, hlive1, hk1⟩
  · exact Or.inl hold
  · by_cases hij : j = i
    · subst hij
      obtain rfl := Option.some.inj (hlive1.2.symm.trans hat.2)
      exact Or.inl (hk1 ▸ hacted)
    · exact Or.inr ⟨j, k1, (live_cleared hserver).mpr ⟨hij, hlive1⟩, hk1⟩

theorem TList.Inv.cleared (h : t.Inv) (hat : t.At i e k) (hfree : e.isFree = false)
    (hacted : k.request ∈ t.acted.map Prod.fst) (hout : ∀ kind, (e.tid, kind) ∉ t.outstanding)
    (hlen : server.tlist.length = t.server.tlist.length)
    (hserver : ∀ j, server.tlist[j]? = if j = i then some e.clear else t.server.tlist[j]?) :
    TList.Inv { t with server := server, frees := k.payload.toList ++ t.frees } where
  length := h.length.trans hlen.symm
  tid_inj := by
    intro j j' e1 e2 k1 k2 h1 h2 htid
    obtain ⟨e1', hat1, htid1, _⟩ := at_cleared hat hserver h1
    obtain ⟨e2', hat2, htid2, _⟩ := at_cleared hat hserver h2
    exact h.tid_inj j j' e1' e2' k1 k2 hat1 hat2 (by rw [htid1, htid2, htid])
  request_inj := by
    intro j j' e1 e2 k1 k2 h1 h2
    obtain ⟨e1', hat1, _⟩ := at_cleared hat hserver h1
    obtain ⟨e2', hat2, _⟩ := at_cleared hat hserver h2
    exact h.request_inj j j' e1' e2' k1 k2 hat1 hat2
  request_lt := by
    intro j e1 k1 h1
    obtain ⟨e1', hat1, _⟩ := at_cleared hat hserver h1
    exact h.request_lt j e1' k1 hat1
  keyPayload := by
    intro j e1 k1 h1
    obtain ⟨e1', hat1, _⟩ := at_cleared hat hserver h1
    exact h.keyPayload j e1' k1 hat1
  waits := by
    intro j e1 k1 kind h1 hmem
    obtain ⟨e1', hat1, htid1, _⟩ := at_cleared hat hserver h1
    rw [← htid1] at hmem
    have hij : j ≠ i := by
      rintro rfl
      rw [Option.some.inj (hat1.1.symm.trans hat.1)] at hmem
      exact hout kind hmem
    have he : e1' = e1 := by
      have hget := h1.1
      rw [show TList.server _ = server from rfl, hserver, if_neg hij] at hget
      exact Option.some.inj (hat1.1.symm.trans hget)
    rw [← he]
    exact h.waits j e1' k1 kind hat1 hmem
  acted_once := h.acted_once
  acted_kind := h.acted_kind
  not_rematched := h.not_rematched
  freed_once := by
    cases hk : k.payload with
    | none => exact h.freed_once
    | some b => exact List.nodup_cons.mpr ⟨(h.block i k b (hat.live hfree) hk).2, h.freed_once⟩
  freed_lt := by
    intro b hb
    rcases List.mem_append.mp hb with hnew | hold
    · exact (h.block i k b (hat.live hfree) (Option.mem_toList.mp hnew)).1
    · exact h.freed_lt b hold
  block := by
    intro j k1 b h1 hb
    obtain ⟨hij, hlive1⟩ := (live_cleared hserver).mp h1
    obtain ⟨hlt, hnot⟩ := h.block j k1 b hlive1 hb
    refine ⟨hlt, fun hmem => ?_⟩
    rcases List.mem_append.mp hmem with hnew | hold
    · exact hij (h.block_inj j i k1 k b hlive1 (hat.live hfree) hb (Option.mem_toList.mp hnew))
    · exact hnot hold
  block_inj := by
    intro j j' k1 k2 b h1 h2
    exact h.block_inj j j' k1 k2 b ((live_cleared hserver).mp h1).2 ((live_cleared hserver).mp h2).2
  freed_or_held _ hb := freed_or_held_cleared h hat hserver hb
  none_lost _ hr := none_lost_cleared h hat hacted hserver hr

end Cleared

/-! ### A request -/

theorem firstFree_le (ts : List Transaction) : firstFree ts ≤ ts.length :=
  List.findIdx_le_length

theorem isFree_firstFree {ts : List Transaction} {e : Transaction}
    (h : ts[firstFree ts]? = some e) : e.isFree = true := by
  obtain ⟨hlt, rfl⟩ := List.getElem?_eq_some_iff.mp h
  exact List.findIdx_getElem (w := hlt)

theorem getElem?_place {α : Type} {i : ℕ} {xs : List α} (h : i ≤ xs.length) (x : α) (j : ℕ) :
    (place i x xs)[j]? = if j = i then some x else xs[j]? := by
  unfold place
  split
  · rename_i hlt
    rw [List.getElem?_set]
    by_cases hij : i = j
    · simp [hij, hij ▸ hlt]
    · simp [hij, Ne.symm hij]
  · obtain rfl : i = xs.length := by omega
    rw [List.getElem?_append]
    by_cases hlt : j < xs.length
    · simp [hlt, Nat.ne_of_lt hlt]
    · by_cases hij : j = xs.length
      · simp [hij]
      · rw [if_neg hlt, if_neg hij, List.getElem?_eq_none (by simp; omega),
          List.getElem?_eq_none (by omega)]

theorem length_place {α : Type} (i : ℕ) (x : α) (xs : List α) :
    (place i x xs).length = if i < xs.length then xs.length else xs.length + 1 := by
  unfold place
  split <;> simp

theorem tlistAdd_eq_place (e : Transaction) (ts : List Transaction) :
    tlistAdd e ts = place (firstFree ts) e ts := by
  induction ts with
  | nil => rfl
  | cons t ts ih =>
    unfold tlistAdd firstFree place
    rw [List.findIdx_cons]
    cases hfree : t.isFree with
    | true => simp
    | false =>
      rw [if_neg Bool.false_ne_true, ih]
      unfold firstFree place
      by_cases hlt : ts.findIdx (·.isFree) < ts.length
      · simp [hlt]
      · simp [hlt]

/-- The ticket of the next request. -/
def TList.nextTicket (t : TList) (payload : Octets) : Ticket :=
  ⟨if payload = [] then none else some t.mallocs, t.requests.length⟩

section Added

variable {t : TList} {e : Transaction} {server : Server} {kind : ReqKind} {payload : Octets}

theorem at_added (h : t.Inv) (hserver : server.tlist = tlistAdd e t.server.tlist) {j : ℕ}
    {e' : Transaction} {k' : Ticket} (hat : (t.added kind payload server).At j e' k') :
    (j = firstFree t.server.tlist ∧ e' = e ∧ k' = t.nextTicket payload) ∨
      (j ≠ firstFree t.server.tlist ∧ t.At j e' k') := by
  obtain ⟨he, hk⟩ := hat
  have hle := firstFree_le t.server.tlist
  simp only [TList.added, hserver, tlistAdd_eq_place] at he hk
  rw [getElem?_place hle] at he
  rw [getElem?_place (h.length ▸ hle)] at hk
  by_cases hj : j = firstFree t.server.tlist
  · rw [if_pos hj] at he hk
    exact Or.inl ⟨hj, (Option.some.inj he).symm, (Option.some.inj hk).symm⟩
  · rw [if_neg hj] at he hk
    exact Or.inr ⟨hj, he, hk⟩

theorem live_added_new (h : t.Inv) (hserver : server.tlist = tlistAdd e t.server.tlist)
    (hfree : e.isFree = false) :
    (t.added kind payload server).Live (firstFree t.server.tlist) (t.nextTicket payload) := by
  have hle := firstFree_le t.server.tlist
  refine ⟨⟨e, ?_, hfree⟩, ?_⟩
  · simp only [TList.added, hserver, tlistAdd_eq_place]
    rw [getElem?_place hle, if_pos rfl]
  · simp only [TList.added]
    rw [getElem?_place (h.length ▸ hle), if_pos rfl]
    rfl

theorem live_added_old (h : t.Inv) (hserver : server.tlist = tlistAdd e t.server.tlist) {j : ℕ}
    {k' : Ticket} (hlive : t.Live j k') : (t.added kind payload server).Live j k' := by
  obtain ⟨⟨e', he', hfree'⟩, hk'⟩ := hlive
  have hle := firstFree_le t.server.tlist
  have hj : j ≠ firstFree t.server.tlist := by
    rintro rfl
    rw [isFree_firstFree he'] at hfree'
    cases hfree'
  refine ⟨⟨e', ?_, hfree'⟩, ?_⟩
  · simp only [TList.added, hserver, tlistAdd_eq_place]
    rw [getElem?_place hle, if_neg hj, he']
  · simp only [TList.added]
    rw [getElem?_place (h.length ▸ hle), if_neg hj, hk']

theorem live_added (h : t.Inv) (hserver : server.tlist = tlistAdd e t.server.tlist) {j : ℕ}
    {k' : Ticket} (hlive : (t.added kind payload server).Live j k') :
    (j = firstFree t.server.tlist ∧ k' = t.nextTicket payload) ∨ t.Live j k' := by
  obtain ⟨⟨e', he', hfree'⟩, hk'⟩ := hlive
  rcases at_added h hserver ⟨he', hk'⟩ with ⟨hj, _, hk⟩ | ⟨_, hat⟩
  · exact Or.inl ⟨hj, hk⟩
  · exact Or.inr (hat.live hfree')

theorem getElem?_requests_added {r : ℕ} (h : r < t.requests.length) :
    (t.added kind payload server).requests[r]? = t.requests[r]? :=
  List.getElem?_append_left h

theorem TList.Inv.acted_lt (h : t.Inv) : ∀ r ∈ t.acted.map Prod.fst, r < t.requests.length := by
  intro r hr
  obtain ⟨a, ha, rfl⟩ := List.mem_map.mp hr
  exact (List.getElem?_eq_some_iff.mp (h.acted_kind a ha)).1

theorem mallocs_le_added : t.mallocs ≤ (t.added kind payload server).mallocs := by
  unfold TList.added
  dsimp only
  split <;> omega

theorem block_nextTicket {b : ℕ} (hb : (t.nextTicket payload).payload = some b) :
    b = t.mallocs ∧ (t.added kind payload server).mallocs = t.mallocs + 1 := by
  unfold TList.nextTicket at hb
  unfold TList.added
  split at hb
  · cases hb
  · rename_i hne
    exact ⟨(Option.some.inj hb).symm, if_neg hne⟩

theorem tid_ne_next (hfresh : t.FreshTid) {j : ℕ} {e' : Transaction} {k' : Ticket}
    (hj : j ≠ firstFree t.server.tlist) (hat : t.At j e' k') : e'.tid ≠ t.server.next_req_tid :=
  hfresh _ (List.mem_eraseIdx_iff_getElem?.mpr ⟨_, hj, hat.1⟩)

theorem tid_inj_added (h : t.Inv) (hserver : server.tlist = tlistAdd e t.server.tlist)
    (htid : e.tid = t.server.next_req_tid) (hfresh : t.FreshTid) {i j : ℕ}
    {e1 e2 : Transaction} {k1 k2 : Ticket} (h1 : (t.added kind payload server).At i e1 k1)
    (h2 : (t.added kind payload server).At j e2 k2) (heq : e1.tid = e2.tid) : i = j := by
  rcases at_added h hserver h1 with ⟨hi, rfl, _⟩ | ⟨hi, hat1⟩ <;>
    rcases at_added h hserver h2 with ⟨hj, rfl, _⟩ | ⟨hj, hat2⟩
  · rw [hi, hj]
  · exact absurd (heq.symm.trans htid) (tid_ne_next hfresh hj hat2)
  · exact absurd (heq.trans htid) (tid_ne_next hfresh hi hat1)
  · exact h.tid_inj i j e1 e2 k1 k2 hat1 hat2 heq

theorem request_inj_added (h : t.Inv) (hserver : server.tlist = tlistAdd e t.server.tlist)
    {i j : ℕ} {e1 e2 : Transaction} {k1 k2 : Ticket}
    (h1 : (t.added kind payload server).At i e1 k1)
    (h2 : (t.added kind payload server).At j e2 k2) (heq : k1.request = k2.request) : i = j := by
  rcases at_added h hserver h1 with ⟨hi, _, rfl⟩ | ⟨hi, hat1⟩ <;>
    rcases at_added h hserver h2 with ⟨hj, _, rfl⟩ | ⟨hj, hat2⟩
  · rw [hi, hj]
  · exact absurd heq (Nat.ne_of_gt (h.request_lt j e2 k2 hat2))
  · exact absurd heq (Nat.ne_of_lt (h.request_lt i e1 k1 hat1))
  · exact h.request_inj i j e1 e2 k1 k2 hat1 hat2 heq

/-- The new request is the one that waits under its transaction ID. -/
theorem waits_added (h : t.Inv) (hserver : server.tlist = tlistAdd e t.server.tlist)
    (hfree : e.isFree = false) (htid : e.tid = t.server.next_req_tid) (hfresh : t.FreshTid)
    {i : ℕ} {e1 : Transaction} {k1 : Ticket} {kind1 : ReqKind}
    (h1 : (t.added kind payload server).At i e1 k1)
    (hmem : (e1.tid, kind1) ∈ (t.added kind payload server).outstanding) :
    e1.isFree = false ∧ k1.request ∉ t.acted.map Prod.fst ∧
      (t.added kind payload server).requests[k1.request]? = some kind1 := by
  rcases at_added h hserver h1 with ⟨_, rfl, rfl⟩ | ⟨hi, hat1⟩
  · refine ⟨hfree, fun hr => Nat.lt_irrefl _ (h.acted_lt _ hr), ?_⟩
    rcases List.mem_cons.mp hmem with heq | hold
    · rw [(Prod.mk.inj heq).2]
      exact List.getElem?_concat_length
    · simp [htid] at hold
  · rcases List.mem_cons.mp hmem with heq | hold
    · exact absurd (Prod.mk.inj heq).1 (tid_ne_next hfresh hi hat1)
    · rw [getElem?_requests_added (h.request_lt i e1 k1 hat1)]
      exact h.waits i e1 k1 kind1 hat1 (List.mem_filter.mp hold).1

theorem block_inj_added (h : t.Inv) (hserver : server.tlist = tlistAdd e t.server.tlist)
    {i j : ℕ} {k1 k2 : Ticket} {b : ℕ} (h1 : (t.added kind payload server).Live i k1)
    (h2 : (t.added kind payload server).Live j k2) (hb1 : k1.payload = some b)
    (hb2 : k2.payload = some b) : i = j := by
  have hold : ∀ {i : ℕ} {k : Ticket}, t.Live i k → k.payload = some b →
      (t.nextTicket payload).payload ≠ some b := by
    intro i k hlive hb hnew
    have hlt := (h.block i k b hlive hb).1
    rw [(@block_nextTicket t server kind payload b hnew).1] at hlt
    exact Nat.lt_irrefl _ hlt
  rcases live_added h hserver h1 with ⟨hi, rfl⟩ | hlive1 <;>
    rcases live_added h hserver h2 with ⟨hj, rfl⟩ | hlive2
  · rw [hi, hj]
  · exact absurd hb1 (hold hlive2 hb2)
  · exact absurd hb2 (hold hlive1 hb1)
  · exact h.block_inj i j k1 k2 b hlive1 hlive2 hb1 hb2

theorem freed_or_held_added (h : t.Inv) (hserver : server.tlist = tlistAdd e t.server.tlist)
    (hfree : e.isFree = false) {b : ℕ} (hb : b < (t.added kind payload server).mallocs) :
    b ∈ t.frees ∨ ∃ i k, (t.added kind payload server).Live i k ∧ k.payload = some b := by
  by_cases hlt : b < t.mallocs
  · rcases h.freed_or_held b hlt with hfreed | ⟨i, k1, hlive1, hk1⟩
    · exact Or.inl hfreed
    · exact Or.inr ⟨i, k1, live_added_old h hserver hlive1, hk1⟩
  · refine Or.inr ⟨_, _, live_added_new h hserver hfree, ?_⟩
    unfold TList.added at hb
    dsimp only at hb
    unfold TList.nextTicket
    dsimp only
    split at hb
    · omega
    · rw [if_neg ‹_›]
      congr 1
      omega

theorem none_lost_added (h : t.Inv) (hserver : server.tlist = tlistAdd e t.server.tlist)
    (hfree : e.isFree = false) {r : ℕ}
    (hr : r < (t.added kind payload server).requests.length) :
    r ∈ t.acted.map Prod.fst ∨ ∃ i k, (t.added kind payload server).Live i k ∧ k.request = r := by
  simp only [TList.added, List.length_append, List.length_singleton] at hr
  by_cases hlt : r < t.requests.length
  · rcases h.none_lost r hlt with hacted | ⟨i, k1, hlive1, hk1⟩
    · exact Or.inl hacted
    · exact Or.inr ⟨i, k1, live_added_old h hserver hlive1, hk1⟩
  · refine Or.inr ⟨_, _, live_added_new h hserver hfree, ?_⟩
    show t.requests.length = r
    omega

theorem TList.Inv.added (h : t.Inv) (hserver : server.tlist = tlistAdd e t.server.tlist)
    (hfree : e.isFree = false) (htid : e.tid = t.server.next_req_tid) (hfresh : t.FreshTid)
    (hkey : kind = .AppSKeyReq → payload = []) : (t.added kind payload server).Inv where
  length := by
    simp only [TList.added, hserver, tlistAdd_eq_place, length_place, h.length]
  tid_inj _ _ _ _ _ _ h1 h2 heq := tid_inj_added h hserver htid hfresh h1 h2 heq
  request_inj _ _ _ _ _ _ h1 h2 heq := request_inj_added h hserver h1 h2 heq
  request_lt := by
    intro i e1 k1 h1
    simp only [TList.added, List.length_append, List.length_singleton]
    rcases at_added h hserver h1 with ⟨_, _, rfl⟩ | ⟨_, hat1⟩
    · exact Nat.lt_succ_self _
    · exact Nat.lt_succ_of_lt (h.request_lt i e1 k1 hat1)
  keyPayload := by
    intro i e1 k1 h1 hk1
    rcases at_added h hserver h1 with ⟨_, _, rfl⟩ | ⟨_, hat1⟩
    · simp only [TList.added, TList.nextTicket, List.getElem?_concat_length] at hk1
      simp [TList.nextTicket, hkey (Option.some.inj hk1)]
    · rw [getElem?_requests_added (h.request_lt i e1 k1 hat1)] at hk1
      exact h.keyPayload i e1 k1 hat1 hk1
  waits _ _ _ _ h1 hmem := waits_added h hserver hfree htid hfresh h1 hmem
  acted_once := h.acted_once
  acted_kind := by
    intro a ha
    rw [getElem?_requests_added (h.acted_lt _ (List.mem_map_of_mem ha))]
    exact h.acted_kind a ha
  not_rematched := h.not_rematched
  freed_once := h.freed_once
  freed_lt b hb := Nat.lt_of_lt_of_le (h.freed_lt b hb) mallocs_le_added
  block := by
    intro i k1 b h1 hb
    rcases live_added h hserver h1 with ⟨_, rfl⟩ | hlive1
    · obtain ⟨rfl, hsucc⟩ := @block_nextTicket t server kind payload b hb
      exact ⟨by omega, fun hmem => Nat.lt_irrefl _ (h.freed_lt _ hmem)⟩
    · obtain ⟨hlt, hnot⟩ := h.block i k1 b hlive1 hb
      exact ⟨Nat.lt_of_lt_of_le hlt mallocs_le_added, hnot⟩
  block_inj _ _ _ _ _ h1 h2 hb1 hb2 := block_inj_added h hserver h1 h2 hb1 hb2
  freed_or_held _ hb := freed_or_held_added h hserver hfree hb
  none_lost _ hr := none_lost_added h hserver hfree hr

end Added

/-! ### One event -/

theorem isFree_of_parseDevAddr {devEui devAddr fport tid : ℕ} {conf : Bool} {payload : Octets}
    {serial : Option ℕ} (h : (parseDevAddr devAddr).isSome) :
    (Transaction.mk ⟨devEui, devAddr, fport, conf, payload⟩ tid serial).isFree = false := by
  have hne : devAddr ≠ NONE_DEVADDR := by
    rintro rfl
    exact absurd h (by decide)
  simp [Transaction.isFree, hne]

/-- `send_downlink` adds the entry of a posted request, and no other. -/
theorem send_downlink_tlist (sqlOk posted : Bool) (msg : Msg) (s : Server) :
    ((send_downlink A sqlOk posted msg s).1.tlist = s.tlist ∧
        (posted && (send_downlink A sqlOk posted msg s).2.isSome) = false) ∨
      ((posted && (send_downlink A sqlOk posted msg s).2.isSome) = true ∧
        ∃ e : Transaction, e.tid = s.next_req_tid ∧ e.isFree = false ∧
          (send_downlink A sqlOk posted msg s).1.tlist = tlistAdd e s.tlist) := by
  unfold send_downlink
  by_cases hsql : sqlOk = false
  · simp [hsql]
  · rw [if_neg hsql]
    cases henc : encryption s msg with
    | none => simp
    | some e =>
      cases hparse : parseDevAddr e.DevAddr with
      | none => simp [xmitDataReq, hparse]
      | some p =>
        cases posted with
        | false => simp [xmitDataReq, hparse]
        | true =>
          refine Or.inr ⟨by simp [xmitDataReq, hparse], ?_⟩
          simp only [xmitDataReq, hparse, Option.map_some, if_true]
          exact ⟨_, rfl, isFree_of_parseDevAddr (by rw [hparse]; rfl), rfl⟩

theorem TList.Inv.send {t : TList} (h : t.Inv) (hfresh : t.FreshTid) (sqlOk posted : Bool)
    (msg : Msg) : (t.send A sqlOk posted msg).Inv := by
  unfold TList.send
  rcases send_downlink_tlist A sqlOk posted msg t.server with ⟨htlist, hsent⟩ | ⟨hsent, he⟩
  · simp only [hsent, Bool.false_eq_true, if_false]
    exact h.tables htlist
  · obtain ⟨e, htid, hfree, htlist⟩ := he
    simp only [hsent, if_true]
    exact h.added htlist hfree htid hfresh nofun

theorem TList.Inv.requestKey {t : TList} (h : t.Inv) (hfresh : t.FreshTid) (env : Surroundings)
    (devEui devAddr : ℕ) : (t.requestKey env devEui devAddr).Inv := by
  unfold TList.requestKey requestAppSKey
  cases hparse : parseDevAddr devAddr with
  | none =>
    rw [Option.isSome_none, Bool.and_false, if_neg Bool.false_ne_true]
    exact h.tables rfl
  | some p =>
    dsimp only
    cases hposted : env.posted with
    | false => exact h.tables rfl
    | true =>
      simp only [Option.isSome_some, Bool.and_self, if_true]
      exact h.added rfl (isFree_of_parseDevAddr (by rw [hparse]; rfl)) rfl hfresh fun _ => rfl

/-- The entry at `i` waits no longer, but is not released yet. -/
structure TList.Answered (t : TList) (i : ℕ) (e : Transaction) (k : Ticket) : Prop where
  held : t.At i e k
  used : e.isFree = false
  acted : k.request ∈ t.acted.map Prod.fst
  settled : ∀ kind, (e.tid, kind) ∉ t.outstanding

theorem answered_matched {t : TList} {i : ℕ} {e : Transaction} {k : Ticket} (hat : t.At i e k)
    (hfree : e.isFree = false) (kind : ReqKind) : (t.matched kind i).Answered i e k := by
  rw [matched_eq hat hfree]
  refine ⟨hat, hfree, List.mem_cons_self, fun kind' hmem => ?_⟩
  simpa using (List.mem_filter.mp hmem).2

theorem TList.Answered.tables {t : TList} {i : ℕ} {e : Transaction} {k : Ticket}
    (h : t.Answered i e k) {server : Server} (heq : server.tlist = t.server.tlist) :
    TList.Answered { t with server := server } i e k :=
  ⟨⟨heq ▸ h.held.1, h.held.2⟩, h.used, h.acted, h.settled⟩

theorem TList.Answered.send {t : TList} (hinv : t.Inv) (hfresh : t.FreshTid) {i : ℕ}
    {e : Transaction} {k : Ticket} (h : t.Answered i e k) (sqlOk posted : Bool) (msg : Msg) :
    (t.send A sqlOk posted msg).Answered i e k := by
  unfold TList.send
  rcases send_downlink_tlist A sqlOk posted msg t.server with ⟨htlist, hsent⟩ | ⟨hsent, he⟩
  · simp only [hsent, Bool.false_eq_true, if_false]
    exact h.tables htlist
  · obtain ⟨e', -, -, htlist⟩ := he
    simp only [hsent, if_true]
    have hi : i ≠ firstFree t.server.tlist := by
      rintro rfl
      have hused := h.used
      rw [isFree_firstFree h.held.1] at hused
      cases hused
    have hle := firstFree_le t.server.tlist
    refine ⟨⟨?_, ?_⟩, h.used, h.acted, fun kind hmem => ?_⟩
    · simp only [TList.added, htlist, tlistAdd_eq_place]
      rw [getElem?_place hle, if_neg hi, h.held.1]
    · simp only [TList.added]
      rw [getElem?_place (hinv.length ▸ hle), if_neg hi, h.held.2]
    · rcases List.mem_cons.mp hmem with heq | hold
      · exact hfresh e (List.mem_eraseIdx_iff_getElem?.mpr ⟨i, hi, h.held.1⟩)
          (Prod.mk.inj heq).1
      · exact h.settled kind (List.mem_filter.mp hold).1

theorem TList.Inv.release {t : TList} (h : t.Inv) {i : ℕ} {e : Transaction} {k : Ticket}
    (hans : t.Answered i e k) : (t.release i e).Inv := by
  have hi := (List.getElem?_eq_some_iff.mp hans.held.1).1
  unfold TList.release
  rw [hans.held.2]
  refine h.cleared hans.held hans.used hans.acted hans.settled ?_ fun j => ?_
  · simp only [setEntry, List.length_set]
  · simp only [setEntry, List.getElem?_set]
    by_cases hij : i = j
    · simp [hij, hij ▸ hi]
    · simp [hij, Ne.symm hij]

theorem countDownlink_tlist (env : Surroundings) (e : Transaction) (s : Server) :
    (countDownlink env e s).tlist = s.tlist := by
  unfold countDownlink
  split <;> rfl

theorem TList.Inv.retry {t : TList} (h : t.Inv) (hfresh : t.FreshTid) {i : ℕ} {e : Transaction}
    {k : Ticket} (hans : t.Answered i e k) (env : Surroundings) (fcnt : ℕ) :
    (t.retry A env e fcnt).Inv ∧ (t.retry A env e fcnt).Answered i e k := by
  unfold TList.retry
  by_cases hfail : env.updateOk = false
  · rw [if_pos hfail]
    exact ⟨h, hans⟩
  · rw [if_neg hfail]
    have hset : (t.setCounter e fcnt).Inv := h.tables rfl
    have hans' : (t.setCounter e fcnt).Answered i e k := hans.tables rfl
    have htlist : (retryDownlink A env e fcnt t.server).tlist =
        ((t.setCounter e fcnt).send A env.sqlOk env.posted e.msg).server.tlist := by
      rw [send_server, retryDownlink, if_neg hfail]
      rfl
    exact ⟨(hset.send A hfresh env.sqlOk env.posted e.msg).tables htlist,
      (hans'.send A hset hfresh env.sqlOk env.posted e.msg).tables htlist⟩

theorem TList.Inv.dataAnswer {t : TList} (h : t.Inv) (env : Surroundings) {trans_id : ℕ}
    (rxResult : Result) (FCntDown : Option ℕ) (hfirst : t.FirstAnswer trans_id .XmitDataReq)
    (hfresh : rxResult ≠ .Success → FCntDown ≠ none → t.FreshTid) :
    (t.dataAnswer A env trans_id rxResult FCntDown).Inv := by
  unfold TList.dataAnswer
  cases hfind : t.server.tlist.findIdx? (·.tid = trans_id) with
  | none => exact h
  | some i =>
    dsimp only
    cases he : t.server.tlist[i]? with
    | none => exact h
    | some e =>
      dsimp only
      have htid : e.tid = trans_id := by
        obtain ⟨hlt, hp, _⟩ := List.findIdx?_eq_some_iff_getElem.mp hfind
        rw [List.getElem?_eq_getElem hlt] at he
        rw [← Option.some.inj he]
        exact of_decide_eq_true hp
      obtain ⟨k, hat⟩ := h.exists_at he
      have hwait := hfirst e (List.mem_of_getElem? he) htid
      rw [← htid] at hwait
      have hinv := h.matched hat hwait
      have hans := answered_matched hat (h.waits i e k _ hat hwait).1 .XmitDataReq
      by_cases hok : rxResult = .Success
      · rw [if_pos hok]
        have hcount := countDownlink_tlist env e (t.matched .XmitDataReq i).server
        split
        · exact (hinv.tables hcount).release (hans.tables hcount)
        · exact hinv.tables hcount
      · rw [if_neg hok]
        cases FCntDown with
        | some fcnt =>
          have hfresh' : (t.matched .XmitDataReq i).FreshTid := by
            unfold TList.FreshTid
            rw [matched_server]
            exact hfresh hok nofun
          obtain ⟨hinv', hans'⟩ := hinv.retry A hfresh' hans env (fcnt % 2 ^ 32)
          exact hinv'.release hans'
        | none =>
          dsimp only
          split
          · exact hinv.release hans
          · exact hinv

theorem mem_hits {trans_id i : ℕ} {ts : List Transaction} :
    i ∈ hits trans_id ts ↔ ∃ e, ts[i]? = some e ∧ e.tid = trans_id := by
  unfold hits
  simp only [List.mem_filter, List.mem_range, decide_eq_true_eq, Option.map_eq_some_iff]
  constructor
  · exact fun h => h.2
  · rintro ⟨e, he, htid⟩
    exact ⟨(List.getElem?_eq_some_iff.mp he).1, e, he, htid⟩

theorem TList.Inv.hits_eq {t : TList} (h : t.Inv) {i : ℕ} {e : Transaction}
    (he : t.server.tlist[i]? = some e) : hits e.tid t.server.tlist = [i] := by
  have hnodup : (hits e.tid t.server.tlist).Nodup := List.nodup_range.filter _
  apply List.perm_singleton.mp
  rw [List.perm_ext_iff_of_nodup hnodup (List.nodup_singleton i)]
  intro j
  rw [mem_hits, List.mem_singleton]
  constructor
  · rintro ⟨e', he', htid⟩
    obtain ⟨k, hat⟩ := h.exists_at he
    obtain ⟨k', hat'⟩ := h.exists_at he'
    exact h.tid_inj j i e' e k' k hat' hat htid
  · rintro rfl
    exact ⟨e, he, rfl⟩

theorem saveAppSKey_tlist (env : Surroundings) (clrAFCntDown : Bool) (key : Octets)
    (DevAddr : Option ℕ) (DevEui64 : ℕ) (s : Server) :
    (saveAppSKey env clrAFCntDown key DevAddr DevEui64 s).tlist = s.tlist := by
  unfold saveAppSKey updateSKey
  split
  · split <;> rfl
  · split <;> rfl

theorem appSKeyAns_tlist (env : Surroundings) (trans_id : ℕ) (rxResult : Result)
    (AppSKey : Option KeyEnvelopeJson) (DevAddr : Option ℕ) (s : Server) :
    (appSKeyAns W cfg env trans_id rxResult AppSKey DevAddr s).tlist =
      s.tlist.map fun (e : Transaction) => if e.tid = trans_id then e.clear else e := by
  have hfold : ∀ (key : Octets) (es : List Transaction) (s : Server),
      (es.foldl (fun s (e : Transaction) =>
        saveAppSKey env false key DevAddr e.msg.devEui s) s).tlist = s.tlist := by
    intro key es
    induction es with
    | nil => exact fun _ => rfl
    | cons e es ih => exact fun s => (ih _).trans (saveAppSKey_tlist env false key DevAddr _ s)
  unfold appSKeyAns
  cases (if rxResult = .Success then openAppSKey W cfg AppSKey else none) with
  | none => rfl
  | some key => exact congrArg _ (hfold key _ s)

theorem xmitDataReqUplink_tlist (env : Surroundings) (req : UplinkReq) (s : Server) :
    (xmitDataReqUplink W cfg env req s).tlist = s.tlist := by
  unfold xmitDataReqUplink
  split
  · rfl
  · dsimp only
    split
    · rfl
    · exact saveAppSKey_tlist env true _ _ _ _

theorem applyUpdate_tlist (s : Server) : (applyUpdate s).tlist = s.tlist := by
  unfold applyUpdate
  split <;> rfl

theorem TList.Inv.keyAnswer {t : TList} (h : t.Inv) (env : Surroundings) {trans_id : ℕ}
    (rxResult : Result) (AppSKey : Option KeyEnvelopeJson) (DevAddr : Option ℕ)
    (hfirst : t.FirstAnswer trans_id .AppSKeyReq) :
    (t.keyAnswer W cfg env trans_id rxResult AppSKey DevAddr).Inv := by
  have htlist := appSKeyAns_tlist W cfg env trans_id rxResult AppSKey DevAddr t.server
  unfold TList.keyAnswer
  by_cases hnone : ∀ e ∈ t.server.tlist, e.tid ≠ trans_id
  · have hhits : hits trans_id t.server.tlist = [] := by
      refine List.eq_nil_iff_forall_not_mem.mpr fun i hi => ?_
      obtain ⟨e, he, htid⟩ := mem_hits.mp hi
      exact hnone e (List.mem_of_getElem? he) htid
    rw [hhits]
    refine h.tables (htlist.trans ?_)
    conv_rhs => rw [← List.map_id t.server.tlist]
    exact List.map_congr_left fun e he => if_neg (hnone e he)
  · obtain ⟨e, hmem, rfl⟩ : ∃ e ∈ t.server.tlist, e.tid = trans_id := by
      simpa using hnone
    obtain ⟨i, he⟩ := List.mem_iff_getElem?.mp hmem
    obtain ⟨k, hat⟩ := h.exists_at he
    have hwait := hfirst e hmem rfl
    obtain ⟨hfree, -, hkind⟩ := h.waits i e k _ hat hwait
    have hans := answered_matched hat hfree .AppSKeyReq
    -- an AppSKeyReq has no payload, so nothing had to be freed
    have hpayload : k.payload = none := h.keyPayload i e k hat hkind
    have hlen : (appSKeyAns W cfg env e.tid rxResult AppSKey DevAddr t.server).tlist.length =
        (t.matched .AppSKeyReq i).server.tlist.length := by
      rw [htlist, List.length_map, matched_server]
    have hget : ∀ j, (appSKeyAns W cfg env e.tid rxResult AppSKey DevAddr t.server).tlist[j]? =
        if j = i then some e.clear else (t.matched .AppSKeyReq i).server.tlist[j]? := by
      intro j
      rw [htlist, List.getElem?_map, matched_server]
      by_cases hij : j = i
      · simp [hij, he]
      · rw [if_neg hij]
        cases he' : t.server.tlist[j]? with
        | none => rfl
        | some e' =>
          obtain ⟨k', hat'⟩ := h.exists_at he'
          have hne : e'.tid ≠ e.tid := fun heq => hij (h.tid_inj j i e' e k' k hat' hat heq)
          simp [hne]
    have hcleared := (h.matched hat hwait).cleared hans.held hans.used hans.acted hans.settled
      hlen hget
    rw [hpayload] at hcleared
    rw [h.hits_eq he, List.foldl_cons, List.foldl_nil]
    exact hcleared

/-! ### Runs -/

theorem TList.Inv.step {t : TList} (h : t.Inv) {e : Event} (horderly : t.Orderly e) :
    (t.step A W cfg e).Inv := by
  cases e with
  | downlink env msg => exact h.send A horderly env.sqlOk env.posted msg
  | answer env trans_id rxResult FCntDown =>
    exact h.dataAnswer A env rxResult FCntDown horderly.1 horderly.2
  | uplink env req => exact h.tables (xmitDataReqUplink_tlist W cfg env req t.server)
  | keyRequest env devEui devAddr => exact h.requestKey horderly env devEui devAddr
  | keyAnswer env trans_id rxResult AppSKey DevAddr =>
    exact h.keyAnswer W cfg env rxResult AppSKey DevAddr horderly
  | writer => exact h.tables (applyUpdate_tlist t.server)

/-- As long as the answers come once and from the request they answer, each entry is answered
once, each payload is freed once and no request is lost. -/
theorem sound_of_orderly (rows : List ActiveMote) (tid : ℕ) {es : List Event}
    (h : Machine.Along (TList.step A W cfg) TList.Orderly (TList.init rows tid) es) :
    (Machine.run (TList.step A W cfg) (TList.init rows tid) es).Sound := by
  have hstep : ∀ t e, TList.Inv t → t.Orderly e → (t.step A W cfg e).Inv :=
    fun _ _ hinv hc => hinv.step A W cfg hc
  exact (Machine.run_invariant _ hstep (inv_tlist_init rows tid) h).sound

/-- A downlink that is tried again with the counter the network server names, a key request
between them, and the answers in another order than the requests. -/
def orderlyRun : List Event :=
  [sendOctet 1, .keyRequest quiet 0x1122334455667788 1, .answer quiet 1 .Other (some 5),
    .keyAnswer quiet 2 .Success none none, .answer quiet 3 .Success none, sendOctet 2]

theorem sound_orderlyRun :
    (Machine.run (TList.step BlockCipher.xorKey noWrap ⟨⟨none, []⟩, 0⟩) (TList.init [soleMote] 1)
      orderlyRun).Sound :=
  sound_of_orderly _ _ _ [soleMote] 1 (by decide +kernel)

/-- The first answer a second time: its entry was released, and its payload is freed again. -/
def repeatedAnswer : List Event :=
  [sendOctet 1, .answer quiet 1 .Other (some 5), .answer quiet 1 .Other (some 5)]

/-- An AppSKeyAns for a downlink: its entry is released, and its payload is lost. -/
def answerOfOtherKind : List Event := [sendOctet 1, .keyAnswer quiet 1 .Success none none]

theorem payload_freed_twice_or_never :
    ¬(Machine.run (TList.step BlockCipher.xorKey noWrap ⟨⟨none, []⟩, 0⟩) (TList.init [soleMote] 1)
        repeatedAnswer).frees.Nodup ∧
      ¬(Machine.run (TList.step BlockCipher.xorKey noWrap ⟨⟨none, []⟩, 0⟩)
        (TList.init [soleMote] 1) repeatedAnswer).Sound ∧
      ¬(Machine.run (TList.step BlockCipher.xorKey noWrap ⟨⟨none, []⟩, 0⟩)
        (TList.init [soleMote] 1) answerOfOtherKind).Sound := by
  have htwice : ¬(Machine.run (TList.step BlockCipher.xorKey noWrap ⟨⟨none, []⟩, 0⟩)
      (TList.init [soleMote] 1) repeatedAnswer).frees.Nodup := by
    decide +kernel
  have hkind : ¬∀ a ∈ (Machine.run (TList.step BlockCipher.xorKey noWrap ⟨⟨none, []⟩, 0⟩)
      (TList.init [soleMote] 1) answerOfOtherKind).acted,
      (Machine.run (TList.step BlockCipher.xorKey noWrap ⟨⟨none, []⟩, 0⟩)
        (TList.init [soleMote] 1) answerOfOtherKind).requests[a.1]? = some a.2 := by
    decide +kernel
  exact ⟨htwice, fun h => htwice h.freed_once, fun h => hkind h.acted_kind⟩

end Lorawan.AppServer

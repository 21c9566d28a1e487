import Mathlib.Data.Rat.Floor
import Lorawan.Lib.Records
import Lorawan.Lib.Text
import Lorawan.NetworkServer.UplinkMetaData
import Lorawan.NetworkServer.Requesters

/-!
# The best reception of an uplink (fNS.c:440-558, common.c:384-431, 2404-2490)

One uplink is received by gateways of this server and, through requests, by those of
others. What the best reception brought is kept in the mote. A local reception leaves
`bestR` as it is, and writes its token into whatever buffer is there; a remote one
without token leaves the token of another.
-/

namespace Lorawan.NetworkServer
open Lorawan Lorawan.Backend

variable {S : Type}

/-! ### Receptions -/

/-- A `float` that is converted to `int`. -/
def toInt (x : ℚ) : ℤ := if 0 ≤ x then ⌊x⌋ else ⌈x⌉

/-- `sizeof(ult.octets)` -/
def sizeof_octets : ℕ := 21

/-- By a gateway of this server. -/
structure LocalRx where
  /-- `snr * SNR_WEIGHT + rssi` -/
  quality : ℚ
  inRange : (INT_MIN + 1 : ℤ) ≤ quality
  snr : Int8
  payload : Octets
  payload_size : payload.length < 256
  ult : Octets
  ult_size : ult.length = sizeof_octets

/-- By the gateways that a request tells of. -/
structure RemoteRx (S : Type) where
  gwList : List (GWInfo_t S)
  gwList_ne : gwList ≠ []
  payload : Octets
  payload_size : payload.length < 256

/-- What the scan of a request's gateways finds. -/
def RemoteRx.best (r : RemoteRx S) : BestGateway := r.gwList.foldl BestGateway.compare .init

inductive Reception (S : Type)
  | loc (l : LocalRx)
  | remote (r : RemoteRx S)

/-- A piece of allocated memory that holds a text. -/
structure TextBuf where
  size : ℕ
  text : List Char

/-- `strcpy`: what does not fit with its end is written behind the memory. -/
def TextBuf.strcpy (buf : TextBuf) (str : List Char) : Except Fault TextBuf :=
  if str.length < buf.size then .ok { buf with text := str } else .error .undefined

/-- `malloc` and `strcpy` -/
def TextBuf.ofText (str : List Char) : TextBuf := ⟨str.length + 1, str⟩

/-- `mote_t`, as far as the best reception is concerned. -/
structure RxMote (S : Type) where
  best_sq : ℤ
  rx_snr : Int8
  ULPayloadBin : Octets
  ULPHYPayloadLen : ℕ
  bestULTokenStr : Option TextBuf
  /-- The index of the slot that `bestR` points to. -/
  bestR : Option ℕ
  requesterList : List (RemoteRx S)

/-- What another uplink left stays, but for these. -/
def RxMote.save_uplink_start (m : RxMote S) : RxMote S :=
  { m with
    requesterList := []
    bestR := none
    best_sq := INT_MIN
    ULPHYPayloadLen := 0 }

/-- `memcpy` to the start of a buffer. -/
def memcpy (buf bs : Octets) : Octets := bs ++ buf.drop bs.length

/-- `sq` of a local reception. -/
def LocalRx.sq (l : LocalRx) : ℤ := toInt l.quality

def LocalRx.ultstr (l : LocalRx) : List Char := Text.printOctets l.ult

def RxMote.fNS_uplink_direct (l : LocalRx) (m : RxMote S) : Except Fault (RxMote S) :=
  if m.best_sq < l.sq then do
    let buf := m.bestULTokenStr.getD ⟨l.ultstr.length + 1, []⟩
    let buf ← buf.strcpy l.ultstr
    pure { m with
      best_sq := l.sq
      rx_snr := l.snr
      bestULTokenStr := some buf
      ULPayloadBin := memcpy m.ULPayloadBin l.payload
      ULPHYPayloadLen := l.payload.length }
  else .ok m

/-- A request with PHYPayload that is taken, from the scan on. -/
def RxMote.uplinkJson (r : RemoteRx S) (m : RxMote S) : Except Fault (RxMote S) := do
  let R := m.requesterList.length
  let m := { m with requesterList := m.requesterList ++ [r] }
  let best ← bestGateway (r.gwList.map some) .init
  if m.best_sq < best.best_sq then
    pure { m with
      ULPayloadBin := memcpy m.ULPayloadBin r.payload
      ULPHYPayloadLen := r.payload.length
      best_sq := best.best_sq
      rx_snr := best.rx_snr
      bestR := some R
      bestULTokenStr := (best.ulToken.map TextBuf.ofText).or m.bestULTokenStr }
  else pure m

def RxMote.receive (m : RxMote S) : Reception S → Except Fault (RxMote S)
  | .loc l => m.fNS_uplink_direct l
  | .remote r => m.uplinkJson r

/-- The receptions of an uplink, in the order in which they are processed. -/
def RxMote.receiveAll (m : RxMote S) (rs : List (Reception S)) : Except Fault (RxMote S) :=
  rs.foldlM RxMote.receive m.save_uplink_start

/-! ### What a reception brings -/

namespace Reception

/-- The quality that is compared. -/
def sq : Reception S → ℤ
  | .loc l => l.sq
  | .remote r => r.best.best_sq

/-- The quality of the signal. -/
def quality : Reception S → ℚ
  | .loc l => l.quality
  | .remote r => r.best.best_sq

def snr : Reception S → Int8
  | .loc l => l.snr
  | .remote r => r.best.rx_snr

def payload : Reception S → Octets
  | .loc l => l.payload
  | .remote r => r.payload

def token : Reception S → Option (List Char)
  | .loc l => some l.ultstr
  | .remote r => r.best.ulToken

def requester : Reception S → Option (RemoteRx S)
  | .loc _ => none
  | .remote r => some r

end Reception

theorem toInt_mono {x y : ℚ} (h : x ≤ y) : toInt x ≤ toInt y := by
  unfold toInt
  split
  · rename_i hx
    rw [if_pos (hx.trans h)]
    exact Int.floor_mono h
  · rename_i hx
    split
    · rename_i hy
      have hceil : ⌈x⌉ ≤ 0 := Int.ceil_le.mpr (by exact_mod_cast (not_le.mp hx).le)
      exact hceil.trans (Int.floor_nonneg.mpr hy)
    · exact Int.ceil_mono h

theorem toInt_intCast (n : ℤ) : toInt n = n := by
  unfold toInt
  split
  · exact Int.floor_intCast n
  · exact Int.ceil_intCast n

theorem bestGateway_map_some (gis : List (GWInfo_t S)) (best : BestGateway) :
    bestGateway (gis.map some) best = .ok (gis.foldl BestGateway.compare best) := by
  induction gis generalizing best with
  | nil => rfl
  | cons gi gis ih =>
    rw [List.map_cons, bestGateway, deref_some, ok_bind, ih]
    rfl

theorem INT_MIN_lt_GWInfo_t_sq (gi : GWInfo_t S) : INT_MIN < GWInfo_t_sq gi := by
  have h1 := gi.SNR.le_toInt
  have h2 := gi.RSSI.le_toInt
  simp only [GWInfo_t_sq, SNR_WEIGHT, INT_MIN]
  omega

def BestGateway.ofGateway (gi : GWInfo_t S) : BestGateway := ⟨GWInfo_t_sq gi, gi.SNR, gi.ULToken⟩

theorem foldl_compare (gis : List (GWInfo_t S)) :
    gis.foldl BestGateway.compare .init =
      (records GWInfo_t_sq gis).getLast?.elim .init BestGateway.ofGateway := by
  induction gis using List.reverseRecOn with
  | nil => rfl
  | append_singleton gis gi ih =>
    rw [List.foldl_append, ih, List.foldl_cons, List.foldl_nil, records_concat, addRecord]
    cases hw : (records GWInfo_t_sq gis).getLast? with
    | none =>
      rw [List.getLast?_eq_none_iff.mp hw, if_pos (by simp)]
      simp only [Option.elim_none, List.nil_append, List.getLast?_singleton, Option.elim_some]
      rw [BestGateway.compare, if_pos (by exact INT_MIN_lt_GWInfo_t_sq gi)]
      rfl
    | some w =>
      simp only [forall_records_lt_iff GWInfo_t_sq hw, Option.elim_some, BestGateway.compare]
      by_cases hlt : GWInfo_t_sq w < GWInfo_t_sq gi
      · simp [BestGateway.ofGateway, hlt]
      · simp [BestGateway.ofGateway, hlt, hw]

theorem RemoteRx.best_eq (r : RemoteRx S) :
    ∃ gi ∈ r.gwList, r.best = BestGateway.ofGateway gi ∧
      ∀ gi' ∈ r.gwList, GWInfo_t_sq gi' ≤ GWInfo_t_sq gi := by
  have hne := records_ne_nil GWInfo_t_sq r.gwList_ne
  have hw := List.getLast?_eq_some_getLast hne
  refine ⟨_, (records_sublist GWInfo_t_sq r.gwList).subset (List.getLast_mem hne), ?_, ?_⟩
  · rw [RemoteRx.best, foldl_compare, hw]
    rfl
  · intro gi' hgi'
    exact le_of_last_record GWInfo_t_sq hw hgi'

theorem INT_MIN_lt_best (r : RemoteRx S) : INT_MIN < r.best.best_sq := by
  obtain ⟨gi, -, hbest, -⟩ := r.best_eq
  rw [hbest]
  exact INT_MIN_lt_GWInfo_t_sq gi

namespace Reception

theorem sq_eq_toInt (r : Reception S) : r.sq = toInt r.quality := by
  cases r with
  | loc l => rfl
  | remote r => exact (toInt_intCast _).symm

theorem INT_MIN_lt_sq (r : Reception S) : INT_MIN < r.sq := by
  cases r with
  | loc l =>
    have h := toInt_mono l.inRange
    rw [toInt_intCast] at h
    exact lt_of_lt_of_le (by omega) h
  | remote r => exact INT_MIN_lt_best r

theorem sq_le_of_quality_le {r r' : Reception S} (h : r.quality ≤ r'.quality) : r.sq ≤ r'.sq := by
  rw [sq_eq_toInt, sq_eq_toInt]
  exact toInt_mono h

end Reception

/-! ### The mote after some receptions -/

/-- The receptions that were better than all before. -/
def leaders (rs : List (Reception S)) : List (Reception S) := records Reception.sq rs

def remoteToken (r : Reception S) : Option (List Char) :=
  r.requester.bind fun r => r.best.ulToken

/-- The size of the memory for the token, when a request or an earlier uplink allocated it. -/
def room (left : Option TextBuf) (ls : List (Reception S)) : Option ℕ :=
  ((ls.filterMap remoteToken).getLast?.map fun str => str.length + 1).or (left.map TextBuf.size)

/-- The length of a local token. -/
def ultstrLen : ℕ := 2 * sizeof_octets

/-- Every local token finds enough memory. -/
def TokensFit (left : Option TextBuf) (ls : List (Reception S)) : Prop :=
  ∀ pre l, (pre ++ [.loc l]) <+: ls → ∀ n ∈ room left pre, ultstrLen < n

/-- The mote `s` after the leaders `ls`, when `m` was there before. -/
structure Tracks (m : RxMote S) (ls : List (Reception S)) (s : RxMote S) : Prop where
  best_sq : s.best_sq = ls.getLast?.elim INT_MIN Reception.sq
  last : ∀ w ∈ ls.getLast?, s.rx_snr = w.snr ∧ s.ULPHYPayloadLen = w.payload.length ∧
    s.ULPayloadBin.take s.ULPHYPayloadLen = w.payload
  text : s.bestULTokenStr.map TextBuf.text =
    (ls.filterMap Reception.token).getLast?.or (m.bestULTokenStr.map TextBuf.text)
  size : (s.bestULTokenStr.map TextBuf.size).getD (ultstrLen + 1) =
    (room m.bestULTokenStr ls).getD (ultstrLen + 1)
  bestR : s.bestR.bind (s.requesterList[·]?) = (ls.filterMap Reception.requester).getLast?
  live : ∀ i ∈ s.bestR, i < s.requesterList.length

theorem tracks_start (m : RxMote S) : Tracks m [] m.save_uplink_start :=
  { best_sq := rfl
    last := by simp
    text := by simp [RxMote.save_uplink_start]
    size := by simp [RxMote.save_uplink_start, room]
    bestR := rfl
    live := by simp [RxMote.save_uplink_start] }

theorem room_concat (left : Option TextBuf) (ls : List (Reception S)) (r : Reception S) :
    room left (ls ++ [r]) = ((remoteToken r).map fun str => str.length + 1).or (room left ls) := by
  rw [room, room, List.filterMap_append, List.getLast?_append]
  cases h : remoteToken r with
  | none => simp [h]
  | some str => simp [h]

theorem ultstr_length (l : LocalRx) : l.ultstr.length = ultstrLen := by
  rw [LocalRx.ultstr, Text.printOctets_length, l.ult_size, ultstrLen]

theorem take_memcpy (buf bs : Octets) : (memcpy buf bs).take bs.length = bs := by
  simp [memcpy]

theorem tokenBuf_size {m s : RxMote S} {ls : List (Reception S)} (h : Tracks m ls s) :
    (s.bestULTokenStr.getD ⟨ultstrLen + 1, []⟩).size =
      (room m.bestULTokenStr ls).getD (ultstrLen + 1) := by
  rw [← h.size]
  cases s.bestULTokenStr with
  | none => rfl
  | some buf => rfl

theorem fits_iff (left : Option TextBuf) (ls : List (Reception S)) :
    ultstrLen < (room left ls).getD (ultstrLen + 1) ↔ ∀ n ∈ room left ls, ultstrLen < n := by
  cases room left ls with
  | none => simp
  | some n => simp

theorem fNS_uplink_direct_better {m s : RxMote S} {ls : List (Reception S)} {l : LocalRx}
    (h : Tracks m ls s) (hlt : s.best_sq < l.sq)
    (hfit : ∀ n ∈ room m.bestULTokenStr ls, ultstrLen < n) :
    ∃ s', s.fNS_uplink_direct l = .ok s' ∧ Tracks m (ls ++ [.loc l]) s' := by
  have hsize := tokenBuf_size h
  rw [← fits_iff, ← hsize] at hfit
  have hcopy : (s.bestULTokenStr.getD ⟨ultstrLen + 1, []⟩).strcpy l.ultstr =
      .ok { s.bestULTokenStr.getD ⟨ultstrLen + 1, []⟩ with text := l.ultstr } := by
    rw [TextBuf.strcpy, ultstr_length, if_pos hfit]
  refine ⟨_, by
    rw [RxMote.fNS_uplink_direct, if_pos hlt, ultstr_length]
    dsimp only
    rw [hcopy]
    rfl, ?_⟩
  exact
    { best_sq := by simp [Reception.sq]
      last := by
        intro w hw
        rw [List.getLast?_concat] at hw
        cases hw
        exact ⟨rfl, rfl, take_memcpy _ _⟩
      text := by simp [Reception.token]
      size := by
        rw [room_concat]
        exact hsize
      bestR := by
        rw [List.filterMap_append]
        simpa [Reception.requester] using h.bestR
      live := h.live }

theorem fNS_uplink_direct_overflow {m s : RxMote S} {ls : List (Reception S)} {l : LocalRx}
    (h : Tracks m ls s) (hlt : s.best_sq < l.sq)
    (hfit : ¬ ∀ n ∈ room m.bestULTokenStr ls, ultstrLen < n) :
    s.fNS_uplink_direct l = .error .undefined := by
  rw [← fits_iff, ← tokenBuf_size h] at hfit
  rw [RxMote.fNS_uplink_direct, if_pos hlt, ultstr_length]
  dsimp only
  rw [TextBuf.strcpy, ultstr_length, if_neg hfit]
  rfl

theorem uplinkJson_better {m s : RxMote S} {ls : List (Reception S)} {r : RemoteRx S}
    (h : Tracks m ls s) (hlt : s.best_sq < r.best.best_sq) :
    ∃ s', s.uplinkJson r = .ok s' ∧ Tracks m (ls ++ [.remote r]) s' := by
  have hbest : bestGateway (r.gwList.map some) .init = .ok r.best := bestGateway_map_some _ _
  refine ⟨_, by rw [RxMote.uplinkJson, hbest, ok_bind, if_pos (by exact hlt)]; rfl, ?_⟩
  exact
    { best_sq := by simp [Reception.sq]
      last := by
        intro w hw
        rw [List.getLast?_concat] at hw
        cases hw
        exact ⟨rfl, rfl, take_memcpy _ _⟩
      text := by
        rw [List.filterMap_append]
        cases ht : r.best.ulToken with
        | none => simp [Reception.token, ht, h.text]
        | some str => simp [Reception.token, ht, TextBuf.ofText]
      size := by
        rw [room_concat]
        cases ht : r.best.ulToken with
        | none => simp [remoteToken, Reception.requester, ht, h.size]
        | some str => simp [remoteToken, Reception.requester, ht, TextBuf.ofText]
      bestR := by
        rw [List.filterMap_append]
        simp [Reception.requester]
      live := by
        intro i hi
        cases hi
        simp }

theorem uplinkJson_worse {m s : RxMote S} {ls : List (Reception S)} {r : RemoteRx S}
    (h : Tracks m ls s) (hlt : ¬ s.best_sq < r.best.best_sq) :
    ∃ s', s.uplinkJson r = .ok s' ∧ Tracks m ls s' := by
  have hbest : bestGateway (r.gwList.map some) .init = .ok r.best := bestGateway_map_some _ _
  refine ⟨_, by rw [RxMote.uplinkJson, hbest, ok_bind, if_neg (by exact hlt)]; rfl, ?_⟩
  refine { h with bestR := ?_, live := ?_ }
  · rw [← h.bestR]
    cases hR : s.bestR with
    | none => rfl
    | some i =>
      simp [List.getElem?_append_left (h.live i hR)]
  · intro i hi
    have hi' := h.live i hi
    simp
    omega

theorem receive_tracks {m s : RxMote S} {ls : List (Reception S)} (h : Tracks m ls s)
    (r : Reception S) (hlt : s.best_sq < r.sq ↔ ∀ y ∈ ls, y.sq < r.sq)
    (hfit : TokensFit m.bestULTokenStr (addRecord Reception.sq ls r)) :
    ∃ s', s.receive r = .ok s' ∧ Tracks m (addRecord Reception.sq ls r) s' := by
  by_cases hbetter : ∀ y ∈ ls, y.sq < r.sq
  · rw [addRecord, if_pos hbetter] at hfit ⊢
    cases r with
    | loc l =>
      exact fNS_uplink_direct_better h (hlt.mpr hbetter) (hfit ls l (List.prefix_refl _))
    | remote r => exact uplinkJson_better h (hlt.mpr hbetter)
  · rw [addRecord, if_neg hbetter]
    rw [← hlt] at hbetter
    cases r with
    | loc l => exact ⟨s, if_neg hbetter, h⟩
    | remote r => exact uplinkJson_worse h hbetter

theorem fits_of_receive {m s s' : RxMote S} {ls : List (Reception S)} (h : Tracks m ls s)
    {r : Reception S} (hlt : s.best_sq < r.sq ↔ ∀ y ∈ ls, y.sq < r.sq)
    (hr : s.receive r = .ok s') (hfit : TokensFit m.bestULTokenStr ls) :
    TokensFit m.bestULTokenStr (addRecord Reception.sq ls r) := by
  rw [addRecord]
  split
  · rename_i hbetter
    intro pre l hpre
    rcases List.prefix_concat_iff.mp hpre with heq | hpre
    · obtain ⟨rfl, hl⟩ := List.append_inj' heq rfl
      cases hl
      by_contra hover
      have herr := fNS_uplink_direct_overflow h (hlt.mpr hbetter) hover
      rw [RxMote.receive, herr] at hr
      cases hr
    · exact hfit pre l hpre
  · exact hfit

theorem leaders_concat (rs : List (Reception S)) (r : Reception S) :
    leaders (rs ++ [r]) = addRecord Reception.sq (leaders rs) r := records_concat ..

theorem best_sq_lt_iff {m s : RxMote S} {rs : List (Reception S)} (h : Tracks m (leaders rs) s)
    (r : Reception S) : s.best_sq < r.sq ↔ ∀ y ∈ leaders rs, y.sq < r.sq := by
  rw [h.best_sq]
  cases hw : (leaders rs).getLast? with
  | none =>
    rw [List.getLast?_eq_none_iff.mp hw]
    simpa using r.INT_MIN_lt_sq
  | some w => exact (forall_records_lt_iff Reception.sq hw r).symm

theorem TokensFit.of_addRecord {left : Option TextBuf} {ls : List (Reception S)} {r : Reception S}
    (h : TokensFit left (addRecord Reception.sq ls r)) : TokensFit left ls := by
  intro pre l hpre
  refine h pre l (hpre.trans ?_)
  rw [addRecord]
  split
  · exact List.prefix_append ls [r]
  · exact List.prefix_refl ls

theorem receiveAll_concat (m : RxMote S) (rs : List (Reception S)) (r : Reception S) :
    m.receiveAll (rs ++ [r]) = (m.receiveAll rs).bind fun s => s.receive r := by
  rw [RxMote.receiveAll, List.foldlM_append]
  refine congrArg (Except.bind _) (funext fun s => ?_)
  show s.receive r >>= pure = s.receive r
  exact bind_pure _

theorem receiveAll_tracks (m : RxMote S) (rs : List (Reception S))
    (hfit : TokensFit m.bestULTokenStr (leaders rs)) :
    ∃ s, m.receiveAll rs = .ok s ∧ Tracks m (leaders rs) s := by
  induction rs using List.reverseRecOn with
  | nil => exact ⟨_, rfl, tracks_start m⟩
  | append_singleton rs r ih =>
    rw [leaders_concat] at hfit ⊢
    obtain ⟨s, hs, htr⟩ := ih hfit.of_addRecord
    rw [receiveAll_concat, hs]
    exact receive_tracks htr r (best_sq_lt_iff htr r) hfit

theorem fits_of_receiveAll {m s : RxMote S} {rs : List (Reception S)}
    (h : m.receiveAll rs = .ok s) : TokensFit m.bestULTokenStr (leaders rs) := by
  induction rs using List.reverseRecOn generalizing s with
  | nil =>
    intro pre l hpre
    simp [leaders] at hpre
  | append_singleton rs r ih =>
    rw [receiveAll_concat] at h
    cases hs : m.receiveAll rs with
    | error e =>
      rw [hs] at h
      cases h
    | ok s' =>
      rw [hs] at h
      obtain ⟨s'', hs'', htr⟩ := receiveAll_tracks m rs (ih hs)
      rw [hs] at hs''
      cases hs''
      rw [leaders_concat]
      exact fits_of_receive htr (best_sq_lt_iff htr r) h (ih hs)

/-! ### When the best reception is the one that is kept -/

/-- What the mote holds is all from the reception `b`. -/
structure Selected (b : Reception S) (s : RxMote S) : Prop where
  best_sq : s.best_sq = b.sq
  rx_snr : s.rx_snr = b.snr
  ULPHYPayloadLen : s.ULPHYPayloadLen = b.payload.length
  ULPayloadBin : s.ULPayloadBin.take s.ULPHYPayloadLen = b.payload
  bestULTokenStr : s.bestULTokenStr.map TextBuf.text = b.token
  bestR : s.bestR = none ↔ b.requester = none
  requester : s.bestR.bind (s.requesterList[·]?) = b.requester

/-- Two receptions that bring the same. -/
structure Alike (w b : Reception S) : Prop where
  snr : w.snr = b.snr
  payload : w.payload = b.payload
  token : w.token = b.token
  requester : w.requester = b.requester

/-- The orders that do no harm; `left` is the memory that an earlier uplink left for the token. -/
structure Harmless (left : Option TextBuf) (rs : List (Reception S)) (b : Reception S) : Prop where
  first : ∀ w ∈ (leaders rs).getLast?, Alike w b
  allLocal : b.requester = none → ∀ r ∈ leaders rs, r.requester = none
  noToken : b.token = none → left = none ∧ ∀ r ∈ leaders rs, r.token = none
  fit : TokensFit left (leaders rs)

theorem Tracks.bestR_eq_none {m s : RxMote S} {ls : List (Reception S)} (h : Tracks m ls s) :
    s.bestR = none ↔ (ls.filterMap Reception.requester).getLast? = none := by
  rw [← h.bestR]
  cases hR : s.bestR with
  | none => simp
  | some i =>
    have hi := h.live i hR
    simp [hi]

theorem getLast?_filterMap_eq_none {α β : Type} {g : α → Option β} {ls : List α} :
    (ls.filterMap g).getLast? = none ↔ ∀ x ∈ ls, g x = none := by
  rw [List.getLast?_eq_none_iff, List.filterMap_eq_nil_iff]

theorem getLast?_filterMap_of_last {α β : Type} {g : α → Option β} {ls : List α} {w : α} {y : β}
    (hw : ls.getLast? = some w) (hy : g w = some y) : (ls.filterMap g).getLast? = some y := by
  obtain ⟨ys, rfl⟩ := List.getLast?_eq_some_iff.mp hw
  simp [List.filterMap_append, hy]

theorem Reception.eq_of_requester {x : Reception S} {r : RemoteRx S} (h : x.requester = some r) :
    x = .remote r := by
  cases x with
  | loc l => cases h
  | remote r' =>
    cases h
    rfl

theorem Reception.token_of_local {x : Reception S} (h : x.requester = none) : x.token ≠ none := by
  cases x with
  | loc l => simp [Reception.token]
  | remote r => cases h

section

variable {m s : RxMote S} {rs : List (Reception S)} {b w : Reception S}

theorem alike_of_selected (hmax : ∀ r ∈ rs, r.quality ≤ b.quality)
    (hw : (leaders rs).getLast? = some w) (h : Tracks m (leaders rs) s) (hsel : Selected b s) :
    Alike w b := by
  have hmem : w ∈ leaders rs := List.mem_of_getLast? hw
  have hwb : w.sq ≤ b.sq :=
    Reception.sq_le_of_quality_le (hmax w ((records_sublist Reception.sq rs).subset hmem))
  have hreq := h.bestR.symm.trans hsel.requester
  cases hr : b.requester with
  | some r =>
    -- the requester was kept, so `b` was better than all before
    rw [hr] at hreq
    obtain ⟨x, hx, hxr⟩ := List.mem_filterMap.mp (List.mem_of_getLast? hreq)
    rw [Reception.eq_of_requester hr, ← Reception.eq_of_requester hxr] at hwb ⊢
    rw [eq_last_record Reception.sq hw hx hwb]
    exact ⟨rfl, rfl, rfl, rfl⟩
  | none =>
    rw [hr] at hreq
    have hwr : w.requester = none := getLast?_filterMap_eq_none.mp hreq w hmem
    obtain ⟨hsnr, hlen, hpay⟩ := h.last w hw
    refine ⟨hsnr.symm.trans hsel.rx_snr, hpay.symm.trans hsel.ULPayloadBin, ?_, hwr.trans hr.symm⟩
    obtain ⟨str, hstr⟩ := Option.ne_none_iff_exists'.mp (Reception.token_of_local hwr)
    have htext := h.text
    rw [hsel.bestULTokenStr, getLast?_filterMap_of_last hw hstr] at htext
    rw [hstr, htext]
    rfl

theorem harmless_of_selected (hmax : ∀ r ∈ rs, r.quality ≤ b.quality)
    (hs : m.receiveAll rs = .ok s) (hsel : Selected b s) : Harmless m.bestULTokenStr rs b := by
  have hfit := fits_of_receiveAll hs
  obtain ⟨s', hs', h⟩ := receiveAll_tracks m rs hfit
  rw [hs] at hs'
  cases hs'
  refine ⟨fun w hw => alike_of_selected hmax hw h hsel, ?_, ?_, hfit⟩
  · intro hr
    exact getLast?_filterMap_eq_none.mp (h.bestR_eq_none.mp (hsel.bestR.mpr hr))
  · intro ht
    have htext := h.text
    rw [hsel.bestULTokenStr, ht] at htext
    obtain ⟨h1, h2⟩ := Option.or_eq_none_iff.mp htext.symm
    exact ⟨Option.map_eq_none_iff.mp h2, getLast?_filterMap_eq_none.mp h1⟩

theorem selected_of_harmless (hb : b ∈ rs) (hmax : ∀ r ∈ rs, r.quality ≤ b.quality)
    (hh : Harmless m.bestULTokenStr rs b) : ∃ s, m.receiveAll rs = .ok s ∧ Selected b s := by
  obtain ⟨s, hs, h⟩ := receiveAll_tracks m rs hh.fit
  refine ⟨s, hs, ?_⟩
  have hne : leaders rs ≠ [] := records_ne_nil Reception.sq (List.ne_nil_of_mem hb)
  obtain ⟨w, hw⟩ : ∃ w, (leaders rs).getLast? = some w := ⟨_, List.getLast?_eq_some_getLast hne⟩
  have hmem : w ∈ leaders rs := List.mem_of_getLast? hw
  have halike := hh.first w hw
  obtain ⟨hsnr, hlen, hpay⟩ := h.last w hw
  have hsq : w.sq = b.sq := by
    apply le_antisymm
    · exact Reception.sq_le_of_quality_le (hmax w ((records_sublist Reception.sq rs).subset hmem))
    · exact le_of_last_record Reception.sq hw hb
  have hreq : (List.filterMap Reception.requester (leaders rs)).getLast? = b.requester := by
    cases hr : b.requester with
    | none => exact getLast?_filterMap_eq_none.mpr (hh.allLocal hr)
    | some r => exact getLast?_filterMap_of_last hw (halike.requester.trans hr)
  have htext : s.bestULTokenStr.map TextBuf.text = b.token := by
    rw [h.text]
    cases ht : b.token with
    | none =>
      obtain ⟨hleft, hall⟩ := hh.noToken ht
      rw [hleft, getLast?_filterMap_eq_none.mpr hall]
      rfl
    | some str =>
      rw [getLast?_filterMap_of_last hw (halike.token.trans ht)]
      rfl
  exact
    { best_sq := by rw [h.best_sq, hw, Option.elim_some, hsq]
      rx_snr := hsnr.trans halike.snr
      ULPHYPayloadLen := hlen.trans (congrArg List.length halike.payload)
      ULPayloadBin := hpay.trans halike.payload
      bestULTokenStr := htext
      bestR := by rw [h.bestR_eq_none, hreq]
      requester := h.bestR.trans hreq }

/-- What the mote holds is all from the best reception exactly when the order does no harm: the first
reception of the highest truncated quality is that one, no request was better than all before when
the best is local, no token was left when the best has none, and every local token found enough
memory. -/
theorem selected_iff_harmless (hb : b ∈ rs) (hmax : ∀ r ∈ rs, r.quality ≤ b.quality) :
    (∃ s, m.receiveAll rs = .ok s ∧ Selected b s) ↔ Harmless m.bestULTokenStr rs b := by
  constructor
  · rintro ⟨s, hs, hsel⟩
    exact harmless_of_selected hmax hs hsel
  · exact selected_of_harmless hb hmax

end

/-! ### A weak request before a strong local reception -/

def strongLocal : LocalRx :=
  { quality := -10
    inRange := by norm_num [INT_MIN]
    snr := 5
    payload := [0x40]
    payload_size := by decide
    ult := List.replicate 21 0
    ult_size := rfl }

def weakRequest : RemoteRx ℚ :=
  { gwList := [{ id := 1, RFRegion := some .EU868, RSSI := -100, SNR := 0, Lat := 0, Lon := 0,
                 ULToken := some (List.replicate 42 '0'), DLAllowed := true }]
    gwList_ne := by simp
    payload := [0x40]
    payload_size := by decide }

/-- A mote that has heard nothing. -/
def silentMote : RxMote ℚ :=
  { best_sq := 0
    rx_snr := 0
    ULPayloadBin := List.replicate 256 0
    ULPHYPayloadLen := 0
    bestULTokenStr := none
    bestR := none
    requesterList := [] }

theorem weakRequest_first :
    ¬ ∃ s, silentMote.receiveAll [.remote weakRequest, .loc strongLocal] = .ok s ∧
      Selected (.loc strongLocal) s := by
  rintro ⟨s, hs, hsel⟩
  have hR : (silentMote.receiveAll [.remote weakRequest, .loc strongLocal]).map RxMote.bestR =
      .ok (some 0) := by rfl
  rw [hs] at hR
  have hnone := hsel.bestR.mpr rfl
  rw [Except.map, hnone] at hR
  cases hR

theorem weakRequest_last :
    ∃ s, silentMote.receiveAll [.loc strongLocal, .remote weakRequest] = .ok s ∧
      Selected (.loc strongLocal) s := by
  have hlead : leaders [.loc strongLocal, .remote weakRequest] = [.loc strongLocal] := rfl
  have hmax : ∀ r ∈ [Reception.loc strongLocal, .remote weakRequest],
      r.quality ≤ (Reception.loc strongLocal : Reception ℚ).quality := by
    have hweak : weakRequest.best.best_sq = -100 := rfl
    simp [Reception.quality, hweak, strongLocal]
    norm_num
  refine (selected_iff_harmless (by simp) hmax).mpr ⟨?_, ?_, ?_, ?_⟩
  · intro w hw
    rw [hlead] at hw
    cases hw
    exact ⟨rfl, rfl, rfl, rfl⟩
  · intro _ r hr
    rw [hlead, List.mem_singleton] at hr
    rw [hr]
    rfl
  · intro hnone
    cases hnone
  · intro pre l hpre n hn
    rw [hlead] at hpre
    have hlen := hpre.length_le
    have hpre : pre = [] := by
      rw [List.length_append] at hlen
      exact List.length_eq_zero_iff.mp (by simpa using hlen)
    rw [hpre] at hn
    cases hn

end Lorawan.NetworkServer

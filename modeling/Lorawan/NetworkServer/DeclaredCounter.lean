import Lorawan.NetworkServer.Frames

/-!
# The counter of a payload

The application server encrypts a payload for one counter and says which. Beside
the server a ledger keeps the request whose payload was saved last, and for each
frame that was built the request of that moment.
-/

namespace Lorawan.NetworkServer
open Lorawan Lorawan.Backend Backend.mtype_e

variable (A : BlockCipher)

/-- The meta data and the payload of a downlink that the server keeps. -/
abbrev AppRequest := DLMetaData × Octets

/-- The request that an event brings, when it is not refused. -/
def requested (ns : NS) : Event → Option AppRequest
  | .downlink env md payload =>
    if env.OptNeg = false ∧ md.FCntDown ≠ neededFCntDown env ns.mote then none
    else (savePayload md payload ns.mote.s).map fun _ => (md, payload)
  | _ => none

structure Ledger where
  ns : NS
  /-- The request whose payload was saved last. -/
  last : Option AppRequest
  /-- The calls that build a frame, with the request at that time. -/
  built : List (Call × Option AppRequest)

def Ledger.init (rows : List SessionRow) (nextSerial ID devAddr : ℕ) : Ledger :=
  ⟨.init rows nextSerial (.init ID devAddr), none, []⟩

def Ledger.step (l : Ledger) (e : Event) : Ledger :=
  if l.ns.overrun then l
  else
    let last := (requested l.ns e).or l.last
    let ns := NetworkServer.step A l.ns e
    ⟨ns, last, l.built ++ (ns.calls.drop l.ns.calls.length).map fun c => (c, last)⟩

/-- The frame in `m'`, built from `m`, carries the payload of the request under its counter. -/
structure UsesDeclared (m m' : Mote) (md : DLMetaData) (payload : Octets) : Prop where
  header : Octets.toNat (Octets.slice m'.s.PHYPayloadBin 6 2) = md.FCntDown % 2 ^ 16
  body : Octets.slice m'.s.PHYPayloadBin (8 + (queuedFOpts m).length) (1 + payload.length) =
    md.FPort :: payload
  mic : Octets.slice m'.s.PHYPayloadBin (micOffset m) 4 =
    LoRa_GenerateDataFrameIntegrityCode A
      (downlinkBlock (ackedFCnt m m.s) m.devAddr md.FCntDown (micOffset m))
      m.session.SNwkSIntKeyBin (m'.s.PHYPayloadBin.take (micOffset m))

/-- The request of the call is the one whose payload the frame carries. -/
def Declared (c : Call) (request : Option AppRequest) : Prop :=
  carriesPayload c.before = true → ∀ m', c.after = some m' →
    ∃ md payload, request = some (md, payload) ∧ UsesDeclared A c.before m' md payload

/-! ### A frame with a payload -/

theorem frameFCntDown_of_carries {m : Mote} (hc : carriesPayload m = true) :
    frameFCntDown m = m.s.md.FCntDown := by
  rw [frameFCntDown]
  split
  · rfl
  · rename_i hopt
    have hright : rightFCntDown m = true := by
      rw [carriesPayload, Bool.and_eq_true] at hc
      exact hc.2
    rw [rightFCntDown, Bool.or_eq_true, decide_eq_true_iff] at hright
    rcases hright with hopt' | heq
    · exact absurd ⟨hc, hopt'⟩ hopt
    · exact heq.symm

theorem addPayload_room {m : Mote} {s s' : S} {using_AFCntDwn : Bool}
    (h : addPayload m s = some (s', using_AFCntDwn)) (hc : carriesPayload m = true) :
    8 + FOptsLen s.PHYPayloadBin + 1 + (s.FRMPayloadBin.take s.FRMPayloadLen).length ≤
      s.PHYPayloadBin.length := by
  rw [carriesPayload, Bool.and_eq_true] at hc
  unfold addPayload at h
  rw [if_pos hc.1, if_pos hc.2] at h
  simp only [bind, Option.bind_eq_some_iff] at h
  obtain ⟨b1, h1, b2, h2, -⟩ := h
  obtain ⟨hle, -⟩ := Octets.write_eq_some.mp h2
  have hlen := Octets.write_length h1
  omega

variable {A}

/-- The header and the MIC, wherever the MIC stands, as long as it leaves FCnt alone. -/
theorem sealFrame_counter {m : Mote} {s s' : S} {using_AFCntDwn : Bool}
    (h : sealFrame A m s using_AFCntDwn = some s')
    (hplace : 8 ≤ lenBeforeMic s ∨ lenBeforeMic s = 0) :
    Octets.slice s'.PHYPayloadBin 6 2 = Octets.ofNat 2 (txFCntDown m s using_AFCntDwn) ∧
    Octets.slice s'.PHYPayloadBin (lenBeforeMic s) 4 =
      LoRa_GenerateDataFrameIntegrityCode A
        (downlinkBlock (ackedFCnt m s) m.devAddr (txFCntDown m s using_AFCntDwn) (lenBeforeMic s))
        m.session.SNwkSIntKeyBin (s'.PHYPayloadBin.take (lenBeforeMic s)) ∧
    ∀ i n, 8 ≤ i → i + n ≤ lenBeforeMic s ∨ lenBeforeMic s = 0 →
      Octets.slice s'.PHYPayloadBin i n = Octets.slice s.PHYPayloadBin i n := by
  simp only [sealFrame, bind, Option.bind_eq_some_iff] at h
  obtain ⟨b1, h1, b2, h2, hs⟩ := h
  obtain rfl := Option.some.inj hs
  obtain ⟨-, -, -, -, hcnt, hrest⟩ := writeHeader_some h1
  have hmic := LoRa_GenerateDataFrameIntegrityCode_length A
    (downlinkBlock (ackedFCnt m s) m.devAddr (txFCntDown m s using_AFCntDwn) (lenBeforeMic s))
    m.session.SNwkSIntKeyBin b1
  refine ⟨?_, ?_, ?_⟩
  · rcases hplace with h8 | hzero
    · rw [Octets.slice_write_before h2 (by omega), hcnt]
    · rw [Octets.slice_write_after h2 (by omega), hcnt]
  · have hself := Octets.slice_write_self h2
    have htake : b2.take (lenBeforeMic s) = b1.take (lenBeforeMic s) :=
      Octets.slice_write_before h2 (i := 0) (n := lenBeforeMic s) (by omega)
    have hlt : lenBeforeMic s < 256 := Nat.mod_lt _ (by omega)
    rw [hmic] at hself
    rw [hself, htake]
    exact dataMic_take A _ _ _ hlt
  · intro i n hi hin
    rcases hin with hin | hzero
    · rw [Octets.slice_write_before h2 hin, hrest i n hi]
    · rw [Octets.slice_write_after h2 (by omega), hrest i n hi]

theorem usesDeclared_of_build {junk : Octets} {m m' : Mote} (w : m.s.Wf)
    (h : buildFrame A junk m = some m') (hc : carriesPayload m = true) :
    UsesDeclared A m m' m.s.md m.s.accepted := by
  have hfrm := frm_take_length w
  have haccepted := w.accepted (FRMPayloadLen_pos_of_carries hc)
  have hcounter := frameFCntDown_of_carries hc
  simp only [buildFrame, bind, Option.bind_eq_some_iff, Prod.exists] at h
  obtain ⟨s1, h1, s2, using_AFCntDwn, h2, s3, h3, s4, h4, hm⟩ := h
  obtain rfl := Option.some.inj hm
  obtain ⟨e1, len1, ctrl1, -, -⟩ := get_queued_mac_cmds_some A h1
  obtain ⟨e2, husing, hAFCntDown, -, ctrl2, -, body2, -⟩ := addPayload_some h2
  obtain ⟨e4, -, -⟩ := keepConfirmed_some h4
  have hF1 : FOptsLen s1.PHYPayloadBin = (queuedFOpts m).length := FOptsLen_of_taken ctrl1
  have hF2 : FOptsLen s2.PHYPayloadBin = (queuedFOpts m).length := by
    rw [FOptsLen, ctrl2, ← FOptsLen, hF1]
  have hmic : lenBeforeMic s2 = micOffset m := by
    rw [lenBeforeMic, hF2, micOffset, bodyLen, e2, e1]
  have hmd : s1.md = m.s.md := by rw [e1]
  have hbin : s1.FRMPayloadBin.take s1.FRMPayloadLen = m.s.FRMPayloadBin.take m.s.FRMPayloadLen := by
    rw [e1]
  have hnew : ackedFCnt m s2 = ackedFCnt m m.s := by
    have : s2.newFCntUp = m.s.newFCntUp := by rw [e2, e1]
    rw [ackedFCnt, ackedFCnt, this]
  have hcnt : txFCntDown m s2 using_AFCntDwn = m.s.md.FCntDown := by
    rw [← hcounter, frameFCntDown, txFCntDown]
    by_cases hopt : m.session.OptNeg = true
    · have hu : using_AFCntDwn = true := by rw [husing, hc, hopt, Bool.and_self]
      rw [hu, if_pos rfl, if_pos ⟨hc, hopt⟩, hAFCntDown hu, hmd]
    · have hu : using_AFCntDwn = false := by
        rw [husing, Bool.eq_false_iff.mpr hopt, Bool.and_false]
      rw [hu, if_neg Bool.false_ne_true, if_neg (fun h => hopt h.2)]
  -- the payload fits into the array: only the length can wrap, and then to zero
  have hroom := addPayload_room h2 hc
  rw [hF1, hbin, hfrm, len1, w.bin] at hroom
  have hoffset : micOffset m = 8 + (queuedFOpts m).length + 1 + m.s.FRMPayloadLen ∨
      micOffset m = 0 := by
    unfold micOffset bodyLen
    rw [if_pos hc]
    omega
  obtain ⟨hheader, hMIC, hrest⟩ := sealFrame_counter h3 (by omega)
  rw [hmic, hcnt, hnew] at hMIC
  have hbin4 : s4.PHYPayloadBin = s3.PHYPayloadBin := by rw [e4]
  have hpayload : m.s.accepted.length = m.s.FRMPayloadLen := by rw [← haccepted, hfrm]
  refine ⟨?_, ?_, ?_⟩
  · show Octets.toNat (Octets.slice s4.PHYPayloadBin 6 2) = _
    rw [hbin4, hheader, hcnt, Octets.toNat_ofNat]
    norm_num
  · show Octets.slice s4.PHYPayloadBin _ _ = _
    have hbody := body2 hc
    rw [hF1, hbin, hmd, haccepted] at hbody
    rw [hbin4, hrest _ _ (by omega) (by omega), hbody]
  · show Octets.slice s4.PHYPayloadBin _ _ = _
    rw [hbin4]
    exact hMIC

/-! ### The ledger -/

/-- The payload that waits came with the request. -/
def WaitsFor (request : Option AppRequest) (s : S) : Prop :=
  s.Wf ∧ (0 < s.FRMPayloadLen → request = some (s.md, s.accepted))

theorem waitsFor_change {request : Option AppRequest} {s s' : S} (h : Change A s s')
    (hw : WaitsFor request s) : WaitsFor request s' := by
  refine ⟨wf_change h hw.1, ?_⟩
  cases h with
  | queue => exact hw.2
  | dropPayload => exact fun h => absurd h (Nat.lt_irrefl 0)
  | flags h =>
    rw [h]
    exact hw.2
  | ConfFCntDown => exact hw.2
  | restore => exact hw.2
  | sent => exact hw.2
  | build h =>
    rw [(buildFrame_some A hw.1.bin h).state]
    exact hw.2
  | joinAccept h =>
    obtain ⟨bin, -, rfl⟩ := Option.map_eq_some_iff.mp h
    exact hw.2
  | forget => exact hw.2

theorem waitsFor_saved {ns : NS} {request : Option AppRequest} (hw : WaitsFor request ns.mote.s)
    (e : Event) : WaitsFor ((requested ns e).or request) (saved ns e).mote.s := by
  refine ⟨wf_saved hw.1 e, ?_⟩
  cases e with
  | downlink env md payload =>
    simp only [requested, saved]
    by_cases hwrong : env.OptNeg = false ∧ md.FCntDown ≠ neededFCntDown env ns.mote
    · rw [if_pos hwrong, if_pos hwrong]
      exact hw.2
    · rw [if_neg hwrong, if_neg hwrong]
      cases hs : savePayload md payload ns.mote.s with
      | none => exact hw.2
      | some s =>
        obtain ⟨bin, -, rfl⟩ := Option.map_eq_some_iff.mp hs
        exact fun _ => rfl
  | _ => exact hw.2

variable (A)

structure LedgerInv (l : Ledger) : Prop where
  waits : WaitsFor l.last l.ns.mote.s
  calls : l.built.map (·.1) = l.ns.calls
  declared : ∀ b ∈ l.built, Declared A b.1 b.2

variable {A}

theorem ledgerInv_step {l : Ledger} (h : LedgerInv A l) (e : Event) :
    LedgerInv A (l.step A e) := by
  unfold Ledger.step
  cases hoverrun : l.ns.overrun with
  | true => exact h
  | false =>
    rw [if_neg Bool.false_ne_true]
    have hbuilds := builds_step (A := A) hoverrun e
    have hwaits := waitsFor_saved h.waits e
    have hkeep : ∀ s s', Change A s s' → WaitsFor ((requested l.ns e).or l.last) s →
        WaitsFor ((requested l.ns e).or l.last) s' := fun _ _ h hw => waitsFor_change h hw
    rcases hbuilds.calls with hcalls | ⟨ns₁, junk, -, -, hchanges, hcalls⟩
    · rw [calls_saved] at hcalls
      refine ⟨hbuilds.keeps hkeep hwaits, ?_, ?_⟩
      · simp only [hcalls, List.drop_length, List.map_nil, List.append_nil]
        exact h.calls
      · simp only [hcalls, List.drop_length, List.map_nil, List.append_nil]
        exact h.declared
    · rw [calls_saved] at hcalls
      have hcall : Declared A ⟨ns₁.mote, buildFrame A junk ns₁.mote⟩
          ((requested l.ns e).or l.last) := by
        obtain ⟨w, hrequest⟩ := keeps_of_change hkeep hchanges hwaits
        intro hc m' hm'
        exact ⟨_, _, hrequest (FRMPayloadLen_pos_of_carries hc), usesDeclared_of_build w hm' hc⟩
      refine ⟨hbuilds.keeps hkeep hwaits, ?_, ?_⟩
      · simp only [hcalls, List.drop_left, List.map_append, List.map_singleton, h.calls]
      · simp only [hcalls, List.drop_left, List.map_singleton]
        intro b hb
        rcases List.mem_append.mp hb with hold | hnew
        · exact h.declared b hold
        · rw [List.mem_singleton.mp hnew]
          exact hcall

theorem ledger_ns (l : Ledger) (es : List Event) :
    (Machine.run (Ledger.step A) l es).ns = Machine.run (step A) l.ns es := by
  induction es generalizing l with
  | nil => rfl
  | cons e es ih =>
    have hstep : (l.step A e).ns = step A l.ns e := by
      unfold Ledger.step
      split
      · rename_i hoverrun
        rw [step, if_pos hoverrun]
      · rfl
    rw [Machine.run_cons, Machine.run_cons, ih, hstep]

variable (A)

/-- In every run each frame with a payload uses the counter that was declared for the payload. -/
theorem frames_use_declared_counter (rows : List SessionRow) (nextSerial ID devAddr : ℕ)
    (es : List Event) :
    let l := Machine.run (Ledger.step A) (.init rows nextSerial ID devAddr) es
    l.ns = Machine.run (step A) (.init rows nextSerial (.init ID devAddr)) es ∧
      l.built.map (·.1) = l.ns.calls ∧ ∀ b ∈ l.built, Declared A b.1 b.2 := by
  have hinit : LedgerInv A (.init rows nextSerial ID devAddr) := by
    refine ⟨⟨S.zero_wf, fun h => absurd h (Nat.lt_irrefl 0)⟩, rfl, ?_⟩
    intro b hb
    cases hb
  have hstep : ∀ l e, LedgerInv A l → LedgerInv A (l.step A e) := fun _ e h => ledgerInv_step h e
  have hinv := Machine.run_invariant_always (Ledger.step A) hstep hinit es
  exact ⟨ledger_ns _ es, hinv.calls, hinv.declared⟩

end Lorawan.NetworkServer

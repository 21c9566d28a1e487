import Lorawan.NetworkServer.Changes

/-!
# The frames of a run

In every run, whatever the order of uplinks, downlinks, MAC commands, failed
sends and repeated confirmed frames, the frames are laid out and the arrays are
respected, as long as each frame that is built fits.
-/

namespace Lorawan.NetworkServer
open Lorawan Lorawan.Backend Backend.mtype_e

variable (A : BlockCipher)

/-- Every frame that was built is laid out as LoRaWAN says, and no write left an array. -/
def FramesOk (ns : NS) : Prop :=
  ns.overrun = false ∧ ∀ c ∈ ns.calls, FrameOk A c.before c.after

/-- The state in which the handling of an event calls `sNS_schedule_downlink`. -/
def scheduled (ns : NS) : Event → Option Mote
  | .uplink env =>
    if ns.mote.ULPHYPayloadLen = 0 then none
    else
      match receiveUplink A env ns with
      | (.Success, ns') => some ns'.mote
      | _ => none
  | .rejoin _ => some ns.mote
  | .downlink env md payload =>
    if env.now ∧ ¬(env.OptNeg = false ∧ md.FCntDown ≠ neededFCntDown env ns.mote) then
      (savePayload md payload ns.mote.s).map fun s =>
        { ns.mote with s := { s with resend := false } }
    else none
  | .resend env _ =>
    if env.now ∧ ns.mote.s.resend then
      some { ns.mote with s := { ns.mote.s with resend := false } }
    else none
  | _ => none

/-- The condition on an event: a frame that gets built fits, the payload of a downlink fits into
`FRMPayloadBin`, and the length of a join accept is a `uint8_t`. -/
def FrameFits (ns : NS) (e : Event) : Prop :=
  (∀ m, scheduled A ns e = some m → needsDownlink m = true → Fits m) ∧
    match e with
    | .downlink _ _ payload => payload.length ≤ 244
    | .joinAns env => env.rfBuf.length < 256
    | _ => True

instance (ns : NS) (e : Event) : Decidable (FrameFits A ns e) :=
  have : Decidable (∀ m, scheduled A ns e = some m → needsDownlink m = true → Fits m) :=
    decidable_of_iff (∀ m ∈ (scheduled A ns e).toList, needsDownlink m = true → Fits m) (by simp)
  match e with
  | .downlink _ _ payload => inferInstanceAs (Decidable (_ ∧ payload.length ≤ 244))
  | .joinAns env => inferInstanceAs (Decidable (_ ∧ env.rfBuf.length < 256))
  | .window | .receive .. | .load .. | .uplink _ | .rejoin _ | .send _ | .resend .. | .macCmds _
  | .joinReq _ | .address _ | .other _ | .writer => inferInstanceAs (Decidable (_ ∧ True))

/-- The state in which the handling goes on when the payload of a downlink was saved. -/
def saved (ns : NS) : Event → NS
  | .downlink env md payload =>
    if env.OptNeg = false ∧ md.FCntDown ≠ neededFCntDown env ns.mote then ns
    else
      match savePayload md payload ns.mote.s with
      | none => ns
      | some s => mapS (fun _ => s) ns
  | _ => ns

/-! ### What a step does -/

/-- A write of the event's own leaves its array. -/
def Lost : Event → S → Prop
  | .downlink _ md payload, s => savePayload md payload s = none
  | .joinAns env, s => saveJoinAccept env s = none
  | _, _ => False

/-- From `ns` to `ns'` at most one frame is built, from the device `m` if there is one. -/
def Builds (m : Option Mote) (lost : S → Prop) (ns ns' : NS) : Prop :=
  Leads A ns ns' ∨
    (∃ ns₁, Leads A ns ns₁ ∧ lost ns₁.mote.s ∧ ns' = { ns₁ with overrun := true }) ∨
    ∃ ns₁ junk, m = some ns₁.mote ∧ Leads A ns ns₁ ∧ Leads A (schedule A junk ns₁) ns'

variable {A}

theorem Builds.trans {m : Option Mote} {ns ns' ns'' : NS} {lost : S → Prop}
    (h : Builds A m (fun _ => False) ns ns') (h' : Leads A ns' ns'') : Builds A m lost ns ns'' := by
  rcases h with hleads | ⟨_, -, hfalse, -⟩ | ⟨ns₁, junk, hm, hbefore, hafter⟩
  · exact Or.inl (hleads.trans h')
  · exact hfalse.elim
  · exact Or.inr (Or.inr ⟨ns₁, junk, hm, hbefore, hafter.trans h'⟩)

theorem builds_downlinkBC (env : DownlinkEnv) (ns : NS) :
    Builds A (if env.now then some { ns.mote with s := { ns.mote.s with resend := false } }
      else none) (fun _ => False) ns (downlinkBC A env ns) := by
  have hclear : Leads A ns (mapS (fun s => { s with resend := false }) ns) :=
    leads_mapS ns (.flags rfl)
  unfold downlinkBC
  dsimp only
  split
  · refine Or.inr (Or.inr ⟨_, env.junk, rfl, hclear, ?_⟩)
    split
    · exact .refl _
    · have hfinish := leads_finish (A := A) env.send
        (schedule A env.junk (mapS (fun s => { s with resend := false }) ns))
      split
      · exact hfinish.trans (leads_mapS _ (.flags rfl))
      · exact hfinish
  · exact Or.inl hclear

theorem builds_downlink (env : DownlinkEnv) (md : DLMetaData) (payload : Octets) (ns : NS) :
    Builds A (scheduled A ns (.downlink env md payload)) (Lost (.downlink env md payload))
      (saved ns (.downlink env md payload)) (hNS_to_sNS_downlink A env md payload ns) := by
  unfold hNS_to_sNS_downlink saved
  simp only [scheduled]
  by_cases hwrong : env.OptNeg = false ∧ md.FCntDown ≠ neededFCntDown env ns.mote
  · rw [if_pos hwrong, if_pos hwrong]
    exact Or.inl (.refl ns)
  · rw [if_neg hwrong, if_neg hwrong]
    cases hs : savePayload md payload ns.mote.s with
    | none => exact Or.inr (Or.inl ⟨ns, .refl ns, hs, rfl⟩)
    | some s =>
      have hbc := builds_downlinkBC (A := A) env (mapS (fun _ => s) ns)
      by_cases hnow : env.now = true
      · rw [if_pos hnow] at hbc
        rw [if_pos ⟨hnow, hwrong⟩]
        exact hbc.trans (.refl _)
      · rw [if_neg hnow] at hbc
        rw [if_neg (fun h => hnow h.1)]
        exact hbc.trans (.refl _)

theorem builds_resend (env : DownlinkEnv) (failed : Bool) (ns : NS) :
    Builds A (scheduled A ns (.resend env failed)) (fun _ => False) ns
      (resend A env failed ns) := by
  unfold resend
  split
  · rename_i hresend
    have hbc := builds_downlinkBC (A := A) env ns
    have hm : scheduled A ns (.resend env failed) =
        if env.now then some { ns.mote with s := { ns.mote.s with resend := false } } else none := by
      simp only [scheduled, hresend, and_true]
    rw [← hm] at hbc
    dsimp only
    split
    · exact hbc.trans (leads_answer _ _)
    · exact hbc
  · exact Or.inl (.refl ns)

theorem builds_uplink (env : UplinkEnv) {ns : NS} (hlen : ns.mote.ULPHYPayloadLen ≠ 0) :
    Builds A (scheduled A ns (.uplink env)) (fun _ => False) ns (sNS_uplink A env ns).2 := by
  have hreceive := leads_receiveUplink (A := A) env ns
  unfold sNS_uplink
  split
  · rename_i ns' heq
    rw [heq] at hreceive
    refine Or.inr (Or.inr ⟨ns', env.junk, ?_, hreceive, .refl _⟩)
    simp only [scheduled, if_neg hlen, heq]
  · rename_i heq
    rw [heq] at hreceive
    exact Or.inl hreceive

theorem builds_joinAns (env : JoinAnsEnv) (ns : NS) :
    Builds A none (Lost (.joinAns env)) ns (hNs_to_sNS_JoinAns env ns) := by
  have hbefore := leads_joinAns (A := A) env ns
  unfold hNs_to_sNS_JoinAns
  generalize mapS (fun s => { s with session_start_at_uplink := true })
    (if env.lifetime.isSome then take_JoinAns env ns else ns) = ns₁ at hbefore ⊢
  by_cases hs : saveJoinAccept env ns₁.mote.s = none
  · unfold sendJoinAccept
    split
    · split
      · rw [hs]
        exact Or.inr (Or.inl ⟨ns₁, hbefore, hs, rfl⟩)
      · exact Or.inl hbefore
    · exact Or.inl (hbefore.trans (leads_sendRemote env ns₁))
  · exact Or.inl (hbefore.trans (leads_sendJoinAccept env hs))

theorem builds_step {ns : NS} (hoverrun : ns.overrun = false) (e : Event) :
    Builds A (scheduled A ns e) (Lost e) (saved ns e) (step A ns e) := by
  rw [step, hoverrun, if_neg Bool.false_ne_true]
  cases e with
  | window => exact Or.inl (.of_eq rfl rfl rfl)
  | receive frame counter => exact Or.inl (.of_eq rfl rfl rfl)
  | load byID sqlOk now =>
    unfold handle loadSession
    dsimp only
    split
    · exact Or.inl (.of_eq rfl rfl rfl)
    · exact Or.inl (.refl ns)
  | uplink env =>
    unfold handle
    dsimp only
    split
    · exact Or.inl (.refl ns)
    · rename_i hlen
      exact builds_uplink env hlen
  | rejoin junk => exact Or.inr (Or.inr ⟨ns, junk, rfl, .refl ns, .refl _⟩)
  | send env => exact Or.inl (leads_finish env ns)
  | downlink env md payload => exact builds_downlink env md payload ns
  | resend env failed => exact builds_resend env failed ns
  | macCmds ops => exact Or.inl (leads_queueMacCmds ops ns)
  | joinReq devAddr => exact Or.inl (.of_eq rfl rfl rfl)
  | address devAddr => exact Or.inl (.of_eq rfl rfl rfl)
  | joinAns env => exact builds_joinAns env ns
  | other u => exact Or.inl (.of_eq rfl rfl rfl)
  | writer => exact Or.inl (.of_eq rfl rfl rfl)

theorem schedule_cases (junk : Octets) (ns : NS) :
    ((schedule A junk ns).mote = ns.mote ∧ (schedule A junk ns).calls = ns.calls) ∨
      needsDownlink ns.mote = true ∧
      (schedule A junk ns).mote = (buildFrame A junk ns.mote).getD ns.mote ∧
      (schedule A junk ns).calls = ns.calls ++ [⟨ns.mote, buildFrame A junk ns.mote⟩] := by
  by_cases hneeds : needsDownlink ns.mote = true
  · refine Or.inr ⟨hneeds, ?_, ?_⟩
    · simp only [schedule, sNS_schedule_downlink, if_pos hneeds]
    · simp only [schedule, sNS_schedule_downlink, if_pos hneeds]
  · refine Or.inl ⟨?_, ?_⟩
    · simp only [schedule, sNS_schedule_downlink, if_neg hneeds, Option.getD_some]
    · simp only [schedule, if_neg hneeds]

theorem changes_schedule (junk : Octets) (ns : NS) :
    Relation.ReflTransGen (Change A) ns.mote.s (schedule A junk ns).mote.s := by
  rcases schedule_cases (A := A) junk ns with ⟨hmote, -⟩ | ⟨-, hmote, -⟩
  · rw [hmote]
  · rw [hmote]
    cases hbuild : buildFrame A junk ns.mote with
    | none => exact .refl
    | some m' => exact .single (.build hbuild)

theorem Builds.keeps {P : S → Prop} (hP : ∀ s s', Change A s s' → P s → P s') {m : Option Mote}
    {lost : S → Prop} {ns ns' : NS} (h : Builds A m lost ns ns') (hs : P ns.mote.s) :
    P ns'.mote.s := by
  rcases h with hleads | ⟨ns₁, hleads, -, rfl⟩ | ⟨ns₁, junk, -, hbefore, hafter⟩
  · exact keeps_of_change hP hleads.changes hs
  · exact keeps_of_change hP hleads.changes hs
  · exact keeps_of_change hP ((hbefore.changes.trans (changes_schedule junk ns₁)).trans
      hafter.changes) hs

/-- At most one call is recorded, of the device in the state before the frame is built. -/
theorem Builds.calls {m : Option Mote} {lost : S → Prop} {ns ns' : NS}
    (h : Builds A m lost ns ns') :
    ns'.calls = ns.calls ∨ ∃ (ns₁ : NS) (junk : Octets), m = some ns₁.mote ∧ needsDownlink ns₁.mote = true ∧
      Relation.ReflTransGen (Change A) ns.mote.s ns₁.mote.s ∧
      ns'.calls = ns.calls ++ [⟨ns₁.mote, buildFrame A junk ns₁.mote⟩] := by
  rcases h with hleads | ⟨ns₁, hleads, -, rfl⟩ | ⟨ns₁, junk, hm, hbefore, hafter⟩
  · exact Or.inl hleads.calls
  · exact Or.inl hleads.calls
  · rcases schedule_cases (A := A) junk ns₁ with ⟨-, hcalls⟩ | ⟨hneeds, -, hcalls⟩
    · rw [hbefore.calls] at hcalls
      exact Or.inl (hafter.calls.trans hcalls)
    · rw [hbefore.calls] at hcalls
      exact Or.inr ⟨ns₁, junk, hm, hneeds, hbefore.changes, hafter.calls.trans hcalls⟩

/-! ### The arrays -/

theorem S.zero_wf : S.zero.Wf where
  bin := List.length_replicate
  conf := List.length_replicate
  frm := List.length_replicate
  len := by decide
  confLen := by decide
  frmLen := by decide
  accepted := fun h => absurd h (by decide)

theorem built_wf {junk : Octets} {m m' : Mote} (w : m.s.Wf) (hb : Built A junk m m') :
    m'.s.Wf := by
  have hfrm : m'.s.FRMPayloadBin = m.s.FRMPayloadBin := by rw [hb.state]
  have hfrmLen : m'.s.FRMPayloadLen = m.s.FRMPayloadLen := by rw [hb.state]
  have hacc : m'.s.accepted = m.s.accepted := by rw [hb.state]
  have hlen : m'.s.PHYPayloadLen = (micOffset m + 4) % 256 := by rw [hb.state]
  have hlt : m'.s.PHYPayloadLen < 256 := by
    rw [hlen]
    exact Nat.mod_lt _ (by omega)
  refine ⟨hb.bin, by rw [hb.conf, w.conf], by rw [hfrm, w.frm], hlt, ?_, by rw [hfrmLen]; exact w.frmLen, ?_⟩
  · rcases hb.kept with hzero | ⟨hnew, -⟩ | ⟨hold, -⟩
    · omega
    · omega
    · rw [hold]
      exact w.confLen
  · rw [hfrmLen, hfrm, hacc]
    exact w.accepted

theorem restoreConfirmed_wf {s : S} (w : s.Wf) : (restoreConfirmed s).Wf := by
  have h1 := w.bin
  have h2 := w.conf
  have h3 := w.confLen
  refine ⟨?_, w.conf, w.frm, w.confLen, w.confLen, w.frmLen, w.accepted⟩
  simp only [restoreConfirmed, List.length_append, List.length_take, List.length_drop]
  omega

theorem saveJoinAccept_wf {env : JoinAnsEnv} {s s' : S} (w : s.Wf)
    (h : saveJoinAccept env s = some s') : s'.Wf := by
  obtain ⟨bin, hbin, rfl⟩ := Option.map_eq_some_iff.mp h
  refine ⟨(Octets.write_length hbin).trans w.bin, w.conf, w.frm, ?_, w.confLen, w.frmLen, w.accepted⟩
  simp only
  split
  · exact Nat.zero_lt_succ _
  · exact Nat.mod_lt _ (by omega)

theorem wf_change {s s' : S} (h : Change A s s') (w : s.Wf) : s'.Wf := by
  cases h with
  | queue => exact ⟨w.bin, w.conf, w.frm, w.len, w.confLen, w.frmLen, w.accepted⟩
  | dropPayload =>
    exact ⟨w.bin, w.conf, w.frm, w.len, w.confLen, Nat.zero_le _,
      fun h => absurd h (Nat.lt_irrefl 0)⟩
  | flags h =>
    rw [h]
    exact ⟨w.bin, w.conf, w.frm, w.len, w.confLen, w.frmLen, w.accepted⟩
  | ConfFCntDown => exact ⟨w.bin, w.conf, w.frm, w.len, w.confLen, w.frmLen, w.accepted⟩
  | restore => exact restoreConfirmed_wf w
  | sent => exact ⟨w.bin, w.conf, w.frm, Nat.zero_lt_succ _, w.confLen, w.frmLen, w.accepted⟩
  | build h => exact built_wf w (buildFrame_some A w.bin h)
  | joinAccept h => exact saveJoinAccept_wf w h
  | forget => exact ⟨w.bin, w.conf, w.frm, w.len, Nat.zero_lt_succ _, w.frmLen, w.accepted⟩

theorem savePayload_wf {md : DLMetaData} {payload : Octets} {s s' : S} (w : s.Wf)
    (h : savePayload md payload s = some s') : s'.Wf := by
  obtain ⟨bin, hbin, rfl⟩ := Option.map_eq_some_iff.mp h
  obtain ⟨hle, -⟩ := Octets.write_eq_some.mp hbin
  have hfrm := w.frm
  refine ⟨w.bin, w.conf, ?_, w.len, w.confLen, ?_, fun _ => ?_⟩
  · exact (Octets.write_length hbin).trans w.frm
  · show payload.length ≤ 244
    omega
  · exact Octets.slice_write_self hbin

theorem wf_saved {ns : NS} (w : ns.mote.s.Wf) (e : Event) : (saved ns e).mote.s.Wf := by
  unfold saved
  split
  · split
    · exact w
    · split
      · exact w
      · rename_i hs
        exact savePayload_wf w hs
  · exact w

theorem wf_step {ns : NS} (w : ns.mote.s.Wf) (e : Event) : (step A ns e).mote.s.Wf := by
  cases hoverrun : ns.overrun with
  | true =>
    rw [step, hoverrun, if_pos rfl]
    exact w
  | false => exact (builds_step hoverrun e).keeps (fun _ _ h w => wf_change h w) (wf_saved w e)

/-! ### Runs -/

theorem overrun_saved (ns : NS) (e : Event) : (saved ns e).overrun = ns.overrun := by
  unfold saved
  split
  · split
    · rfl
    · split <;> rfl
  · rfl

theorem calls_saved (ns : NS) (e : Event) : (saved ns e).calls = ns.calls := by
  unfold saved
  split
  · split
    · rfl
    · split <;> rfl
  · rfl

variable (A)

structure Good (ns : NS) : Prop where
  overrun : ns.overrun = false
  wf : ns.mote.s.Wf
  calls : ∀ c ∈ ns.calls, FrameOk A c.before c.after

variable {A}

theorem not_lost {ns : NS} {e : Event} (hfit : FrameFits A ns e) {s : S} (w : s.Wf) :
    ¬ Lost e s := by
  have hbin := w.bin
  have hfrm := w.frm
  cases e with
  | downlink env md payload =>
    have hle : payload.length ≤ 244 := hfit.2
    obtain ⟨bin, hw⟩ := Octets.exists_write s.FRMPayloadBin 0 payload (by omega)
    simp [Lost, savePayload, hw]
  | joinAns env =>
    have hle : env.rfBuf.length < 256 := hfit.2
    obtain ⟨bin, hw⟩ := Octets.exists_write s.PHYPayloadBin 0 env.rfBuf (by omega)
    simp [Lost, saveJoinAccept, hw]
  | _ => exact id

theorem good_step {ns : NS} {e : Event} (h : Good A ns) (hfit : FrameFits A ns e) :
    Good A (step A ns e) := by
  have hbuilds := builds_step (A := A) h.overrun e
  have hwf := wf_saved h.wf e
  have hkeep : ∀ s s', Change A s s' → s.Wf → s'.Wf := fun _ _ h w => wf_change h w
  refine ⟨?_, wf_step h.wf e, ?_⟩
  · rcases hbuilds with hleads | ⟨ns₁, hleads, hlost, -⟩ | ⟨ns₁, junk, hm, hbefore, hafter⟩
    · rw [hleads.overrun, overrun_saved, h.overrun]
    · exact absurd hlost (not_lost hfit (keeps_of_change hkeep hleads.changes hwf))
    · rw [hafter.overrun, schedule]
      dsimp only
      by_cases hneeds : needsDownlink ns₁.mote = true
      · have hwf₁ := keeps_of_change hkeep hbefore.changes hwf
        obtain ⟨m', hm', -⟩ := (frameOk_iff_fits A junk hwf₁).mpr (hfit.1 _ hm hneeds)
        rw [sNS_schedule_downlink, if_pos hneeds, hm']
        rfl
      · rw [sNS_schedule_downlink, if_neg hneeds]
        rfl
  · rcases hbuilds.calls with hcalls | ⟨ns₁, junk, hm, hneeds, hchanges, hcalls⟩
    · rw [hcalls, calls_saved]
      exact h.calls
    · rw [hcalls, calls_saved]
      intro c hc
      rcases List.mem_append.mp hc with hold | hnew
      · exact h.calls c hold
      · rw [List.mem_singleton.mp hnew]
        exact (frameOk_iff_fits A junk (keeps_of_change hkeep hchanges hwf)).mpr
          (hfit.1 _ hm hneeds)

variable (A)

/-- In every run whose frames fit, every frame is laid out and every write stays inside. -/
theorem framesOk_of_fits (rows : List SessionRow) (nextSerial ID devAddr : ℕ) {es : List Event}
    (hfits : Machine.Along (step A) (FrameFits A) (.init rows nextSerial (.init ID devAddr)) es) :
    FramesOk A (Machine.run (step A) (.init rows nextSerial (.init ID devAddr)) es) := by
  have hinit : Good A (NS.init rows nextSerial (.init ID devAddr)) :=
    ⟨rfl, S.zero_wf, by simp [NS.init]⟩
  have hgood := Machine.run_invariant _ (fun _ _ h hc => good_step h hc) hinit hfits
  exact ⟨hgood.overrun, hgood.calls⟩

/-! ### The longest payload -/

/-- A downlink of `n` octets for the next frame, and an uplink that it answers. -/
def answeredWith (n : ℕ) : List Event :=
  .downlink plainDownlink ⟨1, 0, false⟩ (List.replicate n 0xaa) :: hears MTYPE_CONF_UP 0 1

theorem not_framesOk_of_empty {ns : NS}
    (h : ∃ c ∈ ns.calls, ∃ m', c.after = some m' ∧ m'.s.PHYPayloadLen = 0) : ¬FramesOk A ns := by
  rintro ⟨-, hok⟩
  obtain ⟨c, hc, m', hafter, hzero⟩ := h
  obtain ⟨m'', hm'', hlaid⟩ := hok c hc
  rw [hafter] at hm''
  obtain rfl := Option.some.inj hm''
  have := hlaid.length
  omega

/-- With 243 octets, which the server accepts, the length of the frame is 256 and wraps to zero. -/
theorem payload_243_wraps :
    ¬FramesOk BlockCipher.xorKey
      (Machine.run (step BlockCipher.xorKey) sampleServer (answeredWith 243)) := by
  apply not_framesOk_of_empty
  decide +kernel

theorem payload_242_fits :
    FramesOk BlockCipher.xorKey
      (Machine.run (step BlockCipher.xorKey) sampleServer (answeredWith 242)) :=
  framesOk_of_fits BlockCipher.xorKey [sampleRow] 1 1 sampleDevAddr (by decide +kernel)

end Lorawan.NetworkServer

import Lorawan.Backend.Message

/-!
# Request and answer (network_server/web.c:2129-2228, app_server/web.c:413-531)

A requester keeps the TransactionID it sent as a `uint32_t` and looks for it among
the answers, whose TransactionID it reads as a signed number into an `unsigned
long`. The answering server does the same with the request.
-/

namespace Lorawan.Backend
open Lorawan

/-! ### TransactionIDs -/

theorem echoed_tid (n : Int32) : n.toInt64.toUInt64.toUInt32.toInt32 = n := by
  apply Int32.toBitVec.inj
  show ((n.toBitVec).signExtend 64).setWidth 32 = n.toBitVec
  ext i hi
  rw [BitVec.getElem_setWidth, BitVec.getLsbD_signExtend]
  simp [hi]
  omega

theorem sentTID_eq_iff (sentTID : UInt32) :
    sentTID.toUInt64 = sentTID.toInt32.toInt64.toUInt64 ↔ sentTID.toNat < 2 ^ 31 := by
  rw [← UInt64.toBitVec_inj]
  show sentTID.toBitVec.setWidth 64 = sentTID.toBitVec.signExtend 64 ↔
    sentTID.toBitVec.toNat < 2 ^ 31
  have hlt := sentTID.toBitVec.isLt
  rw [← BitVec.toNat_inj, BitVec.toNat_signExtend, BitVec.toNat_setWidth, BitVec.msb_eq_decide]
  simp only [decide_eq_true_eq]
  split <;> omega

/-! ### Requesters -/

/-- The servers that send requests, by what names them (gateway.c:1251, app_server/main.c:605). -/
inductive Requester
  | networkServer (NetID : UInt32)
  | applicationServer (host : List Char) (httpd_port : ℕ)

/-- `myNetwork_idStr`, `myAS_ID[64]`. -/
def Requester.myID : Requester → List Char
  | networkServer NetID => Text.printPad 6 16 NetID.toNat
  | applicationServer host httpd_port => (host ++ ':' :: Text.print 10 httpd_port).take 63

/-- The requests a server sends. -/
def Requester.issues : Requester → MessageType → Bool
  | networkServer _, mt => mt.ansMt.isSome && decide (mt ≠ .AppSKeyReq)
  | applicationServer _ _, mt => decide (mt = .XmitDataReq) || decide (mt = .AppSKeyReq)

/-- The Result with which an answer is matched to the request sent under `sentTID`. -/
def Requester.takes (R : Requester) (sentTID : UInt32) (ans : Header) : Option Result :=
  if ans.result ≠ .Success then none
  else
    match R with
    | networkServer _ =>
      if ans.ans_mt = none ∧ sentTID.toUInt64 = ans.tid then ans.receivedResult else none
    | applicationServer _ _ =>
      if (ans.pmt = some .XmitDataAns ∨ ans.pmt = some .AppSKeyAns) ∧ sentTID.toUInt64 = ans.tid then
        ans.receivedResult
      else none

theorem scan_isSome_of_hex {hi lo : Char} {cs : List Char} (bits : ℕ) (hhi : isHexDigit hi = true)
    (hlo : isHexDigit lo = true) : (Text.scan 16 bits (hi :: lo :: cs)).isSome := by
  obtain ⟨hspace, hminus, hplus, -, -⟩ := Text.digit_ne hhi
  obtain ⟨-, -, -, hx, hX⟩ := Text.digit_ne hlo
  have hsign : Text.readSign (hi :: lo :: cs) = (false, hi :: lo :: cs) := by
    unfold Text.readSign
    split
    · rename_i heq
      exact absurd (List.cons.inj heq).1 hminus
    · rename_i heq
      exact absurd (List.cons.inj heq).1 hplus
    · rfl
  have hpre : Text.readPrefix 16 (hi :: lo :: cs) = hi :: lo :: cs := by
    unfold Text.readPrefix
    split
    · rename_i heq
      exact absurd (List.cons.inj (List.cons.inj heq).2).1 hx
    · rename_i heq
      exact absurd (List.cons.inj (List.cons.inj heq).2).1 hX
    · rfl
  rw [Text.scan, List.dropWhile_cons_of_neg (by simp [hspace]), Text.scanNumber, hsign]
  dsimp only
  rw [hpre, List.head?_cons, Option.bind_some, if_pos (by exact hhi)]
  rfl

theorem isReceiver_self (junk : ℕ × ℕ) {myID : List Char} (h : 2 ≤ myID.length) :
    isReceiver junk myID myID = true := by
  unfold isReceiver
  split
  · rename_i hhex
    cases myID with
    | nil => simp at h
    | cons hi cs =>
      cases cs with
      | nil => simp at h
      | cons lo cs =>
        simp only [ascii_hex, Bool.and_eq_true] at hhex
        dsimp only
        obtain ⟨n, hn⟩ := Option.isSome_iff_exists.mp (@scan_isSome_of_hex hi lo cs
          (if 8 < (hi :: lo :: cs).length then 64 else 32) hhex.1.1 hhex.1.2)
        rw [hn]
        simp
  · simp

theorem Requester.myID_length (R : Requester) : 2 ≤ R.myID.length := by
  cases R with
  | networkServer NetID =>
    simp only [Requester.myID, Text.printPad, List.length_append, List.length_replicate]
    omega
  | applicationServer host httpd_port =>
    have hdigits : 0 < (Text.print 10 httpd_port).length := by
      obtain ⟨ds, hprint, hne, -, -⟩ := Text.print_digits 10 httpd_port (by omega)
      rw [hprint, List.length_map]
      exact List.length_pos_iff.mpr hne
    simp only [Requester.myID, List.length_take, List.length_append, List.length_cons]
    omega

/-! ### The exchange -/

variable {D : Type} (C : Json.Conversions Member D)

/-- A request is sent to `responderID` and answered with `result`; what the requester takes from
the answer. Each message may have other members. -/
def exchange (junk : ℕ × ℕ) (R : Requester) (responderID : List Char) (mt : MessageType)
    (tid : UInt32) (result : Result) (reqMembers ansMembers : Member → Option (Json Member D)) :
    Option Result := do
  let req ← lib_parse_json C junk responderID 0
    (.object (lib_generate_json responderID R.myID tid.toUInt64 (some mt) none reqMembers))
  let senderID ← req.senderID
  let ans ← lib_parse_json C junk R.myID 0
    (.object (lib_generate_json senderID responderID req.tid req.ans_mt (some result) ansMembers))
  R.takes tid ans

/-- An answer is matched to its request, with its Result, exactly when the TransactionID is not
negative as a signed number and the Result is one that `lib_parse_json` knows. -/
theorem exchange_iff (junk : ℕ × ℕ) (R : Requester) (responderID : List Char) (mt : MessageType)
    (tid : UInt32) (result : Result) (reqMembers ansMembers : Member → Option (Json Member D))
    (hissues : R.issues mt = true) (hreq : reqMembers .Result = none) :
    exchange C junk R responderID mt tid result reqMembers ansMembers = some result ↔
      tid.toNat < 2 ^ 31 ∧ result ≠ .InvalidProtocolVersion ∧ result ≠ .UnknownReceiverID := by
  obtain ⟨ans, hans⟩ : ∃ ans, mt.ansMt = some ans := by
    cases R with
    | networkServer NetID =>
      simp only [Requester.issues, Bool.and_eq_true] at hissues
      exact Option.isSome_iff_exists.mp hissues.1
    | applicationServer host httpd_port =>
      simp only [Requester.issues, Bool.or_eq_true, decide_eq_true_eq] at hissues
      rcases hissues with rfl | rfl <;> exact ⟨_, rfl⟩
  have hself := isReceiver_self junk R.myID_length
  have htakes : ∀ h : Header, h.result = .Success → h.ans_mt = none → h.pmt = some ans →
      R.takes tid h = if tid.toUInt64 = h.tid then h.receivedResult else none := by
    intro h hok hnone hpmt
    cases R with
    | networkServer NetID => simp [Requester.takes, hok, hnone]
    | applicationServer host httpd_port =>
      simp only [Requester.issues, Bool.or_eq_true, decide_eq_true_eq] at hissues
      rcases hissues with rfl | rfl <;> cases hans <;> simp [Requester.takes, hok, hpmt]
  have hresult : (some result).bind (fun r => Result.ofText r.text) = some result ↔
      result ≠ .InvalidProtocolVersion ∧ result ≠ .UnknownReceiverID := by
    rw [Option.bind_some, Result.ofText_text, ← not_or]
    split <;> rename_i h <;> simp [h]
  have hlow : tid.toUInt64.toUInt32 = tid := UInt32.toUInt32_toUInt64 tid
  unfold exchange
  rw [lib_parse_json_generate C junk responderID R.myID responderID _ 0 mt none fun _ => hreq]
  simp only [Option.bind_eq_bind, Option.bind_some, hans]
  rw [lib_parse_json_generate C junk R.myID responderID R.myID _ 0 ans (some result) nofun]
  simp only [Option.bind_some, hself, if_true]
  rw [htakes _ rfl (MessageType.ansMt_ansMt hans) rfl, hlow, echoed_tid]
  by_cases htid : tid.toNat < 2 ^ 31
  · rw [if_pos ((sentTID_eq_iff tid).mpr htid), ← hresult, and_iff_right htid]
    exact Iff.rfl
  · rw [if_neg fun h => htid ((sentTID_eq_iff tid).mp h)]
    exact ⟨nofun, fun h => absurd h.1 htid⟩

/-- What the library makes of other types is left out. -/
def plainConversions : Json.Conversions Member ℚ := ⟨fun _ => [], fun _ => 0, fun _ => 0, fun _ => false⟩

/-- A TransactionID from 2^31 on is not found, and an unknown receiver is not told so. -/
theorem exchange_dropped :
    exchange plainConversions (0, 1) (.networkServer 0x13) "0102030405060708".toList .JoinReq
        0x80000000 .Success Json.noMembers Json.noMembers ≠ some .Success ∧
      exchange plainConversions (0, 1) (.networkServer 0x13) "000006".toList .PRStartReq
        1 .UnknownReceiverID Json.noMembers Json.noMembers ≠ some .UnknownReceiverID := by
  decide +kernel

/-- The largest TransactionID that is found. -/
theorem exchange_largest :
    exchange plainConversions (0, 1) (.networkServer 0x13) "0102030405060708".toList .JoinReq
      0x7fffffff .Success Json.noMembers Json.noMembers = some .Success :=
  (exchange_iff plainConversions (0, 1) (.networkServer 0x13) "0102030405060708".toList .JoinReq
    0x7fffffff .Success Json.noMembers Json.noMembers rfl rfl).mpr
      ⟨by decide, by decide, by decide⟩

end Lorawan.Backend

import Lorawan.Lib.Cipher

/-!
# Message integrity and payload encryption (libserver.c, cmac.c, common.c)

The cipher is a parameter (`aes.c`). `AES_CMAC_Update` and `AES_CMAC_Final`
follow `cmac.c:72-149`; a context holds the chaining value `X` and the pending
last block, whose length is `M_n`. `LoRa_Encrypt` follows `libserver.c:1647-1684`.
-/

namespace Lorawan.Backend
open Lorawan

variable (A : BlockCipher)

/-! ### Keyed hash (cmac.c) -/

structure AES_CMAC_CTX where
  X : Octets
  M_last : Octets
deriving DecidableEq

def AES_CMAC_Init : AES_CMAC_CTX := ⟨List.replicate 16 0, []⟩

/-- `while (len > 16)` of `cmac.c:91-102`; `fuel` is the length of the data. -/
def cmacBlocks (key : Octets) : ℕ → Octets → Octets → AES_CMAC_CTX
  | 0, X, data => ⟨X, data⟩
  | fuel + 1, X, data =>
    if 16 < data.length then
      cmacBlocks key fuel (A.encrypt key (Octets.xor (data.take 16) X)) (data.drop 16)
    else ⟨X, data⟩

/-- `cmac.c:72-106`. -/
def AES_CMAC_Update (key : Octets) (ctx : AES_CMAC_CTX) (data : Octets) : AES_CMAC_CTX :=
  if 0 < ctx.M_last.length then
    let mlen := min (16 - ctx.M_last.length) data.length
    let M_last := ctx.M_last ++ data.take mlen
    if M_last.length < 16 ∨ data.length = mlen then ⟨ctx.X, M_last⟩
    else
      cmacBlocks A key data.length (A.encrypt key (Octets.xor M_last ctx.X)) (data.drop mlen)
  else cmacBlocks A key data.length ctx.X data

/-- `LSHIFT`: sixteen octets, one bit to the left. -/
def LSHIFT (v : Octets) : Octets :=
  List.zipWith (fun (a b : UInt8) => (a <<< 1) ||| (b >>> 7)) v (v.drop 1 ++ [(0 : UInt8)])

/-- `K <<= 1`, with `0x87` folded in when the top bit was set. -/
def cmacSubkey (K : Octets) : Octets :=
  if K.headD 0 &&& 0x80 ≠ 0 then
    Octets.xor (LSHIFT K) (List.replicate 15 0 ++ [0x87])
  else LSHIFT K

/-- `cmac.c:108-149`. -/
def AES_CMAC_Final (key : Octets) (ctx : AES_CMAC_CTX) : Octets :=
  let K1 := cmacSubkey (A.encrypt key (List.replicate 16 0))
  let last :=
    if ctx.M_last.length = 16 then Octets.xor K1 ctx.M_last
    else
      let padded := ctx.M_last ++ [0x80] ++ List.replicate (15 - ctx.M_last.length) 0
      Octets.xor (cmacSubkey K1) padded
  A.encrypt key (Octets.xor last ctx.X)

/-- `LoRa_GenerateJoinFrameIntegrityCode` (`libserver.c:2089-2105`): four octets. -/
def LoRa_GenerateJoinFrameIntegrityCode (key input : Octets) : Octets :=
  (AES_CMAC_Final A key (AES_CMAC_Update A key AES_CMAC_Init input)).take 4

/-- `block_t` (`ns.h:377-390`), the B0 block of a data frame. -/
structure block_t where
  header : UInt8
  confFCnt : ℕ
  dr : UInt8
  ch : UInt8
  dir : UInt8
  DevAddr : ℕ
  FCnt : ℕ
  zero8 : UInt8
  lenMsg : ℕ
deriving DecidableEq

def block_t.octets (b : block_t) : Octets :=
  [b.header] ++ Octets.ofNat 2 b.confFCnt ++ [b.dr, b.ch, b.dir] ++ Octets.ofNat 4 b.DevAddr ++
    Octets.ofNat 4 b.FCnt ++ [b.zero8] ++ Octets.ofNat 1 b.lenMsg

/-- `LoRa_GenerateDataFrameIntegrityCode` (`common.c:45-69`): the four octets that
`memcpy(&mic, temp, 4)` takes. `pktPayload` is read for `lenMsg` octets. -/
def LoRa_GenerateDataFrameIntegrityCode (block : block_t) (sNwkSIntKey pktPayload : Octets) :
    Octets :=
  let ctx := AES_CMAC_Update A sNwkSIntKey AES_CMAC_Init block.octets
  let ctx := AES_CMAC_Update A sNwkSIntKey ctx (pktPayload.take (block.lenMsg % 256))
  (AES_CMAC_Final A sNwkSIntKey ctx).take 4

/-! ### Payload encryption (libserver.c:1618-1684) -/

def FindBlockOverhang (inputDataLength : ℕ) : ℕ := inputDataLength % 16

def CountBlocks (inputDataLength : ℕ) : ℕ :=
  inputDataLength / 16 + (if 0 < FindBlockOverhang inputDataLength then 1 else 0)

/-- The counter block `A` of `LoRa_Encrypt`. -/
def encryptBlock (i : ℕ) (address : ℕ) (up : Bool) (sequenceNumber : ℕ) : Octets :=
  [0x01, 0, 0, 0, 0, if up then 0 else 1] ++ Octets.ofNat 4 address ++
    Octets.ofNat 4 sequenceNumber ++ [0] ++ Octets.ofNat 1 i

/-- How many octets the iteration `i` combines. -/
def bytesToExOr (i inputDataLength : ℕ) : ℕ :=
  if i < CountBlocks inputDataLength ∨ FindBlockOverhang inputDataLength = 0 then 16
  else FindBlockOverhang inputDataLength

/-- The keystream block of iteration `i`, cut to what the iteration combines. -/
def keystream (key : Octets) (address : ℕ) (up : Bool) (sequenceNumber inputDataLength i : ℕ) :
    Octets :=
  (A.encrypt key (encryptBlock i address up sequenceNumber)).take (bytesToExOr i inputDataLength)

/-- The iterations `i`, `i + 1`, .. of the loop, `n` of them: iteration `j` combines
the input from `16 * (j - i)` on and writes as many octets from the same place on. -/
def encryptLoop (key input : Octets) (address : ℕ) (up : Bool)
    (sequenceNumber inputDataLength : ℕ) : ℕ → ℕ → Octets
  | _, 0 => []
  | i, n + 1 =>
    Octets.xor (keystream A key address up sequenceNumber inputDataLength i) input ++
      encryptLoop key (input.drop 16) address up sequenceNumber inputDataLength (i + 1) n

/-- `LoRa_Encrypt(i, key, in, inputDataLength, address, up, sequenceNumber, out)`: the
octets written from `out` on. With `i = 0` the loop makes one iteration more than there
are blocks, so `in` is read past `inputDataLength`: `input` is the memory from `in` on. -/
def LoRa_Encrypt (i : ℕ) (key input : Octets) (inputDataLength address : ℕ) (up : Bool)
    (sequenceNumber : ℕ) : Octets :=
  if inputDataLength = 0 then []
  else
    encryptLoop A key input address up sequenceNumber inputDataLength i
      (CountBlocks inputDataLength + 1 - i)

/-! ### Lengths -/

theorem LSHIFT_length {v : Octets} (h : v.length = 16) : (LSHIFT v).length = 16 := by
  simp only [LSHIFT, List.length_zipWith, List.length_append, List.length_drop, List.length_cons,
    List.length_nil, h]
  omega

theorem cmacSubkey_length {K : Octets} (h : K.length = 16) : (cmacSubkey K).length = 16 := by
  unfold cmacSubkey
  split
  · simp only [Octets.length_xor, LSHIFT_length h, List.length_append, List.length_replicate,
      List.length_cons, List.length_nil]
    omega
  · exact LSHIFT_length h

/-- The context keeps a whole chaining block and at most one pending block. -/
structure AES_CMAC_CTX.Wf (ctx : AES_CMAC_CTX) : Prop where
  X_length : ctx.X.length = 16
  M_n_le : ctx.M_last.length ≤ 16

theorem AES_CMAC_Init_wf : AES_CMAC_Init.Wf :=
  ⟨by simp only [AES_CMAC_Init, List.length_replicate], by simp [AES_CMAC_Init]⟩

theorem cmacBlocks_wf (key : Octets) (fuel : ℕ) (X data : Octets) (hX : X.length = 16)
    (hf : data.length ≤ fuel) : (cmacBlocks A key fuel X data).Wf := by
  induction fuel generalizing X data with
  | zero => exact ⟨hX, (show data.length ≤ 16 by omega)⟩
  | succ fuel ih =>
    unfold cmacBlocks
    split
    · rename_i hlong
      apply ih
      · apply A.encrypt_length
        simp only [Octets.length_xor, List.length_take, hX]
        omega
      · simp only [List.length_drop]
        omega
    · rename_i hshort
      exact ⟨hX, (show data.length ≤ 16 by omega)⟩

theorem AES_CMAC_Update_wf (key : Octets) {ctx : AES_CMAC_CTX} (h : ctx.Wf) (data : Octets) :
    (AES_CMAC_Update A key ctx data).Wf := by
  obtain ⟨hX, hM⟩ := h
  unfold AES_CMAC_Update
  split
  · dsimp only
    split
    · refine ⟨hX, ?_⟩
      simp only [List.length_append, List.length_take]
      omega
    · rename_i hfull
      have hlen : (ctx.M_last ++ data.take (min (16 - ctx.M_last.length) data.length)).length
          = 16 := by
        simp only [List.length_append, List.length_take] at hfull ⊢
        omega
      apply cmacBlocks_wf
      · apply A.encrypt_length
        simp only [Octets.length_xor, hlen, hX]
        omega
      · simp only [List.length_drop]
        omega
  · exact cmacBlocks_wf A key _ _ _ hX (le_refl _)

theorem AES_CMAC_Final_length (key : Octets) {ctx : AES_CMAC_CTX} (h : ctx.Wf) :
    (AES_CMAC_Final A key ctx).length = 16 := by
  obtain ⟨hX, hM⟩ := h
  have hK : (cmacSubkey (A.encrypt key (List.replicate 16 0))).length = 16 :=
    cmacSubkey_length (A.encrypt_length key _ List.length_replicate)
  unfold AES_CMAC_Final
  apply A.encrypt_length
  simp only [Octets.length_xor, hX]
  split
  · rename_i hfull
    simp only [Octets.length_xor, hK, hfull]
    omega
  · simp only [Octets.length_xor, cmacSubkey_length hK, List.length_append, List.length_cons,
      List.length_nil, List.length_replicate]
    omega

theorem LoRa_GenerateJoinFrameIntegrityCode_length (key input : Octets) :
    (LoRa_GenerateJoinFrameIntegrityCode A key input).length = 4 := by
  have h := AES_CMAC_Final_length A key (AES_CMAC_Update_wf A key AES_CMAC_Init_wf input)
  simp only [LoRa_GenerateJoinFrameIntegrityCode, List.length_take, h]
  omega

theorem LoRa_GenerateDataFrameIntegrityCode_length (block : block_t) (key payload : Octets) :
    (LoRa_GenerateDataFrameIntegrityCode A block key payload).length = 4 := by
  have hctx := AES_CMAC_Update_wf A key
    (AES_CMAC_Update_wf A key AES_CMAC_Init_wf block.octets) (payload.take (block.lenMsg % 256))
  simp only [LoRa_GenerateDataFrameIntegrityCode, List.length_take, AES_CMAC_Final_length A key hctx]
  omega

theorem encryptBlock_length (i address : ℕ) (up : Bool) (sequenceNumber : ℕ) :
    (encryptBlock i address up sequenceNumber).length = 16 := by
  simp [encryptBlock]

end Lorawan.Backend

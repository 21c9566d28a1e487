import Lorawan.Backend.Crypto
import Lorawan.Lib.Stores

/-!
# The payload cipher, access by access (libserver.c:1611-1685)

`LoRa_Encrypt` of `Crypto.lean` gives the octets that are written. Here its loop runs with
the index of the source's type, and every octet it reads or stores is recorded.
-/

namespace Lorawan.Backend
open Lorawan

variable (A : BlockCipher)

/-! ### The loop -/

/-- `BlockExOr(S, in + pos, out + pos, bytes)`. -/
def BlockExOr (S : Octets) (input : Buffer) (pos bytes : ℕ) : Accesses where
  reads := (List.range bytes).map (pos + ·)
  stores := (List.range bytes).map fun k => (pos + k, S.getD k 0 ^^^ input (pos + k))

/-- `for ( ; i <= blocks; i++, blockInput += 16, blockOutput += 16)`: `none` is a loop that
goes on for longer than `fuel`. -/
def encryptFrom (key : Octets) (input : Buffer) (address : ℕ) (up : Bool) (sequenceNumber : ℕ)
    (inputDataLength : UInt16) : ℕ → UInt8 → ℕ → Option Accesses
  | 0, _, _ => none
  | fuel + 1, i, pos =>
    if i.toNat ≤ CountBlocks inputDataLength.toNat then
      let S := A.encrypt key (encryptBlock i.toNat address up sequenceNumber)
      let block := BlockExOr S input pos (bytesToExOr i.toNat inputDataLength.toNat)
      (encryptFrom key input address up sequenceNumber inputDataLength fuel (i + 1)
        (pos + 16)).map block.append
    else some .none

/-- `LoRa_Encrypt`, given `fuel` for its loop. -/
def encryptAccesses (key : Octets) (input : Buffer) (address : ℕ) (up : Bool)
    (sequenceNumber : ℕ) (i : UInt8) (inputDataLength : UInt16) (fuel : ℕ) : Option Accesses :=
  if inputDataLength = 0 then some .none
  else encryptFrom A key input address up sequenceNumber inputDataLength fuel i 0

/-! ### What it is for -/

/-- Octet `k` of keystream block `b`. -/
def keystreamOctet (key : Octets) (address : ℕ) (up : Bool) (sequenceNumber b k : ℕ) : UInt8 :=
  (A.encrypt key (encryptBlock b address up sequenceNumber)).getD k 0

/-- A call that starts at block `i` has returned after the accesses `run`, all of them to the
payload, and has combined it with the keystream. -/
structure Ciphers (key : Octets) (input : Buffer) (address : ℕ) (up : Bool) (sequenceNumber : ℕ)
    (i : UInt8) (n : UInt16) (run : Accesses) : Prop where
  returns : ∃ fuel, encryptAccesses A key input address up sequenceNumber i n fuel = some run
  reads : ∀ k ∈ run.reads, k < n.toNat
  stores : ∀ store ∈ run.stores, store.1 < n.toNat
  combined : ∀ out, ∀ k < n.toNat, run.apply out k =
    input k ^^^ keystreamOctet A key address up sequenceNumber (i.toNat + k / 16) (k % 16)
  /-- The same call on the result gives the input back. -/
  undone : ∀ out out', ∃ again,
    (∃ fuel, encryptAccesses A key (run.apply out) address up sequenceNumber i n fuel =
      some again) ∧ ∀ k < n.toNat, again.apply out' k = input k

/-! ### The loop in closed form -/

theorem bytesToExOr_le (i n : ℕ) : bytesToExOr i n ≤ 16 := by
  unfold bytesToExOr FindBlockOverhang
  split <;> omega

section Loop

variable (key : Octets) (input : Buffer) (address : ℕ) (up : Bool) (sequenceNumber : ℕ)

/-- The accesses of the iterations `i`, `i + 1`, .. from `pos` on, `count` of them. -/
def blockAccesses (n : ℕ) : ℕ → ℕ → ℕ → Accesses
  | _, _, 0 => .none
  | i, pos, count + 1 =>
    (BlockExOr (A.encrypt key (encryptBlock i address up sequenceNumber)) input pos
      (bytesToExOr i n)).append (blockAccesses n (i + 1) (pos + 16) count)

theorem encryptFrom_eq {n : UInt16} (hblocks : CountBlocks n.toNat < 255) (fuel : ℕ) (i : UInt8)
    (pos : ℕ) :
    encryptFrom A key input address up sequenceNumber n fuel i pos =
      if CountBlocks n.toNat + 1 - i.toNat < fuel then
        some (blockAccesses A key input address up sequenceNumber n.toNat i.toNat pos
          (CountBlocks n.toNat + 1 - i.toNat))
      else none := by
  induction fuel generalizing i pos with
  | zero => rfl
  | succ fuel ih =>
    unfold encryptFrom
    by_cases hi : i.toNat ≤ CountBlocks n.toNat
    · have hnext : (i + 1).toNat = i.toNat + 1 := by
        rw [UInt8.toNat_add]
        exact Nat.mod_eq_of_lt (show i.toNat + 1 < 256 by omega)
      rw [if_pos hi, ih, hnext]
      obtain ⟨count, hcount⟩ : ∃ count, CountBlocks n.toNat + 1 - i.toNat = count + 1 :=
        ⟨CountBlocks n.toNat - i.toNat, by omega⟩
      have hrest : CountBlocks n.toNat + 1 - (i.toNat + 1) = count := by omega
      rw [hcount, hrest]
      by_cases hfuel : count < fuel
      · rw [if_pos hfuel, if_pos (by omega)]
        rfl
      · rw [if_neg hfuel, if_neg (by omega)]
        rfl
    · have hzero : CountBlocks n.toNat + 1 - i.toNat = 0 := by omega
      rw [if_neg hi, hzero, if_pos (Nat.succ_pos fuel)]
      rfl

/-- An index of eight bits never passes 255. -/
theorem encryptFrom_none {n : UInt16} (hblocks : 255 ≤ CountBlocks n.toNat) (fuel : ℕ)
    (i : UInt8) (pos : ℕ) :
    encryptFrom A key input address up sequenceNumber n fuel i pos = none := by
  induction fuel generalizing i pos with
  | zero => rfl
  | succ fuel ih =>
    have hi : i.toNat < 256 := i.toNat_lt
    unfold encryptFrom
    rw [if_pos (by omega), ih]
    rfl

theorem reads_blockAccesses (n i pos count : ℕ) :
    (blockAccesses A key input address up sequenceNumber n i pos count).reads =
      (blockAccesses A key input address up sequenceNumber n i pos count).stores.map (·.1) := by
  induction count generalizing i pos with
  | zero => rfl
  | succ count ih =>
    simp only [blockAccesses, Accesses.append, ih, BlockExOr, List.map_append, List.map_map]
    rfl

theorem mem_blockAccesses (n i pos count : ℕ) (store : ℕ × UInt8) :
    store ∈ (blockAccesses A key input address up sequenceNumber n i pos count).stores ↔
      ∃ j < count, ∃ k < bytesToExOr (i + j) n, store = (pos + (16 * j + k),
        keystreamOctet A key address up sequenceNumber (i + j) k ^^^
          input (pos + (16 * j + k))) := by
  induction count generalizing i pos with
  | zero => simp [blockAccesses, Accesses.none]
  | succ count ih =>
    simp only [blockAccesses, Accesses.append, List.mem_append, ih, BlockExOr, List.mem_map,
      List.mem_range]
    constructor
    · rintro (⟨k, hk, rfl⟩ | ⟨j, hj, k, hk, rfl⟩)
      · exact ⟨0, Nat.succ_pos _, k, hk, by simp [keystreamOctet]⟩
      · refine ⟨j + 1, Nat.succ_lt_succ hj, k, ?_, ?_⟩
        · rwa [Nat.add_comm j, ← Nat.add_assoc]
        · rw [show i + (j + 1) = i + 1 + j by omega,
            show pos + (16 * (j + 1) + k) = pos + 16 + (16 * j + k) by omega]
    · rintro ⟨j, hj, k, hk, rfl⟩
      cases j with
      | zero =>
        left
        exact ⟨k, hk, by simp [keystreamOctet]⟩
      | succ j =>
        right
        refine ⟨j, Nat.lt_of_succ_lt_succ hj, k, ?_, ?_⟩
        · rwa [show i + 1 + j = i + (j + 1) by omega]
        · rw [show i + (j + 1) = i + 1 + j by omega,
            show pos + (16 * (j + 1) + k) = pos + 16 + (16 * j + k) by omega]

theorem encryptLoop_drop (l : Octets) (n i pos count : ℕ) (h : pos + 16 * count ≤ l.length) :
    encryptLoop A key (l.drop pos) address up sequenceNumber n i count =
      (blockAccesses A key (l.getD · 0) address up sequenceNumber n i pos count).stores.map
        (·.2) := by
  induction count generalizing i pos with
  | zero => rfl
  | succ count ih =>
    have hS : (A.encrypt key (encryptBlock i address up sequenceNumber)).length = 16 :=
      A.encrypt_length key _ (encryptBlock_length i address up sequenceNumber)
    have hbytes := bytesToExOr_le i n
    have hblock : Octets.xor (keystream A key address up sequenceNumber n i) (l.drop pos) =
        (List.range (bytesToExOr i n)).map fun k =>
          (A.encrypt key (encryptBlock i address up sequenceNumber)).getD k 0 ^^^
            l.getD (pos + k) 0 := by
      apply List.ext_getElem
      · simp only [Octets.length_xor, keystream, List.length_take, List.length_drop,
          List.length_map, List.length_range, hS]
        omega
      · intro k hk hk'
        have hlt : k < bytesToExOr i n := by simpa using hk'
        have hin : pos + k < l.length := by omega
        simp [Octets.xor, keystream, hS, hin, show k < 16 by omega]
    simp only [encryptLoop, blockAccesses, Accesses.append, List.map_append, BlockExOr,
      List.map_map]
    rw [hblock, List.drop_drop, ih _ _ (by omega)]
    rfl

theorem encryptAccesses_stores (l : Octets) {i : UInt8} {n : UInt16} {fuel : ℕ} {run : Accesses}
    (hblocks : CountBlocks n.toNat < 255) (hl : 16 * (CountBlocks n.toNat + 1) ≤ l.length)
    (hrun : encryptAccesses A key (l.getD · 0) address up sequenceNumber i n fuel = some run) :
    LoRa_Encrypt A i.toNat key l n.toNat address up sequenceNumber = run.stores.map (·.2) := by
  unfold encryptAccesses at hrun
  unfold LoRa_Encrypt
  by_cases hn : n = 0
  · rw [if_pos hn] at hrun
    rw [if_pos (by rw [hn]; rfl), ← Option.some.inj hrun]
    rfl
  · have hpos : n.toNat ≠ 0 := fun h => hn (UInt16.toNat_inj.mp h)
    rw [if_neg hn, encryptFrom_eq A key _ address up sequenceNumber hblocks] at hrun
    rw [if_neg hpos]
    split at hrun
    · rw [← Option.some.inj hrun]
      exact encryptLoop_drop A key address up sequenceNumber l _ _ 0 _ (by omega)
    · exact absurd hrun (by simp)

end Loop

/-! ### Which octets are touched -/

theorem bytesToExOr_pos (i n : ℕ) : 0 < bytesToExOr i n := by
  unfold bytesToExOr FindBlockOverhang
  split <;> omega

theorem countBlocks_lt_iff (n : ℕ) : CountBlocks n < 255 ↔ n ≤ 16 * 254 := by
  unfold CountBlocks FindBlockOverhang
  split <;> omega

theorem octet_lt_iff {n j k : ℕ} (hk : k < 16) :
    j < CountBlocks n ∧ k < bytesToExOr (1 + j) n ↔ 16 * j + k < n := by
  unfold bytesToExOr CountBlocks FindBlockOverhang
  split <;> split <;> omega

theorem le_countBlocks (n : ℕ) : n ≤ 16 * CountBlocks n ∧ 16 * CountBlocks n < n + 16 := by
  unfold CountBlocks FindBlockOverhang
  split <;> omega

section Calls

variable (key : Octets) (address : ℕ) (up : Bool) (sequenceNumber : ℕ) {input : Buffer}

theorem encryptAccesses_eq {i : UInt8} {n : UInt16} (hn : n ≠ 0) {fuel : ℕ} {run : Accesses}
    (h : encryptAccesses A key input address up sequenceNumber i n fuel = some run) :
    CountBlocks n.toNat < 255 ∧
      run = blockAccesses A key input address up sequenceNumber n.toNat i.toNat 0
        (CountBlocks n.toNat + 1 - i.toNat) := by
  unfold encryptAccesses at h
  rw [if_neg hn] at h
  have hblocks : CountBlocks n.toNat < 255 := by
    by_contra hlong
    rw [encryptFrom_none A key input address up sequenceNumber (by omega)] at h
    cases h
  rw [encryptFrom_eq A key input address up sequenceNumber hblocks] at h
  split at h
  · exact ⟨hblocks, (Option.some.inj h).symm⟩
  · cases h

theorem returns_of_short (input : Buffer) (i : UInt8) {n : UInt16} (hn : n ≠ 0)
    (hblocks : CountBlocks n.toNat < 255) :
    ∃ fuel, encryptAccesses A key input address up sequenceNumber i n fuel =
      some (blockAccesses A key input address up sequenceNumber n.toNat i.toNat 0
        (CountBlocks n.toNat + 1 - i.toNat)) := by
  refine ⟨CountBlocks n.toNat + 2, ?_⟩
  unfold encryptAccesses
  rw [if_neg hn, encryptFrom_eq A key input address up sequenceNumber hblocks, if_pos (by omega)]

theorem ciphers_empty (input : Buffer) (i : UInt8) :
    Ciphers A key input address up sequenceNumber i 0 .none := by
  have hnone : ∀ input fuel, encryptAccesses A key input address up sequenceNumber i 0 fuel =
      some .none := fun _ _ => rfl
  refine ⟨⟨0, hnone _ _⟩, by simp [Accesses.none], by simp [Accesses.none], ?_, ?_⟩
  · intro out k hk
    exact absurd hk (Nat.not_lt_zero k)
  · intro out out'
    exact ⟨.none, ⟨0, hnone _ _⟩, fun k hk => absurd hk (Nat.not_lt_zero k)⟩

theorem combined_from_one (input out : Buffer) {n k : ℕ} (hk : k < n) :
    (blockAccesses A key input address up sequenceNumber n 1 0 (CountBlocks n)).apply out k =
      input k ^^^ keystreamOctet A key address up sequenceNumber (1 + k / 16) (k % 16) := by
  have hsplit : 0 + (16 * (k / 16) + k % 16) = k := by omega
  apply Accesses.apply_of_mem
  · rw [mem_blockAccesses]
    have hlt : 16 * (k / 16) + k % 16 < n := by omega
    have hin := (octet_lt_iff (Nat.mod_lt k (by omega : 16 > 0))).mpr hlt
    refine ⟨k / 16, hin.1, k % 16, hin.2, ?_⟩
    rw [hsplit, UInt8.xor_comm]
  · intro store hstore hat
    obtain ⟨j, hj, k', hk', rfl⟩ := (mem_blockAccesses ..).mp hstore
    have hlt := bytesToExOr_le (1 + j) n
    have hat : 0 + (16 * j + k') = k := hat
    have hj : j = k / 16 := by omega
    have hk' : k' = k % 16 := by omega
    rw [hj, hk', hsplit, UInt8.xor_comm]

theorem ciphers_one (input : Buffer) {n : UInt16} (hn : n ≠ 0) (hlen : n.toNat ≤ 16 * 254) :
    Ciphers A key input address up sequenceNumber 1 n
      (blockAccesses A key input address up sequenceNumber n.toNat 1 0
        (CountBlocks n.toNat)) := by
  have hreturns := fun input => returns_of_short A key address up
    sequenceNumber input 1 hn ((countBlocks_lt_iff _).mpr hlen)
  have hstores : ∀ store ∈ (blockAccesses A key input address up sequenceNumber n.toNat 1 0
      (CountBlocks n.toNat)).stores, store.1 < n.toNat := by
    intro store hstore
    obtain ⟨j, hj, k, hk, rfl⟩ := (mem_blockAccesses ..).mp hstore
    have hlt := bytesToExOr_le (1 + j) n.toNat
    have := (octet_lt_iff (by omega : k < 16)).mp ⟨hj, hk⟩
    simpa using this
  refine ⟨hreturns input, ?_, hstores, ?_, ?_⟩
  · intro k hk
    rw [reads_blockAccesses] at hk
    obtain ⟨store, hstore, rfl⟩ := List.mem_map.mp hk
    exact hstores store hstore
  · intro out k hk
    exact combined_from_one A key address up sequenceNumber input out hk
  · intro out out'
    refine ⟨_, hreturns _, ?_⟩
    intro k hk
    have hagain := combined_from_one A key address up sequenceNumber
      ((blockAccesses A key input address up sequenceNumber n.toNat 1 0
        (CountBlocks n.toNat)).apply out) out' hk
    rw [combined_from_one A key address up sequenceNumber input out hk] at hagain
    exact hagain.trans (by rw [UInt8.xor_assoc, UInt8.xor_self, UInt8.xor_zero])

theorem not_ciphers_zero {n : UInt16} (hn : n ≠ 0) (run : Accesses) :
    ¬Ciphers A key input address up sequenceNumber 0 n run := by
  intro h
  have hpos : n.toNat ≠ 0 := fun h => hn (UInt16.toNat_inj.mp h)
  obtain ⟨fuel, hfuel⟩ := h.returns
  obtain ⟨_, rfl⟩ := encryptAccesses_eq A key address up sequenceNumber hn hfuel
  have hpast := h.stores _ ((mem_blockAccesses ..).mpr
    ⟨CountBlocks n.toNat, Nat.lt_succ_self _, 0, bytesToExOr_pos _ _, rfl⟩)
  have := (le_countBlocks n.toNat).1
  simp at hpast
  omega

theorem not_ciphers_late {i : UInt8} (hi : 2 ≤ i.toNat) {n : UInt16} (hn : n ≠ 0)
    (run : Accesses) : ¬Ciphers A key input address up sequenceNumber i n run := by
  intro h
  have hpos : n.toNat ≠ 0 := fun h => hn (UInt16.toNat_inj.mp h)
  obtain ⟨fuel, hfuel⟩ := h.returns
  obtain ⟨_, rfl⟩ := encryptAccesses_eq A key address up sequenceNumber hn hfuel
  have hkept : ∀ out : Buffer, out (n.toNat - 1) = input (n.toNat - 1) ^^^
      keystreamOctet A key address up sequenceNumber (i.toNat + (n.toNat - 1) / 16)
        ((n.toNat - 1) % 16) := by
    intro out
    rw [← h.combined out (n.toNat - 1) (by omega)]
    symm
    apply Accesses.apply_of_not_mem
    intro store hstore
    obtain ⟨j, hj, k, hk, rfl⟩ := (mem_blockAccesses ..).mp hstore
    have hlt := bytesToExOr_le (i.toNat + j) n.toNat
    have := (le_countBlocks n.toNat).2
    show 0 + (16 * j + k) ≠ n.toNat - 1
    omega
  exact absurd ((hkept fun _ => 0).trans (hkept fun _ => 1).symm) (by decide)

end Calls

/-- **`LoRa_Encrypt` ciphers the payload and nothing else exactly when it starts at block 1,
or has nothing to do.** The block index must not run over: 254 blocks. -/
theorem ciphers_iff (key : Octets) (input : Buffer) (address : ℕ) (up : Bool)
    (sequenceNumber : ℕ) (i : UInt8) (n : UInt16) :
    (∃ run, Ciphers A key input address up sequenceNumber i n run) ↔
      n = 0 ∨ i = 1 ∧ n.toNat ≤ 16 * 254 := by
  constructor
  · rintro ⟨run, h⟩
    by_cases hn : n = 0
    · exact Or.inl hn
    · right
      obtain ⟨fuel, hfuel⟩ := h.returns
      have hblocks := (encryptAccesses_eq A key address up sequenceNumber hn hfuel).1
      refine ⟨?_, (countBlocks_lt_iff _).mp hblocks⟩
      have hzero : i ≠ 0 := by
        rintro rfl
        exact not_ciphers_zero A key address up sequenceNumber hn run h
      have hlate : ¬2 ≤ i.toNat := by
        intro hi
        exact not_ciphers_late A key address up sequenceNumber hi hn run h
      apply UInt8.toNat_inj.mp
      have : i.toNat ≠ 0 := fun h => hzero (UInt8.toNat_inj.mp h)
      show i.toNat = 1
      omega
  · intro h
    by_cases hn : n = 0
    · subst hn
      exact ⟨_, ciphers_empty A key address up sequenceNumber input i⟩
    · obtain ⟨rfl, hlen⟩ := h.resolve_left hn
      exact ⟨_, ciphers_one A key address up sequenceNumber input hn hlen⟩

/-- Fifteen octets of FOpts: thirty-one are read and stored. -/
theorem fOpts_overrun :
    (encryptAccesses .xorKey (List.replicate 16 0) (fun _ => 0) 0 false 0 0 15 3).map (·.reads) =
        some (List.range 31) ∧
      ¬∃ run, Ciphers .xorKey (List.replicate 16 0) (fun _ => 0) 0 false 0 0 15 run := by
  constructor
  · decide +kernel
  · rintro ⟨run, h⟩
    exact not_ciphers_zero _ _ _ _ _ (by decide) run h

end Lorawan.Backend

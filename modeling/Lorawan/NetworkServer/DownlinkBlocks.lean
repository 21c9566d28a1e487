import Lorawan.Lib.Blocks
import Lorawan.NetworkServer.UplinkMetaData

/-!
# The blocks of downlink metadata (common.c:888-892, 935-953, 1645-1659)

The parser allocates the token of the fNS and a list of the gateways' tokens; `dlmd_free` gives back
what `downlinkJson` got from it. Here is the parser with the blocks it allocates.
-/

namespace Lorawan.NetworkServer
open Lorawan Lorawan.Backend

/-- A text, or `struct _ultList` (`ns.h:85-88`) with its two pointers. -/
inductive Block
  | chars (str : List Char)
  | ultList (ULToken next : Option ℕ)

namespace Block

def putToken (token : ℕ) : Block → Block
  | ultList _ next => ultList (some token) next
  | b => b

def putNext (next : Option ℕ) : Block → Block
  | ultList token _ => ultList token next
  | b => b

end Block

variable {S D : Type} (E : JsonEnv S D)

/-! ### The functions -/

/-- The loop over the elements of `GWInfo`. -/
def ultLoop (mylist : ℕ) : List (Json Member D) → Heap Block → Except Fault (Heap Block)
  | [], h => .ok h
  | v :: vs, h => do
    let str ← deref (v.get_string E.conv)
    let (token, h) := h.alloc (.chars str)
    let h := h.update mylist (.putToken token)
    if vs = [] then ultLoop mylist vs (h.update mylist (.putNext none))
    else
      let (next, h) := h.alloc (.ultList none none)
      ultLoop mylist vs (h.update mylist (.putNext (some next)))

/-- What the parser returns, with the two pointers into the blocks it allocated. -/
structure Parsed (S : Type) where
  role : role_e
  out : DLMetaData_t S
  FNSULToken : Option ℕ
  ultList : Option ℕ
  heap : Heap Block

/-- `malloc` and `strcpy` of a text that is there. -/
def allocText (str : Option (List Char)) (h : Heap Block) : Option ℕ × Heap Block :=
  match str with
  | none => (none, h)
  | some str =>
    let (token, h) := h.alloc (.chars str)
    (some token, h)

/-- `parseDLMetaData` with its blocks. -/
def parseDLMetaDataBlocks (obj : Json Member D) : Except Fault (Parsed S) := do
  let (role, out) ← parseDLMetaData E obj
  if role = .fNS then do
    let (FNSULToken, h) := allocText out.FNSULToken .empty
    match obj.get_ex .GWInfo with
    | none => pure ⟨role, out, FNSULToken, none, h⟩
    | some v => do
      let vs ← deref v.elements
      let (ultList, h) := h.alloc (.ultList none none)
      let h ← ultLoop E ultList vs h
      pure ⟨role, out, FNSULToken, some ultList, h⟩
  else pure ⟨role, out, none, none, .empty⟩

/-- The loop of `dlmd_free`, with fuel for the nodes. -/
def dlmd_free (FNSULToken : Option ℕ) : ℕ → Option ℕ → Heap Block → Option (Heap Block)
  | _, none, h => some h
  | 0, some _, _ => none
  | fuel + 1, some node, h => do
    match h.get node with
    | some (.ultList token next) => do
      let h ← h.freeSome token
      let h ← h.freeSome FNSULToken
      let h ← h.free node
      dlmd_free FNSULToken fuel next h
    | _ => none

/-- The texts of the nodes from `node` on. -/
def nodeTokens (h : Heap Block) : ℕ → Option ℕ → List (Option (List Char))
  | _, none => []
  | 0, some _ => []
  | fuel + 1, some node =>
    match h.get node with
    | some (.ultList token next) =>
      (token.bind fun token =>
        match h.get token with
        | some (.chars str) => some str
        | _ => none) :: nodeTokens h fuel next
    | _ => []

namespace Parsed

def tokens (p : Parsed S) : List (Option (List Char)) :=
  nodeTokens p.heap p.heap.blocks.length p.ultList

def release (p : Parsed S) : Option (Heap Block) :=
  dlmd_free p.FNSULToken p.heap.blocks.length p.ultList p.heap

end Parsed

/-- The class that the object names. -/
def classMode (obj : Json Member D) : Option Char :=
  ((obj.get_ex .ClassMode).bind fun v => v.get_string E.conv).bind List.head?

/-- The object is for an fNS: it has a frequency, and all that comes with one. -/
def forFNS (obj : Json Member D) : Bool :=
  let freq := fun member => readSingle E E.floats.zero (obj.get_ex member)
  (!E.floats.isZero (freq .DLFreq1) || !E.floats.isZero (freq .DLFreq2)) &&
    (obj.get_ex .RXDelay1).isSome && (obj.get_ex .ClassMode).isSome &&
    (decide (classMode E obj ≠ some 'B') || (obj.get_ex .PingPeriod).isSome)

/-- The elements that are for the receiver: an sNS takes none. -/
def gateways (obj : Json Member D) : List (Json Member D) :=
  if forFNS E obj then ((obj.get_ex .GWInfo).bind Json.elements).getD [] else []

/-- One node for each element, with its token, and each block given back exactly once. -/
structure Owned (obj : Json Member D) (p : Parsed S) : Prop where
  tokens : p.tokens = (gateways E obj).map fun v => v.get_string E.conv
  released : ∃ h, p.release = some h ∧ h.Balanced

/-! ### The list after the loop -/

variable {E}

/-- The node holds the text of the last element, and is the only one. -/
structure LastToken (mylist : ℕ) (h h' : Heap Block) (str : List Char) (token : ℕ) : Prop where
  node : h'.blocks[mylist]? = some (.ultList (some token) none)
  text : h'.blocks[token]? = some (.chars str)
  fresh : h.blocks.length ≤ token
  freed : h'.freed = h.freed

theorem ultLoop_last {mylist : ℕ} {vs : List (Json Member D)} {h h' : Heap Block}
    {token next : Option ℕ} (hnode : h.blocks[mylist]? = some (.ultList token next))
    (hloop : ultLoop E mylist vs h = .ok h') (hne : vs ≠ []) (old : Option (List Char)) :
    (∃ str token, LastToken mylist h h' str token ∧ parseULTokens E old vs = .ok (some str)) ∧
      h'.blocks.length + 1 = h.blocks.length + 2 * vs.length := by
  induction vs generalizing h token next old with
  | nil => exact absurd rfl hne
  | cons v vs ih =>
    obtain ⟨hlt, hget⟩ := List.getElem?_eq_some_iff.mp hnode
    rw [ultLoop, bind_ok_iff] at hloop
    obtain ⟨str, hstr, hloop⟩ := hloop
    dsimp only [Heap.alloc, Heap.update] at hloop
    have hparse : parseULTokens E old (v :: vs) = parseULTokens E (some str) vs := by
      rw [parseULTokens, hstr]
      rfl
    rw [hparse]
    by_cases hlast : vs = []
    · rw [if_pos hlast, hlast, ultLoop] at hloop
      cases hloop
      rw [hlast]
      refine ⟨⟨str, h.blocks.length, ⟨?_, ?_, le_refl _, rfl⟩, rfl⟩, ?_⟩
      · simp [List.getElem?_append_left hlt, hget, hlt, Block.putToken, Block.putNext]
      · simp [Nat.ne_of_lt hlt]
      · simp
    · rw [if_neg hlast] at hloop
      have hlt' : mylist < h.blocks.length + 1 + 1 := by omega
      have hnode' : (((h.blocks ++ [Block.chars str]).modify mylist
          (Block.putToken h.blocks.length) ++ [Block.ultList none none]).modify mylist
          (Block.putNext (some ((h.blocks ++ [Block.chars str]).modify mylist
            (Block.putToken h.blocks.length)).length)))[mylist]? =
          some (.ultList (some h.blocks.length) (some (h.blocks.length + 1))) := by
        simp [List.getElem_append_left, hlt, hlt', hget, Nat.lt_succ_of_lt hlt, Block.putToken,
          Block.putNext]
      have hnext := ih hnode' hloop hlast (some str)
      obtain ⟨⟨str', token', hlastToken, hrest⟩, hlength⟩ := hnext
      have hfresh := hlastToken.fresh
      simp only [List.length_modify, List.length_append, List.length_singleton] at hlength hfresh
      refine ⟨⟨str', token', ⟨hlastToken.node, hlastToken.text, by omega, hlastToken.freed⟩,
        hrest⟩, ?_⟩
      rw [List.length_cons]
      omega

/-! ### What the parser allocates -/

theorem allocText_empty (str : Option (List Char)) :
    allocText str .empty = (if str.isSome then some 0 else none, ⟨(str.map .chars).toList, []⟩) := by
  cases str <;> rfl

theorem allocText_lt {str : Option (List Char)} {i : ℕ}
    (hi : (if str.isSome then some 0 else none) = some i) :
    i < (str.map Block.chars).toList.length := by
  cases str with
  | none => cases hi
  | some str =>
    cases hi
    exact Nat.one_pos

/-- The parser's blocks: those of the fNS's token, and with gateways the list. -/
inductive Allocated (E : JsonEnv S D) (obj : Json Member D) : Parsed S → Prop
  | none {role : role_e} {out : DLMetaData_t S} (hrole : role ≠ .fNS) :
      Allocated E obj ⟨role, out, none, none, .empty⟩
  | token {out : DLMetaData_t S} (hgws : obj.get_ex .GWInfo = none) :
      Allocated E obj ⟨.fNS, out, if out.FNSULToken.isSome then some 0 else none, none,
        ⟨(out.FNSULToken.map .chars).toList, []⟩⟩
  | list {out : DLMetaData_t S} {v : Json Member D} {vs : List (Json Member D)} {h : Heap Block}
      (hgws : obj.get_ex .GWInfo = some v) (hvs : v.elements = some vs)
      (hloop : ultLoop E (out.FNSULToken.map Block.chars).toList.length vs
        ⟨(out.FNSULToken.map .chars).toList ++ [.ultList none none], []⟩ = .ok h) :
      Allocated E obj ⟨.fNS, out, if out.FNSULToken.isSome then some 0 else none,
        some (out.FNSULToken.map Block.chars).toList.length, h⟩

theorem parseDLMetaDataBlocks_ok {obj : Json Member D} {p : Parsed S}
    (h : parseDLMetaDataBlocks E obj = .ok p) :
    parseDLMetaData E obj = .ok (p.role, p.out) ∧ Allocated E obj p := by
  unfold parseDLMetaDataBlocks at h
  obtain ⟨⟨role, out⟩, hparse, h⟩ := bind_ok_iff.mp h
  dsimp only at h
  rw [allocText_empty] at h
  split at h
  · rename_i hrole
    subst hrole
    dsimp only at h
    cases hgws : obj.get_ex .GWInfo with
    | none =>
      rw [hgws] at h
      cases h
      exact ⟨hparse, .token hgws⟩
    | some v =>
      rw [hgws] at h
      obtain ⟨vs, hvs, h⟩ := bind_ok_iff.mp h
      obtain ⟨heap, hloop, h⟩ := bind_ok_iff.mp h
      cases h
      exact ⟨hparse, .list hgws (deref_ok_iff.mp hvs) hloop⟩
  · rename_i hrole
    cases h
    exact ⟨hparse, .none hrole⟩

theorem parseDLMetaData_members {obj : Json Member D} {role : role_e} {out : DLMetaData_t S}
    (h : parseDLMetaData E obj = .ok (role, out)) :
    (role = .fNS ∧ readText E (obj.get_ex .FNSULToken) = .ok out.FNSULToken ∧
      parseULTokenList E (obj.get_ex .GWInfo) = .ok out.ultList) ∨
    (role ≠ .fNS ∧ out.ultList = []) := by
  have hnil : (parseWindows E obj).ultList = [] := rfl
  unfold parseDLMetaData at h
  dsimp only at h
  split at h
  · unfold parseForFNS at h
    split at h
    · cases h
      exact Or.inr ⟨by decide, hnil⟩
    · dsimp only at h
      split at h
      · cases h
        exact Or.inr ⟨by decide, hnil⟩
      · obtain ⟨mode, -, h⟩ := bind_ok_iff.mp h
        split at h
        · cases h
          exact Or.inr ⟨by decide, hnil⟩
        · obtain ⟨DevEUI, -, h⟩ := bind_ok_iff.mp h
          obtain ⟨DevAddr, -, h⟩ := bind_ok_iff.mp h
          obtain ⟨str, hread, h⟩ := bind_ok_iff.mp h
          obtain ⟨ultList, hlist, h⟩ := bind_ok_iff.mp h
          cases h
          exact Or.inl ⟨rfl, hread, hlist⟩
  · unfold parseForSNS at h
    obtain ⟨device, -, h⟩ := bind_ok_iff.mp h
    split at h
    · cases h
      exact Or.inr ⟨by decide, hnil⟩
    · dsimp only at h
      split at h
      · cases h
        exact Or.inr ⟨by decide, hnil⟩
      · split at h
        · cases h
          exact Or.inr ⟨by decide, hnil⟩
        · cases h
          exact Or.inr ⟨by decide, hnil⟩

theorem classMode_eq {obj v : Json Member D} {str : List Char} (hv : obj.get_ex .ClassMode = some v)
    (hstr : v.get_string E.conv = some str) :
    classMode E obj = some 'B' ↔ str.headD '\x00' = 'B' := by
  rw [classMode, hv, Option.bind_some, hstr, Option.bind_some]
  cases str with
  | nil => exact iff_of_false (by simp) (by decide)
  | cons c str => exact Option.some_inj

theorem role_of_parseForFNS {obj : Json Member D} {out out' : DLMetaData_t S} {role : role_e}
    (h : parseForFNS E obj out = .ok (role, out')) :
    role = .fNS ↔ ((obj.get_ex .RXDelay1).isSome && (obj.get_ex .ClassMode).isSome &&
      (decide (classMode E obj ≠ some 'B') || (obj.get_ex .PingPeriod).isSome)) = true := by
  unfold parseForFNS at h
  split at h
  · rename_i hdelay
    cases h
    rw [hdelay]
    exact iff_of_false (by decide) (by simp)
  · rename_i delay hdelay
    dsimp only at h
    split at h
    · rename_i hmode
      cases h
      rw [hmode]
      exact iff_of_false (by decide) (by simp)
    · rename_i mode hmode
      obtain ⟨str, hstr, h⟩ := bind_ok_iff.mp h
      have hclass := classMode_eq hmode (deref_ok_iff.mp hstr)
      rw [hdelay, hmode]
      split at h
      · -- class B without its period
        rename_i hB
        cases h
        rw [hclass.mpr hB.1, Option.isNone_iff_eq_none.mp hB.2]
        exact iff_of_false (by decide) (by simp)
      · rename_i hB
        obtain ⟨DevEUI, -, h⟩ := bind_ok_iff.mp h
        obtain ⟨DevAddr, -, h⟩ := bind_ok_iff.mp h
        obtain ⟨FNSULToken, -, h⟩ := bind_ok_iff.mp h
        obtain ⟨ultList, -, h⟩ := bind_ok_iff.mp h
        cases h
        refine iff_of_true rfl ?_
        by_cases hletter : classMode E obj = some 'B'
        · have hperiod : (obj.get_ex .PingPeriod).isSome = true := by
            rw [← Option.not_isNone, Bool.not_eq_true']
            exact eq_false_of_ne_true fun hnone => hB ⟨hclass.mp hletter, hnone⟩
          simp [hperiod]
        · simp [hletter]

theorem role_of_parseForSNS {obj : Json Member D} {out out' : DLMetaData_t S} {role : role_e}
    (h : parseForSNS E obj out = .ok (role, out')) : role ≠ .fNS := by
  unfold parseForSNS at h
  obtain ⟨device, -, h⟩ := bind_ok_iff.mp h
  split at h
  · cases h
    decide
  · dsimp only at h
    split at h
    · cases h
      decide
    · split at h <;> cases h <;> decide

theorem role_eq_fNS_iff {obj : Json Member D} {role : role_e} {out : DLMetaData_t S}
    (h : parseDLMetaData E obj = .ok (role, out)) : role = .fNS ↔ forFNS E obj = true := by
  unfold parseDLMetaData at h
  dsimp only at h
  unfold forFNS
  dsimp only
  split at h
  · rename_i hfreq
    have hfreq' : (!E.floats.isZero (readSingle E E.floats.zero (obj.get_ex .DLFreq1)) ||
        !E.floats.isZero (readSingle E E.floats.zero (obj.get_ex .DLFreq2))) = true := hfreq
    rw [role_of_parseForFNS h, hfreq', Bool.true_and]
  · rename_i hfreq
    have hfreq' : (!E.floats.isZero (readSingle E E.floats.zero (obj.get_ex .DLFreq1)) ||
        !E.floats.isZero (readSingle E E.floats.zero (obj.get_ex .DLFreq2))) = false :=
      eq_false_of_ne_true hfreq
    rw [hfreq']
    exact iff_of_false (role_of_parseForSNS h) (by simp)

/-- A list of one node is given back with its token and that of the fNS. -/
theorem release_node {heap : Heap Block} {FNSULToken : Option ℕ} {node token : ℕ} (fuel : ℕ)
    (hfreed : heap.freed = []) (hnode : heap.blocks[node]? = some (.ultList (some token) none))
    (htoken : token < heap.blocks.length) (hlt : node < token)
    (hFNS : ∀ i, FNSULToken = some i → i < node) :
    ∃ h, dlmd_free FNSULToken (fuel + 1) (some node) heap = some h ∧
      (h.Balanced ↔ heap.blocks.length = 2 + FNSULToken.toList.length) := by
  have hget : heap.get node = some (.ultList (some token) none) := by
    rw [Heap.get, hfreed, if_neg List.not_mem_nil]
    exact hnode
  obtain ⟨h₁, hfree₁, hvalid₁, hblocks₁, hfreed₁⟩ :=
    (Heap.valid_of_freed_nil hfreed).exists_freeSome (o := some token) (by
      rintro i ⟨⟩
      rw [hfreed]
      exact ⟨htoken, List.not_mem_nil⟩)
  rw [hfreed, List.nil_append, Option.toList_some] at hfreed₁
  obtain ⟨h₂, hfree₂, hvalid₂, hblocks₂, hfreed₂⟩ := hvalid₁.exists_freeSome (o := FNSULToken) (by
    intro i hi
    have hlt' := hFNS i hi
    rw [hblocks₁, hfreed₁, List.mem_singleton]
    exact ⟨by omega, by omega⟩)
  rw [hblocks₁] at hblocks₂
  rw [hfreed₁] at hfreed₂
  obtain ⟨h₃, hfree₃, hvalid₃, hblocks₃, hfreed₃⟩ := hvalid₂.exists_freeSome (o := some node) (by
    rintro i ⟨⟩
    rw [hblocks₂, hfreed₂, List.mem_append, List.mem_singleton, Option.mem_toList]
    refine ⟨by omega, ?_⟩
    rintro (heq | hmem)
    · omega
    · exact absurd (hFNS node hmem) (Nat.lt_irrefl node))
  have hfree₃ : h₂.free node = some h₃ := hfree₃
  refine ⟨h₃, ?_, ?_⟩
  · rw [dlmd_free, hget]
    simp only [Option.bind_eq_bind, hfree₁, hfree₂, hfree₃, Option.bind_some]
    rw [dlmd_free]
  · rw [hvalid₃.balanced_iff, hfreed₃, hfreed₂, hblocks₃, hblocks₂]
    simp only [List.length_append, List.length_singleton, Option.toList_some]
    omega

/-! ### The list and its release -/

theorem nodeTokens_node {heap : Heap Block} {node token : ℕ} {str : List Char} (fuel : ℕ)
    (hfreed : heap.freed = []) (hnode : heap.blocks[node]? = some (.ultList (some token) none))
    (htext : heap.blocks[token]? = some (.chars str)) :
    nodeTokens heap (fuel + 1) (some node) = [some str] := by
  have hget : ∀ i, heap.get i = heap.blocks[i]? := by
    intro i
    rw [Heap.get, hfreed, if_neg List.not_mem_nil]
  rw [nodeTokens, hget, hnode]
  dsimp only [Option.bind_some]
  rw [hget, htext, nodeTokens]

theorem allocated_list {out : DLMetaData_t S} {vs : List (Json Member D)} {heap : Heap Block}
    (hloop : ultLoop E (out.FNSULToken.map Block.chars).toList.length vs
      ⟨(out.FNSULToken.map .chars).toList ++ [.ultList none none], []⟩ = .ok heap) :
    let p : Parsed S := ⟨.fNS, out, if out.FNSULToken.isSome then some 0 else none,
      some (out.FNSULToken.map Block.chars).toList.length, heap⟩
    (∃ token, p.tokens = [token] ∧ parseULTokens E none vs = .ok token) ∧
      (vs ≠ [] → ∃ h, p.release = some h ∧ (h.Balanced ↔ vs.length = 1)) := by
  intro p
  have hnode : ((out.FNSULToken.map Block.chars).toList ++ [Block.ultList none none])[
      (out.FNSULToken.map Block.chars).toList.length]? = some (.ultList none none) := by
    rw [List.getElem?_append_right (le_refl _), Nat.sub_self]
    rfl
  have hbase : (out.FNSULToken.map Block.chars).toList.length =
      (if out.FNSULToken.isSome then some 0 else none).toList.length := by
    cases out.FNSULToken <;> rfl
  by_cases hnil : vs = []
  · subst hnil
    cases hloop
    refine ⟨⟨none, ?_, rfl⟩, fun h => absurd rfl h⟩
    cases hFNS : out.FNSULToken <;> simp [p, Parsed.tokens, nodeTokens, Heap.get, hFNS]
  · obtain ⟨⟨str, token, hlast, hparse⟩, hlength⟩ := ultLoop_last hnode hloop hnil none
    have hfresh := hlast.fresh
    simp only [List.length_append, List.length_singleton] at hlength hfresh
    have htoken : token < heap.blocks.length := (List.getElem?_eq_some_iff.mp hlast.text).1
    obtain ⟨fuel, hfuel⟩ : ∃ fuel, heap.blocks.length = fuel + 1 :=
      ⟨heap.blocks.length - 1, by omega⟩
    constructor
    · refine ⟨some str, ?_, hparse⟩
      unfold Parsed.tokens
      dsimp only [p]
      rw [hfuel]
      exact nodeTokens_node fuel hlast.freed hlast.node hlast.text
    · intro _
      obtain ⟨h, hrelease, hbalanced⟩ := release_node fuel hlast.freed hlast.node htoken (by omega)
        fun i hi => allocText_lt hi
      refine ⟨h, ?_, ?_⟩
      · unfold Parsed.release
        dsimp only [p]
        rw [hfuel]
        exact hrelease
      · rw [hbalanced]
        omega

theorem tokens_of_nil {p : Parsed S} (hnil : p.ultList = none) : p.tokens = [] := by
  unfold Parsed.tokens
  rw [hnil, nodeTokens]

theorem release_of_nil {p : Parsed S} (hnil : p.ultList = none) : p.release = some p.heap := by
  unfold Parsed.release
  rw [hnil, dlmd_free]

theorem tokens_eq_ultList {obj : Json Member D} {p : Parsed S}
    (h : parseDLMetaDataBlocks E obj = .ok p) : p.tokens = p.out.ultList := by
  obtain ⟨hparse, halloc⟩ := parseDLMetaDataBlocks_ok h
  cases halloc with
  | none hrole =>
    rcases parseDLMetaData_members hparse with ⟨hfns, -⟩ | ⟨-, hnil⟩
    · exact absurd hfns hrole
    · exact hnil.symm
  | token hgws =>
    rcases parseDLMetaData_members hparse with ⟨-, -, hlist⟩ | ⟨hrole, -⟩
    · rw [hgws] at hlist
      exact (tokens_of_nil rfl).trans (Except.ok.inj hlist)
    · exact absurd rfl hrole
  | list hgws hvs hloop =>
    obtain ⟨⟨token, htokens, htoken⟩, -⟩ := allocated_list hloop
    rcases parseDLMetaData_members hparse with ⟨-, -, hlist⟩ | ⟨hrole, -⟩
    · rw [hgws, parseULTokenList, hvs, deref_some] at hlist
      obtain ⟨vs, heq, hlist⟩ := bind_ok_iff.mp hlist
      cases heq
      obtain ⟨token', htoken', hlist⟩ := bind_ok_iff.mp hlist
      rw [htoken] at htoken'
      cases htoken'
      exact htokens.trans (pure_ok_iff.mp hlist)
    · exact absurd rfl hrole

theorem owned_token_iff {obj : Json Member D} {out : DLMetaData_t S}
    (hparse : parseDLMetaData E obj = .ok (.fNS, out)) (hgws : obj.get_ex .GWInfo = none) :
    Owned E obj ⟨.fNS, out, if out.FNSULToken.isSome then some 0 else none, none,
        ⟨(out.FNSULToken.map .chars).toList, []⟩⟩ ↔ obj.get_ex .FNSULToken = none := by
  have hFNS : out.FNSULToken = none ↔ obj.get_ex .FNSULToken = none := by
    rcases parseDLMetaData_members hparse with ⟨-, hread, -⟩ | ⟨hrole, -⟩
    · have hsome := readText_ok_isSome E hread
      rw [← Option.not_isSome_iff_eq_none, ← Option.not_isSome_iff_eq_none, ← hsome]
    · exact absurd rfl hrole
  have hbalanced : (Heap.mk (out.FNSULToken.map Block.chars).toList []).Balanced ↔
      out.FNSULToken = none := by
    rw [(Heap.valid_of_freed_nil rfl).balanced_iff]
    cases out.FNSULToken <;> simp
  constructor
  · rintro ⟨-, heap, hrelease, hall⟩
    rw [release_of_nil rfl] at hrelease
    cases hrelease
    exact hFNS.mp (hbalanced.mp hall)
  · intro hnone
    refine ⟨?_, _, release_of_nil rfl, hbalanced.mpr (hFNS.mpr hnone)⟩
    rw [tokens_of_nil rfl, gateways, if_pos ((role_eq_fNS_iff hparse).mp rfl), hgws]
    rfl

/-- The list has one node, so that it is the list of one gateway. -/
theorem owned_list_iff {obj : Json Member D} {out : DLMetaData_t S} {v : Json Member D}
    {vs : List (Json Member D)} {heap : Heap Block}
    (hparse : parseDLMetaData E obj = .ok (.fNS, out)) (hgws : obj.get_ex .GWInfo = some v)
    (hvs : v.elements = some vs)
    (hloop : ultLoop E (out.FNSULToken.map Block.chars).toList.length vs
      ⟨(out.FNSULToken.map .chars).toList ++ [.ultList none none], []⟩ = .ok heap) :
    Owned E obj ⟨.fNS, out, if out.FNSULToken.isSome then some 0 else none,
        some (out.FNSULToken.map Block.chars).toList.length, heap⟩ ↔ ∃ e, vs = [e] := by
  obtain ⟨⟨token, htokens, htoken⟩, hrelease⟩ := allocated_list hloop
  have hgateways : gateways E obj = vs := by
    rw [gateways, if_pos ((role_eq_fNS_iff hparse).mp rfl), hgws, Option.bind_some, hvs]
    rfl
  constructor
  · rintro ⟨htok, -⟩
    rw [htokens, hgateways] at htok
    have hlength := congrArg List.length htok
    rw [List.length_map, List.length_singleton] at hlength
    exact List.length_eq_one_iff.mp hlength.symm
  · rintro ⟨e, rfl⟩
    obtain ⟨heap', hfree, hbalanced⟩ := hrelease (List.cons_ne_nil e [])
    refine ⟨?_, heap', hfree, hbalanced.mpr rfl⟩
    rw [htokens, hgateways]
    rw [parseULTokens, bind_ok_iff] at htoken
    obtain ⟨str, hstr, hrest⟩ := htoken
    rw [parseULTokens] at hrest
    cases hrest
    rw [List.map_singleton, deref_ok_iff.mp hstr]

/-- A downlink of class A for the gateways with these tokens. -/
def toGateways (tokens : List (Json Member ℚ)) : Json Member ℚ :=
  .object fun k => match k with
    | .DLFreq1 => some (.double 868)
    | .RXDelay1 => some (.int 1)
    | .ClassMode => some (.string ['A'])
    | .FNSULToken => some (.string ['0'])
    | .GWInfo => some (.array tokens)
    | _ => none

end Lorawan.NetworkServer

import Mathlib.Data.Fin.VecNotation
import Lorawan.Lib.Cipher
import Lorawan.Lib.Rijndael

/-!
# The AES of the servers (aes.c, aes.h)

The file is built with its tables, with `memcpy` and with words of 32 bits, and with the functions
for a schedule of keys. Blocks are arrays of sixteen octets.
-/

namespace Lorawan.Backend.Aes
open Lorawan Rijndael

/-! ### The tables -/

def WPOLY : ℕ := 0x011b

def f1 (x : ℕ) : ℕ := x

def f2 (x : ℕ) : ℕ := (x <<< 1) ^^^ ((x >>> 7) &&& 1) * WPOLY

def f4 (x : ℕ) : ℕ := (x <<< 2) ^^^ ((x >>> 6) &&& 1) * WPOLY ^^^ ((x >>> 6) &&& 2) * WPOLY

def f8 (x : ℕ) : ℕ :=
  (x <<< 3) ^^^ ((x >>> 5) &&& 1) * WPOLY ^^^ ((x >>> 5) &&& 2) * WPOLY ^^^
    ((x >>> 5) &&& 4) * WPOLY

def f3 (x : ℕ) : ℕ := f2 x ^^^ x

def f9 (x : ℕ) : ℕ := f8 x ^^^ x

def fb (x : ℕ) : ℕ := f8 x ^^^ f2 x ^^^ x

def fd (x : ℕ) : ℕ := f8 x ^^^ f4 x ^^^ x

def fe (x : ℕ) : ℕ := f8 x ^^^ f4 x ^^^ f2 x

/-- The S box data values. -/
def sbValues : List ℕ := [
  0x63, 0x7c, 0x77, 0x7b, 0xf2, 0x6b, 0x6f, 0xc5, 0x30, 0x01, 0x67, 0x2b, 0xfe, 0xd7, 0xab, 0x76,
  0xca, 0x82, 0xc9, 0x7d, 0xfa, 0x59, 0x47, 0xf0, 0xad, 0xd4, 0xa2, 0xaf, 0x9c, 0xa4, 0x72, 0xc0,
  0xb7, 0xfd, 0x93, 0x26, 0x36, 0x3f, 0xf7, 0xcc, 0x34, 0xa5, 0xe5, 0xf1, 0x71, 0xd8, 0x31, 0x15,
  0x04, 0xc7, 0x23, 0xc3, 0x18, 0x96, 0x05, 0x9a, 0x07, 0x12, 0x80, 0xe2, 0xeb, 0x27, 0xb2, 0x75,
  0x09, 0x83, 0x2c, 0x1a, 0x1b, 0x6e, 0x5a, 0xa0, 0x52, 0x3b, 0xd6, 0xb3, 0x29, 0xe3, 0x2f, 0x84,
  0x53, 0xd1, 0x00, 0xed, 0x20, 0xfc, 0xb1, 0x5b, 0x6a, 0xcb, 0xbe, 0x39, 0x4a, 0x4c, 0x58, 0xcf,
  0xd0, 0xef, 0xaa, 0xfb, 0x43, 0x4d, 0x33, 0x85, 0x45, 0xf9, 0x02, 0x7f, 0x50, 0x3c, 0x9f, 0xa8,
  0x51, 0xa3, 0x40, 0x8f, 0x92, 0x9d, 0x38, 0xf5, 0xbc, 0xb6, 0xda, 0x21, 0x10, 0xff, 0xf3, 0xd2,
  0xcd, 0x0c, 0x13, 0xec, 0x5f, 0x97, 0x44, 0x17, 0xc4, 0xa7, 0x7e, 0x3d, 0x64, 0x5d, 0x19, 0x73,
  0x60, 0x81, 0x4f, 0xdc, 0x22, 0x2a, 0x90, 0x88, 0x46, 0xee, 0xb8, 0x14, 0xde, 0x5e, 0x0b, 0xdb,
  0xe0, 0x32, 0x3a, 0x0a, 0x49, 0x06, 0x24, 0x5c, 0xc2, 0xd3, 0xac, 0x62, 0x91, 0x95, 0xe4, 0x79,
  0xe7, 0xc8, 0x37, 0x6d, 0x8d, 0xd5, 0x4e, 0xa9, 0x6c, 0x56, 0xf4, 0xea, 0x65, 0x7a, 0xae, 0x08,
  0xba, 0x78, 0x25, 0x2e, 0x1c, 0xa6, 0xb4, 0xc6, 0xe8, 0xdd, 0x74, 0x1f, 0x4b, 0xbd, 0x8b, 0x8a,
  0x70, 0x3e, 0xb5, 0x66, 0x48, 0x03, 0xf6, 0x0e, 0x61, 0x35, 0x57, 0xb9, 0x86, 0xc1, 0x1d, 0x9e,
  0xe1, 0xf8, 0x98, 0x11, 0x69, 0xd9, 0x8e, 0x94, 0x9b, 0x1e, 0x87, 0xe9, 0xce, 0x55, 0x28, 0xdf,
  0x8c, 0xa1, 0x89, 0x0d, 0xbf, 0xe6, 0x42, 0x68, 0x41, 0x99, 0x2d, 0x0f, 0xb0, 0x54, 0xbb, 0x16]

/-- The inverse S box data values. -/
def isbValues : List ℕ := [
  0x52, 0x09, 0x6a, 0xd5, 0x30, 0x36, 0xa5, 0x38, 0xbf, 0x40, 0xa3, 0x9e, 0x81, 0xf3, 0xd7, 0xfb,
  0x7c, 0xe3, 0x39, 0x82, 0x9b, 0x2f, 0xff, 0x87, 0x34, 0x8e, 0x43, 0x44, 0xc4, 0xde, 0xe9, 0xcb,
  0x54, 0x7b, 0x94, 0x32, 0xa6, 0xc2, 0x23, 0x3d, 0xee, 0x4c, 0x95, 0x0b, 0x42, 0xfa, 0xc3, 0x4e,
  0x08, 0x2e, 0xa1, 0x66, 0x28, 0xd9, 0x24, 0xb2, 0x76, 0x5b, 0xa2, 0x49, 0x6d, 0x8b, 0xd1, 0x25,
  0x72, 0xf8, 0xf6, 0x64, 0x86, 0x68, 0x98, 0x16, 0xd4, 0xa4, 0x5c, 0xcc, 0x5d, 0x65, 0xb6, 0x92,
  0x6c, 0x70, 0x48, 0x50, 0xfd, 0xed, 0xb9, 0xda, 0x5e, 0x15, 0x46, 0x57, 0xa7, 0x8d, 0x9d, 0x84,
  0x90, 0xd8, 0xab, 0x00, 0x8c, 0xbc, 0xd3, 0x0a, 0xf7, 0xe4, 0x58, 0x05, 0xb8, 0xb3, 0x45, 0x06,
  0xd0, 0x2c, 0x1e, 0x8f, 0xca, 0x3f, 0x0f, 0x02, 0xc1, 0xaf, 0xbd, 0x03, 0x01, 0x13, 0x8a, 0x6b,
  0x3a, 0x91, 0x11, 0x41, 0x4f, 0x67, 0xdc, 0xea, 0x97, 0xf2, 0xcf, 0xce, 0xf0, 0xb4, 0xe6, 0x73,
  0x96, 0xac, 0x74, 0x22, 0xe7, 0xad, 0x35, 0x85, 0xe2, 0xf9, 0x37, 0xe8, 0x1c, 0x75, 0xdf, 0x6e,
  0x47, 0xf1, 0x1a, 0x71, 0x1d, 0x29, 0xc5, 0x89, 0x6f, 0xb7, 0x62, 0x0e, 0xaa, 0x18, 0xbe, 0x1b,
  0xfc, 0x56, 0x3e, 0x4b, 0xc6, 0xd2, 0x79, 0x20, 0x9a, 0xdb, 0xc0, 0xfe, 0x78, 0xcd, 0x5a, 0xf4,
  0x1f, 0xdd, 0xa8, 0x33, 0x88, 0x07, 0xc7, 0x31, 0xb1, 0x12, 0x10, 0x59, 0x27, 0x80, 0xec, 0x5f,
  0x60, 0x51, 0x7f, 0xa9, 0x19, 0xb5, 0x4a, 0x0d, 0x2d, 0xe5, 0x7a, 0x9f, 0x93, 0xc9, 0x9c, 0xef,
  0xa0, 0xe0, 0x3b, 0x4d, 0xae, 0x2a, 0xf5, 0xb0, 0xc8, 0xeb, 0xbb, 0x3c, 0x83, 0x53, 0x99, 0x61,
  0x17, 0x2b, 0x04, 0x7e, 0xba, 0x77, 0xd6, 0x26, 0xe1, 0x69, 0x14, 0x63, 0x55, 0x21, 0x0c, 0x7d]

def sb_data (w : ℕ → ℕ) : Octets := sbValues.map fun x => UInt8.ofNat (w x)

def isb_data (w : ℕ → ℕ) : Octets := isbValues.map fun x => UInt8.ofNat (w x)

/-- The values from 0 to 255. -/
def mm_data (w : ℕ → ℕ) : Octets := (List.range 256).map fun x => UInt8.ofNat (w x)

def s_box (x : UInt8) : UInt8 := (sb_data f1).getD x.toNat 0

def is_box (x : UInt8) : UInt8 := (isb_data f1).getD x.toNat 0

def gfm2_sb (x : UInt8) : UInt8 := (sb_data f2).getD x.toNat 0

def gfm3_sb (x : UInt8) : UInt8 := (sb_data f3).getD x.toNat 0

def gfm_9 (x : UInt8) : UInt8 := (mm_data f9).getD x.toNat 0

def gfm_b (x : UInt8) : UInt8 := (mm_data fb).getD x.toNat 0

def gfm_d (x : UInt8) : UInt8 := (mm_data fd).getD x.toNat 0

def gfm_e (x : UInt8) : UInt8 := (mm_data fe).getD x.toNat 0

/-! ### The block -/

/-- `st[i] = v` -/
def set (st : Block) (i : Fin 16) (v : UInt8) : Block := Function.update st i v

/-- `xor_block(d, s)`: what `d` holds after it. -/
def xor_block (d s : Block) : Block := fun i => d i ^^^ s i

/-- `copy_and_key(d, s, k)`: what `d` holds after it. -/
def copy_and_key (s k : Block) : Block := fun i => s i ^^^ k i

def add_round_key (d k : Block) : Block := xor_block d k

def shift_sub_rows (st : Block) : Block :=
  let st := set st 0 (s_box (st 0))
  let st := set st 4 (s_box (st 4))
  let st := set st 8 (s_box (st 8))
  let st := set st 12 (s_box (st 12))
  let tt := st 1
  let st := set st 1 (s_box (st 5))
  let st := set st 5 (s_box (st 9))
  let st := set st 9 (s_box (st 13))
  let st := set st 13 (s_box tt)
  let tt := st 2
  let st := set st 2 (s_box (st 10))
  let st := set st 10 (s_box tt)
  let tt := st 6
  let st := set st 6 (s_box (st 14))
  let st := set st 14 (s_box tt)
  let tt := st 15
  let st := set st 15 (s_box (st 11))
  let st := set st 11 (s_box (st 7))
  let st := set st 7 (s_box (st 3))
  set st 3 (s_box tt)

def inv_shift_sub_rows (st : Block) : Block :=
  let st := set st 0 (is_box (st 0))
  let st := set st 4 (is_box (st 4))
  let st := set st 8 (is_box (st 8))
  let st := set st 12 (is_box (st 12))
  let tt := st 13
  let st := set st 13 (is_box (st 9))
  let st := set st 9 (is_box (st 5))
  let st := set st 5 (is_box (st 1))
  let st := set st 1 (is_box tt)
  let tt := st 2
  let st := set st 2 (is_box (st 10))
  let st := set st 10 (is_box tt)
  let tt := st 6
  let st := set st 6 (is_box (st 14))
  let st := set st 14 (is_box tt)
  let tt := st 3
  let st := set st 3 (is_box (st 7))
  let st := set st 7 (is_box (st 11))
  let st := set st 11 (is_box (st 15))
  set st 15 (is_box tt)

/-- `mix_sub_columns(dt)`; `st` is the copy of `dt` that it reads. -/
def mix_sub_columns (st : Block) : Block :=
  ![
    gfm2_sb (st 0) ^^^ gfm3_sb (st 5) ^^^ s_box (st 10) ^^^ s_box (st 15),
    s_box (st 0) ^^^ gfm2_sb (st 5) ^^^ gfm3_sb (st 10) ^^^ s_box (st 15),
    s_box (st 0) ^^^ s_box (st 5) ^^^ gfm2_sb (st 10) ^^^ gfm3_sb (st 15),
    gfm3_sb (st 0) ^^^ s_box (st 5) ^^^ s_box (st 10) ^^^ gfm2_sb (st 15),
    gfm2_sb (st 4) ^^^ gfm3_sb (st 9) ^^^ s_box (st 14) ^^^ s_box (st 3),
    s_box (st 4) ^^^ gfm2_sb (st 9) ^^^ gfm3_sb (st 14) ^^^ s_box (st 3),
    s_box (st 4) ^^^ s_box (st 9) ^^^ gfm2_sb (st 14) ^^^ gfm3_sb (st 3),
    gfm3_sb (st 4) ^^^ s_box (st 9) ^^^ s_box (st 14) ^^^ gfm2_sb (st 3),
    gfm2_sb (st 8) ^^^ gfm3_sb (st 13) ^^^ s_box (st 2) ^^^ s_box (st 7),
    s_box (st 8) ^^^ gfm2_sb (st 13) ^^^ gfm3_sb (st 2) ^^^ s_box (st 7),
    s_box (st 8) ^^^ s_box (st 13) ^^^ gfm2_sb (st 2) ^^^ gfm3_sb (st 7),
    gfm3_sb (st 8) ^^^ s_box (st 13) ^^^ s_box (st 2) ^^^ gfm2_sb (st 7),
    gfm2_sb (st 12) ^^^ gfm3_sb (st 1) ^^^ s_box (st 6) ^^^ s_box (st 11),
    s_box (st 12) ^^^ gfm2_sb (st 1) ^^^ gfm3_sb (st 6) ^^^ s_box (st 11),
    s_box (st 12) ^^^ s_box (st 1) ^^^ gfm2_sb (st 6) ^^^ gfm3_sb (st 11),
    gfm3_sb (st 12) ^^^ s_box (st 1) ^^^ s_box (st 6) ^^^ gfm2_sb (st 11)]

/-- `inv_mix_sub_columns(dt)`; the elements are in the order of their places. -/
def inv_mix_sub_columns (st : Block) : Block :=
  ![
    is_box (gfm_e (st 0) ^^^ gfm_b (st 1) ^^^ gfm_d (st 2) ^^^ gfm_9 (st 3)),
    is_box (gfm_9 (st 12) ^^^ gfm_e (st 13) ^^^ gfm_b (st 14) ^^^ gfm_d (st 15)),
    is_box (gfm_d (st 8) ^^^ gfm_9 (st 9) ^^^ gfm_e (st 10) ^^^ gfm_b (st 11)),
    is_box (gfm_b (st 4) ^^^ gfm_d (st 5) ^^^ gfm_9 (st 6) ^^^ gfm_e (st 7)),
    is_box (gfm_e (st 4) ^^^ gfm_b (st 5) ^^^ gfm_d (st 6) ^^^ gfm_9 (st 7)),
    is_box (gfm_9 (st 0) ^^^ gfm_e (st 1) ^^^ gfm_b (st 2) ^^^ gfm_d (st 3)),
    is_box (gfm_d (st 12) ^^^ gfm_9 (st 13) ^^^ gfm_e (st 14) ^^^ gfm_b (st 15)),
    is_box (gfm_b (st 8) ^^^ gfm_d (st 9) ^^^ gfm_9 (st 10) ^^^ gfm_e (st 11)),
    is_box (gfm_e (st 8) ^^^ gfm_b (st 9) ^^^ gfm_d (st 10) ^^^ gfm_9 (st 11)),
    is_box (gfm_9 (st 4) ^^^ gfm_e (st 5) ^^^ gfm_b (st 6) ^^^ gfm_d (st 7)),
    is_box (gfm_d (st 0) ^^^ gfm_9 (st 1) ^^^ gfm_e (st 2) ^^^ gfm_b (st 3)),
    is_box (gfm_b (st 12) ^^^ gfm_d (st 13) ^^^ gfm_9 (st 14) ^^^ gfm_e (st 15)),
    is_box (gfm_e (st 12) ^^^ gfm_b (st 13) ^^^ gfm_d (st 14) ^^^ gfm_9 (st 15)),
    is_box (gfm_9 (st 8) ^^^ gfm_e (st 9) ^^^ gfm_b (st 10) ^^^ gfm_d (st 11)),
    is_box (gfm_d (st 4) ^^^ gfm_9 (st 5) ^^^ gfm_e (st 6) ^^^ gfm_b (st 7)),
    is_box (gfm_b (st 0) ^^^ gfm_d (st 1) ^^^ gfm_9 (st 2) ^^^ gfm_e (st 3))]

/-! ### The key -/

/-- `ksch` holds 240 octets, `rnd` the number of rounds. -/
structure aes_context where
  ksch : Octets
  rnd : ℕ

/-- One turn of the loop of `aes_set_key`, with the octets of `ksch` that are set so far. -/
def scheduleStep (keylen cc : ℕ) (rc : UInt8) (ksch : Octets) : UInt8 × Octets :=
  let t0 := ksch.getD (cc - 4) 0
  let t1 := ksch.getD (cc - 3) 0
  let t2 := ksch.getD (cc - 2) 0
  let t3 := ksch.getD (cc - 1) 0
  let ((t0, t1, t2, t3), rc) :=
    if cc % keylen = 0 then
      ((s_box t1 ^^^ rc, s_box t2, s_box t3, s_box t0), UInt8.ofNat (f2 rc.toNat))
    else if 24 < keylen ∧ cc % keylen = 16 then
      ((s_box t0, s_box t1, s_box t2, s_box t3), rc)
    else ((t0, t1, t2, t3), rc)
  let tt := cc - keylen
  (rc, ksch ++ [ksch.getD tt 0 ^^^ t0, ksch.getD (tt + 1) 0 ^^^ t1, ksch.getD (tt + 2) 0 ^^^ t2,
    ksch.getD (tt + 3) 0 ^^^ t3])

/-- `for( cc = keylen, rc = 1; cc < hi; cc += 4 )`, with fuel for the turns. -/
def scheduleLoop (keylen hi : ℕ) : ℕ → ℕ → UInt8 → Octets → Octets
  | 0, _, _, ksch => ksch
  | fuel + 1, cc, rc, ksch =>
    if cc < hi then
      let (rc, ksch) := scheduleStep keylen cc rc ksch
      scheduleLoop keylen hi fuel (cc + 4) rc ksch
    else ksch

/-- The value that is returned, an octet as well, and the context. -/
def aes_set_key (key : Octets) (keylen : ℕ) (ctx : aes_context) : UInt8 × aes_context :=
  if keylen = 16 ∨ keylen = 24 ∨ keylen = 32 then
    let ksch := (List.range keylen).map fun i => key.getD i 0
    let hi := (keylen + 28) <<< 2
    (0, ⟨scheduleLoop keylen hi hi keylen 1 ksch ++ ctx.ksch.drop hi, hi >>> 4 - 1⟩)
  else (-1, { ctx with rnd := 0 })

/-! ### One block -/

/-- The block of `ksch` from `ofs` on. -/
def aes_context.block (ctx : aes_context) (ofs : ℕ) : Block := fun i => ctx.ksch.getD (ofs + i) 0

/-- The array `s1` after a block has been written to it. -/
def stored (b : Block) : Vector UInt8 16 := Vector.ofFn b

/-- `for( r = 1 ; r < ctx->rnd ; ++r )`, with fuel for the turns: `r` and `s1` after it. -/
def encryptRounds (ctx : aes_context) : ℕ → ℕ → Vector UInt8 16 → ℕ × Vector UInt8 16
  | 0, r, s1 => (r, s1)
  | fuel + 1, r, s1 =>
    if r < ctx.rnd then
      let s1 := stored (mix_sub_columns s1.get)
      encryptRounds ctx fuel (r + 1) (stored (add_round_key s1.get (ctx.block (r * 16))))
    else (r, s1)

/-- What `out` holds; `none` is the return of -1, which leaves it as it was. -/
def aes_encrypt (inp : Block) (ctx : aes_context) : Option Block :=
  if ctx.rnd ≠ 0 then
    let (r, s1) := encryptRounds ctx ctx.rnd 1 (stored (copy_and_key inp (ctx.block 0)))
    let s1 := stored (shift_sub_rows s1.get)
    some (copy_and_key s1.get (ctx.block (r * 16)))
  else none

/-- `for( r = ctx->rnd ; --r ; )`, from the first `r` that is not zero. -/
def decryptRounds (ctx : aes_context) : ℕ → Vector UInt8 16 → Vector UInt8 16
  | 0, s1 => s1
  | r + 1, s1 =>
    let s1 := stored (add_round_key s1.get (ctx.block ((r + 1) * 16)))
    decryptRounds ctx r (stored (inv_mix_sub_columns s1.get))

def aes_decrypt (inp : Block) (ctx : aes_context) : Option Block :=
  if ctx.rnd ≠ 0 then
    let s1 := stored (copy_and_key inp (ctx.block (ctx.rnd * 16)))
    let s1 := decryptRounds ctx (ctx.rnd - 1) (stored (inv_shift_sub_rows s1.get))
    some (copy_and_key s1.get (ctx.block 0))
  else none

/-! ### The tables hold the field's values -/

theorem getD_map_values {l : List ℕ} (hl : l.length = 256) (w : ℕ → ℕ) (x : UInt8) :
    (l.map fun n => UInt8.ofNat (w n)).getD x.toNat 0 = UInt8.ofNat (w (l.getD x.toNat 0)) := by
  have hx : x.toNat < l.length := lt_of_lt_of_eq x.toNat_lt hl.symm
  rw [List.getD_eq_getElem?_getD, List.getD_eq_getElem?_getD, List.getElem?_map,
    List.getElem?_eq_getElem hx]
  rfl

theorem length_sbValues : sbValues.length = 256 := by decide +kernel

theorem length_isbValues : isbValues.length = 256 := by decide +kernel

theorem mm_data_getD (w : ℕ → ℕ) (x : UInt8) :
    (mm_data w).getD x.toNat 0 = UInt8.ofNat (w x.toNat) := by
  rw [mm_data, getD_map_values List.length_range, List.getD_eq_getElem?_getD,
    List.getElem?_range x.toNat_lt]
  rfl

theorem s_box_eq (x : UInt8) : s_box x = sBox x := by
  have hall : sb_data f1 = (List.range 256).map
      fun n => UInt8.ofNat (affine (UInt8.ofNat (Gf256.natMulSquares 7 n 1))).toNat := by
    decide +kernel
  rw [s_box, hall, getD_map_values List.length_range, sBox, Gf256.inv_eq_ofNat,
    List.getD_eq_getElem?_getD, List.getElem?_range x.toNat_lt, UInt8.ofNat_toNat]
  rfl

theorem s_box_ofNat (x : UInt8) : s_box x = UInt8.ofNat (sbValues.getD x.toNat 0) :=
  getD_map_values length_sbValues f1 x

theorem is_box_ofNat (x : UInt8) : is_box x = UInt8.ofNat (isbValues.getD x.toNat 0) :=
  getD_map_values length_isbValues f1 x

theorem sbValues_lt (x : UInt8) : sbValues.getD x.toNat 0 < 256 := by
  have hall : ∀ v ∈ sbValues, v < 256 := by decide +kernel
  have hx : x.toNat < sbValues.length := lt_of_lt_of_eq x.toNat_lt length_sbValues.symm
  rw [List.getD_eq_getElem?_getD, List.getElem?_eq_getElem hx]
  exact hall _ (List.getElem_mem hx)

theorem is_box_s_box (x : UInt8) : is_box (s_box x) = x := by
  have hall : ∀ n < 256, isbValues.getD (sbValues.getD n 0) 0 = n := by decide +kernel
  rw [is_box_ofNat, s_box_ofNat, UInt8.toNat_ofNat_of_lt' (sbValues_lt x), hall x.toNat x.toNat_lt,
    UInt8.ofNat_toNat]

theorem is_box_eq (x : UInt8) : is_box x = invSBox x := by
  have h := is_box_s_box (invSBox x)
  rwa [s_box_eq, sBox_invSBox] at h

theorem f2_eq (x : UInt8) : UInt8.ofNat (f2 x.toNat) = Gf256.xtime x := by
  revert x
  apply Gf256.forall_octet
  decide +kernel

theorem f4_eq (x : UInt8) : UInt8.ofNat (f4 x.toNat) = Gf256.xtime (Gf256.xtime x) := by
  revert x
  apply Gf256.forall_octet
  decide +kernel

theorem f8_eq (x : UInt8) :
    UInt8.ofNat (f8 x.toNat) = Gf256.xtime (Gf256.xtime (Gf256.xtime x)) := by
  revert x
  apply Gf256.forall_octet
  decide +kernel

theorem gfm2_sb_eq (x : UInt8) : gfm2_sb x = Gf256.mul 2 (sBox x) := by
  have h := f2_eq (s_box x)
  rw [s_box_ofNat, UInt8.toNat_ofNat_of_lt' (sbValues_lt x)] at h
  rw [gfm2_sb, sb_data, getD_map_values length_sbValues, h, mul_two, ← s_box_eq, s_box_ofNat]

theorem gfm3_sb_eq (x : UInt8) : gfm3_sb x = Gf256.mul 3 (sBox x) := by
  have h := f2_eq (s_box x)
  rw [s_box_ofNat, UInt8.toNat_ofNat_of_lt' (sbValues_lt x)] at h
  rw [gfm3_sb, sb_data, getD_map_values length_sbValues, f3, UInt8.ofNat_xor, h, mul_three,
    ← s_box_eq, s_box_ofNat, UInt8.xor_comm]

theorem gfm_9_eq (x : UInt8) : gfm_9 x = Gf256.mul 0x09 x := by
  rw [gfm_9, mm_data_getD, f9, UInt8.ofNat_xor, f8_eq, UInt8.ofNat_toNat, mul_nine, UInt8.xor_comm]

theorem gfm_b_eq (x : UInt8) : gfm_b x = Gf256.mul 0x0b x := by
  rw [gfm_b, mm_data_getD, fb, UInt8.ofNat_xor, UInt8.ofNat_xor, f8_eq, f2_eq, UInt8.ofNat_toNat,
    mul_eleven]
  ac_rfl

theorem gfm_d_eq (x : UInt8) : gfm_d x = Gf256.mul 0x0d x := by
  rw [gfm_d, mm_data_getD, fd, UInt8.ofNat_xor, UInt8.ofNat_xor, f8_eq, f4_eq, UInt8.ofNat_toNat,
    mul_thirteen]
  ac_rfl

theorem gfm_e_eq (x : UInt8) : gfm_e x = Gf256.mul 0x0e x := by
  rw [gfm_e, mm_data_getD, fe, UInt8.ofNat_xor, UInt8.ofNat_xor, f8_eq, f4_eq, f2_eq, mul_fourteen]
  ac_rfl

/-! ### The transformations -/

theorem shift_sub_rows_eq (st : Block) : shift_sub_rows st = last st := by
  have hplaces : shift_sub_rows st = shiftRows fun i => s_box (st i) := by
    funext i
    fin_cases i <;> rfl
  rw [hplaces, last]
  congr 1
  funext i
  exact s_box_eq (st i)

theorem inv_shift_sub_rows_eq (st : Block) : inv_shift_sub_rows st = invLast st := by
  have hplaces : inv_shift_sub_rows st = fun i => is_box (invShiftRows st i) := by
    funext i
    fin_cases i <;> rfl
  rw [hplaces, invLast]
  funext i
  exact is_box_eq _

theorem xor_turn (a b c d : UInt8) : a ^^^ b ^^^ c ^^^ d = b ^^^ c ^^^ d ^^^ a := by ac_rfl

theorem mix_sub_columns_eq (st : Block) : mix_sub_columns st = layer st := by
  funext i
  simp only [mix_sub_columns, gfm2_sb_eq, gfm3_sb_eq, s_box_eq, layer, mixColumns, circulant,
    mul_one_left]
  generalize Gf256.mul 2 = mul2
  generalize Gf256.mul 3 = mul3
  fin_cases i <;> first
    | rfl
    | exact xor_turn ..
    | exact (xor_turn ..).trans (xor_turn ..)
    | exact (xor_turn ..).trans ((xor_turn ..).trans (xor_turn ..))

theorem inv_mix_sub_columns_eq (st : Block) : inv_mix_sub_columns st = invLayer st := by
  funext i
  simp only [inv_mix_sub_columns, gfm_9_eq, gfm_b_eq, gfm_d_eq, gfm_e_eq, is_box_eq, invLayer,
    invMixColumns, invSubBytes]
  unfold circulant
  generalize Gf256.mul 0x09 = mul9
  generalize Gf256.mul 0x0b = mulb
  generalize Gf256.mul 0x0d = muld
  generalize Gf256.mul 0x0e = mule
  fin_cases i <;> first
    | rfl
    | exact congrArg invSBox (xor_turn ..)
    | exact congrArg invSBox ((xor_turn ..).trans (xor_turn ..))
    | exact congrArg invSBox ((xor_turn ..).trans ((xor_turn ..).trans (xor_turn ..)))

/-! ### The rounds -/

/-- The key of the round `r` in the schedule. -/
def aes_context.key (ctx : aes_context) (r : ℕ) : Block := ctx.block (r * 16)

@[simp] theorem get_stored (b : Block) : (stored b).get = b :=
  funext fun i => Vector.getElem_ofFn i.isLt

theorem encryptRounds_eq (ctx : aes_context) (fuel r : ℕ) (s : Block) (hr : r < ctx.rnd)
    (hfuel : ctx.rnd ≤ r + 1 + fuel) :
    encryptRounds ctx fuel (r + 1) (stored (Rounds.forward addRoundKey layer ctx.key r s)) =
      (ctx.rnd, stored (Rounds.forward addRoundKey layer ctx.key (ctx.rnd - 1) s)) := by
  induction fuel generalizing r with
  | zero =>
    have hrnd : ctx.rnd = r + 1 := by omega
    rw [encryptRounds, hrnd, Nat.add_sub_cancel]
  | succ fuel ih =>
    rw [encryptRounds]
    by_cases hnext : r + 1 < ctx.rnd
    · have hrest := ih (r + 1) hnext (by omega)
      rw [if_pos hnext]
      dsimp only
      rw [get_stored, get_stored, mix_sub_columns_eq]
      exact hrest
    · have hrnd : ctx.rnd = r + 1 := by omega
      rw [if_neg hnext, hrnd, Nat.add_sub_cancel]

theorem decryptRounds_eq (ctx : aes_context) (r : ℕ) (s : Block) :
    copy_and_key (decryptRounds ctx r (stored s)).get (ctx.block 0) =
      Rounds.backward addRoundKey invLayer ctx.key r s := by
  induction r generalizing s with
  | zero =>
    rw [decryptRounds, get_stored]
    rfl
  | succ r ih =>
    rw [decryptRounds]
    rw [get_stored, get_stored, ih, inv_mix_sub_columns_eq]
    rfl

theorem aes_encrypt_eq (inp : Block) {ctx : aes_context} (h : ctx.rnd ≠ 0) :
    aes_encrypt inp ctx =
      some (Rounds.encrypt addRoundKey layer last ctx.key (ctx.rnd - 1) inp) := by
  have hrounds := encryptRounds_eq ctx ctx.rnd 0 inp (by omega) (by omega)
  have hstart : copy_and_key inp (ctx.block 0) =
      Rounds.forward addRoundKey layer ctx.key 0 inp := rfl
  have hrnd : ctx.rnd - 1 + 1 = ctx.rnd := by omega
  rw [aes_encrypt, if_pos h, hstart, hrounds]
  dsimp only
  rw [get_stored, get_stored, shift_sub_rows_eq, Rounds.encrypt, hrnd]
  rfl

theorem aes_decrypt_eq (inp : Block) {ctx : aes_context} (h : ctx.rnd ≠ 0) :
    aes_decrypt inp ctx =
      some (Rounds.decrypt addRoundKey invLayer invLast ctx.key (ctx.rnd - 1) inp) := by
  have hrnd : ctx.rnd - 1 + 1 = ctx.rnd := by omega
  rw [aes_decrypt, if_pos h]
  dsimp only
  rw [decryptRounds_eq, get_stored, inv_shift_sub_rows_eq, Rounds.decrypt, hrnd]
  rfl

/-! ### The schedule -/

section

variable {Nk : ℕ} {key : ℕ → UInt8}

/-- The first `i` words are those of the schedule. -/
structure Scheduled (Nk : ℕ) (key : ℕ → UInt8) (i : ℕ) (ksch : Octets) : Prop where
  length : ksch.length = 4 * i
  word : ∀ m < i, ∀ j : Fin 4, ksch.getD (4 * m + j) 0 = keyWord Nk key m j

theorem keyWord_lt {i : ℕ} (h : i < Nk) (j : Fin 4) : keyWord Nk key i j = key (4 * i + j) := by
  rw [keyWord, if_pos (Or.inl h)]

theorem scheduled_key (Nk : ℕ) (key : ℕ → UInt8) :
    Scheduled Nk key Nk ((List.range (4 * Nk)).map key) := by
  refine ⟨by rw [List.length_map, List.length_range], fun m hm j => ?_⟩
  have hj := j.isLt
  have hlt : 4 * m + j < 4 * Nk := by omega
  rw [keyWord_lt hm, List.getD_eq_getElem?_getD, List.getElem?_map, List.getElem?_range hlt]
  rfl

/-- The constant of the next step that uses one, where the word `i` is to be set. -/
def nextConstant (Nk i : ℕ) : UInt8 := Gf256.xtime^[(i - 1) / Nk] 1

theorem Scheduled.append {i : ℕ} {ksch : Octets} (h : Scheduled Nk key i ksch) :
    Scheduled Nk key (i + 1) (ksch ++ [keyWord Nk key i 0, keyWord Nk key i 1, keyWord Nk key i 2,
      keyWord Nk key i 3]) := by
  refine ⟨by rw [List.length_append, h.length]; rfl, fun m hm j => ?_⟩
  by_cases hold : m < i
  · have hj := j.isLt
    have hlt : 4 * m + j < ksch.length := by
      rw [h.length]
      omega
    rw [List.getD_eq_getElem?_getD, List.getElem?_append_left hlt, ← List.getD_eq_getElem?_getD]
    exact h.word m hold j
  · have hmi : m = i := by omega
    subst hmi
    rw [List.getD_eq_getElem?_getD, List.getElem?_append_right (by rw [h.length]; omega), h.length,
      Nat.add_sub_cancel_left]
    fin_cases j <;> rfl

theorem Scheduled.back {i : ℕ} {ksch : Octets} (h : Scheduled Nk key i ksch) {k : ℕ} (hk : 0 < k)
    (hki : k ≤ i) (j : Fin 4) : ksch.getD (4 * i - 4 * k + j) 0 = keyWord Nk key (i - k) j := by
  rw [show 4 * i - 4 * k + (j : ℕ) = 4 * (i - k) + j by omega]
  exact h.word (i - k) (by omega) j

/-- What the step reads of the last word and of the word `Nk` back. -/
theorem Scheduled.reads {i : ℕ} {ksch : Octets} (h : Scheduled Nk key i ksch) (hNk : 0 < Nk)
    (hi : Nk ≤ i) :
    (ksch.getD (4 * i - 4) 0 = keyWord Nk key (i - 1) 0 ∧
      ksch.getD (4 * i - 3) 0 = keyWord Nk key (i - 1) 1 ∧
      ksch.getD (4 * i - 2) 0 = keyWord Nk key (i - 1) 2 ∧
      ksch.getD (4 * i - 1) 0 = keyWord Nk key (i - 1) 3) ∧
    ksch.getD (4 * i - 4 * Nk) 0 = keyWord Nk key (i - Nk) 0 ∧
      ksch.getD (4 * i - 4 * Nk + 1) 0 = keyWord Nk key (i - Nk) 1 ∧
      ksch.getD (4 * i - 4 * Nk + 2) 0 = keyWord Nk key (i - Nk) 2 ∧
      ksch.getD (4 * i - 4 * Nk + 3) 0 = keyWord Nk key (i - Nk) 3 := by
  have hlast := fun j => h.back Nat.one_pos (by omega) j
  have h1 : 4 * i - 3 = 4 * i - 4 * 1 + 1 := by omega
  have h2 : 4 * i - 2 = 4 * i - 4 * 1 + 2 := by omega
  have h3 : 4 * i - 1 = 4 * i - 4 * 1 + 3 := by omega
  rw [h1, h2, h3]
  exact ⟨⟨hlast 0, hlast 1, hlast 2, hlast 3⟩, h.back hNk hi 0, h.back hNk hi 1, h.back hNk hi 2,
    h.back hNk hi 3⟩

theorem nextConstant_multiple {i : ℕ} (hNk : 0 < Nk) (hi : Nk ≤ i) (hmod : i % Nk = 0) :
    nextConstant Nk i = rcon (i / Nk) 0 ∧
      nextConstant Nk (i + 1) = Gf256.xtime (nextConstant Nk i) := by
  obtain ⟨q, rfl⟩ := Nat.dvd_of_mod_eq_zero hmod
  have hq : 0 < q := Nat.pos_of_ne_zero fun h0 => by
    rw [h0, Nat.mul_zero] at hi
    omega
  have hbefore : (Nk * q - 1) / Nk = q - 1 := by
    obtain ⟨p, rfl⟩ : ∃ p, q = p + 1 := ⟨q - 1, by omega⟩
    rw [Nat.mul_succ, Nat.add_sub_assoc hNk, Nat.mul_add_div hNk, Nat.div_eq_of_lt (by omega),
      Nat.add_zero, Nat.add_sub_cancel]
  have hhere : Nk * q / Nk = q := Nat.mul_div_cancel_left q hNk
  constructor
  · rw [nextConstant, hbefore, rcon, hhere, if_pos rfl]
  · have hsucc : (q - 1).succ = q := Nat.succ_pred_eq_of_pos hq
    rw [nextConstant, nextConstant, Nat.add_sub_cancel, hbefore, hhere,
      ← Function.iterate_succ_apply' Gf256.xtime, hsucc]

theorem nextConstant_other {i : ℕ} (hNk : 0 < Nk) (hmod : i % Nk ≠ 0) :
    nextConstant Nk (i + 1) = nextConstant Nk i := by
  have hdiv := Nat.div_add_mod i Nk
  have hlt := Nat.mod_lt i hNk
  have hzero : (i % Nk - 1) / Nk = 0 := Nat.div_eq_of_lt (by omega)
  have hbefore : (i - 1) / Nk = i / Nk := by
    rw [show i - 1 = Nk * (i / Nk) + (i % Nk - 1) by omega, Nat.mul_add_div hNk, hzero,
      Nat.add_zero]
  rw [nextConstant, nextConstant, hbefore, Nat.add_sub_cancel]

theorem keyWord_ge {i : ℕ} (hNk : 0 < Nk) (hi : Nk ≤ i) :
    keyWord Nk key i = fun j => keyWord Nk key (i - Nk) j ^^^
      (if i % Nk = 0 then fun j => subWord (rotWord (keyWord Nk key (i - 1))) j ^^^ rcon (i / Nk) j
        else if 6 < Nk ∧ i % Nk = 4 then subWord (keyWord Nk key (i - 1))
        else keyWord Nk key (i - 1)) j := by
  rw [keyWord, if_neg (by omega)]

theorem rcon_of_ne (n : ℕ) {j : Fin 4} (hj : j ≠ 0) : rcon n j = 0 := if_neg hj

theorem scheduleStep_eq {i : ℕ} {ksch : Octets} (h : Scheduled Nk key i ksch) (hNk : 0 < Nk)
    (hi : Nk ≤ i) :
    scheduleStep (4 * Nk) (4 * i) (nextConstant Nk i) ksch =
      (nextConstant Nk (i + 1), ksch ++ [keyWord Nk key i 0, keyWord Nk key i 1,
        keyWord Nk key i 2, keyWord Nk key i 3]) := by
  obtain ⟨⟨t0, t1, t2, t3⟩, p0, p1, p2, p3⟩ := h.reads hNk hi
  unfold scheduleStep
  dsimp only
  rw [t0, t1, t2, t3, p0, p1, p2, p3, Nat.mul_mod_mul_left, s_box_eq, s_box_eq, s_box_eq, s_box_eq,
    keyWord_ge hNk hi]
  by_cases hmod : i % Nk = 0
  · obtain ⟨hrcon, hnext⟩ := nextConstant_multiple hNk hi hmod
    have h1 : rcon (i / Nk) 1 = 0 := rcon_of_ne _ (by decide)
    have h2 : rcon (i / Nk) 2 = 0 := rcon_of_ne _ (by decide)
    have h3 : rcon (i / Nk) 3 = 0 := rcon_of_ne _ (by decide)
    rw [if_pos hmod, if_pos (by omega), f2_eq, hnext]
    dsimp only
    rw [h1, h2, h3, UInt8.xor_zero, UInt8.xor_zero, UInt8.xor_zero, ← hrcon]
    rfl
  · rw [if_neg hmod, if_neg (by omega), nextConstant_other hNk hmod]
    by_cases hsub : 6 < Nk ∧ i % Nk = 4
    · rw [if_pos hsub, if_pos (by omega)]
      rfl
    · rw [if_neg hsub, if_neg (by omega)]

theorem scheduleLoop_eq {n fuel i : ℕ} {ksch : Octets} (h : Scheduled Nk key i ksch) (hNk : 0 < Nk)
    (hi : Nk ≤ i) (hin : i ≤ n) (hfuel : n ≤ i + fuel) :
    Scheduled Nk key n
      (scheduleLoop (4 * Nk) (4 * n) fuel (4 * i) (nextConstant Nk i) ksch) := by
  induction fuel generalizing i ksch with
  | zero =>
    have hni : i = n := by omega
    rw [scheduleLoop, ← hni]
    exact h
  | succ fuel ih =>
    rw [scheduleLoop]
    by_cases hlt : i < n
    · rw [if_pos (by omega), scheduleStep_eq h hNk hi]
      exact ih h.append (by omega) (by omega) (by omega)
    · have hni : i = n := by omega
      rw [if_neg (by omega), ← hni]
      exact h

end

/-- The lengths of keys, in words. -/
def keyWords : List ℕ := [4, 6, 8]

theorem aes_set_key_schedule (key : Octets) {Nk : ℕ} (hNk : Nk ∈ keyWords) (ctx : aes_context) :
    (aes_set_key key (4 * Nk) ctx).1 = 0 ∧ (aes_set_key key (4 * Nk) ctx).2.rnd = Nk + 6 ∧
      ∀ r ≤ Nk + 6, (aes_set_key key (4 * Nk) ctx).2.key r = roundKey Nk (key.getD · 0) r := by
  have hlen : 4 * Nk = 16 ∨ 4 * Nk = 24 ∨ 4 * Nk = 32 := by
    simp only [keyWords, List.mem_cons, List.not_mem_nil, or_false] at hNk
    omega
  have hhi : (4 * Nk + 28) <<< 2 = 4 * (4 * (Nk + 7)) := by
    rw [Nat.shiftLeft_eq]
    omega
  have hrnd : (4 * (4 * (Nk + 7))) >>> 4 - 1 = Nk + 6 := by
    rw [Nat.shiftRight_eq_div_pow]
    omega
  have hsched : Scheduled Nk (key.getD · 0) (4 * (Nk + 7)) _ :=
    scheduleLoop_eq (scheduled_key Nk (key.getD · 0)) (by omega) le_rfl (by omega)
      (show 4 * (Nk + 7) ≤ Nk + 4 * (4 * (Nk + 7)) by omega)
  have hfirst : nextConstant Nk Nk = 1 := by
    rw [nextConstant, Nat.div_eq_of_lt (by omega)]
    rfl
  rw [hfirst] at hsched
  rw [aes_set_key, if_pos hlen]
  dsimp only
  rw [hhi, hrnd]
  refine ⟨rfl, rfl, fun r hr => funext fun i => ?_⟩
  have hi := i.isLt
  have hword := hsched.word (4 * r + i / 4) (by omega) ⟨i % 4, by omega⟩
  have hplace : r * 16 + (i : ℕ) = 4 * (4 * r + i / 4) + i % 4 := by omega
  have hlt : r * 16 + (i : ℕ) < 4 * (4 * (Nk + 7)) := by omega
  rw [aes_context.key, aes_context.block]
  dsimp only
  rw [List.getD_eq_getElem?_getD, List.getElem?_append_left (by rwa [hsched.length]),
    ← List.getD_eq_getElem?_getD, hplace, roundKey]
  exact hword

/-! ### Encryption and decryption under a key -/

theorem aes_encrypt_under_key (key : Octets) {Nk : ℕ} (hNk : Nk ∈ keyWords) (ctx : aes_context)
    (s : Block) :
    aes_encrypt s (aes_set_key key (4 * Nk) ctx).2 = some (cipher Nk (key.getD · 0) s) := by
  obtain ⟨-, hrnd, hkey⟩ := aes_set_key_schedule key hNk ctx
  have hset : (aes_set_key key (4 * Nk) ctx).2.rnd ≠ 0 := by omega
  have hrounds : Nk + 6 - 1 = Nk + 5 := rfl
  rw [aes_encrypt_eq s hset, hrnd, hrounds, Rounds.encrypt_congr hkey, cipher]

theorem aes_decrypt_under_key (key : Octets) {Nk : ℕ} (hNk : Nk ∈ keyWords) (ctx : aes_context)
    (s : Block) :
    aes_decrypt s (aes_set_key key (4 * Nk) ctx).2 = some (invCipher Nk (key.getD · 0) s) := by
  obtain ⟨-, hrnd, hkey⟩ := aes_set_key_schedule key hNk ctx
  have hset : (aes_set_key key (4 * Nk) ctx).2.rnd ≠ 0 := by omega
  have hrounds : Nk + 6 - 1 = Nk + 5 := rfl
  rw [aes_decrypt_eq s hset, hrnd, hrounds, Rounds.decrypt_congr hkey, invCipher]

/-- With a key of sixteen, 24 or 32 octets the blocks are enciphered and deciphered as AES does; a
key of another length is refused, and so are all blocks after it. -/
theorem aes_set_key_computes (key : Octets) (keylen : ℕ) (ctx : aes_context) (s : Block) :
    (∀ Nk ∈ keyWords, keylen = 4 * Nk → (aes_set_key key keylen ctx).1 = 0 ∧
      aes_encrypt s (aes_set_key key keylen ctx).2 = some (cipher Nk (key.getD · 0) s) ∧
      aes_decrypt s (aes_set_key key keylen ctx).2 = some (invCipher Nk (key.getD · 0) s)) ∧
    (keylen ∉ keyWords.map (4 * ·) → (aes_set_key key keylen ctx).1 = -1 ∧
      aes_encrypt s (aes_set_key key keylen ctx).2 = none ∧
      aes_decrypt s (aes_set_key key keylen ctx).2 = none) := by
  constructor
  · rintro Nk hNk rfl
    obtain ⟨hreturn, -, -⟩ := aes_set_key_schedule key hNk ctx
    exact ⟨hreturn, aes_encrypt_under_key key hNk ctx s, aes_decrypt_under_key key hNk ctx s⟩
  · intro hlen
    have hother : ¬(keylen = 16 ∨ keylen = 24 ∨ keylen = 32) := by
      simpa [keyWords] using hlen
    rw [aes_set_key, if_neg hother]
    exact ⟨rfl, if_neg (not_not.mpr rfl), if_neg (not_not.mpr rfl)⟩

/-- Whatever the schedule holds, the two functions undo each other, or both refuse. -/
theorem aes_encrypt_aes_decrypt (ctx : aes_context) (s : Block) :
    (aes_encrypt s ctx).bind (aes_decrypt · ctx) = (if ctx.rnd = 0 then none else some s) ∧
      (aes_decrypt s ctx).bind (aes_encrypt · ctx) = if ctx.rnd = 0 then none else some s := by
  by_cases hrnd : ctx.rnd = 0
  · rw [aes_encrypt, aes_decrypt, if_neg (not_not.mpr hrnd), if_neg (not_not.mpr hrnd), if_pos hrnd]
    exact ⟨rfl, rfl⟩
  · rw [aes_encrypt_eq s hrnd, aes_decrypt_eq s hrnd, if_neg hrnd, Option.bind_some,
      Option.bind_some, aes_encrypt_eq _ hrnd, aes_decrypt_eq _ hrnd,
      Rounds.decrypt_encrypt addRoundKey_addRoundKey invLayer_layer invLast_last,
      Rounds.encrypt_decrypt addRoundKey_addRoundKey layer_invLayer last_invLast]
    exact ⟨rfl, rfl⟩

/-! ### The cipher of the servers -/

def toBlock (bs : Octets) : Block := fun i => bs.getD i 0

def ofBlock (b : Block) : Octets := List.ofFn b

theorem length_ofBlock (b : Block) : (ofBlock b).length = 16 := List.length_ofFn

theorem ofBlock_toBlock {bs : Octets} (h : bs.length = 16) : ofBlock (toBlock bs) = bs := by
  apply List.ext_getElem
  · rw [length_ofBlock, h]
  · intro i hi hi'
    refine (List.getElem_ofFn hi).trans ?_
    rw [toBlock, List.getD_eq_getElem?_getD, List.getElem?_eq_getElem hi', Option.getD_some]

theorem toBlock_ofBlock (b : Block) : toBlock (ofBlock b) = b := by
  funext i
  have hi : (i : ℕ) < (ofBlock b).length := lt_of_lt_of_eq i.isLt (length_ofBlock b).symm
  rw [toBlock, List.getD_eq_getElem?_getD, List.getElem?_eq_getElem hi]
  exact List.getElem_ofFn hi

/-- `aes_set_key` with the sixteen octets at `key`, and the function `f` on a block of memory, which
stays as it is where `f` refuses. -/
def withKey (f : Block → aes_context → Option Block) (ctx : aes_context) (key block : Octets) :
    Octets :=
  match f (toBlock block) (aes_set_key key 16 ctx).2 with
  | some b => ofBlock b
  | none => block

theorem withKey_aes_encrypt (ctx : aes_context) (key block : Octets) :
    withKey aes_encrypt ctx key block = ofBlock (cipher 4 (key.getD · 0) (toBlock block)) := by
  have hfour : 4 ∈ keyWords := by decide
  rw [withKey, aes_encrypt_under_key key hfour ctx (toBlock block)]

theorem withKey_aes_decrypt (ctx : aes_context) (key block : Octets) :
    withKey aes_decrypt ctx key block = ofBlock (invCipher 4 (key.getD · 0) (toBlock block)) := by
  have hfour : 4 ∈ keyWords := by decide
  rw [withKey, aes_decrypt_under_key key hfour ctx (toBlock block)]

/-- The cipher that the servers hand to everything above; the context they use is one of the stack,
with any content. -/
def aes (ctx : aes_context) : BlockCipher where
  encrypt := withKey aes_encrypt ctx
  decrypt := withKey aes_decrypt ctx
  encrypt_length key block _ := by
    rw [withKey_aes_encrypt, length_ofBlock]
  decrypt_length key block _ := by
    rw [withKey_aes_decrypt, length_ofBlock]
  encrypt_decrypt key block h := by
    rw [withKey_aes_encrypt, withKey_aes_decrypt, toBlock_ofBlock, cipher_invCipher,
      ofBlock_toBlock h]

end Lorawan.Backend.Aes

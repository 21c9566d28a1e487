import Mathlib.Data.Nat.Notation
import Mathlib.Logic.Function.Basic

/-!
# Rounds of keys and layers

A cipher adds a key to its state, and between two keys applies a layer that has an inverse; before
the last key stands another one. Going back through the rounds undoes them, whatever the keys are.
-/

namespace Lorawan.Rounds

variable {σ κ : Type*} (add : κ → σ → σ) (layer last : σ → σ) (key : ℕ → κ)

/-- The first key, and `n` rounds of a layer and a key. -/
def forward : ℕ → σ → σ
  | 0, s => add (key 0) s
  | n + 1, s => add (key (n + 1)) (layer (forward n s))

/-- The rounds from the `n`-th back to the first key; `layer` is the inverse of the layer. -/
def backward : ℕ → σ → σ
  | 0, s => add (key 0) s
  | n + 1, s => backward n (layer (add (key (n + 1)) s))

def encrypt (n : ℕ) (s : σ) : σ := add (key (n + 1)) (last (forward add layer key n s))

def decrypt (n : ℕ) (s : σ) : σ := backward add layer key n (last (add (key (n + 1)) s))

section

variable {add layer last key} {layer' last' : σ → σ} (hadd : ∀ k s, add k (add k s) = s)

include hadd in
theorem backward_forward (hlayer : Function.LeftInverse layer' layer) (n : ℕ) (s : σ) :
    backward add layer' key n (forward add layer key n s) = s := by
  induction n with
  | zero => exact hadd (key 0) s
  | succ n ih => rw [forward, backward, hadd, hlayer, ih]

include hadd in
theorem forward_backward (hlayer : Function.RightInverse layer' layer) (n : ℕ) (s : σ) :
    forward add layer key n (backward add layer' key n s) = s := by
  induction n generalizing s with
  | zero => exact hadd (key 0) s
  | succ n ih => rw [forward, backward, ih, hlayer, hadd]

include hadd in
theorem decrypt_encrypt (hlayer : Function.LeftInverse layer' layer)
    (hlast : Function.LeftInverse last' last) (n : ℕ) (s : σ) :
    decrypt add layer' last' key n (encrypt add layer last key n s) = s := by
  rw [encrypt, decrypt, hadd, hlast, backward_forward hadd hlayer]

include hadd in
theorem encrypt_decrypt (hlayer : Function.RightInverse layer' layer)
    (hlast : Function.RightInverse last' last) (n : ℕ) (s : σ) :
    encrypt add layer last key n (decrypt add layer' last' key n s) = s := by
  rw [encrypt, decrypt, forward_backward hadd hlayer, hlast, hadd]

end

section

variable {add layer last key} {key' : ℕ → κ}

theorem forward_congr {n : ℕ} (h : ∀ r ≤ n, key r = key' r) (s : σ) :
    forward add layer key n s = forward add layer key' n s := by
  induction n with
  | zero => rw [forward, forward, h 0 (Nat.le_refl _)]
  | succ n ih => rw [forward, forward, ih fun r hr => h r (Nat.le_succ_of_le hr), h (n + 1) (Nat.le_refl _)]

theorem backward_congr {n : ℕ} (h : ∀ r ≤ n, key r = key' r) (s : σ) :
    backward add layer key n s = backward add layer key' n s := by
  induction n generalizing s with
  | zero => rw [backward, backward, h 0 (Nat.le_refl _)]
  | succ n ih =>
    rw [backward, backward, h (n + 1) (Nat.le_refl _), ih fun r hr => h r (Nat.le_succ_of_le hr)]

theorem encrypt_congr {n : ℕ} (h : ∀ r ≤ n + 1, key r = key' r) (s : σ) :
    encrypt add layer last key n s = encrypt add layer last key' n s := by
  rw [encrypt, encrypt, forward_congr fun r hr => h r (Nat.le_succ_of_le hr), h (n + 1) (Nat.le_refl _)]

theorem decrypt_congr {n : ℕ} (h : ∀ r ≤ n + 1, key r = key' r) (s : σ) :
    decrypt add layer last key n s = decrypt add layer last key' n s := by
  rw [decrypt, decrypt, h (n + 1) (Nat.le_refl _), backward_congr fun r hr => h r (Nat.le_succ_of_le hr)]

end

end Lorawan.Rounds

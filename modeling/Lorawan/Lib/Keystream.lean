import Mathlib.Data.List.GetD

/-!
# A text combined with a keystream

Item `k` of the text is combined with item `k` of the keystream. Where the combination undoes
itself, so does the combination of texts, and a text may be taken in pieces.
-/

namespace Lorawan.Keystream

variable {α β : Type*} (op : α → β → α) (ks : ℕ → β)

def combine (text : List α) : List α := text.mapIdx fun k x => op x (ks k)

@[simp] theorem combine_nil : combine op ks [] = [] := rfl

@[simp] theorem length_combine (text : List α) : (combine op ks text).length = text.length :=
  List.length_mapIdx

theorem getElem_combine (text : List α) {k : ℕ} (hk : k < (combine op ks text).length)
    (h : k < text.length) : (combine op ks text)[k] = op text[k] (ks k) :=
  List.getElem_mapIdx

theorem combine_combine (h : ∀ x b, op (op x b) b = x) (text : List α) :
    combine op ks (combine op ks text) = text := by
  apply List.ext_getElem
  · rw [length_combine, length_combine]
  · intro k _ hk
    rw [getElem_combine, getElem_combine, h]
    rwa [length_combine]

theorem combine_append (text rest : List α) :
    combine op ks (text ++ rest) =
      combine op ks text ++ combine op (fun k => ks (text.length + k)) rest := by
  rw [combine, List.mapIdx_append]
  congr 1
  rw [combine]
  congr 1
  funext k x
  rw [Nat.add_comm]

variable {ks}

theorem combine_congr {ks' : ℕ → β} {text : List α} (h : ∀ k < text.length, ks k = ks' k) :
    combine op ks text = combine op ks' text := by
  apply List.ext_getElem
  · rw [length_combine, length_combine]
  · intro k hk _
    have hk' : k < text.length := by rwa [length_combine] at hk
    rw [getElem_combine op ks text hk hk', getElem_combine op ks' text _ hk', h k hk']

end Lorawan.Keystream

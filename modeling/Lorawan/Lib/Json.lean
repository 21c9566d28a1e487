import Mathlib.Data.Int.Notation
import Mathlib.Logic.Function.Basic

/-!
# JSON values

Values as a C program sees them through a JSON library: an accessor answers for a
value of any type, by converting it. What these conversions give is a parameter;
only that a value is read back as the type it was made with is fixed. A JSON
`null` is a null pointer.
-/

namespace Lorawan

variable {κ D : Type}

/-- A JSON value, with the member names `κ` and the double precision numbers `D`. -/
inductive Json (κ D : Type)
  | null
  | boolean (b : Bool)
  | int (n : ℤ)
  | double (x : D)
  | string (s : List Char)
  | array (vs : List (Json κ D))
  | object (members : κ → Option (Json κ D))

namespace Json

/-! ### Making values -/

def new_int (n : Int32) : Json κ D := .int n.toInt

/-- Members of an object that is still empty. -/
def noMembers : κ → Option (Json κ D) := fun _ => none

/-- `json_object_object_add`: a member of that name is written over. -/
def add [DecidableEq κ] (k : κ) (v : Json κ D) (members : κ → Option (Json κ D)) :
    κ → Option (Json κ D) :=
  Function.update members k (some v)

@[simp] theorem add_self [DecidableEq κ] (k : κ) (v : Json κ D) (members : κ → Option (Json κ D)) :
    add k v members k = some v := Function.update_self ..

@[simp] theorem add_of_ne [DecidableEq κ] {k k' : κ} (h : k' ≠ k) (v : Json κ D)
    (members : κ → Option (Json κ D)) : add k v members k' = members k' :=
  Function.update_of_ne h ..

/-- A member that may be left out. -/
def addSome [DecidableEq κ] (k : κ) (v : Option (Json κ D)) (members : κ → Option (Json κ D)) :
    κ → Option (Json κ D) :=
  v.elim members fun v => add k v members

@[simp] theorem addSome_self [DecidableEq κ] (k : κ) (v : Option (Json κ D))
    (members : κ → Option (Json κ D)) : addSome k v members k = v.or (members k) := by
  cases v with
  | none => rfl
  | some v => exact add_self k v members

@[simp] theorem addSome_of_ne [DecidableEq κ] {k k' : κ} (h : k' ≠ k) (v : Option (Json κ D))
    (members : κ → Option (Json κ D)) : addSome k v members k' = members k' := by
  cases v with
  | none => rfl
  | some v => exact add_of_ne h v members

@[simp] theorem noMembers_apply (k : κ) : (noMembers k : Option (Json κ D)) = none := rfl

/-! ### Reading values -/

/-- `json_object_object_get_ex`; what is no object has no member. -/
def get_ex : Json κ D → κ → Option (Json κ D)
  | .object members, k => members k
  | _, _ => none

@[simp] theorem get_ex_object (members : κ → Option (Json κ D)) (k : κ) :
    get_ex (.object members) k = members k := rfl

/-- What the library makes of a value of another type. -/
structure Conversions (κ D : Type) where
  text : Json κ D → List Char
  toInt : Json κ D → Int32
  toDouble : Json κ D → D
  toBool : Json κ D → Bool

variable (C : Conversions κ D)

/-- `json_object_get_int`: an integer that does not fit is cut to the next that does. -/
def get_int : Json κ D → Int32
  | .int n => Int32.ofIntClamp n
  | v => C.toInt v

def get_double : Json κ D → D
  | .double x => x
  | v => C.toDouble v

def get_boolean : Json κ D → Bool
  | .boolean b => b
  | v => C.toBool v

/-- `json_object_get_string`: null for a null value. -/
def get_string : Json κ D → Option (List Char)
  | .null => none
  | .string s => some s
  | v => some (C.text v)

/-- `json_object_array_length` and the elements; the library aborts for what is no array. -/
def elements : Json κ D → Option (List (Json κ D))
  | .array vs => some vs
  | _ => none

@[simp] theorem get_int_new_int (n : Int32) : get_int C (new_int n) = n := by
  rw [new_int, get_int, ← @Int32.ofIntLE_eq_ofIntClamp n.toInt n.minValue_le_toInt n.toInt_le]
  exact Int32.ofIntLE_toInt n

@[simp] theorem get_double_double (x : D) : get_double C (.double x) = x := rfl

@[simp] theorem get_boolean_boolean (b : Bool) : get_boolean C (.boolean b) = b := rfl

@[simp] theorem get_string_string (s : List Char) : get_string C (.string s) = some s := rfl

end Json

/-! ### Numbers with a point -/

/-- Numbers of single precision, as far as they are compared and sent as numbers of double
precision. -/
structure Floats (S D : Type) where
  zero : S
  widen : S → D
  narrow : D → S
  narrow_widen : ∀ x, narrow (widen x) = x
  isPos : S → Bool
  isZero : S → Bool
  isZero_zero : isZero zero = true
  isZero_of_isPos : ∀ x, isPos x = true → isZero x = false

end Lorawan

import Mathlib.Tactic

/-!
# JSON values as the program handles them

Tool arguments, tool results and audit records are untyped Python values: what `json.loads` can
produce, or what `jsonable_encoder` leaves.  `Json` is that type.  Integers and floats stay
apart, as they do in Python, and a float may be one of the three values that JSON itself has no
notation for.

`Json.every` is the one traversal the rest of the model needs for predicates: all scalars
satisfy one test and all keys another.
-/

namespace TracePilot

/-- A Python float, up to the sign of zero. -/
inductive PyFloat
  | nan
  | inf (negative : Bool)
  | finite (q : ℚ)
  deriving DecidableEq

/-- `math.isfinite`. -/
def PyFloat.isFinite : PyFloat → Bool
  | finite _ => true
  | _ => false

/-- `self < bound`.  Every comparison with `NaN` is false. -/
def PyFloat.lt : PyFloat → ℚ → Bool
  | nan, _ => false
  | inf negative, _ => negative
  | finite q, bound => q < bound

/-- A JSON value in memory.  A `dict` is a list of items in insertion order. -/
inductive Json
  | null
  | bool (b : Bool)
  | int (n : ℤ)
  | float (x : PyFloat)
  | str (s : String)
  | arr (items : List Json)
  | obj (fields : List (String × Json))

namespace Json

mutual
/-- All scalars of the value pass `leaf`, and all its keys pass `key`. -/
def every (leaf : Json → Bool) (key : String → Bool) : Json → Bool
  | arr items => everyItem leaf key items
  | obj fields => everyField leaf key fields
  | v => leaf v

/-- `every` over the items of a list. -/
def everyItem (leaf : Json → Bool) (key : String → Bool) : List Json → Bool
  | [] => true
  | v :: vs => every leaf key v && everyItem leaf key vs

/-- `every` over the items of a dictionary. -/
def everyField (leaf : Json → Bool) (key : String → Bool) : List (String × Json) → Bool
  | [] => true
  | (k, v) :: fs => key k && every leaf key v && everyField leaf key fs
end

variable (leaf : Json → Bool) (key : String → Bool)

@[simp] lemma every_null : every leaf key null = leaf null := by simp [every]
@[simp] lemma every_bool (b : Bool) : every leaf key (bool b) = leaf (bool b) := by simp [every]
@[simp] lemma every_int (n : ℤ) : every leaf key (int n) = leaf (int n) := by simp [every]
@[simp] lemma every_float (x : PyFloat) : every leaf key (float x) = leaf (float x) := by
  simp [every]
@[simp] lemma every_str (s : String) : every leaf key (str s) = leaf (str s) := by simp [every]

@[simp] lemma every_arr (items : List Json) :
    every leaf key (arr items) = items.all (every leaf key) := by
  rw [every]
  induction items with
  | nil => rfl
  | cons v vs ih => rw [everyItem, List.all_cons, ih]

@[simp] lemma every_obj (fields : List (String × Json)) :
    every leaf key (obj fields) = fields.all fun f => key f.1 && every leaf key f.2 := by
  rw [every]
  induction fields with
  | nil => rfl
  | cons f fs ih => rw [everyField, List.all_cons, ih]

/-- `value.get(name)` on a dictionary, `none` on anything else.  A literal dictionary never
repeats a key, so the first item under a key is the only one. -/
def field (name : String) : Json → Option Json
  | obj fields => fields.lookup name
  | _ => none

end Json

end TracePilot

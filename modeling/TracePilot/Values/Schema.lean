import TracePilot.Library.Rfc3339
import TracePilot.Values.Json

/-!
# JSON schemas

The part of JSON Schema that the tool definitions are written in: an object with listed properties,
of which each is an integer between bounds or a text in the format `date-time`.

**`ObjectSchema.accepts`** — which values a schema accepts.
-/

namespace TracePilot

open Rfc3339

namespace Json

/-- The integer that a number is.  The standard does not tell `42.0` from `42`. -/
def integer? : Json → Option ℤ
  | int n => some n
  | float (.finite q) => if q.den = 1 then some q.num else none
  | _ => none

/-- The timestamp that a text is. -/
def timestamp? : Json → Option Timestamp
  | str text => Rfc3339.parse text
  | _ => none

/-- The integer in a field. -/
def integerAt (name : String) (v : Json) : Option ℤ := (v.field name).bind integer?

/-- The timestamp in a field. -/
def timestampAt (name : String) (v : Json) : Option Timestamp := (v.field name).bind timestamp?

end Json

/-- The schema of a property. -/
inductive PropertySchema
  /-- `"type": "integer"`, with or without a `"maximum"` -/
  | integer (minimum : ℤ) (maximum : Option ℤ)
  /-- `"type": "string", "format": "date-time"` -/
  | dateTime

def PropertySchema.accepts : PropertySchema → Json → Bool
  | integer minimum maximum, v => v.integer?.any fun n => minimum ≤ n ∧ maximum.all (n ≤ ·)
  | dateTime, v => v.timestamp?.isSome

/-- The schema of an object. -/
structure ObjectSchema where
  properties : List (String × PropertySchema)
  required : List String
  additionalProperties : Bool

namespace ObjectSchema

/-- **The values that a schema accepts.** -/
def accepts (schema : ObjectSchema) : Json → Bool
  | .obj fields => schema.required.all (fun name => (fields.lookup name).isSome)
      && fields.all fun f => match schema.properties.lookup f.1 with
        | some property => property.accepts f.2
        | none => schema.additionalProperties
  | _ => false

variable {schema : ObjectSchema} {raw : Json} (name : String)

lemma eq_obj_of_accepts (h : schema.accepts raw = true) : ∃ fields, raw = .obj fields := by
  cases raw with
  | obj fields => exact ⟨fields, rfl⟩
  | _ => cases h

/-- A field that is there has the schema of its property, or is an additional one. -/
lemma accepts_field {name} (h : schema.accepts raw = true) {v : Json}
    (hv : raw.field name = some v) :
    match schema.properties.lookup name with
      | some property => property.accepts v = true
      | none => schema.additionalProperties = true := by
  obtain ⟨fields, rfl⟩ := eq_obj_of_accepts h
  rw [accepts, Bool.and_eq_true] at h
  obtain ⟨before, after, rfl, -⟩ := List.lookup_eq_some_iff.mp hv
  have hfield := List.all_eq_true.mp h.2 (name, v) (by simp)
  dsimp only at hfield ⊢
  split at hfield <;> exact hfield

/-- A required property is there, and its schema accepts it. -/
lemma accepts_required (h : schema.accepts raw = true) (hname : name ∈ schema.required)
    {property : PropertySchema} (hproperty : schema.properties.lookup name = some property) :
    ∃ v, raw.field name = some v ∧ property.accepts v = true := by
  have hfield : (raw.field name).isSome = true := by
    obtain ⟨fields, rfl⟩ := eq_obj_of_accepts h
    rw [accepts, Bool.and_eq_true] at h
    exact List.all_eq_true.mp h.1 name hname
  obtain ⟨v, hv⟩ := Option.isSome_iff_exists.mp hfield
  have haccepts := accepts_field h hv
  rw [hproperty] at haccepts
  exact ⟨v, hv, haccepts⟩

/-- A required integer, within its bounds. -/
lemma integerAt_of_accepts (h : schema.accepts raw = true) (hname : name ∈ schema.required)
    {minimum : ℤ} {maximum : Option ℤ}
    (hproperty : schema.properties.lookup name = some (.integer minimum maximum)) :
    ∃ n, raw.integerAt name = some n ∧ minimum ≤ n ∧ ∀ m ∈ maximum, n ≤ m := by
  obtain ⟨v, hv, haccepts⟩ := accepts_required name h hname hproperty
  obtain ⟨n, hn, hbounds⟩ := (Option.any_eq_true _ _).mp haccepts
  refine ⟨n, by rw [Json.integerAt, hv]; exact hn, ?_⟩
  simpa [Option.all_eq_true] using hbounds

/-- A required timestamp. -/
lemma timestampAt_of_accepts (h : schema.accepts raw = true) (hname : name ∈ schema.required)
    (hproperty : schema.properties.lookup name = some .dateTime) :
    ∃ t, raw.timestampAt name = some t := by
  obtain ⟨v, hv, haccepts⟩ := accepts_required name h hname hproperty
  obtain ⟨t, ht⟩ := Option.isSome_iff_exists.mp haccepts
  exact ⟨t, by rw [Json.timestampAt, hv]; exact ht⟩

/-- Without additional properties there is no other field. -/
lemma field_eq_none (h : schema.accepts raw = true) (hclosed : schema.additionalProperties = false)
    (hproperty : schema.properties.lookup name = none) : raw.field name = none := by
  rw [Option.eq_none_iff_forall_not_mem]
  intro v hv
  have haccepts := accepts_field h hv
  rw [hproperty, hclosed] at haccepts
  cases haccepts

end ObjectSchema

end TracePilot

import Mathlib.Data.List.Basic
import Rollout.Json.Decode

namespace Rollout.Json

def items : Json → List Json
  | .array items => items
  | _ => []

def mapItems (g : Nat → Json → Json) : Json → Json
  | .array items => .array (items.mapIdx g)
  | json => json

namespace Slot

variable {α : Type} {decode : Json → Option α} {g : Json → Json}

def json? : Slot → Option Json
  | .given json => some json
  | _ => none

def map (g : Json → Json) : Slot → Slot
  | .given json => .given (g json)
  | .omitted => .omitted
  | .pastEnd => .pastEnd

lemma required?_eq_some_iff {slot : Slot} {value : α} :
    slot.required? decode = some value ↔ ∃ json, slot = .given json ∧ decode json = some value := by
  cases slot <;> simp [required?]

lemma exists_required?_map {slot : Slot} {value : α} (h : slot.required? decode = some value)
    (hg : ∀ json, (decode json).isSome → (decode (g json)).isSome) :
    ∃ value', (slot.map g).required? decode = some value' := by
  obtain ⟨json, rfl, hjson⟩ := required?_eq_some_iff.mp h
  exact Option.isSome_iff_exists.mp (hg json (Option.isSome_of_eq_some hjson))

lemma exists_withDefault?_map {default : α} {slot : Slot} {value : α}
    (h : slot.withDefault? default decode = some value)
    (hg : ∀ json, (decode json).isSome → (decode (g json)).isSome) :
    ∃ value', (slot.map g).withDefault? default decode = some value' := by
  cases slot with
  | given json => exact Option.isSome_iff_exists.mp (hg json (Option.isSome_of_eq_some h))
  | _ => exact ⟨default, rfl⟩

end Slot

section Fields

variable {names : List String} {name : String} {g : Json → Json}

def field? (names : List String) (name : String) (json : Json) : Option Json :=
  (json.record? names).bind fun slot => (slot name).json?

def mapField (names : List String) (name : String) (g : Json → Json) : Json → Json
  | .object fields =>
    .object (fields.map fun field => (field.1, if field.1 = name then g field.2 else field.2))
  | .array items => .array (items.modify (names.idxOf name) g)
  | json => json

lemma namedOnce_map (fields : List (String × Json)) (g : String × Json → Json) :
    namedOnce names (fields.map fun field => (field.1, g field)) = namedOnce names fields := by
  simp only [namedOnce, List.countP_map]
  rfl

lemma lookup_map (fields : List (String × Json)) (other : String) :
    (fields.map fun field => (field.1, if field.1 = name then g field.2 else field.2)).lookup
        other =
      (fields.lookup other).map fun value => if other = name then g value else value := by
  induction fields with
  | nil => rfl
  | cons field rest ih =>
    rw [List.map_cons, List.lookup_cons, List.lookup_cons, ih]
    cases hk : other == field.1 with
    | false => rfl
    | true => rw [eq_of_beq hk]; rfl

lemma slotOfField_map (fields : List (String × Json)) (other : String) :
    slotOfField (fields.map fun field => (field.1, if field.1 = name then g field.2 else field.2))
        other =
      if other = name then (slotOfField fields other).map g else slotOfField fields other := by
  rw [slotOfField, slotOfField, lookup_map]
  by_cases h : other = name <;> cases fields.lookup other <;> simp [h, Slot.map]

lemma slotOfItem_modify (hn : name ∈ names) (items : List Json) (other : String) :
    slotOfItem names (items.modify (names.idxOf name) g) other =
      if other = name then (slotOfItem names items other).map g
      else slotOfItem names items other := by
  rw [slotOfItem, slotOfItem, List.getElem?_modify]
  by_cases h : other = name
  · subst h
    cases items[names.idxOf other]? <;> simp [Slot.map]
  · have hi : names.idxOf name ≠ names.idxOf other := fun hi => h ((List.idxOf_inj hn).mp hi).symm
    cases items[names.idxOf other]? <;> simp [hi, h]

lemma record?_mapField (hn : name ∈ names) (json : Json) :
    (json.mapField names name g).record? names =
      (json.record? names).map fun slot other =>
        if other = name then (slot other).map g else slot other := by
  cases json with
  | object fields =>
    rw [mapField, record?, namedOnce_map, record?]
    split
    · exact congrArg some (funext (slotOfField_map fields))
    · rfl
  | array items =>
    rw [mapField, record?, List.length_modify, record?]
    split
    · exact congrArg some (funext (slotOfItem_modify hn items))
    · rfl
  | _ => rfl

end Fields

end Rollout.Json

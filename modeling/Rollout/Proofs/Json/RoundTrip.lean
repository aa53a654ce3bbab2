import Mathlib.Data.List.Nodup
import Rollout.Json.Decode
import Rollout.Json.Encode

namespace Rollout

lemma setEntry_of_notMem {κ α : Type} [DecidableEq κ] {key : κ} {entries : List (κ × α)}
    (h : key ∉ entries.map Prod.fst) (value : α) :
    setEntry key value entries = entries ++ [(key, value)] := by
  induction entries with
  | nil => rfl
  | cons entry rest ih =>
    rw [List.map_cons, List.mem_cons, not_or] at h
    rw [setEntry, if_neg (Ne.symm h.1), ih h.2, List.cons_append]

lemma foldl_setEntry_of_nodup {κ α : Type} [DecidableEq κ] {entries kept : List (κ × α)}
    (h : ((kept ++ entries).map Prod.fst).Nodup) :
    entries.foldl (fun kept entry => setEntry entry.1 entry.2 kept) kept = kept ++ entries := by
  induction entries generalizing kept with
  | nil => simp
  | cons entry rest ih =>
    have hsplit : kept ++ entry :: rest = (kept ++ [entry]) ++ rest := by simp
    have hmem : entry.1 ∉ kept.map Prod.fst := by
      rw [List.map_append, List.nodup_append] at h
      intro hk
      exact h.2.2 _ hk _ (by simp) rfl
    rw [List.foldl_cons, setEntry_of_notMem hmem, ih (hsplit ▸ h), ← hsplit]

lemma lastWins_eq_self {κ α : Type} [DecidableEq κ] {entries : List (κ × α)}
    (h : (entries.map Prod.fst).Nodup) : lastWins entries = entries :=
  foldl_setEntry_of_nodup h

lemma Dictionary.ofList_entries {κ α : Type} [DecidableEq κ] (d : Dictionary κ α) :
    Dictionary.ofList d.entries = d :=
  Dictionary.ext (lastWins_eq_self d.nodup)

namespace Json

section Scalars

@[simp] lemma bool?_bool (b : Bool) : (Json.bool b).bool? = some b := by rw [bool?]

@[simp] lemma string?_string (s : String) : (Json.string s).string? = some s := by rw [string?]

lemma integerIn?_ofInt {low high n : Int} (h : low ≤ n ∧ n ≤ high) :
    integerIn? low high (ofInt n) = some n := by
  simp [integerIn?, integer?, ofInt, h]

lemma naturalBelow?_ofNat {size n : Nat} (h : n < size) :
    naturalBelow? size (ofNat n) = some n := by
  simp [naturalBelow?, integer?, ofNat, Option.filter, h]

@[simp] lemma int32?_ofInt (n : Int32) : int32? (ofInt n.toInt) = some n := by
  rw [int32?, integerIn?_ofInt ⟨n.minValue_le_toInt, n.toInt_le⟩, Option.map_some,
    Int32.ofInt_toInt]

@[simp] lemma int64?_ofInt (n : Int64) : int64? (ofInt n.toInt) = some n := by
  rw [int64?, integerIn?_ofInt ⟨n.minValue_le_toInt, n.toInt_le⟩, Option.map_some,
    Int64.ofInt_toInt]

@[simp] lemma uint32?_ofNat (n : UInt32) : uint32? (ofNat n.toNat) = some n := by
  rw [uint32?, naturalBelow?_ofNat n.toNat_lt_size, Option.map_some, UInt32.ofNat_toNat]

@[simp] lemma uint64?_ofNat (n : UInt64) : uint64? (ofNat n.toNat) = some n := by
  rw [uint64?, naturalBelow?_ofNat n.toNat_lt_size, Option.map_some, UInt64.ofNat_toNat]

end Scalars

section Containers

variable {α : Type} {encode : α → Json} {decode : Json → Option α}

lemma list?_ofList {items : List α} (h : ∀ item ∈ items, decode (encode item) = some item) :
    (ofList encode items).list? decode = some items := by
  change (items.map encode).mapM decode = some items
  induction items with
  | nil => rfl
  | cons item rest ih =>
    obtain ⟨hi, hr⟩ := List.forall_mem_cons.mp h
    simp [hi, ih hr]

lemma nullable?_of_ne_null {json : Json} (h : json ≠ .null) :
    nullable? decode json = (decode json).map some := by
  cases json with
  | null => exact absurd rfl h
  | _ => rfl

lemma nullable?_ofOption {o : Option α} (hn : ∀ value, encode value ≠ .null)
    (h : ∀ value, decode (encode value) = some value) :
    nullable? decode (ofOption encode o) = some o := by
  cases o with
  | none => rfl
  | some value => rw [ofOption, nullable?_of_ne_null (hn value), h, Option.map_some]

lemma fields?_ofDictionary (d : Dictionary String α)
    (h : ∀ value, decode (encode value) = some value) :
    (ofDictionary encode d).fields? decode = some d.entries := by
  change (d.entries.map fun entry => (entry.1, encode entry.2)).mapM
    (fun field => (decode field.2).map fun value => (field.1, value)) = _
  induction d.entries with
  | nil => rfl
  | cons entry rest ih => simp [h, ih]

end Containers

section Records

variable {α : Type} {names : List String} {fields : List (String × Json)}

lemma record?_object (hk : fields.map Prod.fst = names) (hn : names.Nodup) :
    record? names (.object fields) = some (slotOfField fields) := by
  have honce : namedOnce names fields = true := by
    rw [namedOnce, List.all_eq_true]
    intro name _
    have hcount : fields.countP (fun field => field.1 == name) = names.count name := by
      rw [List.count_eq_countP, ← hk, List.countP_map]
      rfl
    rw [hcount]
    exact decide_eq_true (List.nodup_iff_count_le_one.mp hn name)
  rw [record?, if_pos honce]

@[simp] lemma slotOfField_cons (key name : String) (value : Json) (rest : List (String × Json)) :
    slotOfField ((key, value) :: rest) name =
      if name = key then .given value else slotOfField rest name := by
  rw [slotOfField, List.lookup_cons]
  by_cases h : name = key
  · simp [h]
  · have hb : (name == key) = false := by simpa using h
    rw [hb, if_neg h]
    rfl

variable (decode : Json → Option α) (json : Json)

@[simp] lemma required?_given : (Slot.given json).required? decode = decode json := by
  rw [Slot.required?]

@[simp] lemma withDefault?_given (value : α) :
    (Slot.given json).withDefault? value decode = decode json := by
  rw [Slot.withDefault?]

@[simp] lemma omissible?_given : (Slot.given json).omissible? decode = nullable? decode json := by
  rw [Slot.omissible?]

end Records

section Held

mutual

def DistinctKeys : Json → Prop
  | .array items => itemsDistinct items
  | .object fields => (fields.map Prod.fst).Nodup ∧ fieldsDistinct fields
  | _ => True

def itemsDistinct : List Json → Prop
  | [] => True
  | item :: rest => item.DistinctKeys ∧ itemsDistinct rest

def fieldsDistinct : List (String × Json) → Prop
  | [] => True
  | field :: rest => fieldDistinct field ∧ fieldsDistinct rest

def fieldDistinct : String × Json → Prop
  | (_, value) => value.DistinctKeys

end

mutual

lemma collapse_eq_self : ∀ {json : Json}, json.DistinctKeys → json.collapse = json
  | .array items, h => by
    rw [DistinctKeys] at h
    rw [collapse, collapseItems_eq_self h]
  | .object fields, h => by
    rw [DistinctKeys] at h
    rw [collapse, collapseFields_eq_self h.2, lastWins_eq_self h.1]
  | .null, _ => by rw [collapse] <;> simp
  | .bool _, _ => by rw [collapse] <;> simp
  | .number _, _ => by rw [collapse] <;> simp
  | .string _, _ => by rw [collapse] <;> simp
  | .unread, _ => by rw [collapse] <;> simp

lemma collapseItems_eq_self :
    ∀ {items : List Json}, itemsDistinct items → collapseItems items = items
  | [], _ => by rw [collapseItems]
  | item :: rest, h => by
    rw [itemsDistinct] at h
    rw [collapseItems, collapse_eq_self h.1, collapseItems_eq_self h.2]

lemma collapseFields_eq_self :
    ∀ {fields : List (String × Json)}, fieldsDistinct fields → collapseFields fields = fields
  | [], _ => by rw [collapseFields]
  | field :: rest, h => by
    rw [fieldsDistinct] at h
    rw [collapseFields, collapseField_eq_self h.1, collapseFields_eq_self h.2]

lemma collapseField_eq_self :
    ∀ {field : String × Json}, fieldDistinct field → collapseField field = field
  | (key, value), h => by
    rw [fieldDistinct] at h
    rw [collapseField, collapse_eq_self h]

end

structure Held (json : Json) : Prop where
  complete : json.isComplete = true
  distinct : json.DistinctKeys

end Held

section Complete

variable {α : Type} {encode : α → Json}

@[simp] lemma isComplete_bool (b : Bool) : (Json.bool b).isComplete = true := by simp [isComplete]

@[simp] lemma isComplete_string (s : String) : (Json.string s).isComplete = true := by
  simp [isComplete]

@[simp] lemma isComplete_ofInt (n : Int) : (ofInt n).isComplete = true := by
  simp [ofInt, isComplete]

lemma isComplete_ofOption (h : ∀ value, (encode value).isComplete = true) (o : Option α) :
    (ofOption encode o).isComplete = true := by
  cases o with
  | none => simp [ofOption, isComplete]
  | some value => exact h value

lemma isComplete_ofList (h : ∀ value, (encode value).isComplete = true) (items : List α) :
    (ofList encode items).isComplete = true := by
  rw [ofList, isComplete]
  induction items with
  | nil => simp [areComplete]
  | cons item rest ih => simp [areComplete, h item, ih]

end Complete

end Json

end Rollout

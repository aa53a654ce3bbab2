import Rollout.Flag

namespace Rollout

structure Configuration where
  flags : Dictionary String FeatureFlag
  named : ∀ entry ∈ flags.entries, entry.2.name = entry.1
  deriving Repr

namespace Configuration

def ofFlags (flags : List FeatureFlag) : Configuration :=
  ⟨.ofList (flags.map fun flag => (flag.name, flag)), by
    intro entry h
    obtain ⟨flag, _, rfl⟩ := List.mem_map.1 (mem_of_mem_lastWins h)
    rfl⟩

def ofJson? (json : Json) : Option Configuration :=
  (json.list? (Attempt.ofJson? FlagDefinition.ofJson?)).map fun definitions =>
    ofFlags ((definitions.filterMap Attempt.value?).map FeatureFlag.compile)

def load (json : Option Json) : Except DefinitionError Configuration :=
  match json.bind ofJson? with
  | some configuration => .ok configuration
  | none => .error .malformed

def ofText (text : String) : Except DefinitionError Configuration := load (Json.read? text)

def ofBytes (bytes : ByteArray) : Except DefinitionError Configuration :=
  load (Json.readBytes? bytes)

def flag? (c : Configuration) (name : String) : Option FeatureFlag := c.flags.find? name

def names (c : Configuration) : List String := c.flags.keys

theorem name_of_flag? {c : Configuration} {name : String} {flag : FeatureFlag}
    (h : c.flag? name = some flag) : flag.name = name :=
  c.named _ (Dictionary.mem_of_find?_eq_some h)

end Configuration

end Rollout

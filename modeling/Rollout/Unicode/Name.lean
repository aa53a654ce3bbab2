import Rollout.Unicode.Age
import Rollout.Unicode.Break

namespace Rollout.Unicode

def normalName (name : List Char) : String :=
  let (cut, body) := match name with
    | i :: s :: rest =>
      if (i = 'i' ∨ i = 'I') ∧ (s = 's' ∨ s = 'S') then (true, rest) else (false, name)
    | _ => (false, name)
  let kept := (body.filter fun c => c ≠ ' ' ∧ c ≠ '_' ∧ c ≠ '-' ∧ c.toNat < 0x80).map Char.toLower
  if cut && kept == ['c'] then "isc" else String.ofList kept

def categoryNamed? (name : String) : Option CharSet :=
  match name with
  | "any" => some .full
  | "assigned" => some assigned
  | "ascii" => some .ascii
  | _ => (Category.named? name).map ofCategories

def setNamed? (name : List Char) : Option CharSet :=
  let name := normalName name
  (((BinaryProperty.named? name).map BinaryProperty.chars).or (categoryNamed? name)).or
    ((scriptNamed? name).map ofScript)

def setValued? (property value : List Char) : Option CharSet :=
  let value := normalName value
  match normalName property with
  | "gc" | "generalcategory" => categoryNamed? value
  | "sc" | "script" => (scriptNamed? value).map ofScript
  | "scx" | "scriptextensions" => (scriptNamed? value).map ofScriptExtension
  | "age" => (versionNamed? value).map ofVersion
  | "gcb" | "graphemeclusterbreak" => GraphemeBreak.named? value
  | "wb" | "wordbreak" => WordBreak.named? value
  | "sb" | "sentencebreak" => SentenceBreak.named? value
  | _ => none

end Rollout.Unicode

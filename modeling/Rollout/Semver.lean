import Rollout.Text.Blank
import Rollout.Text.Cut
import Rollout.Text.Digits
import Rollout.Text.Quoted

/-! Semantic versions. Metadata takes part in their normal form but not in their order. -/

namespace Rollout

structure Semver where
  major : Nat
  minor : Nat
  patch : Nat
  preRelease : List String
  metadata : Option String
  deriving DecidableEq, Repr

structure InvalidVersion where
  text : String
  deriving DecidableEq, Repr

def InvalidVersion.message (e : InvalidVersion) : String :=
  "invalid semantic version: " ++ Text.quoted e.text

namespace Semver

def optionalPart? (sep : Char) (s : List Char) : Option (List Char × Option (List Char)) :=
  match Text.cutAt? sep s with
  | none => some (s, none)
  | some (_, []) => none
  | some (before, after) => some (before, some after)

def identifiers? : Option (List Char) → Option (List String)
  | none => some []
  | some s =>
    let parts := Text.pieces '.' s
    if parts.any List.isEmpty then none else some (parts.map String.ofList)

def core? (s : List Char) : Option (Nat × Nat × Nat) :=
  match (Text.pieces '.' s).mapM Text.number64? with
  | some [major, minor, patch] => some (major, minor, patch)
  | _ => none

def read? (s : List Char) : Option Semver := do
  let (s, metadata) ← optionalPart? '+' s
  let (s, preRelease) ← optionalPart? '-' s
  let preRelease ← identifiers? preRelease
  let (major, minor, patch) ← core? s
  return ⟨major, minor, patch, preRelease, metadata.map String.ofList⟩

def parse (text : String) : Except InvalidVersion Semver :=
  match read? (Text.trim text.toList) with
  | some version => .ok version
  | none => .error ⟨text⟩

def parse? (text : String) : Option Semver :=
  read? (Text.trim text.toList)

def coreText (v : Semver) : String :=
  toString v.major ++ "." ++ toString v.minor ++ "." ++ toString v.patch

def preReleaseText (v : Semver) : String :=
  if v.preRelease.isEmpty then "" else "-" ++ String.intercalate "." v.preRelease

def metadataText (v : Semver) : String :=
  match v.metadata with
  | none => ""
  | some metadata => "+" ++ metadata

def version (v : Semver) : String :=
  v.coreText ++ v.preReleaseText ++ v.metadataText

def isStable (v : Semver) : Bool := v.preRelease.isEmpty

def identifierOrder (a b : String) : Ordering :=
  match Text.number64? a.toList, Text.number64? b.toList with
  | some m, some n => compare m n
  | _, _ => compare a b

def identifiersOrder : List String → List String → Ordering
  | a :: as, b :: bs => if a = b then identifiersOrder as bs else identifierOrder a b
  | as, bs => compare as.length bs.length

def coreOrder (a b : Semver) : Ordering :=
  (compare a.major b.major).then ((compare a.minor b.minor).then (compare a.patch b.patch))

def preReleaseOrder (a b : Semver) : Ordering :=
  match a.isStable, b.isStable with
  | false, true => .lt
  | true, false => .gt
  | _, _ => identifiersOrder a.preRelease b.preRelease

def partsOrder (a b : Semver) : Ordering :=
  (coreOrder a b).then (preReleaseOrder a b)

def order (a b : Semver) : Ordering :=
  if a.version = b.version then .eq else partsOrder a b

end Semver

end Rollout

import Rollout.Pattern.Basic
import Rollout.Pattern.Flags
import Rollout.Text.Cut
import Rollout.Text.Digits
import Rollout.Unicode.Name

namespace Rollout.Pattern

inductive Element
  | literal (c : Char)
  | set (set : CharSet)
  | condition (condition : Assertion)
  deriving DecidableEq, Repr

def charOfHex? (digits : List Char) : Option Char :=
  match digits.mapM Text.hexDigit? with
  | some values =>
    let n := values.foldl (fun n d => 16 * n + d) 0
    if n.isValidChar then some (Char.ofNat n) else none
  | none => none

def fixedHex? (flags : Flags) : Nat → List Char → Option (List Char × List Char)
  | 0, s => some ([], s)
  | count + 1, s =>
    match flags.skip s with
    | [] => none
    | c :: rest => (fixedHex? flags count rest).map fun (digits, rest) => (c :: digits, rest)

def hexEscape? (flags : Flags) (count : Nat) (s : List Char) : Option (Element × List Char) :=
  match flags.skip s with
  | '\x7b' :: rest =>
    match flags.upTo? '\x7d' rest with
    | some (digit :: digits, rest) =>
      (charOfHex? (digit :: digits)).map fun c => (.literal c, flags.skip rest)
    | _ => none
  | s =>
    match fixedHex? flags count s with
    | some (digits, rest) =>
      match charOfHex? digits with
      | some c =>
        if !flags.unicode && count == 2 && 0x80 ≤ c.toNat then none
        else some (.literal c, flags.skip rest)
      | none => none
    | none => none

def cutNotEqual? : List Char → Option (List Char × List Char)
  | '!' :: '=' :: rest => some ([], rest)
  | c :: rest => (cutNotEqual? rest).map fun (before, after) => (c :: before, after)
  | [] => none

def propertySet? (name : List Char) : Option CharSet :=
  match ((cutNotEqual? name).or (Text.cutAt? ':' name)).or (Text.cutAt? '=' name) with
  | some (property, value) => Unicode.setValued? property value
  | none => Unicode.setNamed? name

def propertyEscape? (flags : Flags) (negated : Bool) (s : List Char) :
    Option (Element × List Char) :=
  if !flags.unicode then none
  else
    match flags.skip s with
    | '\x7b' :: rest =>
      match flags.upTo? '\x7d' rest with
      | some (name, rest) =>
        ((propertySet? name).bind (flags.close? negated)).map fun set => (.set set, rest)
      | none => none
    | c :: rest =>
      ((Unicode.setNamed? [c]).bind (flags.close? negated)).map fun set =>
        (.set set, flags.skip rest)
    | [] => none

def asciiDigits : CharSet := .range '0' '9'

def asciiBlanks : CharSet := .ofRanges [⟨'\t', '\r'⟩, ⟨' ', ' '⟩]

def digitSet (flags : Flags) : CharSet :=
  if flags.unicode then Unicode.decimalDigits else asciiDigits

def blankSet (flags : Flags) : CharSet :=
  if flags.unicode then Unicode.whiteSpace else asciiBlanks

def wordSet (flags : Flags) : CharSet :=
  if flags.unicode then Unicode.wordCharacters else Assertion.asciiWordCharacters

def sideNamed? (flags : Flags) (name : String) : Option Assertion :=
  match name with
  | "start" => some (.wordStart flags.unicode)
  | "end" => some (.wordEnd flags.unicode)
  | "start-half" => some (.wordStartHalf flags.unicode)
  | "end-half" => some (.wordEndHalf flags.unicode)
  | _ => none

def boundary? (flags : Flags) (s : List Char) : Option (Element × List Char) :=
  let plain : Option (Element × List Char) :=
    some (.condition (.wordBoundary flags.unicode), s)
  match s with
  | '\x7b' :: rest =>
    match flags.skip rest with
    | [] => none
    | c :: _ =>
      if !(c.isAlpha || c = '-') then plain
      else
        match flags.upTo? '\x7d' rest with
        | some (name, rest) =>
          (sideNamed? flags (String.ofList name)).map fun side => (.condition side, rest)
        | none => none
  | _ => plain

def escape? (flags : Flags) : List Char → Option (Element × List Char)
  | [] => none
  | c :: rest =>
    let literal (n : Nat) : Option (Element × List Char) := some (.literal (Char.ofNat n), rest)
    let set (negated : Bool) (set : CharSet) : Option (Element × List Char) :=
      (flags.negate? negated set).map fun set => (.set set, rest)
    let condition (a : Assertion) : Option (Element × List Char) := some (.condition a, rest)
    match c with
    | 'x' => hexEscape? flags 2 rest
    | 'u' => hexEscape? flags 4 rest
    | 'U' => hexEscape? flags 8 rest
    | 'p' => propertyEscape? flags false rest
    | 'P' => propertyEscape? flags true rest
    | 'd' => set false (digitSet flags)
    | 'D' => set true (digitSet flags)
    | 's' => set false (blankSet flags)
    | 'S' => set true (blankSet flags)
    | 'w' => set false (wordSet flags)
    | 'W' => set true (wordSet flags)
    | 'a' => literal 0x07
    | 'f' => literal 0x0C
    | 't' => literal 0x09
    | 'n' => literal 0x0A
    | 'r' => literal 0x0D
    | 'v' => literal 0x0B
    | 'A' => condition .textStart
    | 'z' => condition .textEnd
    | 'b' => boundary? flags rest
    | 'B' => condition (.noWordBoundary flags.unicode)
    | '<' => condition (.wordStart flags.unicode)
    | '>' => condition (.wordEnd flags.unicode)
    | c => if c.toNat < 0x80 ∧ !c.isAlphanum then some (.literal c, rest) else none

end Rollout.Pattern

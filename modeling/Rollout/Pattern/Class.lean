import Rollout.Pattern.Escape

/-! With every set comes how deeply classes, unions and operators are nested in what is written for
it. -/

namespace Rollout.Pattern

structure Nested (α : Type) where
  value : α
  depth : Nat
  deriving Repr

def depthOf {α : Type} : List (Nested α) → Nat
  | [] => 0
  | [part] => part.depth
  | parts => parts.foldl (fun depth part => max depth part.depth) 0 + 1

inductive SetOperator
  | inter
  | diff
  | symmDiff
  deriving DecidableEq, Repr

def SetOperator.apply : SetOperator → CharSet → CharSet → CharSet
  | inter, s, t => s.inter t
  | diff, s, t => s.diff t
  | symmDiff, s, t => s.symmDiff t

structure LeftOperand where
  operand : Nested CharSet
  operator : SetOperator
  deriving Repr

def unionOf (items : List (Nested CharSet)) : Nested CharSet :=
  ⟨.unions (items.map Nested.value), depthOf items⟩

def Flags.join (flags : Flags) (left : Option LeftOperand) (right : Nested CharSet) :
    Nested CharSet :=
  match left with
  | none => right
  | some left =>
    ⟨left.operator.apply (flags.fold left.operand.value) (flags.fold right.value),
      max left.operand.depth right.depth + 1⟩

def classElement? (flags : Flags) : List Char → Option (Element × List Char)
  | [] => none
  | '\\' :: rest => escape? flags rest
  | c :: rest => some (.literal c, rest)

def isClassLiteral (flags : Flags) (c : Char) : Bool := flags.unicode || c.toNat < 0x80

def classSet? (flags : Flags) : Element → Option CharSet
  | .literal c => if isClassLiteral flags c then some (.ofChars [c]) else none
  | .set set => some set
  | .condition _ => none

def classRange? (flags : Flags) : Element → Element → Option CharSet
  | .literal low, .literal high =>
    if isClassLiteral flags low && isClassLiteral flags high && low ≤ high then
      some (.range low high)
    else none
  | _, _ => none

def classItem? (flags : Flags) (s : List Char) : Option (CharSet × List Char) :=
  match classElement? flags s with
  | none => none
  | some (element, rest) =>
    let alone : Option (CharSet × List Char) :=
      (classSet? flags element).map fun set => (set, rest)
    match flags.skip rest with
    | [] => none
    | '-' :: after =>
      match flags.ahead? after with
      | some ']' => alone
      | some '-' => alone
      | _ =>
        match classElement? flags (flags.skip after) with
        | some (high, rest) => (classRange? flags element high).map fun set => (set, rest)
        | none => none
    | _ => alone

def asciiNamed? : String → Option CharSet
  | "alnum" => some (.ofRanges [⟨'0', '9'⟩, ⟨'A', 'Z'⟩, ⟨'a', 'z'⟩])
  | "alpha" => some (.ofRanges [⟨'A', 'Z'⟩, ⟨'a', 'z'⟩])
  | "ascii" => some .ascii
  | "blank" => some (.ofChars ['\t', ' '])
  | "cntrl" => some (.ofRanges [⟨Char.ofNat 0, Char.ofNat 0x1F⟩, .single (Char.ofNat 0x7F)])
  | "digit" => some asciiDigits
  | "graph" => some (.range '!' '~')
  | "lower" => some (.range 'a' 'z')
  | "print" => some (.range ' ' '~')
  | "punct" =>
    some (.ofRanges [⟨'!', '/'⟩, ⟨':', '@'⟩, ⟨'[', Char.ofNat 0x60⟩, ⟨'\x7b', '~'⟩])
  | "space" => some asciiBlanks
  | "upper" => some (.range 'A' 'Z')
  | "word" => some Assertion.asciiWordCharacters
  | "xdigit" => some (.ofRanges [⟨'0', '9'⟩, ⟨'A', 'F'⟩, ⟨'a', 'f'⟩])
  | _ => none

def asciiClass? (s : List Char) : Option (CharSet × Bool × List Char) :=
  let (negated, s) := match s with
    | '^' :: rest => (true, rest)
    | s => (false, s)
  match Text.cutAt? ':' s with
  | some (name, ']' :: rest) =>
    (asciiNamed? (String.ofList name)).map fun set => (set, negated, rest)
  | _ => none

def minusSigns (flags : Flags) (inComment : Bool) : List Char → Nat × List Char
  | [] => (0, [])
  | c :: rest =>
    match skipped flags.verbose inComment c with
    | .comment => minusSigns flags true rest
    | .blank => minusSigns flags false rest
    | .no =>
      if c = '-' then
        let (n, after) := minusSigns flags false rest
        (n + 1, after)
      else (0, c :: rest)

def classStart (flags : Flags) (s : List Char) : List (Nested CharSet) × List Char :=
  match minusSigns flags false s with
  | (0, ']' :: rest) => ([⟨.ofChars [']'], 0⟩], rest)
  | (n, rest) => (List.replicate n ⟨.ofChars ['-'], 0⟩, rest)

def depthLimit : Nat := 250

mutual

def classBody? (flags : Flags) : Nat → Nat → List Char → Option (Nested CharSet × List Char)
  | 0, _, _ => none
  | fuel + 1, inside, s =>
    if depthLimit ≤ inside then none
    else
      let (negated, s) := match flags.skip s with
        | '^' :: rest => (true, rest)
        | s => (false, s)
      let (items, s) := classStart flags s
      match classParts? flags fuel inside none items s with
      | some (body, rest) =>
        (flags.close? negated body.value).map fun set => (⟨set, body.depth + 1⟩, rest)
      | none => none

def classParts? (flags : Flags) : Nat → Nat → Option LeftOperand → List (Nested CharSet) →
    List Char → Option (Nested CharSet × List Char)
  | 0, _, _, _, _ => none
  | fuel + 1, inside, left, items, s =>
    let operator (op : SetOperator) (rest : List Char) : Option (Nested CharSet × List Char) :=
      classParts? flags fuel inside (some ⟨flags.join left (unionOf items), op⟩) [] rest
    let inner (rest : List Char) : Option (Nested CharSet × List Char) :=
      match classBody? flags fuel (inside + 1) rest with
      | some (item, rest) => classParts? flags fuel inside left (item :: items) rest
      | none => none
    match flags.skip s with
    | [] => none
    | ']' :: rest => some (flags.join left (unionOf items), rest)
    | '&' :: '&' :: rest => operator .inter rest
    | '-' :: '-' :: rest => operator .diff rest
    | '~' :: '~' :: rest => operator .symmDiff rest
    | '[' :: ':' :: rest =>
      match asciiClass? rest with
      | some (set, negated, rest) =>
        match flags.close? negated set with
        | some set => classParts? flags fuel inside left (⟨set, 0⟩ :: items) rest
        | none => none
      | none => inner (':' :: rest)
    | '[' :: rest => inner rest
    | s =>
      match classItem? flags s with
      | some (set, rest) => classParts? flags fuel inside left (⟨set, 0⟩ :: items) rest
      | none => none

end

end Rollout.Pattern

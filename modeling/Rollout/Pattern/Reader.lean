import Rollout.Pattern.Class
import Rollout.Pattern.Normal
import Rollout.Unicode.Display

/-! Open groups are kept on a stack with what they interrupted. Flags set within a group end with
it. -/

namespace Rollout.Pattern

structure Outer where
  flags : Flags
  branches : List (Nested Pattern)
  items : List (Nested Pattern)
  number : Option Nat
  deriving Repr

/-- The branches and items of the innermost group so far, the latest first. `repeatable` says that
the last item may be repeated; `names` are the group names in use, and `captures` is the number of
capturing groups. -/
structure Builder where
  flags : Flags
  branches : List (Nested Pattern)
  items : List (Nested Pattern)
  repeatable : Bool
  outer : List Outer
  names : List (List Char)
  captures : Nat
  deriving Repr

namespace Builder

def start : Builder := ⟨.initial, [], [], false, [], [], 0⟩

def branch (b : Builder) : Nested Pattern :=
  ⟨sequenceOf (b.items.reverse.map Nested.value), depthOf b.items⟩

def content (b : Builder) : Nested Pattern :=
  match b.branches with
  | [] => b.branch
  | branches =>
    let all := b.branch :: branches
    ⟨choiceOf (all.reverse.map Nested.value), depthOf all⟩

def push (b : Builder) (item : Pattern) : Builder :=
  { b with items := ⟨item, 0⟩ :: b.items, repeatable := true }

def nextBranch (b : Builder) : Builder :=
  { b with branches := b.branch :: b.branches, items := [], repeatable := false }

def openGroup (b : Builder) (flags : Flags) (number : Option Nat) : Builder :=
  { b with flags, branches := [], items := [], repeatable := false,
           outer := ⟨b.flags, b.branches, b.items, number⟩ :: b.outer }

def openCapture (b : Builder) : Builder :=
  let number := b.captures + 1
  { b with captures := number }.openGroup b.flags (some number)

def closeGroup? (b : Builder) : Option Builder :=
  match b.outer with
  | [] => none
  | outer :: rest =>
    let content := b.content
    let group := match outer.number with
      | some n => .captured n content.value
      | none => content.value
    some { b with flags := outer.flags, branches := outer.branches,
                  items := ⟨group, content.depth + 1⟩ :: outer.items, repeatable := true,
                  outer := rest }

def setFlags (b : Builder) (flags : Flags) : Builder :=
  { b with flags, items := ⟨.empty, 0⟩ :: b.items, repeatable := false }

def repeatLast? (b : Builder) (least : Nat) (most : Option Nat) (marked : Bool) : Option Builder :=
  match b.repeatable, b.items with
  | true, item :: rest =>
    let repeated := repeatedOf item.value least most (marked != b.flags.swapReluctant)
    some { b with items := ⟨repeated, item.depth + 1⟩ :: rest }
  | _, _ => none

end Builder

def readFlags? (flags : Flags) (seen : List Char) :
    List Char → Option (Flags × List Char × Char × List Char)
  | [] => none
  | c :: rest =>
    if c = ')' ∨ c = ':' then
      if seen.head? = some '-' then none else some (flags, seen, c, rest)
    else if seen.contains c then none
    else if c = '-' then readFlags? flags (c :: seen) rest
    else
      match flags.set? (!seen.contains '-') c with
      | some flags => readFlags? flags (c :: seen) rest
      | none => none

def isNameStart (c : Char) : Bool := c = '_' || Unicode.isAlphabetic c

def isNameChar (c : Char) : Bool :=
  isNameStart c || c = '.' || c = '[' || c = ']' || Unicode.isNumeric c

def isGroupName : List Char → Bool
  | [] => false
  | c :: rest => isNameStart c && rest.all isNameChar

def openGroup? (b : Builder) (s : List Char) : Option (Builder × List Char) :=
  let named (rest : List Char) : Option (Builder × List Char) :=
    match Text.cutAt? '>' rest with
    | some (name, rest) =>
      if isGroupName name && !b.names.contains name then
        some ({ b with names := name :: b.names }.openCapture, rest)
      else none
    | none => none
  match b.flags.skip s with
  | '?' :: '=' :: _ => none
  | '?' :: '!' :: _ => none
  | '?' :: '<' :: '=' :: _ => none
  | '?' :: '<' :: '!' :: _ => none
  | '?' :: 'P' :: '<' :: rest => named rest
  | '?' :: '<' :: rest => named rest
  | '?' :: rest =>
    match readFlags? b.flags [] rest with
    | some (flags, seen, ')', rest) => if seen.isEmpty then none else some (b.setFlags flags, rest)
    | some (flags, _, _, rest) => some (b.openGroup flags none, rest)
    | none => none
  | s => some (b.openCapture, s)

def count? (flags : Flags) (s : List Char) : Option (Nat × List Char) :=
  let (digits, rest) := flags.digits (s.dropWhile Text.isBlank)
  let n := Text.ofDigits digits
  if digits.isEmpty ∨ UInt32.size ≤ n then none else some (n, rest.dropWhile Text.isBlank)

def bounds? (flags : Flags) (s : List Char) : Option (Nat × Option Nat × List Char) :=
  match count? flags (flags.skip s) with
  | some (least, '\x7d' :: rest) => some (least, some least, rest)
  | some (least, ',' :: rest) =>
    match flags.skip rest with
    | '\x7d' :: rest => some (least, none, rest)
    | rest =>
      match count? flags rest with
      | some (most, '\x7d' :: rest) =>
        if least ≤ most then some (least, some most, rest) else none
      | _ => none
  | _ => none

def reluctanceMark (s : List Char) : Bool × List Char :=
  match s with
  | '?' :: rest => (true, rest)
  | s => (false, s)

def repeat? (b : Builder) (least : Nat) (most : Option Nat) (s : List Char) :
    Option (Builder × List Char) :=
  let (marked, rest) := reluctanceMark s
  (b.repeatLast? least most marked).map fun b => (b, rest)

def literal? (flags : Flags) (c : Char) : Option Pattern :=
  if !flags.ignoreCase then some (.literal [c])
  else if flags.unicode || c.toNat < 0x80 then some (ofSet (flags.fold (.ofChars [c])))
  else none

def dot? (flags : Flags) : Option Pattern :=
  if !flags.unicode then none
  else if flags.dotAll then some (.oneOf .full)
  else if flags.anyTerminator then some (.oneOf (CharSet.ofChars ['\n', '\r']).complement)
  else some (.oneOf (CharSet.ofChars ['\n']).complement)

def lineStart (flags : Flags) : Assertion :=
  if !flags.multiLine then .textStart
  else if flags.anyTerminator then .lineStartAny else .lineStart

def lineEnd (flags : Flags) : Assertion :=
  if !flags.multiLine then .textEnd
  else if flags.anyTerminator then .lineEndAny else .lineEnd

def ofElement? (flags : Flags) : Element → Option Pattern
  | .literal c => literal? flags c
  | .set set => some (ofSet set)
  | .condition condition => some (.assertion condition)

def step? (fuel : Nat) (b : Builder) : List Char → Option (Builder × List Char)
  | [] => none
  | '(' :: rest => openGroup? b rest
  | ')' :: rest => b.closeGroup?.map fun b => (b, rest)
  | '|' :: rest => some (b.nextBranch, rest)
  | '[' :: rest =>
    match classBody? b.flags (2 * fuel + 2) 0 rest with
    | some (set, rest) =>
      some ({ b with items := ⟨ofSet set.value, set.depth⟩ :: b.items, repeatable := true }, rest)
    | none => none
  | '*' :: rest => repeat? b 0 none rest
  | '+' :: rest => repeat? b 1 none rest
  | '?' :: rest => repeat? b 0 (some 1) rest
  | '\x7b' :: rest =>
    match bounds? b.flags rest with
    | some (least, most, rest) => repeat? b least most (b.flags.skip rest)
    | none => none
  | '.' :: rest => (dot? b.flags).map fun p => (b.push p, rest)
  | '^' :: rest => some (b.push (.assertion (lineStart b.flags)), rest)
  | '$' :: rest => some (b.push (.assertion (lineEnd b.flags)), rest)
  | '\\' :: rest =>
    match escape? b.flags rest with
    | some (element, rest) => (ofElement? b.flags element).map fun p => (b.push p, rest)
    | none => none
  | c :: rest => (literal? b.flags c).map fun p => (b.push p, rest)

def build? : Nat → Builder → List Char → Option Builder
  | 0, _, _ => none
  | fuel + 1, b, s =>
    match b.flags.skip s with
    | [] => some b
    | s =>
      match step? fuel b s with
      | some (b, rest) => build? fuel b rest
      | none => none

def read? (text : String) : Option Pattern :=
  let s := text.toList
  match build? (s.length + 1) .start s with
  | none => none
  | some b =>
    let content := b.content
    if b.outer.isEmpty && content.depth ≤ depthLimit then some content.value else none

end Rollout.Pattern

import Rollout.Automaton.Literals
import Rollout.Automaton.Sets

/-! There is an automaton for either direction of reading, and a pattern has room if both have. -/

namespace Rollout

namespace Automaton

def bytesOf (direction : Direction) (text : List Char) : List UInt8 :=
  let bytes := text.flatMap String.utf8EncodeChar
  match direction with
  | .forward => bytes
  | .backward => bytes.reverse

def literalText? : Pattern → Option (List Char)
  | .literal text => some text
  | _ => none

mutual

def ofPattern (direction : Direction) : Pattern → Assemble Fragment
  | .empty => nothing
  | .literal text =>
    inSequence ((bytesOf direction text).map fun b => single (.byte ⟨.single b, 0⟩))
  | .oneOf set => setOf direction set
  | .assertion condition => single (.check condition 0)
  | .repeated body least most _ =>
    repetition (ofPattern direction body) body.needsText least most
  | .captured _ body =>
    match direction with
    | .forward => marked (ofPattern direction body)
    | .backward => ofPattern direction body
  | .sequence parts =>
    match direction with
    | .forward => inSequence (ofPatterns direction parts)
    | .backward => inSequence (ofPatterns direction parts).reverse
  | .choice branches =>
    match branches.mapM literalText? with
    | some texts => literals (texts.map (bytesOf direction))
    | none => inChoice (ofPatterns direction branches)

def ofPatterns (direction : Direction) : List Pattern → List (Assemble Fragment)
  | [] => []
  | p :: rest => ofPattern direction p :: ofPatterns direction rest

end

def leading (direction : Direction) (p : Pattern) : Assemble Fragment :=
  let bound := match direction with
    | .forward => p.beginsAt direction .textStart
    | .backward => p.beginsAt direction .textEnd
  if bound then nothing else anyTimes (setOfBytes [⟨0, 255⟩])

def whole (direction : Direction) (p : Pattern) : Assemble Nat := do
  let before ← leading direction p
  let fragment ← ofPattern direction (.captured 0 p)
  let final ← add .accept
  connect fragment.last final
  connect before.last fragment.first
  pure before.first

def ofPattern? (direction : Direction) (p : Pattern) : Option Automaton :=
  (whole direction p Assembly.start).map fun (start, assembly) =>
    ⟨assembly.states, start, assembly.size⟩

end Automaton

def Pattern.automaton? (p : Pattern) : Option Automaton :=
  match Automaton.ofPattern? .forward p, Automaton.ofPattern? .backward p with
  | some a, some _ => some a
  | _, _ => none

end Rollout

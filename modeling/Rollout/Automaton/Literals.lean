import Rollout.Automaton.Assembly

namespace Rollout.Automaton

def runs (current : List (List UInt8)) : List (List UInt8) → List (List (List UInt8))
  | [] => [current.reverse]
  | [] :: rest => current.reverse :: runs [] rest
  | word :: rest => runs (word :: current) rest

def dropRepeatedEnds : List (List UInt8) → List (List UInt8)
  | [] :: rest => [] :: rest.dropWhile List.isEmpty
  | words => words

def firstBytes (words : List (List UInt8)) : List UInt8 :=
  (words.filterMap List.head?).mergeSort.eraseDups

def tailsAfter (b : UInt8) (words : List (List UInt8)) : List (List UInt8) :=
  words.filterMap fun word =>
    match word with
    | first :: rest => if first = b then some rest else none
    | [] => none

def addRun (node : List (List UInt8) → Assemble Nat) (final : Nat) (words : List (List UInt8)) :
    Assemble (List Nat) := do
  let edges ← (firstBytes words).mapM fun b => do
    let tails := tailsAfter b words
    let target ← if tails.all List.isEmpty then pure final else node tails
    pure (Edge.mk (.single b) target)
  match edges with
  | [] => pure []
  | [edge] => do
    let i ← add (.byte edge)
    pure [i]
  | edges => do
    let i ← add (.bytes edges)
    pure [i]

def addLiterals (final : Nat) : (depth : Nat) → List (List UInt8) → Assemble Nat
  | 0, _ => pure final
  | depth + 1, words => do
    let targets ← (runs [] (dropRepeatedEnds words)).mapM
      (addRun (addLiterals final depth) final)
    add (.fork ((targets.intersperse [final]).flatten))

def literals (words : List (List UInt8)) : Assemble Fragment := do
  let final ← add (.pass 0)
  let depth := words.foldl (fun depth word => max depth word.length) 0
  let first ← addLiterals final depth words
  pure ⟨first, final⟩

end Rollout.Automaton

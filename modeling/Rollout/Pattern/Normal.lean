import Rollout.Pattern.Basic

/-! Sequences and choices have two parts at least and none of their own kind, neighbouring literals
are one, and a choice has no beginning that all its branches share. -/

namespace Rollout.Pattern

def ofSet (set : CharSet) : Pattern :=
  match set.only? with
  | some c => .literal [c]
  | none => .oneOf set

def parts : Pattern → List Pattern
  | .empty => []
  | .sequence parts => parts
  | p => [p]

def branches : Pattern → List Pattern
  | .choice branches => branches
  | p => [p]

def consPart (p : Pattern) (rest : List Pattern) : List Pattern :=
  match p, rest with
  | .literal s, .literal t :: rest => .literal (s ++ t) :: rest
  | p, rest => p :: rest

def sequenceOf (patterns : List Pattern) : Pattern :=
  match (patterns.flatMap parts).foldr consPart [] with
  | [] => .empty
  | [p] => p
  | ps => .sequence ps

def repeatedOf (body : Pattern) (least : Nat) (most : Option Nat) (reluctant : Bool) : Pattern :=
  let least := if body.isWidthless then min least 1 else least
  let most := if body.isWidthless then some (min (most.getD 1) 1) else most
  if least = 0 ∧ most = some 0 then .empty
  else if least = 1 ∧ most = some 1 then body
  else .repeated body least most reluctant

def character? : Pattern → Option Char
  | .literal [c] => some c
  | _ => none

def set? : Pattern → Option CharSet
  | .oneOf set => some set
  | _ => none

def sequenceParts? : Pattern → Option (List Pattern)
  | .sequence parts => some parts
  | _ => none

def commonLength : List Pattern → List Pattern → Nat
  | p :: ps, q :: qs => if p.same q then commonLength ps qs + 1 else 0
  | _, _ => 0

def choiceWithin : Nat → List Pattern → Pattern
  | 0, patterns => .choice patterns
  | fuel + 1, patterns =>
    match patterns.flatMap branches with
    | [] => .oneOf .empty
    | [p] => p
    | first :: rest =>
      match (first :: rest).mapM character?, (first :: rest).mapM set?,
          first.sequenceParts?, rest.mapM sequenceParts? with
      | some chars, _, _, _ => ofSet (.ofChars chars)
      | none, some sets, _, _ => ofSet (.unions sets)
      | none, none, some head, some tails =>
        let common := tails.foldl (fun n tail => min n (commonLength head tail)) head.length
        if common = 0 then .choice (first :: rest)
        else
          let suffixes := (head :: tails).map fun parts => sequenceOf (parts.drop common)
          sequenceOf (head.take common ++ [choiceWithin fuel suffixes])
      | _, _, _, _ => .choice (first :: rest)

def choiceOf (patterns : List Pattern) : Pattern :=
  choiceWithin (sizeAll patterns + 1) patterns

end Rollout.Pattern

import Rollout.Pattern.Assertion

namespace Rollout

inductive Pattern
  | empty
  | literal (text : List Char)
  | oneOf (set : CharSet)
  | assertion (condition : Assertion)
  | repeated (body : Pattern) (least : Nat) (most : Option Nat) (reluctant : Bool)
  | captured (number : Nat) (body : Pattern)
  | sequence (parts : List Pattern)
  | choice (branches : List Pattern)
  deriving Repr

inductive Direction
  | forward
  | backward
  deriving DecidableEq, Repr

namespace Pattern

mutual

def same : Pattern → Pattern → Bool
  | .empty, .empty => true
  | .literal s, .literal t => s == t
  | .oneOf s, .oneOf t => s == t
  | .assertion a, .assertion b => a == b
  | .repeated p least most reluctant, .repeated q least' most' reluctant' =>
    least == least' && most == most' && reluctant == reluctant' && p.same q
  | .captured n p, .captured m q => n == m && p.same q
  | .sequence ps, .sequence qs => sameAll ps qs
  | .choice ps, .choice qs => sameAll ps qs
  | _, _ => false

def sameAll : List Pattern → List Pattern → Bool
  | [], [] => true
  | p :: ps, q :: qs => p.same q && sameAll ps qs
  | _, _ => false

end

mutual

def size : Pattern → Nat
  | .empty => 1
  | .literal _ => 1
  | .oneOf _ => 1
  | .assertion _ => 1
  | .repeated body _ _ _ => body.size + 1
  | .captured _ body => body.size + 1
  | .sequence parts => sizeAll parts + 1
  | .choice branches => sizeAll branches + 1

def sizeAll : List Pattern → Nat
  | [] => 0
  | p :: rest => p.size + sizeAll rest

end

mutual

def isWidthless : Pattern → Bool
  | .empty => true
  | .literal text => text.isEmpty
  | .oneOf _ => false
  | .assertion _ => true
  | .repeated body _ most _ => most.isSome && body.isWidthless
  | .captured _ body => body.isWidthless
  | .sequence parts => allWidthless parts
  | .choice branches => allWidthless branches

def allWidthless : List Pattern → Bool
  | [] => true
  | p :: rest => p.isWidthless && allWidthless rest

end

mutual

def leastLength? : Pattern → Option Nat
  | .empty => some 0
  | .literal text => some text.length
  | .oneOf set => if set.isEmpty then none else some 1
  | .assertion _ => some 0
  | .repeated body least _ _ => body.leastLength?.map (· * least)
  | .captured _ body => body.leastLength?
  | .sequence parts => leastSum? parts
  | .choice branches => leastOf? branches

def leastSum? : List Pattern → Option Nat
  | [] => some 0
  | p :: rest =>
    match p.leastLength?, leastSum? rest with
    | some n, some m => some (n + m)
    | _, _ => none

def leastOf? : List Pattern → Option Nat
  | [] => none
  | [p] => p.leastLength?
  | p :: rest =>
    match p.leastLength?, leastOf? rest with
    | some n, some m => some (min n m)
    | _, _ => none

end

def needsText (p : Pattern) : Bool :=
  match p.leastLength? with
  | some n => n != 0
  | none => false

mutual

def beginsAt (direction : Direction) (condition : Assertion) : Pattern → Bool
  | .empty => false
  | .literal _ => false
  | .oneOf _ => false
  | .assertion c => c == condition
  | .repeated body least _ _ => least != 0 && body.beginsAt direction condition
  | .captured _ body => body.beginsAt direction condition
  | .sequence parts =>
    match direction with
    | .forward => firstBeginsAt condition parts
    | .backward => lastBeginsAt condition parts
  | .choice branches => allBeginAt direction condition branches

def firstBeginsAt (condition : Assertion) : List Pattern → Bool
  | [] => false
  | p :: rest =>
    p.beginsAt .forward condition || (p.isWidthless && firstBeginsAt condition rest)

def lastBeginsAt (condition : Assertion) : List Pattern → Bool
  | [] => false
  | p :: rest =>
    lastBeginsAt condition rest || (allWidthless rest && p.beginsAt .backward condition)

def allBeginAt (direction : Direction) (condition : Assertion) : List Pattern → Bool
  | [] => true
  | p :: rest => p.beginsAt direction condition && allBeginAt direction condition rest

end

end Pattern

end Rollout

import Rollout.Automaton.Basic

/-! Every step of an assembly may fail, because the states must not take more memory than there is
room for. -/

namespace Rollout.Automaton

def sizeLimit : Nat := 10485760

structure Assembly where
  states : Array State
  size : Nat
  deriving Repr

def Assembly.start : Assembly := ⟨#[], 0⟩

abbrev Assemble (α : Type) : Type := StateT Assembly Option α

structure Fragment where
  first : Nat
  last : Nat
  deriving DecidableEq, Repr

def add (state : State) : Assemble Nat := fun a =>
  let size := a.size + state.size
  if size ≤ sizeLimit then some (a.states.size, ⟨a.states.push state, size⟩) else none

def State.lead (target : Nat) : State → State
  | .pass _ => .pass target
  | .byte edge => .byte { edge with target }
  | .check condition _ => .check condition target
  | .fork targets => .fork (target :: targets)
  | state => state

def State.isFork : State → Bool
  | .fork _ => true
  | _ => false

def connect (source target : Nat) : Assemble Unit := fun a =>
  let size := if (a.states[source]?).any State.isFork then a.size + 4 else a.size
  if size ≤ sizeLimit then some ((), ⟨a.states.modify source (State.lead target), size⟩) else none

def single (state : State) : Assemble Fragment := do
  let i ← add state
  pure ⟨i, i⟩

def nothing : Assemble Fragment := single (.pass 0)

def continued (fragment : Fragment) : List (Assemble Fragment) → Assemble Fragment
  | [] => pure fragment
  | piece :: rest => do
    let next ← piece
    connect fragment.last next.first
    continued ⟨fragment.first, next.last⟩ rest

def inSequence : List (Assemble Fragment) → Assemble Fragment
  | [] => nothing
  | piece :: rest => do
    let fragment ← piece
    continued fragment rest

def connectBranches (fork final : Nat) : List (Assemble Fragment) → Assemble Unit
  | [] => pure ()
  | piece :: rest => do
    let branch ← piece
    connect fork branch.first
    connect branch.last final
    connectBranches fork final rest

def inChoice : List (Assemble Fragment) → Assemble Fragment
  | [] => single (.bytes [])
  | [piece] => piece
  | piece₁ :: piece₂ :: rest => do
    let first ← piece₁
    let second ← piece₂
    let fork ← add (.fork [])
    let final ← add (.pass 0)
    connect fork first.first
    connect first.last final
    connect fork second.first
    connect second.last final
    connectBranches fork final rest
    pure ⟨fork, final⟩

def copies (piece : Assemble Fragment) : (count : Nat) → Fragment → Assemble Fragment
  | 0, fragment => pure fragment
  | count + 1, fragment => do
    let next ← piece
    connect fragment.last next.first
    copies piece count ⟨fragment.first, next.last⟩

def exactly (piece : Assemble Fragment) : (count : Nat) → Assemble Fragment
  | 0 => nothing
  | count + 1 => do
    let fragment ← piece
    copies piece count fragment

def optional (piece : Assemble Fragment) : Assemble Fragment := do
  let fork ← add (.fork [])
  let fragment ← piece
  let final ← add (.pass 0)
  connect fork fragment.first
  connect fork final
  connect fragment.last final
  pure ⟨fork, final⟩

def optionalCopies (piece : Assemble Fragment) (final : Nat) : (count : Nat) → Nat → Assemble Unit
  | 0, last => connect last final
  | count + 1, last => do
    let fork ← add (.fork [])
    let fragment ← piece
    connect last fork
    connect fork fragment.first
    connect fork final
    optionalCopies piece final count fragment.last

def anyTimes (piece : Assemble Fragment) : Assemble Fragment := do
  let fork ← add (.fork [])
  let fragment ← piece
  connect fork fragment.first
  connect fragment.last fork
  pure ⟨fork, fork⟩

def onceOrMore (piece : Assemble Fragment) : Assemble Fragment := do
  let fragment ← piece
  let fork ← add (.fork [])
  connect fragment.last fork
  connect fork fragment.first
  pure ⟨fragment.first, fork⟩

def anyTimesEmpty (piece : Assemble Fragment) : Assemble Fragment := do
  let fragment ← onceOrMore piece
  let fork ← add (.fork [])
  let final ← add (.pass 0)
  connect fork fragment.first
  connect fork final
  connect fragment.last final
  pure ⟨fork, final⟩

def atLeast (piece : Assemble Fragment) (needsText : Bool) : (least : Nat) → Assemble Fragment
  | 0 => if needsText then anyTimes piece else anyTimesEmpty piece
  | 1 => onceOrMore piece
  | least + 2 => do
    let fragment ← exactly piece (least + 1)
    let rest ← onceOrMore piece
    connect fragment.last rest.first
    pure ⟨fragment.first, rest.last⟩

def bounded (piece : Assemble Fragment) (least extra : Nat) : Assemble Fragment := do
  let fragment ← exactly piece least
  let final ← add (.pass 0)
  optionalCopies piece final extra fragment.last
  pure ⟨fragment.first, final⟩

def repetition (piece : Assemble Fragment) (needsText : Bool) (least : Nat) :
    (most : Option Nat) → Assemble Fragment
  | none => atLeast piece needsText least
  | some most =>
    if least = 0 ∧ most = 1 then optional piece
    else if least = most then exactly piece least
    else bounded piece least (most - least)

def marked (piece : Assemble Fragment) : Assemble Fragment := do
  let start ← add (.pass 0)
  let fragment ← piece
  let stop ← add (.pass 0)
  connect start fragment.first
  connect fragment.last stop
  pure ⟨start, stop⟩

end Rollout.Automaton

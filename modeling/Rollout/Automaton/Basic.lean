import Rollout.Automaton.Bytes
import Rollout.Pattern.Basic

/-! Automata that read texts byte by byte. A run keeps the set of all states that it may be in. -/

namespace Rollout

namespace Automaton

structure Edge where
  range : ByteRange
  target : Nat
  deriving DecidableEq, Repr

inductive State
  | pass (target : Nat)
  | byte (edge : Edge)
  | bytes (edges : List Edge)
  | check (condition : Assertion) (target : Nat)
  | fork (targets : List Nat)
  | accept
  deriving Repr

def State.size : State → Nat
  | .pass _ => 32
  | .byte _ => 32
  | .bytes edges => 32 + 8 * edges.length
  | .check _ _ => 32
  | .fork targets => 32 + 4 * targets.length
  | .accept => 32

end Automaton

structure Automaton where
  states : Array Automaton.State
  start : Nat
  size : Nat
  deriving Repr

namespace Automaton

/-- The states that read or accept and that can be reached from those on the stack without reading.
Every state is visited once at most, so that it is enough if `fuel` is as large as the stack and
the automaton together. -/
def reach (a : Automaton) (holds : Assertion → Bool) :
    (fuel : Nat) → (stack : List Nat) → (visited : Array Bool) → (found : List State) → List State
  | 0, _, _, found => found
  | _ + 1, [], _, found => found
  | fuel + 1, i :: stack, visited, found =>
    if visited.getD i true then reach a holds fuel stack visited found
    else
      let visited := visited.setIfInBounds i true
      match a.states[i]? with
      | some (.pass target) => reach a holds fuel (target :: stack) visited found
      | some (.fork targets) => reach a holds fuel (targets ++ stack) visited found
      | some (.check condition target) =>
        reach a holds fuel (if holds condition then target :: stack else stack) visited found
      | some state => reach a holds fuel stack visited (state :: found)
      | none => reach a holds fuel stack visited found

def reachable (a : Automaton) (holds : Assertion → Bool) (states : List Nat) : List State :=
  reach a holds (states.length + a.size) states (Array.replicate a.states.size false) []

def State.read? (b : UInt8) : State → Option Nat
  | .byte edge => if edge.range.contains b then some edge.target else none
  | .bytes edges => (edges.find? fun edge => edge.range.contains b).map Edge.target
  | _ => none

def State.accepts : State → Bool
  | .accept => true
  | _ => false

structure Position where
  byte : UInt8
  holds : Assertion → Bool

def positions (before : Option Char) : List Char → List Position
  | [] => []
  | c :: rest =>
    let place (i : Nat) (b : UInt8) : Position :=
      ⟨b, if i = 0 then Assertion.holds before (some c) else fun _ => false⟩
    (String.utf8EncodeChar c).mapIdx place ++ positions (some c) rest

/-- Whether a run that is in one of some states accepts the rest of a text up to some position.
At the end of the text `last` is the character before it. -/
def acceptsFrom (a : Automaton) (last : Option Char) (current : List Nat) : List Position → Bool
  | [] => (a.reachable (Assertion.holds last none) current).any State.accepts
  | position :: rest =>
    let states := a.reachable position.holds current
    states.any State.accepts || acceptsFrom a last (states.filterMap (State.read? position.byte)) rest

def accepts (a : Automaton) (text : String) : Bool :=
  let chars := text.toList
  a.acceptsFrom chars.getLast? [a.start] (positions none chars)

end Automaton

end Rollout

import Rollout.Automaton.Assembly
import Std.Data.HashMap

/-! States that are needed more than once are shared as far as a table of fixed size remembers them.
-/

namespace Rollout.Automaton

def mix (hash : UInt64) (n : Nat) : UInt64 := (hash ^^^ UInt64.ofNat n) * 1099511628211

def hashStart : UInt64 := 14695981039346656037

def mixRange (hash : UInt64) (r : ByteRange) : UInt64 := mix (mix hash r.low.toNat) r.high.toNat

abbrev Memory (κ : Type) : Type := Std.HashMap Nat (κ × Nat)

def remembered {κ : Type} [DecidableEq κ] (place : Nat) (key : κ) (state : State) :
    StateT (Memory κ) Assemble Nat := do
  let memory ← get
  match memory[place]? with
  | some (known, i) => if known = key then pure i else insert
  | none => insert
where
  insert : StateT (Memory κ) Assemble Nat := do
    let i ← add state
    modify fun memory => memory.insert place (key, i)
    pure i

def edgesPlace (edges : List Edge) : Nat :=
  let hash := edges.foldl (fun hash edge => mix (mixRange hash edge.range) edge.target) hashStart
  hash.toNat % 10000

def addSequences (final : Nat) :
    (depth : Nat) → List (List ByteRange) → StateT (Memory (List Edge)) Assemble Nat
  | 0, _ => pure final
  | depth + 1, sequences => do
    let groups := sequences.splitBy fun s t => s.head? == t.head?
    let edges ← groups.mapM fun group => do
      let range := (group.head?.bind List.head?).getD ByteRange.continuation
      let tails := group.map List.tail
      let target ← if tails.all List.isEmpty then pure final else addSequences final depth tails
      pure (Edge.mk range target)
    remembered (edgesPlace edges) edges (.bytes edges)

def setForward (set : CharSet) : Assemble Fragment := do
  let final ← add (.pass 0)
  let (first, _) ← (addSequences final 4 set.byteSequences).run ∅
  pure ⟨first, final⟩

def addBefore (target : Nat) (range : ByteRange) : StateT (Memory (Nat × ByteRange)) Assemble Nat :=
  let hash := mixRange (mix hashStart target) range
  remembered (hash.toNat % 1000) (target, range) (.byte ⟨range, target⟩)

def addBackward (fork final : Nat) :
    List (List ByteRange) → StateT (Memory (Nat × ByteRange)) Assemble Unit
  | [] => pure ()
  | sequence :: rest => do
    let first ← sequence.foldlM addBefore final
    connect fork first
    addBackward fork final rest

def setBackward (set : CharSet) : Assemble Fragment := do
  let fork ← add (.fork [])
  let final ← add (.pass 0)
  let _ ← (addBackward fork final set.byteSequences).run ∅
  pure ⟨fork, final⟩

def setOfBytes (ranges : List ByteRange) : Assemble Fragment := do
  let final ← add (.pass 0)
  let first ← add (.bytes (ranges.map fun range => ⟨range, final⟩))
  pure ⟨first, final⟩

def setOf (direction : Direction) (set : CharSet) : Assemble Fragment :=
  if set.isAscii then
    setOfBytes (set.ranges.map fun r => .ofNats r.low.toNat r.high.toNat)
  else
    match direction with
    | .forward => setForward set
    | .backward => setBackward set

end Rollout.Automaton

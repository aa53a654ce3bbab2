import Rollout.Impression.Basic
import Std.Data.HashMap

/-! The entries are nodes in an array, linked in both directions in the order of their last setting.
A full cache reuses the node of the entry that it forgets. -/

namespace Rollout

structure LruNode (κ α : Type) where
  key : κ
  value : α
  newer : Option Nat
  older : Option Nat
  deriving Repr

structure LruCache (κ α : Type) [BEq κ] [Hashable κ] where
  capacity : Nat
  nodes : Array (LruNode κ α)
  index : Std.HashMap κ Nat
  newest : Option Nat
  oldest : Option Nat

namespace LruCache

variable {κ α : Type} [BEq κ] [Hashable κ]

def empty (capacity : Nat) : LruCache κ α := ⟨capacity, #[], ∅, none, none⟩

def new (capacity : Nat) : Except SettingError (LruCache κ α) :=
  if capacity = 0 then .error .cacheCapacity else .ok (empty capacity)

def modifyNode (c : LruCache κ α) (i : Nat) (f : LruNode κ α → LruNode κ α) : LruCache κ α :=
  { c with nodes := c.nodes.modify i f }

def setOlder (c : LruCache κ α) (i older : Option Nat) : LruCache κ α :=
  match i with
  | some i => c.modifyNode i fun node => { node with older }
  | none => { c with newest := older }

def setNewer (c : LruCache κ α) (i newer : Option Nat) : LruCache κ α :=
  match i with
  | some i => c.modifyNode i fun node => { node with newer }
  | none => { c with oldest := newer }

def unlink (c : LruCache κ α) (i : Nat) : LruCache κ α :=
  match c.nodes[i]? with
  | none => c
  | some node =>
    let c := (c.setOlder node.newer node.older).setNewer node.older node.newer
    c.modifyNode i fun node => { node with newer := none, older := none }

def pushNewest (c : LruCache κ α) (i : Nat) : LruCache κ α :=
  let newest := c.newest
  let c := c.modifyNode i fun node => { node with newer := none, older := newest }
  let c := match newest with
    | some j => c.setNewer (some j) (some i)
    | none => c
  { c with newest := some i, oldest := if c.oldest.isNone then some i else c.oldest }

def refresh (c : LruCache κ α) (i : Nat) (value : α) : LruCache κ α :=
  ((c.modifyNode i fun node => { node with value }).unlink i).pushNewest i

def append (c : LruCache κ α) (key : κ) (value : α) : LruCache κ α :=
  let i := c.nodes.size
  let c := { c with nodes := c.nodes.push ⟨key, value, none, none⟩, index := c.index.insert key i }
  c.pushNewest i

def replace (c : LruCache κ α) (i : Nat) (key : κ) (value : α) : LruCache κ α :=
  let c := c.unlink i
  let c := match c.nodes[i]? with
    | some node => { c with index := c.index.erase node.key }
    | none => c
  let c := { c with index := c.index.insert key i }
  (c.modifyNode i fun node => { node with key, value }).pushNewest i

def testAndSet (c : LruCache κ α) (key : κ) (value : α) : Option α × LruCache κ α :=
  match c.index[key]? with
  | some i => (c.nodes[i]?.map LruNode.value, c.refresh i value)
  | none =>
    if c.nodes.size < c.capacity then (none, c.append key value)
    else
      match c.oldest with
      | none => (none, c)
      | some i => (none, c.replace i key value)

def get? (c : LruCache κ α) (key : κ) : Option α :=
  match c.index[key]? with
  | some i => c.nodes[i]?.map LruNode.value
  | none => none

def size (c : LruCache κ α) : Nat := c.index.size

def isEmpty (c : LruCache κ α) : Bool := c.size == 0

end LruCache

end Rollout

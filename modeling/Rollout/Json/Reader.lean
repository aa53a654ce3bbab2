import Rollout.Json.Token
import Rollout.Json.Value

/-! The containers that are open are kept on a stack, so a text of any depth is read in one pass.
Containers beyond `depthLimit` are checked but not kept. -/

namespace Rollout.Json

def depthLimit : Nat := 128

inductive Frame
  | array (depth : Nat) (items : List Json)
  | object (depth : Nat) (fields : List (Option String × Json)) (key : Option String)
  deriving Repr

def Frame.depth : Frame → Nat
  | .array depth _ => depth
  | .object depth _ _ => depth

def readableFields? : List (Option String × Json) → Option (List (String × Json))
  | [] => some []
  | (none, _) :: _ => none
  | (some key, value) :: rest => (readableFields? rest).map ((key, value) :: ·)

def Frame.close : Frame → Json
  | .array depth items => if depth < depthLimit then .array items.reverse else .unread
  | .object depth fields _ =>
    if depth < depthLimit then
      match readableFields? fields.reverse with
      | some fields => .object fields
      | none => .unread
    else .unread

inductive Expected
  | value
  | item
  | field
  | key
  | colon
  | separator
  | nothing (result : Json)
  deriving Repr

structure Reader where
  stack : List Frame
  expected : Expected
  deriving Repr

namespace Reader

def start : Reader := ⟨[], .value⟩

def place (value : Json) : List Frame → Reader
  | [] => ⟨[], .nothing value⟩
  | .array depth items :: rest => ⟨.array depth (value :: items) :: rest, .separator⟩
  | .object depth fields key :: rest =>
    ⟨.object depth ((key, value) :: fields) none :: rest, .separator⟩

def nextDepth : List Frame → Nat
  | [] => 1
  | frame :: _ => frame.depth + 1

def value? (stack : List Frame) : Token → Option Reader
  | .null => some (place .null stack)
  | .bool b => some (place (.bool b) stack)
  | .number (some n) => some (place (.number n) stack)
  | .string (some s) => some (place (.string s) stack)
  | .number none => some (place .unread stack)
  | .string none => some (place .unread stack)
  | .openArray => some ⟨.array (nextDepth stack) [] :: stack, .item⟩
  | .openObject => some ⟨.object (nextDepth stack) [] none :: stack, .field⟩
  | _ => none

def key? (stack : List Frame) : Token → Option Reader
  | .string key =>
    match stack with
    | .object depth fields _ :: rest => some ⟨.object depth fields key :: rest, .colon⟩
    | _ => none
  | _ => none

def close? (stack : List Frame) : Token → Option Reader
  | .closeArray =>
    match stack with
    | frame@(.array _ _) :: rest => some (place (Frame.close frame) rest)
    | _ => none
  | .closeObject =>
    match stack with
    | frame@(.object _ _ _) :: rest => some (place (Frame.close frame) rest)
    | _ => none
  | _ => none

def separate? (stack : List Frame) : Token → Option Reader
  | .comma =>
    match stack with
    | .array _ _ :: _ => some ⟨stack, .value⟩
    | .object _ _ _ :: _ => some ⟨stack, .key⟩
    | [] => none
  | token => close? stack token

def step? (r : Reader) (token : Token) : Option Reader :=
  match r.expected with
  | .value => value? r.stack token
  | .item => if token = .closeArray then close? r.stack token else value? r.stack token
  | .field => if token = .closeObject then close? r.stack token else key? r.stack token
  | .key => key? r.stack token
  | .colon => if token = .colon then some ⟨r.stack, .value⟩ else none
  | .separator => separate? r.stack token
  | .nothing _ => none

def finish? (r : Reader) : Option Json :=
  match r.expected with
  | .nothing result => some result
  | _ => none

end Reader

def ofTokens? (tokens : List Token) : Option Json :=
  (tokens.foldlM Reader.step? Reader.start).bind Reader.finish?

def read? (text : String) : Option Json :=
  (Token.scan? text.toList).bind ofTokens?

def readBytes? (bytes : ByteArray) : Option Json :=
  (String.fromUTF8? bytes).bind read?

end Rollout.Json

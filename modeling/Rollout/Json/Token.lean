import Rollout.Json.Number
import Rollout.Text.Units

/-! The state of a scanner after a text and then another one is its state after both together. -/

namespace Rollout.Json

inductive Token
  | openArray
  | closeArray
  | openObject
  | closeObject
  | comma
  | colon
  | null
  | bool (value : Bool)
  | number (value : Option Number)
  | string (value : Option String)
  deriving DecidableEq, Repr

namespace Token

inductive Mode
  | between
  | word (left : List Char) (token : Token)
  | numeral (read : List Char)
  | text (points : List Nat)
  | escape (points : List Nat)
  | code (points : List Nat) (left : Nat) (value : Nat)
  deriving DecidableEq, Repr

structure Scanner where
  mode : Mode
  tokens : List Token
  deriving DecidableEq, Repr

def isSpace (c : Char) : Bool :=
  c = ' ' || c = '\n' || c = '\t' || c = '\r'

def isNumeralChar (c : Char) : Bool :=
  c.isDigit || c = '-' || c = '+' || c = '.' || c = 'e' || c = 'E'

def escaped? : Char → Option Nat
  | '"' => some 0x22
  | '\\' => some 0x5C
  | '/' => some 0x2F
  | 'b' => some 0x08
  | 'f' => some 0x0C
  | 'n' => some 0x0A
  | 'r' => some 0x0D
  | 't' => some 0x09
  | _ => none

def mark? : Char → Option Token
  | '[' => some openArray
  | ']' => some closeArray
  | '\x7b' => some openObject
  | '\x7d' => some closeObject
  | ',' => some comma
  | ':' => some colon
  | _ => none

def ofText (points : List Nat) : Token :=
  .string ((Text.ofCodePoints? points.reverse).map String.ofList)

def ofNumeral? (read : List Char) : Option Token :=
  (Numeral.ofText? read.reverse).map fun n => .number n.value?

namespace Scanner

def begin? (tokens : List Token) (c : Char) : Option Scanner :=
  if isSpace c then some ⟨.between, tokens⟩
  else if c = '"' then some ⟨.text [], tokens⟩
  else if c = 't' then some ⟨.word ['r', 'u', 'e'] (.bool true), tokens⟩
  else if c = 'f' then some ⟨.word ['a', 'l', 's', 'e'] (.bool false), tokens⟩
  else if c = 'n' then some ⟨.word ['u', 'l', 'l'] .null, tokens⟩
  else if c = '-' || c.isDigit then some ⟨.numeral [c], tokens⟩
  else (mark? c).map fun token => ⟨.between, token :: tokens⟩

def step? (s : Scanner) (c : Char) : Option Scanner :=
  match s.mode with
  | .between => begin? s.tokens c
  | .word [] token => begin? (token :: s.tokens) c
  | .word (l :: left) token =>
    if c = l then some ⟨.word left token, s.tokens⟩ else none
  | .numeral read =>
    if isNumeralChar c then some ⟨.numeral (c :: read), s.tokens⟩
    else (ofNumeral? read).bind fun token => begin? (token :: s.tokens) c
  | .text points =>
    if c = '"' then some ⟨.between, ofText points :: s.tokens⟩
    else if c = '\\' then some ⟨.escape points, s.tokens⟩
    else if c.toNat < 0x20 then none
    else some ⟨.text (c.toNat :: points), s.tokens⟩
  | .escape points =>
    if c = 'u' then some ⟨.code points 3 0, s.tokens⟩
    else (escaped? c).map fun n => ⟨.text (n :: points), s.tokens⟩
  | .code points 0 value =>
    (Text.hexDigit? c).map fun d => ⟨.text ((16 * value + d) :: points), s.tokens⟩
  | .code points (left + 1) value =>
    (Text.hexDigit? c).map fun d => ⟨.code points left (16 * value + d), s.tokens⟩

def finish? (s : Scanner) : Option (List Token) :=
  match s.mode with
  | .between => some s.tokens.reverse
  | .word [] token => some (token :: s.tokens).reverse
  | .numeral read => (ofNumeral? read).map fun token => (token :: s.tokens).reverse
  | _ => none

end Scanner

def scan? (text : List Char) : Option (List Token) :=
  (text.foldlM Scanner.step? ⟨.between, []⟩).bind Scanner.finish?

end Token

end Rollout.Json

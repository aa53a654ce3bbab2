import Rollout.Text.Blank
import Rollout.Unicode.CaseFold

/-! In verbose patterns white space and comments are skipped after most elements. The functions here
read on past them. -/

namespace Rollout.Pattern

structure Flags where
  ignoreCase : Bool
  multiLine : Bool
  dotAll : Bool
  anyTerminator : Bool
  swapReluctant : Bool
  verbose : Bool
  unicode : Bool
  deriving DecidableEq, Repr

namespace Flags

def initial : Flags := ⟨false, false, false, false, false, false, true⟩

def set? (flags : Flags) (value : Bool) : Char → Option Flags
  | 'i' => some { flags with ignoreCase := value }
  | 'm' => some { flags with multiLine := value }
  | 's' => some { flags with dotAll := value }
  | 'R' => some { flags with anyTerminator := value }
  | 'U' => some { flags with swapReluctant := value }
  | 'x' => some { flags with verbose := value }
  | 'u' => some { flags with unicode := value }
  | _ => none

def fold (flags : Flags) (set : CharSet) : CharSet :=
  if !flags.ignoreCase then set
  else if flags.unicode then set.foldCase
  else set.foldAsciiCase

def negate? (flags : Flags) (negated : Bool) (set : CharSet) : Option CharSet :=
  if !negated then some set
  else if flags.unicode then some set.complement
  else none

def close? (flags : Flags) (negated : Bool) (set : CharSet) : Option CharSet :=
  flags.negate? negated (flags.fold set)

end Flags

inductive Skipped
  | comment
  | blank
  | no
  deriving DecidableEq, Repr

def skipped (verbose inComment : Bool) (c : Char) : Skipped :=
  if inComment then if c = '\n' then .blank else .comment
  else if !verbose then .no
  else if Text.isBlank c then .blank
  else if c = '#' then .comment
  else .no

namespace Flags

def skip (flags : Flags) (s : List Char) : List Char :=
  go false s
where
  go (inComment : Bool) : List Char → List Char
    | [] => []
    | c :: rest =>
      match skipped flags.verbose inComment c with
      | .comment => go true rest
      | .blank => go false rest
      | .no => c :: rest

def ahead? (flags : Flags) (s : List Char) : Option Char :=
  if flags.verbose then (scan false s).or s.head? else s.head?
where
  scan (marked : Bool) : List Char → Option Char
    | [] => none
    | c :: rest =>
      if Text.isBlank c then scan marked rest
      else if c = '#' ∧ !marked then scan true rest
      else some c

def upTo? (flags : Flags) (stop : Char) (s : List Char) : Option (List Char × List Char) :=
  go false s
where
  go (inComment : Bool) : List Char → Option (List Char × List Char)
    | [] => none
    | c :: rest =>
      match skipped flags.verbose inComment c with
      | .comment => go true rest
      | .blank => go false rest
      | .no => if c = stop then some ([], rest) else (go false rest).map fun (a, b) => (c :: a, b)

def digits (flags : Flags) (s : List Char) : List Char × List Char :=
  go false s
where
  go (inComment : Bool) : List Char → List Char × List Char
    | [] => ([], [])
    | c :: rest =>
      match skipped flags.verbose inComment c with
      | .comment => go true rest
      | .blank => go false rest
      | .no =>
        if c.isDigit then
          let (digits, after) := go false rest
          (c :: digits, after)
        else ([], c :: rest)

end Flags

end Rollout.Pattern

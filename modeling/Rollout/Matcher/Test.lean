import Rollout.Automaton.OfPattern
import Rollout.Matcher.Input
import Rollout.Matcher.Numeric
import Rollout.Pattern.Reader
import Rollout.StringSet
import Rollout.Text.Search

namespace Rollout

structure TextPattern where
  source : String
  automaton : Automaton
  deriving Repr

def TextPattern.read? (source : String) : Option TextPattern :=
  ((Pattern.read? source).bind Pattern.automaton?).map fun automaton => ⟨source, automaton⟩

inductive InputTest
  | present
  | among (texts : StringSet)
  | startsWithAny (texts : List String)
  | endsWithAny (texts : List String)
  | containsAny (texts : List String)
  | equalTo (scale : NumericScale) (value : Int64)
  | atLeast (scale : NumericScale) (value : Int64)
  | atMost (scale : NumericScale) (value : Int64)
  | between (scale : NumericScale) (start finish : Int64)
  | equalToSet (texts : StringSet)
  | partOfSet (texts : StringSet)
  | containsAllOfSet (texts : StringSet)
  | containsAnyOfSet (texts : StringSet)
  | equalToBoolean (value : Bool)
  | matchesPattern (pattern : Option TextPattern)
  | equalToVersion (version : Option Semver)
  | atLeastVersion (version : Option Semver)
  | atMostVersion (version : Option Semver)
  | betweenVersions (range : Option (Semver × Semver))
  | amongVersions (versions : StringSet)
  deriving Repr

namespace InputTest

def onText (input : MatcherInput) (test : String → Bool) : Bool :=
  match input.string? with
  | some s => test s
  | none => false

def onInteger (scale : NumericScale) (input : MatcherInput) (test : Int64 → Bool) : Bool :=
  match input.integer? with
  | some n => test (scale.normalize n)
  | none => false

def onSet (input : MatcherInput) (test : StringSet → Bool) : Bool :=
  match input.strings? with
  | some items => test (StringSet.ofList items)
  | none => false

def onVersion {α : Type} (configured : Option α) (input : MatcherInput)
    (test : α → Semver → Bool) : Bool :=
  match configured, input.version? with
  | some expected, some version => test expected version
  | _, _ => false

def passes (test : InputTest) (input : MatcherInput) : Bool :=
  match test with
  | .present => true
  | .among texts => onText input texts.contains
  | .startsWithAny texts => onText input fun s => texts.any (Text.startsWith s)
  | .endsWithAny texts => onText input fun s => texts.any (Text.endsWith s)
  | .containsAny texts => onText input fun s => texts.any (Text.contains s)
  | .equalTo scale value => onInteger scale input fun n => n == value
  | .atLeast scale value => onInteger scale input fun n => value ≤ n
  | .atMost scale value => onInteger scale input fun n => n ≤ value
  | .between scale start finish => onInteger scale input fun n => start ≤ n && n ≤ finish
  | .equalToSet texts => onSet input fun set => set.size == texts.size && set.all texts.contains
  | .partOfSet texts => onSet input fun set => !set.isEmpty && set.all texts.contains
  | .containsAllOfSet texts => onSet input fun set => !texts.isEmpty && texts.all set.contains
  | .containsAnyOfSet texts => onSet input fun set => set.any texts.contains
  | .equalToBoolean value => input.boolean? == some value
  | .matchesPattern pattern =>
    match pattern, input.string? with
    | some pattern, some s => pattern.automaton.accepts s
    | _, _ => false
  | .equalToVersion version =>
    onVersion version input fun expected v => v.version == expected.version
  | .atLeastVersion version => onVersion version input fun least v => v.order least != .lt
  | .atMostVersion version => onVersion version input fun most v => v.order most != .gt
  | .betweenVersions range =>
    onVersion range input fun range v => v.order range.1 != .lt && v.order range.2 != .gt
  | .amongVersions versions =>
    match input.version? with
    | some v => versions.contains v.version
    | none => false

end InputTest

end Rollout

import Rollout.Matcher.Basic

namespace Rollout

namespace MatcherDefinition

def versionRange (range : TextRange) : Option (Semver × Semver) :=
  match Semver.parse? range.start, Semver.parse? range.finish with
  | some start, some finish => some (start, finish)
  | _, _ => none

def versionSet (texts : List String) : StringSet :=
  StringSet.ofList (texts.filterMap fun s => (Semver.parse? s).map Semver.version)

def test? (d : MatcherDefinition) : Option InputTest :=
  match d.matcherType with
  | .allKeys => some .present
  | .whitelist => d.whitelist.map fun texts => .among (.ofList texts)
  | .startsWith => d.whitelist.map .startsWithAny
  | .endsWith => d.whitelist.map .endsWithAny
  | .containsString => d.whitelist.map .containsAny
  | .equalTo =>
    d.threshold.map fun t =>
      let scale := NumericScale.forEquality t.dataType
      .equalTo scale (scale.normalize t.value)
  | .atLeast =>
    d.threshold.map fun t =>
      let scale := NumericScale.forOrder t.dataType
      .atLeast scale (scale.normalize t.value)
  | .atMost =>
    d.threshold.map fun t =>
      let scale := NumericScale.forOrder t.dataType
      .atMost scale (scale.normalize t.value)
  | .between =>
    d.numericRange.map fun r =>
      let scale := NumericScale.forOrder r.dataType
      .between scale (scale.normalize r.start) (scale.normalize r.finish)
  | .equalToSet => d.whitelist.map fun texts => .equalToSet (.ofList texts)
  | .partOfSet => d.whitelist.map fun texts => .partOfSet (.ofList texts)
  | .containsAllOfSet => d.whitelist.map fun texts => .containsAllOfSet (.ofList texts)
  | .containsAnyOfSet => d.whitelist.map fun texts => .containsAnyOfSet (.ofList texts)
  | .equalToBoolean => d.boolean.map .equalToBoolean
  | .matchesString => d.text.map fun s => .matchesPattern (TextPattern.read? s)
  | .equalToSemver => d.text.map fun s => .equalToVersion (Semver.parse? s)
  | .atLeastSemver => d.text.map fun s => .atLeastVersion (Semver.parse? s)
  | .atMostSemver => d.text.map fun s => .atMostVersion (Semver.parse? s)
  | .betweenSemver => d.textRange.map fun r => .betweenVersions (versionRange r)
  | .inListSemver => d.whitelist.map fun texts => .amongVersions (versionSet texts)
  | .inSegment => none
  | .inFlagTreatment => none

def kind? (d : MatcherDefinition) : Option MatcherKind :=
  match d.matcherType with
  | .inSegment => d.segment.map .inSegment
  | .inFlagTreatment => d.dependency.map fun f => .inTreatments f.flag (.ofList f.treatments)
  | _ => d.test?.map .test

end MatcherDefinition

def Matcher.compile? (d : MatcherDefinition) : Option Matcher :=
  d.kind?.map fun kind => ⟨kind, d.negate, d.keySelector.bind KeySelector.attributeName⟩

end Rollout

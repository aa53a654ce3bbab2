import Rollout.Proofs.Definition.Loading
import Rollout.Proofs.Json.Brackets

namespace Rollout.Configuration

section Single

variable {text : String} {json list : Json} (hread : Json.read? text = some json)
  (hlist : Json.read? ("[" ++ text ++ "]") = some list) (hcomplete : list.isComplete = true)

include hread hlist hcomplete

lemma holdsArray_brackets : HoldsArray ("[" ++ text ++ "]").toUTF8 [json] := by
  obtain ⟨json', hjson', hkept⟩ := Json.read?_brackets hread
  obtain rfl : list = .array [json'] := Option.some.inj (hlist.symm.trans hjson')
  obtain rfl : json' = json :=
    hkept (Json.isComplete_array_iff.mp hcomplete json' List.mem_cons_self)
  exact holdsArray_toUTF8 hjson' hcomplete

theorem ofBytes_brackets :
    (∀ f, FeatureFlag.ofText text = .ok f →
      ∃ c, ofBytes ("[" ++ text ++ "]").toUTF8 = .ok c ∧ c.flags.entries = [(f.name, f)]) ∧
    ∀ e, FeatureFlag.ofText text = .error e →
      ∃ c, ofBytes ("[" ++ text ++ "]").toUTF8 = .ok c ∧ c.flags.entries = [] := by
  have hload := (holdsArray_brackets hread hlist hcomplete).ofBytes_eq
  constructor
  · intro f hf
    obtain ⟨d, hd, rfl⟩ := (FeatureFlag.ofText_eq_ok_iff hread).mp hf
    have hdefinitions : definitions [json] = [d] := by
      rw [definitions, List.filterMap_cons_some hd, List.filterMap_nil]
    rw [hdefinitions] at hload
    exact ⟨_, hload, rfl⟩
  · intro e he
    have hnone : FlagDefinition.ofJson? json = none := by
      rw [Option.eq_none_iff_forall_ne_some]
      intro d hd
      rw [(FeatureFlag.ofText_eq_ok_iff hread).mpr ⟨d, hd, rfl⟩] at he
      cases he
    have hdefinitions : definitions [json] = [] := by
      rw [definitions, List.filterMap_cons_none hnone, List.filterMap_nil]
    rw [hdefinitions] at hload
    exact ⟨_, hload, rfl⟩

end Single

section Search

def listed : String := " [\"search\",1,100,0,2,false,\"off\"] "

def listedJson : Json :=
  .array [.string "search", .ofInt 1, .ofInt 100, .ofInt 0, .ofInt 2, .bool false, .string "off"]

def repeated : String := "\x7b\"name\":\"search\",\"name\":\"search\"\x7d"

def repeatedJson : Json := .object [("name", .string "search"), ("name", .string "search")]

set_option maxRecDepth 4096 in
theorem ofBytes_brackets_search :
    (∃ f c, FeatureFlag.ofText listed = .ok f ∧ f.name = "search" ∧
      ofBytes ("[" ++ listed ++ "]").toUTF8 = .ok c ∧ c.flags.entries = [("search", f)]) ∧
    ∃ c, FeatureFlag.ofText repeated = .error .malformed ∧
      ofBytes ("[" ++ repeated ++ "]").toUTF8 = .ok c ∧ c.flags.entries = [] := by
  constructor
  · have hread : Json.read? listed = some listedJson := by rfl
    have hlist : Json.read? ("[" ++ listed ++ "]") = some (.array [listedJson]) := by rfl
    obtain ⟨f, hf, hname⟩ : ∃ f, FeatureFlag.ofText listed = .ok f ∧ f.name = "search" := by
      rw [FeatureFlag.ofText, hread]
      exact ⟨_, rfl, rfl⟩
    obtain ⟨c, hc, hentries⟩ := (ofBytes_brackets hread hlist rfl).1 f hf
    exact ⟨f, c, hf, hname, hc, hname ▸ hentries⟩
  · have hread : Json.read? repeated = some repeatedJson := by rfl
    have hlist : Json.read? ("[" ++ repeated ++ "]") = some (.array [repeatedJson]) := by rfl
    have herror : FeatureFlag.ofText repeated = .error .malformed := by
      rw [FeatureFlag.ofText, hread]
      rfl
    obtain ⟨c, hc, hentries⟩ := (ofBytes_brackets hread hlist rfl).2 .malformed herror
    exact ⟨c, herror, hc, hentries⟩

end Search

end Rollout.Configuration

import Mathlib.Data.List.Forall2
import Rollout.Json.Reader

/-! Where a text is a single value, the text between brackets is the array of this one value, with
the parts of it that are now nested too deeply left unread. -/

namespace Rollout.Json

namespace Token

namespace Scanner

def after (base : List Token) (s : Scanner) : Scanner := ⟨s.mode, s.tokens ++ base⟩

variable (base : List Token) (s : Scanner)

lemma begin?_append (tokens : List Token) (c : Char) :
    begin? (tokens ++ base) c = (begin? tokens c).map (after base) := by
  simp only [begin?]
  repeat' split
  all_goals first | rfl | cases mark? c <;> rfl

lemma step?_after (c : Char) : (s.after base).step? c = (s.step? c).map (after base) := by
  obtain ⟨mode, tokens⟩ := s
  cases mode with
  | between => exact begin?_append base tokens c
  | word left token =>
    cases left with
    | nil => exact begin?_append base (token :: tokens) c
    | cons l left =>
      simp only [step?, after]
      split <;> rfl
  | numeral read =>
    simp only [step?, after]
    split
    · rfl
    · cases ofNumeral? read with
      | none => rfl
      | some token => exact begin?_append base (token :: tokens) c
  | text points =>
    simp only [step?, after]
    repeat' split
    all_goals rfl
  | escape points =>
    simp only [step?, after]
    split
    · rfl
    · cases escaped? c <;> rfl
  | code points left value =>
    cases left <;> simp only [step?, after] <;> cases Text.hexDigit? c <;> rfl

lemma foldlM_step?_after (text : List Char) :
    text.foldlM step? (s.after base) = (text.foldlM step? s).map (after base) := by
  induction text generalizing s with
  | nil => rfl
  | cons c rest ih =>
    rw [List.foldlM_cons, List.foldlM_cons, step?_after]
    cases s.step? c with
    | none => rfl
    | some t => exact ih t

variable {s} in
lemma step?_closeArray {tokens : List Token} (h : s.finish? = some tokens) :
    s.step? ']' = some ⟨.between, .closeArray :: tokens.reverse⟩ := by
  obtain ⟨mode, read⟩ := s
  cases mode with
  | between =>
    cases h
    rw [List.reverse_reverse]
    rfl
  | word left token =>
    cases left with
    | nil =>
      cases h
      rw [List.reverse_reverse]
      rfl
    | cons => cases h
  | numeral digits =>
    obtain ⟨token, ht, rfl⟩ := Option.map_eq_some_iff.mp h
    change (ofNumeral? digits).bind _ = _
    rw [ht, List.reverse_reverse]
    rfl
  | _ => cases h

end Scanner

lemma scan?_brackets {text : List Char} {tokens : List Token} (h : scan? text = some tokens) :
    scan? ('[' :: (text ++ [']'])) = some (.openArray :: (tokens ++ [.closeArray])) := by
  obtain ⟨s, hs, hfinish⟩ := Option.bind_eq_some_iff.mp h
  have hopen : Scanner.step? ⟨.between, []⟩ '[' =
      some (Scanner.after [.openArray] ⟨.between, []⟩) := rfl
  have hclose := Scanner.step?_closeArray hfinish
  rw [scan?, List.foldlM_cons, hopen, Option.bind_eq_bind, Option.bind_some, List.foldlM_append,
    Scanner.foldlM_step?_after, hs]
  change ((s.after [.openArray]).step? ']' >>= pure).bind Scanner.finish? = _
  rw [Scanner.step?_after, hclose]
  simp [Scanner.after, Scanner.finish?]

end Token

def KeptFrom (json' json : Json) : Prop := json'.isComplete = true → json' = json

lemma KeptFrom.refl (json : Json) : KeptFrom json json := fun _ => rfl

inductive FieldKeptFrom : Option String × Json → Option String × Json → Prop
  | mk (key : Option String) {json' json : Json} (h : KeptFrom json' json) :
    FieldKeptFrom (key, json') (key, json)

section Kept

variable {items' items : List Json} {fields' fields : List (Option String × Json)}

lemma eq_of_areComplete (h : List.Forall₂ KeptFrom items' items)
    (hc : areComplete items' = true) : items' = items := by
  induction h with
  | nil => rfl
  | cons h _ ih =>
    rw [areComplete, Bool.and_eq_true] at hc
    rw [h hc.1, ih hc.2]

lemma eq_of_fieldsComplete (h : List.Forall₂ FieldKeptFrom fields' fields)
    {readable : List (String × Json)} (hr : readableFields? fields' = some readable)
    (hc : fieldsComplete readable = true) : fields' = fields := by
  induction h generalizing readable with
  | nil => rfl
  | cons hfield _ ih =>
    obtain ⟨key, hvalue⟩ := hfield
    cases key with
    | none => cases hr
    | some key =>
      obtain ⟨rest, hrest, rfl⟩ := Option.map_eq_some_iff.mp hr
      rw [fieldsComplete, fieldComplete, Bool.and_eq_true] at hc
      rw [hvalue hc.1, ih hrest hc.2]

end Kept

inductive Frame.Deeper : Frame → Frame → Prop
  | array (depth : Nat) {items' items : List Json} (h : List.Forall₂ KeptFrom items' items) :
    Deeper (.array (depth + 1) items') (.array depth items)
  | object (depth : Nat) (key : Option String) {fields' fields : List (Option String × Json)}
    (h : List.Forall₂ FieldKeptFrom fields' fields) :
    Deeper (.object (depth + 1) fields' key) (.object depth fields key)

lemma Frame.Deeper.close {f' f : Frame} (h : Deeper f' f) : KeptFrom f'.close f.close := by
  intro hc
  cases h with
  | array depth h =>
    rw [Frame.close] at hc ⊢
    split at hc
    · rw [if_pos ‹_›, Frame.close, if_pos (by omega)]
      rw [isComplete] at hc
      rw [eq_of_areComplete (List.forall₂_reverse_iff.mpr h) hc]
    · cases hc
  | object depth key h =>
    rw [Frame.close] at hc ⊢
    split at hc
    · rw [if_pos ‹_›, Frame.close, if_pos (by omega)]
      split at hc
      next readable hr =>
        rw [← eq_of_fieldsComplete (List.forall₂_reverse_iff.mpr h) hr hc, hr]
      · cases hc
    · cases hc

namespace Reader

/-- The first reader reads inside one open bracket what the second one reads on its own. -/
inductive Nested : Reader → Reader → Prop
  | inside {stack' stack : List Frame} {expected : Expected}
    (h : List.Forall₂ Frame.Deeper stack' stack) (hn : ∀ json, expected ≠ .nothing json) :
    Nested ⟨stack' ++ [.array 1 []], expected⟩ ⟨stack, expected⟩
  | done {json' json : Json} (h : KeptFrom json' json) :
    Nested ⟨[.array 1 [json']], .separator⟩ ⟨[], .nothing json⟩

variable {stack' stack : List Frame} {r' r s : Reader} {token : Token}

lemma nested_place (h : List.Forall₂ Frame.Deeper stack' stack) {json' json : Json}
    (hj : KeptFrom json' json) : Nested (place json' (stack' ++ [.array 1 []])) (place json stack) := by
  cases h with
  | nil => exact .done hj
  | cons hf hrest =>
    cases hf with
    | array depth hitems => exact .inside (.cons (.array depth (.cons hj hitems)) hrest) nofun
    | object depth key hfields =>
      exact .inside (.cons (.object depth none (.cons (.mk key hj) hfields)) hrest) nofun

lemma nextDepth_append (h : List.Forall₂ Frame.Deeper stack' stack) :
    nextDepth (stack' ++ [.array 1 []]) = nextDepth stack + 1 := by
  cases h with
  | nil => rfl
  | cons hf _ => cases hf <;> rfl

section Steps

variable (h : List.Forall₂ Frame.Deeper stack' stack)

include h

lemma nested_value? (hs : value? stack token = some s) :
    ∃ s', value? (stack' ++ [.array 1 []]) token = some s' ∧ Nested s' s := by
  cases token with
  | null | bool =>
    cases hs
    exact ⟨_, rfl, nested_place h (.refl _)⟩
  | number n | string n =>
    cases n <;> cases hs <;> exact ⟨_, rfl, nested_place h (.refl _)⟩
  | openArray =>
    cases hs
    refine ⟨_, rfl, ?_⟩
    rw [nextDepth_append h]
    exact .inside (.cons (.array _ .nil) h) nofun
  | openObject =>
    cases hs
    refine ⟨_, rfl, ?_⟩
    rw [nextDepth_append h]
    exact .inside (.cons (.object _ none .nil) h) nofun
  | _ => cases hs

lemma nested_key? (hs : key? stack token = some s) :
    ∃ s', key? (stack' ++ [.array 1 []]) token = some s' ∧ Nested s' s := by
  cases token with
  | string key =>
    cases h with
    | nil => cases hs
    | cons hf hrest =>
      cases hf with
      | array => cases hs
      | object depth _ hfields =>
        cases hs
        exact ⟨_, rfl, .inside (.cons (.object depth key hfields) hrest) nofun⟩
  | _ => cases hs

lemma nested_close? (hs : close? stack token = some s) :
    ∃ s', close? (stack' ++ [.array 1 []]) token = some s' ∧ Nested s' s := by
  cases h with
  | nil => cases token <;> cases hs
  | cons hf hrest =>
    have hclose := hf.close
    cases hf with
    | array =>
      cases token with
      | closeArray =>
        cases hs
        exact ⟨_, rfl, nested_place hrest hclose⟩
      | _ => cases hs
    | object =>
      cases token with
      | closeObject =>
        cases hs
        exact ⟨_, rfl, nested_place hrest hclose⟩
      | _ => cases hs

lemma nested_separate? (hs : separate? stack token = some s) :
    ∃ s', separate? (stack' ++ [.array 1 []]) token = some s' ∧ Nested s' s := by
  cases token with
  | comma =>
    cases h with
    | nil => cases hs
    | cons hf hrest =>
      have h := List.Forall₂.cons hf hrest
      cases hf <;> cases hs <;> exact ⟨_, rfl, .inside h nofun⟩
  | _ =>
    simp only [separate?] at hs ⊢
    exact nested_close? h hs

end Steps

lemma Nested.step? (h : Nested r' r) (hs : r.step? token = some s) :
    ∃ s', r'.step? token = some s' ∧ Nested s' s := by
  cases h with
  | done => cases hs
  | @inside stack' stack expected h hn =>
    cases expected with
    | value => exact nested_value? h hs
    | item =>
      simp only [Reader.step?] at hs ⊢
      split at hs
      · rw [if_pos ‹_›]
        exact nested_close? h hs
      · rw [if_neg ‹_›]
        exact nested_value? h hs
    | field =>
      simp only [Reader.step?] at hs ⊢
      split at hs
      · rw [if_pos ‹_›]
        exact nested_close? h hs
      · rw [if_neg ‹_›]
        exact nested_key? h hs
    | key => exact nested_key? h hs
    | colon =>
      simp only [Reader.step?] at hs ⊢
      split at hs
      · cases hs
        rw [if_pos ‹_›]
        exact ⟨_, rfl, .inside h nofun⟩
      · cases hs
    | separator => exact nested_separate? h hs
    | nothing json => exact absurd rfl (hn json)

lemma Nested.foldlM (h : Nested r' r) {tokens : List Token}
    (hs : tokens.foldlM Reader.step? r = some s) :
    ∃ s', tokens.foldlM Reader.step? r' = some s' ∧ Nested s' s := by
  induction tokens generalizing r' r with
  | nil =>
    cases hs
    exact ⟨r', rfl, h⟩
  | cons token rest ih =>
    rw [List.foldlM_cons, Option.bind_eq_bind, Option.bind_eq_some_iff] at hs
    obtain ⟨t, ht, hrest⟩ := hs
    obtain ⟨t', ht', hnested⟩ := h.step? ht
    obtain ⟨s', hs', hn⟩ := ih hnested hrest
    exact ⟨s', by rw [List.foldlM_cons, ht']; exact hs', hn⟩

lemma step?_item (h : step? ⟨stack, .value⟩ token = some s) : step? ⟨stack, .item⟩ token = some s := by
  have hclose : token ≠ .closeArray := by
    rintro rfl
    cases h
  exact (if_neg hclose).trans h

end Reader

lemma ofTokens?_brackets {tokens : List Token} {json : Json} (h : ofTokens? tokens = some json) :
    ∃ json', ofTokens? (.openArray :: (tokens ++ [.closeArray])) = some (.array [json']) ∧
      KeptFrom json' json := by
  obtain ⟨s, hs, hfinish⟩ := Option.bind_eq_some_iff.mp h
  cases tokens with
  | nil =>
    cases hs
    cases hfinish
  | cons token rest =>
    rw [List.foldlM_cons, Option.bind_eq_bind, Option.bind_eq_some_iff] at hs
    obtain ⟨r, hr, hs⟩ := hs
    -- The bracket in front opens an array; from its first item on the two readers go side by side.
    have hstart : Reader.Nested ⟨[.array 1 []], .value⟩ Reader.start := .inside .nil nofun
    obtain ⟨r', hr', hnested⟩ := hstart.step? hr
    obtain ⟨s', hs', hnested⟩ := hnested.foldlM hs
    have hopen : Reader.start.step? .openArray = some ⟨[.array 1 []], .item⟩ := rfl
    have hrun : (Token.openArray :: (token :: rest ++ [.closeArray])).foldlM Reader.step?
        Reader.start = s'.step? .closeArray := by
      rw [List.foldlM_cons, hopen, Option.bind_eq_bind, Option.bind_some, List.cons_append,
        List.foldlM_cons, Reader.step?_item hr', Option.bind_eq_bind, Option.bind_some,
        List.foldlM_append, hs', Option.bind_eq_bind, Option.bind_some, List.foldlM_cons]
      exact bind_pure (m := Option) _
    rw [ofTokens?, hrun]
    cases hnested with
    | @inside _ _ expected _ hn =>
      cases expected with
      | nothing result => exact absurd rfl (hn result)
      | _ => cases hfinish
    | @done json' json h =>
      cases hfinish
      exact ⟨json', rfl, h⟩

lemma read?_brackets {text : String} {json : Json} (h : read? text = some json) :
    ∃ json', read? ("[" ++ text ++ "]") = some (.array [json']) ∧ KeptFrom json' json := by
  obtain ⟨tokens, htokens, hjson⟩ := Option.bind_eq_some_iff.mp h
  obtain ⟨json', hjson', hkept⟩ := ofTokens?_brackets hjson
  have htext : ("[" ++ text ++ "]").toList = '[' :: (text.toList ++ [']']) := by simp
  exact ⟨json', by rw [read?, htext, Token.scan?_brackets htokens, Option.bind_some, hjson'], hkept⟩

end Rollout.Json

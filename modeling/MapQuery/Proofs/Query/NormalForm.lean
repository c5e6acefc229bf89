import MapQuery.Proofs.Query.Search
import MapQuery.Proofs.Text.Steady

/-!
# How normal the form of searched text is

With regard to the case of letters, the form in which texts are compared is their composed form, and stays as it is
when it is brought into this form again. Without regard to it, a text is composed first and then put in lower case,
which may leave characters that compose to another one. Doing all this again composes them, and is then done.

* `Text.IsComposed` — a text is its own composed form.
* `Text.normal_normal` — bringing a normal form into normal form again composes it, and does nothing else.
* `TextSearch.search_eq`, `ValueSearch.needle_eq` — what a search keeps of its text.
* `Query.holds_own_text` — a text is found where it is a value.
* `Query.normal_form_of_searches` — when normal forms, and the texts that searches keep, are composed.
-/

namespace MapQuery

/-! ### Normal forms -/

namespace Text

/-- A text is its own composed form. -/
def IsComposed (s : String) : Prop :=
  normal true s = s

instance : DecidablePred IsComposed :=
  fun s => inferInstanceAs (Decidable (normal true s = s))

/-- Bringing a normal form into normal form again composes it, and does nothing else. -/
theorem normal_normal (caseSensitive : Bool) (s : String) :
    normal caseSensitive (normal caseSensitive s) = normal true (normal caseSensitive s) := by
  cases caseSensitive with
  | true => rfl
  | false =>
    unfold normal
    rw [String.toList_ofList]
    exact congrArg String.ofList (lowercase_composed_lowercase _)

theorem isComposed_normal_true (s : String) : IsComposed (normal true s) := by
  unfold IsComposed normal
  rw [String.toList_ofList]
  exact congrArg String.ofList (composed_composed _)

/-- After the second time nothing changes any more. -/
theorem normal_normal_normal (caseSensitive : Bool) (s : String) :
    normal caseSensitive (normal caseSensitive (normal caseSensitive s)) =
      normal caseSensitive (normal caseSensitive s) := by
  have hcomposed : IsComposed (normal true (normal caseSensitive s)) := isComposed_normal_true _
  rw [normal_normal caseSensitive (normal caseSensitive s), normal_normal caseSensitive s]
  exact hcomposed

/-- A normal form is composed if the case of letters counts. Else it may not be. -/
theorem isComposed_normal_iff (caseSensitive : Bool) (s : String) :
    IsComposed (normal caseSensitive s) ↔ caseSensitive = true ∨ IsComposed (normal false s) := by
  cases caseSensitive with
  | true => exact iff_of_true (isComposed_normal_true s) (.inl rfl)
  | false => exact (or_iff_right Bool.false_ne_true).symm

end Text

open Text

/-! ### Searches -/

variable {key text : String} {flags : Flags}

/-- Of a pattern the composed form is kept, of any other text its normal form. -/
theorem TextSearch.search_eq {m : TextSearch} (h : compile text flags = .ok m) :
    m.search = normal (flags.regex || flags.caseSensitive) text := by
  obtain ⟨caseSensitive, regex⟩ := flags
  cases regex with
  | true =>
    obtain ⟨p, -, rfl⟩ := compile_pattern h
    rfl
  | false =>
    cases h
    rfl

/-- Of the value its normal form is kept. -/
theorem ValueSearch.needle_eq {m : ValueSearch} (h : compile key text flags = .ok m) :
    m.needle = normal flags.caseSensitive text := by
  obtain ⟨caseSensitive, regex⟩ := flags
  cases regex with
  | true =>
    obtain ⟨p, q, -, -, rfl⟩ := compile_patterns h
    rfl
  | false =>
    cases h
    rfl

/-- Every text holds itself. -/
theorem holdsNeedle_self (caseSensitive : Bool) (text : String) :
    holdsNeedle caseSensitive (normal caseSensitive text) text = true := by
  rw [holdsNeedle_normal]
  exact occursIn_iff.mpr ⟨[], [], (List.append_nil _).symm⟩

namespace Query

variable {P : Type} [Primitive P]

/-- A text is found where it is a value, with or without regard to the case of letters. -/
theorem holds_own_text {p : P} (h : (Primitive.profile p).tags.get? key = some text) (caseSensitive : Bool) :
    (Query.text (.plain text caseSensitive)).holds p = true ∧
      (key ≠ "timestamp" → (value (.plain key text caseSensitive)).holds p = true) := by
  have hself : holdsNeedle caseSensitive (normal caseSensitive text) text = true := holdsNeedle_self caseSensitive text
  constructor
  · rw [holds_text, TextSearch.holds_iff]
    exact .inr (.inl ⟨key, text, h, .inr hself⟩)
  · intro hkey
    have hasked : (Primitive.profile p).asked? key caseSensitive = some text := by
      unfold Profile.asked?
      rw [if_neg hkey]
      exact Tags.find?_of_get? h caseSensitive
    rw [holds_value, ValueSearch.holds_plain, hasked]
    exact hself

/-- A normal form is brought into normal form again by composing it, so that nothing changes exactly if it is
composed, and nothing changes after that in any case. It is composed if the case of letters counts. A search keeps
the normal form of its text, or the composed form of a pattern for any text, and so keeps a composed text exactly if
this is one; it is built unless it is to have patterns. And a text is found where it is a value. -/
theorem normal_form_of_searches (key text : String) (flags : Flags) :
    (∀ caseSensitive,
      normal caseSensitive (normal caseSensitive text) = normal true (normal caseSensitive text) ∧
      (normal caseSensitive (normal caseSensitive text) = normal caseSensitive text ↔
        caseSensitive = true ∨ IsComposed (normal false text)) ∧
      normal caseSensitive (normal caseSensitive (normal caseSensitive text)) =
        normal caseSensitive (normal caseSensitive text)) ∧
    (match TextSearch.compile text flags with
      | .ok m =>
        IsComposed m.search ↔ (flags.regex = true ∨ flags.caseSensitive = true) ∨ IsComposed (normal false text)
      | .error _ => flags.regex = true) ∧
    (match ValueSearch.compile key text flags with
      | .ok m => IsComposed m.needle ↔ flags.caseSensitive = true ∨ IsComposed (normal false text)
      | .error _ => flags.regex = true) ∧
    ∀ {P : Type} [Primitive P] (p : P), (Primitive.profile p).tags.get? key = some text → ∀ caseSensitive,
      (Query.text (.plain text caseSensitive)).holds p = true ∧
        (key ≠ "timestamp" → (value (.plain key text caseSensitive)).holds p = true) := by
  refine ⟨fun caseSensitive => ⟨normal_normal _ _, ?_, normal_normal_normal _ _⟩, ?_, ?_,
    fun p h caseSensitive => holds_own_text h caseSensitive⟩
  · rw [normal_normal]
    exact isComposed_normal_iff caseSensitive text
  · split
    · next m hm =>
      rw [TextSearch.search_eq hm, isComposed_normal_iff, Bool.or_eq_true]
    · next e he =>
      by_contra hregex
      unfold TextSearch.compile at he
      rw [if_neg hregex] at he
      cases he
  · split
    · next m hm =>
      rw [ValueSearch.needle_eq hm]
      exact isComposed_normal_iff flags.caseSensitive text
    · next e he =>
      by_contra hregex
      unfold ValueSearch.compile at he
      rw [if_neg hregex] at he
      cases he

/-- The small j and a caron compose to one character, which no capital one corresponds to. -/
theorem normal_form_of_searches_caron :
    normal false "J\u030c" = "j\u030c" ∧ normal false (normal false "J\u030c") = "\u01f0" ∧
      "\u01f0" ≠ "j\u030c" ∧
      ∃ anywhere inKey, TextSearch.compile "J\u030c" ⟨false, false⟩ = .ok anywhere ∧
        ValueSearch.compile "name" "J\u030c" ⟨false, false⟩ = .ok inKey ∧
        ¬ IsComposed anywhere.search ∧ ¬ IsComposed inKey.needle := by
  refine ⟨by decide +kernel, by decide +kernel, by decide, .plain "J\u030c" false, .plain "name" "J\u030c" false,
    TextSearch.compile_plain _ _, ValueSearch.compile_plain _ _ _, ?_, ?_⟩
  · decide +kernel
  · decide +kernel

end Query

end MapQuery

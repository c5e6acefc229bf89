import MapQuery.Text.Ascii
import MapQuery.Text.Composed
import MapQuery.Text.Lowercase

/-!
# Normal form of searched text

Texts are compared in composed form, and in lower case unless the search minds the case.

* `normalize` — the form in which texts are compared.
* `occursIn` — whether a text holds another one.
-/

namespace MapQuery.Text

/-- Composed form, then lower case unless the search is case-sensitive. -/
def normalize (caseSensitive : Bool) (cs : List Char) : List Char :=
  if caseSensitive then composed cs else lowercase (composed cs)

/-- The needle stands somewhere in the text. -/
def occursIn (needle : List Char) : List Char → Bool
  | [] => needle.isEmpty
  | c :: cs => needle.isPrefixOf (c :: cs) || occursIn needle cs

/-- A text holds another one exactly when it is that one with something before and after it. -/
theorem occursIn_iff {needle cs : List Char} :
    occursIn needle cs = true ↔ ∃ before after, cs = before ++ needle ++ after := by
  induction cs with
  | nil =>
    simp only [occursIn, List.isEmpty_iff]
    constructor
    · rintro rfl; exact ⟨[], [], rfl⟩
    · rintro ⟨b, a, h⟩
      have := congrArg List.length h
      simp only [List.length_nil, List.length_append] at this
      exact List.length_eq_zero_iff.1 (by omega)
  | cons c cs ih =>
    simp only [occursIn, Bool.or_eq_true, List.isPrefixOf_iff_prefix, ih]
    constructor
    · rintro (⟨a, h⟩ | ⟨b, a, h⟩)
      · exact ⟨[], a, by simpa using h.symm⟩
      · exact ⟨c :: b, a, by simp [h]⟩
    · rintro ⟨b, a, h⟩
      cases b with
      | nil => exact Or.inl ⟨a, by simpa using h.symm⟩
      | cons d b =>
        simp only [List.cons_append, List.cons.injEq] at h
        exact Or.inr ⟨b, a, by simpa using h.2⟩

/-- The normal form of a string. -/
def normal (caseSensitive : Bool) (s : String) : String :=
  String.ofList (normalize caseSensitive s.toList)

/-! ### Spellings of true and false -/

/-- The spellings of true, in any case. -/
def isTrue (s : String) : Bool :=
  ["true", "yes", "1", "on"].any fun t => Ascii.same t s

/-- The spellings of false, in any case. -/
def isFalse (s : String) : Bool :=
  ["false", "no", "0", "off"].any fun t => Ascii.same t s

end MapQuery.Text

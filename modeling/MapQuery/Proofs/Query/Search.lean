import MapQuery.Proofs.Compiler.Reading
import MapQuery.Proofs.Query.Modes

/-!
# What searches for text ask for

Where the text is no pattern, a search looks for its normal form in the normal forms of other texts.

* `ValueSearch.plain`, `TextSearch.plain` — the searches for a text that is no pattern, which are always built.
* `ValueSearch.compile_patterns`, `TextSearch.compile_pattern` — the searches with patterns.
* `Profile.asked?` — the text that a key stands for.
* `ValueSearch.holds_plain`, `ValueSearch.holds_patterns_iff`, `TextSearch.holds_iff` — what a search says of a
  primitive.
* `holdsNeedle_normal` — a text holds another one if its normal form does.
-/

namespace MapQuery

variable {key value text : String} {caseSensitive : Bool}

/-! ### Texts -/

/-- A text holds another one if the normal forms do. -/
theorem holdsNeedle_normal (caseSensitive : Bool) (needle text : String) :
    holdsNeedle caseSensitive (Text.normal caseSensitive needle) text =
      Text.occursIn (Text.normalize caseSensitive needle.toList) (Text.normalize caseSensitive text.toList) := by
  unfold holdsNeedle Text.normal
  rw [String.toList_ofList]

/-! ### The value of a key -/

/-- The text that a key stands for: the time of the last change, or the value of a tag. -/
def Profile.asked? (p : Profile) (key : String) (caseSensitive : Bool) : Option String :=
  if key = "timestamp" then p.timestamp.map Instant.shown else p.tags.find? key caseSensitive

theorem Profile.asked?_timestamp (p : Profile) (caseSensitive : Bool) :
    p.asked? "timestamp" caseSensitive = p.timestamp.map Instant.shown :=
  if_pos rfl

/-- A key that has a value is found as it is written. -/
theorem Tags.find?_of_get? {t : Tags} (h : t.get? key = some value) (caseSensitive : Bool) :
    t.find? key caseSensitive = some value := by
  unfold find?
  rw [h]

/-- Where the case of letters counts, a key is found only as it is written. -/
theorem Tags.find?_true (t : Tags) (key : String) : t.find? key true = t.get? key := by
  unfold find?
  cases t.get? key with
  | none => rfl
  | some value => rfl

/-- What a key stands for where the case of letters counts, it stands for where it does not. -/
theorem Profile.asked?_of_sensitive {p : Profile} (h : p.asked? key true = some value) :
    p.asked? key false = some value := by
  unfold asked? at h ⊢
  split at h
  · next htime =>
    rw [if_pos htime]
    exact h
  · next hkey =>
    rw [Tags.find?_true] at h
    rw [if_neg hkey]
    exact Tags.find?_of_get? h false

namespace ValueSearch

/-- The condition that the value of a key holds a text, neither of them a pattern. -/
def plain (key value : String) (caseSensitive : Bool) : ValueSearch :=
  ⟨key, value, caseSensitive, none, Text.normal caseSensitive value⟩

theorem compile_plain (key value : String) (caseSensitive : Bool) :
    compile key value ⟨caseSensitive, false⟩ = .ok (plain key value caseSensitive) := rfl

/-- With patterns, the search is built from the patterns of the key and the value. -/
theorem compile_patterns {m : ValueSearch} (h : compile key value ⟨caseSensitive, true⟩ = .ok m) :
    ∃ p q, compilePattern .find caseSensitive key = .ok p ∧ compilePattern .find caseSensitive value = .ok q ∧
      m = { plain key value caseSensitive with patterns := some (p, q) } := by
  unfold compile at h
  rw [if_pos rfl] at h
  obtain ⟨p, hp, h⟩ := exists_of_bind_eq_ok h
  obtain ⟨q, hq, h⟩ := exists_of_bind_eq_ok h
  cases h
  exact ⟨p, q, hp, hq, rfl⟩

/-- Once there is a pattern for the key, it depends on the value whether the search is built. -/
theorem compile_of_keyPattern {p : Pattern} (hp : compilePattern .find caseSensitive key = .ok p) :
    compile key value ⟨caseSensitive, true⟩ =
      (fun q => { plain key value caseSensitive with patterns := some (p, q) }) <$>
        compilePattern .find caseSensitive value := by
  unfold compile
  rw [if_pos rfl, hp]
  cases compilePattern .find caseSensitive value with
  | error e => rfl
  | ok q => rfl

/-- With patterns, some tag has a key and a value that fit. -/
theorem holds_patterns_iff {m : ValueSearch} {q r : Pattern} (h : m.patterns = some (q, r)) (p : Profile) :
    m.holds p = true ↔
      ∃ key value, p.tags.get? key = some value ∧ q.holds key = true ∧ r.holds value = true := by
  have htags := @Tags.any_toList p.tags fun key value => q.holds key && r.holds value
  simp only [Bool.and_eq_true] at htags
  unfold holds
  rw [h]
  exact htags

theorem holds_plain (key value : String) (caseSensitive : Bool) (p : Profile) :
    (plain key value caseSensitive).holds p =
      (p.asked? key caseSensitive).any (holdsNeedle caseSensitive (Text.normal caseSensitive value)) := rfl

end ValueSearch

/-! ### Text anywhere -/

namespace TextSearch

/-- The condition that a text which is no pattern occurs anywhere. -/
def plain (text : String) (caseSensitive : Bool) : TextSearch :=
  ⟨Text.normal caseSensitive text, caseSensitive, none⟩

theorem compile_plain (text : String) (caseSensitive : Bool) (builder : Pattern.Builder := .standard) :
    compile text ⟨caseSensitive, false⟩ builder = .ok (plain text caseSensitive) := rfl

/-- With patterns, the search is built from the pattern of the composed text. -/
theorem compile_pattern {m : TextSearch} (h : compile text ⟨caseSensitive, true⟩ = .ok m) :
    ∃ p, compilePattern .find caseSensitive (Text.normal true text) = .ok p ∧
      m = ⟨Text.normal true text, caseSensitive, some p⟩ := by
  unfold compile at h
  rw [if_pos rfl] at h
  obtain ⟨p, hp, h⟩ := exists_of_bind_eq_ok h
  cases h
  exact ⟨p, hp, rfl⟩

/-- A text is found in a key, in a value or in the name of the user. Where there are none, the empty text is
found. -/
theorem holds_iff (m : TextSearch) (p : Profile) :
    m.holds p = true ↔
      p.tags.isEmpty = true ∧ p.user = none ∧ m.search = "" ∨
        (∃ key value, p.tags.get? key = some value ∧ (m.found key = true ∨ m.found value = true)) ∨
        ∃ user, p.user = some user ∧ m.found user = true := by
  unfold holds
  split
  · next hnothing =>
    rw [Bool.and_eq_true, Option.isNone_iff_eq_none] at hnothing
    obtain ⟨hempty, huser⟩ := hnothing
    have hno : ¬ ∃ key value, p.tags.get? key = some value ∧ (m.found key = true ∨ m.found value = true) :=
      Tags.not_exists_of_isEmpty hempty
    rw [decide_eq_true_iff, huser, hempty, or_iff_right hno]
    exact ⟨fun h => .inl ⟨rfl, rfl, h⟩, fun h => h.elim (fun h => h.2.2) nofun⟩
  · next hsome =>
    have hnot : ¬ (p.tags.isEmpty = true ∧ p.user = none ∧ m.search = "") := by
      rintro ⟨hempty, huser, -⟩
      rw [hempty, huser] at hsome
      exact hsome rfl
    have htags := @Tags.any_toList p.tags fun key value => m.found key || m.found value
    simp only [Bool.or_eq_true] at htags
    rw [or_iff_right hnot, Bool.or_eq_true, Option.any_eq_true]
    exact or_congr htags Iff.rfl

/-- Where there is one tag and no user, a text is found in the key or in the value of the tag. -/
theorem holds_iff_of_single (m : TextSearch) {p : Profile} (htags : p.tags = Tags.empty.insert key value)
    (huser : p.user = none) : m.holds p = true ↔ m.found key = true ∨ m.found value = true := by
  have hget (other : String) : p.tags.get? other = if key = other then some value else none := by
    rw [htags, Tags.get?_insert, Tags.get?_empty]
  rw [holds_iff]
  constructor
  · rintro (⟨hempty, -⟩ | ⟨other, found, htag, hin⟩ | ⟨user, hname, -⟩)
    · have hnone := Tags.get?_of_isEmpty hempty key
      rw [hget, if_pos rfl] at hnone
      cases hnone
    · rw [hget] at htag
      split at htag
      · next hkey =>
        cases htag
        rwa [hkey]
      · cases htag
    · cases hname.symm.trans huser
  · exact fun hin => .inr (.inl ⟨key, value, (hget key).trans (if_pos rfl), hin⟩)

end TextSearch

namespace Query

variable {P : Type} [Primitive P]

theorem holds_value (m : ValueSearch) (p : P) : (Query.value m).holds p = m.holds (Primitive.profile p) :=
  holds_eq_satisfied (.value m) p

theorem holds_text (m : TextSearch) (p : P) : (Query.text m).holds p = m.holds (Primitive.profile p) :=
  holds_eq_satisfied (.text m) p

/-- Whatever a query finds, another one finds too. -/
def FindsNoMoreThan (q r : Query) : Prop :=
  ∀ {P : Type} [Primitive P] (p : P), q.holds p = true → r.holds p = true

end Query

end MapQuery

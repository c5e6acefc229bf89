import MapQuery.Proofs.Pattern.Literals
import MapQuery.Proofs.Query.Search
import MapQuery.Proofs.Text.Composition

/-!
# Letters and digits as patterns

A text of letters and digits means the same as a pattern as it does as a text, where the case of letters counts: as
the pattern of a key or a value it fits itself and nothing else, and as the pattern of a search it is found where the
text is found. Only that the builder of patterns may refuse it as too large.

* `Text.IsAlphanumeric` — a text of ASCII letters and digits.
* `compilePattern_alphanumeric` — the pattern of such a text.
* `Pattern.holds_full_literals`, `Pattern.holds_find_literals` — what it fits.
* `TagMatch.compile_alphanumeric`, `TextSearch.compile_alphanumeric` — the conditions with patterns.
* `Query.literals_as_patterns` — they are refused or say of every primitive what those without patterns say.
-/

namespace MapQuery

/-- ASCII letters and digits, at least one. -/
def Text.IsAlphanumeric (text : String) : Prop :=
  text ≠ "" ∧ ∀ c ∈ text.toList, c.isAlphanum = true

instance : DecidablePred Text.IsAlphanumeric :=
  fun text => @instDecidableAnd _ _ _ (List.decidableBAll (fun c : Char => c.isAlphanum = true) text.toList)

open Text (IsAlphanumeric)

variable {key value text : String}

namespace Text.IsAlphanumeric

theorem isSign_eq (h : IsAlphanumeric text) : ∀ c ∈ text.toList, Pattern.isSign c = false :=
  fun c hc => Pattern.isSign_of_isAlphanum (h.2 c hc)

theorem isAscii (h : IsAlphanumeric text) : ∀ c ∈ text.toList, c.toNat < 0x80 := by
  intro c hc
  have halnum : (c.isUpper || c.isLower || c.isDigit) = true := h.2 c hc
  rw [Bool.or_eq_true, Bool.or_eq_true] at halnum
  rcases halnum with (hupper | hlower) | hdigit
  · have hle : c.val ≤ 'Z'.val := (of_decide_eq_true hupper).2
    exact Nat.lt_of_le_of_lt hle (by decide)
  · have hle : c.val ≤ 'z'.val := of_decide_eq_true (Bool.and_eq_true_iff.mp hlower).2
    exact Nat.lt_of_le_of_lt hle (by decide)
  · have hle : c.val ≤ '9'.val := of_decide_eq_true (Bool.and_eq_true_iff.mp hdigit).2
    exact Nat.lt_of_le_of_lt hle (by decide)

theorem ne_star (h : IsAlphanumeric text) : text ≠ "*" := by
  rintro rfl
  cases h.2 '*' (by decide)

/-- Nothing is composed in it. -/
theorem composed_eq (h : IsAlphanumeric text) : Text.composed text.toList = text.toList :=
  Text.composed_of_ascii h.isAscii

theorem normal_eq (h : IsAlphanumeric text) : Text.normal true text = text := by
  show String.ofList (Text.composed text.toList) = text
  rw [h.composed_eq, String.ofList_toList]

end Text.IsAlphanumeric

namespace Pattern

/-- The pattern of a text without signs. -/
def ofLiterals (mode : Mode) (text : String) : Pattern :=
  ⟨wrapped mode text, spelledIn mode text.toList⟩

theorem holds_full_literals (text other : String) : (ofLiterals .full text).holds other = decide (other = text) := by
  show (Expr.spelled text.toList).anchored.occursIn other.toList = _
  rw [Expr.occursIn_anchored_spelled]
  exact Bool.decide_congr String.toList_inj

theorem holds_find_literals (text other : String) :
    (ofLiterals .find text).holds other = Text.occursIn text.toList other.toList :=
  Expr.occursIn_spelled text.toList other.toList

end Pattern

/-- A text of letters and digits is a pattern exactly if the builder does not refuse it. -/
theorem compilePattern_alphanumeric (h : IsAlphanumeric text) (mode : Pattern.Mode) (builder : Pattern.Builder) :
    compilePattern mode true text builder =
      if builder.refuses (Pattern.wrapped mode text) true then .error (.pattern text .tooLarge)
      else .ok (.ofLiterals mode text) := by
  unfold compilePattern
  rw [Pattern.compile_literals mode h.isSign_eq]
  split <;> rfl

namespace TagMatch

/-- The condition that a key has a value, both of them patterns. -/
def ofLiterals (key value : String) : TagMatch :=
  ⟨key, value, .exactRegex, some (.ofLiterals .full key), some (.ofLiterals .full value)⟩

theorem compile_alphanumeric (hkey : IsAlphanumeric key) (hvalue : IsAlphanumeric value) (builder : Pattern.Builder) :
    compile key (some value) true true builder =
      if builder.refuses (Pattern.wrapped .full key) true then .error (.pattern key .tooLarge)
      else if builder.refuses (Pattern.wrapped .full value) true then .error (.pattern value .tooLarge)
      else .ok (ofLiterals key value) := by
  have hmode : TagMode.of key value true = .exactRegex := by
    unfold TagMode.of
    rw [if_neg hvalue.1, if_neg hkey.ne_star, if_neg hvalue.ne_star, if_pos rfl]
  have hkeyWanted : (true && key != "*") = true := by
    rw [Bool.true_and, bne_iff_ne]
    exact hkey.ne_star
  have hvalueWanted : (true && value != "" && value != "*") = true := by
    rw [Bool.true_and, Bool.and_eq_true, bne_iff_ne, bne_iff_ne]
    exact ⟨hvalue.1, hvalue.ne_star⟩
  unfold compile
  rw [if_neg hkey.1, Option.getD_some, if_pos hkeyWanted, compilePattern_alphanumeric hkey]
  by_cases hrefused : builder.refuses (Pattern.wrapped .full key) true = true
  · rw [if_pos hrefused, if_pos hrefused]
    rfl
  · rw [if_neg hrefused, if_neg hrefused]
    show (if _ then _ else _) = _
    rw [if_pos hvalueWanted, compilePattern_alphanumeric hvalue, hmode]
    split <;> rfl

/-- As patterns, a key and a value say of tags what they say as texts. -/
theorem holds_ofLiterals (hkey : IsAlphanumeric key) (hvalue : IsAlphanumeric value) (tags : Tags) :
    (ofLiterals key value).holds tags = (plain key value).holds tags := by
  rw [Bool.eq_iff_iff, holds_of_exactRegex rfl rfl rfl, holds_plain_iff hvalue.1, if_neg hkey.ne_star,
    if_neg hvalue.ne_star]
  simp only [Pattern.holds_full_literals, decide_eq_true_eq]
  constructor
  · rintro ⟨k, v, hget, rfl, rfl⟩
    exact hget
  · exact fun hget => ⟨key, value, hget, rfl, rfl⟩

end TagMatch

namespace TextSearch

/-- The condition that a pattern is found anywhere. -/
def ofLiterals (text : String) : TextSearch :=
  ⟨text, true, some (.ofLiterals .find text)⟩

theorem compile_alphanumeric (h : IsAlphanumeric text) (builder : Pattern.Builder) :
    compile text ⟨true, true⟩ builder =
      if builder.refuses (Pattern.wrapped .find text) true then .error (.pattern text .tooLarge)
      else .ok (ofLiterals text) := by
  unfold compile
  rw [if_pos rfl]
  dsimp only
  rw [h.normal_eq, compilePattern_alphanumeric h]
  split <;> rfl

/-- As a pattern, a text is found where it is found as a text. -/
theorem holds_ofLiterals (h : IsAlphanumeric text) (p : Profile) :
    (ofLiterals text).holds p = (plain text true).holds p := by
  have hplain : plain text true = ⟨text, true, none⟩ := by
    unfold plain
    rw [h.normal_eq]
  have hfound : (ofLiterals text).found = (plain text true).found := by
    funext candidate
    rw [hplain]
    show (Pattern.ofLiterals .find text).holds (Text.normal true candidate) = holdsNeedle true text candidate
    rw [Pattern.holds_find_literals]
    show Text.occursIn text.toList (String.ofList (Text.normalize true candidate.toList)).toList = _
    rw [String.toList_ofList]
    rfl
  unfold holds
  rw [hfound, hplain]
  rfl

end TextSearch

/-! ### Queries -/

namespace Query

/-- Where the case of letters counts, texts of letters and digits can always be asked for. As patterns they can be
asked for unless the builder refuses one of them as too large, which is what the refusal says. Then a key and a value
say of every primitive what they say as texts, and so does a search for a text anywhere. -/
theorem literals_as_patterns (builder : Pattern.Builder) (hkey : IsAlphanumeric key) (hvalue : IsAlphanumeric value)
    (htext : IsAlphanumeric text) :
    (∃ m m' : TagMatch, TagMatch.compile key (some value) false true builder = .ok m ∧
      (TagMatch.compile key (some value) true true builder =
        if builder.refuses (Pattern.wrapped .full key) true then .error (.pattern key .tooLarge)
        else if builder.refuses (Pattern.wrapped .full value) true then .error (.pattern value .tooLarge)
        else .ok m') ∧
      ∀ {P : Type} [Primitive P] (p : P), (Query.tag m').holds p = (Query.tag m).holds p) ∧
    ∃ m m' : TextSearch, TextSearch.compile text ⟨true, false⟩ builder = .ok m ∧
      (TextSearch.compile text ⟨true, true⟩ builder =
        if builder.refuses (Pattern.wrapped .find text) true then .error (.pattern text .tooLarge) else .ok m') ∧
      ∀ {P : Type} [Primitive P] (p : P), (Query.text m').holds p = (Query.text m).holds p := by
  constructor
  · refine ⟨.plain key value, .ofLiterals key value, TagMatch.compile_plain hkey.1 value true builder,
      TagMatch.compile_alphanumeric hkey hvalue builder, fun p => ?_⟩
    rw [Query.holds_tag, Query.holds_tag, TagMatch.holds_ofLiterals hkey hvalue]
  · refine ⟨.plain text true, .ofLiterals text, TextSearch.compile_plain text true builder,
      TextSearch.compile_alphanumeric htext builder, fun p => ?_⟩
    rw [Query.holds_text, Query.holds_text, TextSearch.holds_ofLiterals htext]

/-- Short texts are not refused by the builder that reckons sizes. -/
theorem literals_as_patterns_short :
    IsAlphanumeric "highway" ∧ IsAlphanumeric "primary" ∧ IsAlphanumeric "A1" ∧
      (∃ m m' : TagMatch, TagMatch.compile "highway" (some "primary") false true = .ok m ∧
        TagMatch.compile "highway" (some "primary") true true = .ok m' ∧
        ∀ {P : Type} [Primitive P] (p : P), (Query.tag m').holds p = (Query.tag m).holds p) ∧
      ∃ m m' : TextSearch, TextSearch.compile "A1" ⟨true, false⟩ = .ok m ∧
        TextSearch.compile "A1" ⟨true, true⟩ = .ok m' ∧
        ∀ {P : Type} [Primitive P] (p : P), (Query.text m').holds p = (Query.text m).holds p := by
  have hkey : IsAlphanumeric "highway" := by decide
  have hvalue : IsAlphanumeric "primary" := by decide
  have htext : IsAlphanumeric "A1" := by decide
  obtain ⟨⟨m, m', hm, hm', hholds⟩, n, n', hn, hn', hholds'⟩ := literals_as_patterns .standard hkey hvalue htext
  have hbuilt {text : String} (h : IsAlphanumeric text) (mode : Pattern.Mode)
      (hshort : ¬ Pattern.sizeLimit < Pattern.stateSize * text.length + Pattern.framing mode) :
      ¬ Pattern.Builder.standard.refuses (Pattern.wrapped mode text) true = true := by
    rw [Pattern.Builder.refuses_standard_literals mode h.isSign_eq h.isAscii, decide_eq_true_iff]
    exact hshort
  rw [if_neg (hbuilt hkey .full (by decide)), if_neg (hbuilt hvalue .full (by decide))] at hm'
  rw [if_neg (hbuilt htext .find (by decide))] at hn'
  exact ⟨hkey, hvalue, htext, ⟨m, m', hm, hm', hholds⟩, n, n', hn, hn', hholds'⟩

/-- A text of letters that can be searched for, but not as a pattern. -/
theorem literals_as_patterns_long :
    let text := String.ofList (List.replicate 328000 'a')
    IsAlphanumeric text ∧ (∃ m, TextSearch.compile text ⟨true, false⟩ = .ok m) ∧
      TextSearch.compile text ⟨true, true⟩ = .error (.pattern text .tooLarge) := by
  intro text
  have hlist : text.toList = List.replicate 328000 'a' := String.toList_ofList
  have hlength : text.length = 328000 := by rw [← String.length_toList, hlist, List.length_replicate]
  have htext : IsAlphanumeric text := by
    refine ⟨fun hempty => ?_, fun c hc => ?_⟩
    · rw [hempty] at hlength
      cases hlength
    · rw [hlist] at hc
      rw [List.eq_of_mem_replicate hc]
      rfl
  have hrefused : Pattern.Builder.standard.refuses (Pattern.wrapped .find text) true = true := by
    rw [Pattern.Builder.refuses_standard_literals .find htext.isSign_eq htext.isAscii, hlength]
    decide
  refine ⟨htext, ⟨_, TextSearch.compile_plain text true⟩, ?_⟩
  rw [TextSearch.compile_alphanumeric htext, if_pos hrefused]

end Query

end MapQuery

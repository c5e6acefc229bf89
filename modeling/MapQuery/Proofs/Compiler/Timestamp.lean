import MapQuery.Proofs.Compiler.Ranges
import MapQuery.Proofs.DataSet.Consistent
import MapQuery.Proofs.Query.Search
import MapQuery.Proofs.Token.Quoting

/-!
# Searching in the time of the last change

Behind the keyword for the time of the last change, a text without slashes is searched in this time, without the
blanks at its ends. Where texts are patterns, the keyword is a pattern for keys like any other: the search is in the
values of tags, and the time of the last change does not count.

* `Builtin.timestampOf_of_not_mem` — a text without slashes is no range.
* `Compiler.compile_timestamp_eq` — what the keyword and a text between quotes are compiled to.
* `Query.AsksForTime`, `Query.AsksForTags` — answers that only depend on the time of the last change, or on tags.
* `ValueSearch.asksForTime_plain`, `ValueSearch.asksForTime_patterns_iff` — what such searches ask for.
* `Compiler.compile_timestamp` — what the text is compiled to, and what the query asks for.
-/

namespace MapQuery

variable {x text : String} {areas : Areas} {now : Instant} {flags : Flags}

/-! ### The argument -/

namespace Builtin

/-- A text without slashes is its only part. -/
theorem slashParts_of_not_mem {cs : List Char} (h : '/' ∉ cs) : slashParts cs = [cs] := by
  induction cs with
  | nil => rfl
  | cons c cs ih =>
    obtain ⟨hc, hcs⟩ := not_or.mp (mt List.mem_cons.mpr h)
    rw [slashParts, ih hcs]
    exact fun heq => hc heq.symm

/-- A text without slashes is searched in the time of the last change. -/
theorem timestampOf_of_not_mem (h : '/' ∉ text.toList) (now : Instant) (flags : Flags) :
    timestampOf now flags text =
      Query.value <$> ValueSearch.compile "timestamp" (String.ofList (Text.trim text.toList)) flags := by
  unfold timestampOf
  rw [slashParts_of_not_mem h]
  rfl

/-- The argument is the key that stands next. -/
theorem along_timestamp {s : Tokens} {k : Key} (h : s.head.kind = .key k) (now : Instant) (flags : Flags) :
    (timestamp now flags).along s = timestampOf now flags k.text >>= fun q => .ok (q, s.tail) := by
  unfold timestamp
  rw [Reading.along_bind, Reading.along_takeText, Tokens.text?_of_key h]
  exact Reading.along_ofExcept _ _

end Builtin

namespace Compiler

/-- The keyword, a colon, and a text without slashes between quotes are compiled to the search for the text, if
this can be built, and fail as this fails. -/
theorem compile_timestamp_eq (h : '/' ∉ x.toList) (areas : Areas) (now : Instant) (flags : Flags) :
    Query.compile (.builtin areas now) flags ("timestamp:" ++ Query.quotedText x) =
      Query.value <$> ValueSearch.compile "timestamp" (String.ofList (Text.trim x.toList)) flags := by
  obtain ⟨c, cs, htext, hplain, hword⟩ := Property.timestamp.isPlain_keyword
  have hcolon : "timestamp:" = Property.timestamp.keyword ++ ":" := by decide
  have hquoted : (Tokens.ofText (Query.quotedText x)).kinds = [.key (Key.quoted x.toList)] := by
    rw [Tokens.kinds_ofText, ← List.append_nil (Query.quotedText x).toList, Lexeme.kinds_quotedText,
      Lexeme.kinds_nil]
  have hkinds := Tokens.kinds_keyword htext hplain hword (Query.quotedText x)
  rw [hquoted, ← hcolon] at hkinds
  have hentry : ("timestamp", Builtin.withArgument (Builtin.timestamp now)) ∈ Builtin.entries areas now := by
    simp only [Builtin.entries, List.mem_append, List.mem_cons, true_or, or_true]
  have hget := Registry.get?_builtin hentry
  generalize hs : Tokens.ofText ("timestamp:" ++ Query.quotedText x) = s at hkinds
  obtain ⟨hkey, htail⟩ := Tokens.kind_head_of_kinds hkinds
  obtain ⟨hcolon, htail⟩ := Tokens.kind_head_of_kinds htail
  obtain ⟨hargument, hrest⟩ := Tokens.kind_head_of_kinds htail
  have heof : s.tail.tail.tail.head.kind = .eof := Tokens.kind_head_of_nil hrest
  have hkeyed : ∀ nest, Grammar.keyed (.builtin areas now) flags (Key.unquoted "timestamp".toList).text
      (Grammar.factor (.builtin areas now) flags nest) s.tail =
        (Query.value <$> ValueSearch.compile "timestamp" (String.ofList (Text.trim x.toList)) flags) >>=
          fun q => .ok (q, s.tail.tail.tail) := by
    intro nest
    rw [Key.text_unquoted, String.ofList_toList, Grammar.keyed_of_called hget hcolon]
    show (Builtin.timestamp now flags).along s.tail.tail = _
    rw [Builtin.along_timestamp hargument, Key.text_quoted_toList, Builtin.timestampOf_of_not_mem h]
  rw [← hs] at hkey hkeyed
  cases hm : ValueSearch.compile "timestamp" (String.ofList (Text.trim x.toList)) flags with
  | ok m =>
    rw [hm] at hkeyed
    exact compile_of_keyed hkey hkeyed (hs ▸ heof)
  | error e =>
    rw [hm] at hkeyed
    exact compile_of_keyed_error hkey hkeyed

end Compiler

/-! ### What is asked for -/

namespace Query

/-- Primitives with the same time of the last change get the same answer, and those without one do not match. -/
def AsksForTime (q : Query) : Prop :=
  (∀ {P P' : Type} [Primitive P] [Primitive P'] (p : P) (p' : P'),
    (Primitive.profile p).timestamp = (Primitive.profile p').timestamp → q.holds p = q.holds p') ∧
  ∀ {P : Type} [Primitive P] (p : P), (Primitive.profile p).timestamp = none → q.holds p = false

/-- Primitives with the same tags get the same answer. -/
def AsksForTags (q : Query) : Prop :=
  ∀ {P P' : Type} [Primitive P] [Primitive P'] (p : P) (p' : P'),
    (Primitive.profile p).tags = (Primitive.profile p').tags → q.holds p = q.holds p'

end Query

namespace ValueSearch

variable {caseSensitive : Bool} {m : ValueSearch} {keyPattern pattern : Pattern}

/-- Where texts are no patterns, the time of the last change is looked at. -/
theorem holds_plain_timestamp (text : String) (caseSensitive : Bool) {P : Type} [Primitive P] (p : P) :
    (Query.value (.plain "timestamp" text caseSensitive)).holds p =
      (Primitive.profile p).timestamp.any fun t =>
        holdsNeedle caseSensitive (Text.normal caseSensitive text) t.shown := by
  rw [Query.holds_value, holds_plain, Profile.asked?_timestamp, Option.any_map]

theorem asksForTime_plain (text : String) (caseSensitive : Bool) :
    (Query.value (.plain "timestamp" text caseSensitive)).AsksForTime := by
  constructor
  · intro P P' _ _ p p' h
    rw [holds_plain_timestamp, holds_plain_timestamp, h]
  · intro P _ p h
    rw [holds_plain_timestamp, h]
    rfl

/-- Where texts are patterns, tags are looked at. -/
theorem asksForTags_patterns (h : m.patterns = some (keyPattern, pattern)) : (Query.value m).AsksForTags := by
  intro P P' _ _ p p' htags
  rw [Query.holds_value, Query.holds_value, Bool.eq_iff_iff, holds_patterns_iff h, holds_patterns_iff h, htags]

/-- A search with patterns in keys like the one of the time of the last change asks for this time only where its
other pattern fits nothing at all. Else it is enough to have the key as a tag. -/
theorem asksForTime_patterns_iff (h : m.patterns = some (keyPattern, pattern))
    (hkey : keyPattern.holds "timestamp" = true) :
    (Query.value m).AsksForTime ↔ ∀ value, pattern.holds value = false := by
  constructor
  · rintro ⟨-, hnone⟩ value
    obtain ⟨d, -, p, htags, -, htime⟩ := DataSet.exists_single "timestamp" value
    have hanswer : (Query.value m).holds p = false := hnone p htime
    rw [Query.holds_value, ← Bool.not_eq_true, holds_patterns_iff h] at hanswer
    rw [← Bool.not_eq_true]
    intro hvalue
    have hget : p.profile.tags.get? "timestamp" = some value := by
      rw [htags, Tags.get?_insert, if_pos rfl]
    exact hanswer ⟨"timestamp", value, hget, hkey, hvalue⟩
  · intro hnothing
    have hnever {P : Type} [Primitive P] (p : P) : (Query.value m).holds p = false := by
      rw [Query.holds_value, ← Bool.not_eq_true, holds_patterns_iff h]
      rintro ⟨key, value, -, -, hvalue⟩
      rw [hnothing value] at hvalue
      cases hvalue
    constructor
    · intro P P' _ _ p p' _
      rw [hnever p, hnever p']
    · intro P _ p _
      exact hnever p

end ValueSearch

namespace Compiler

/-- A pattern that is computed. -/
theorem exists_pattern {mode : Pattern.Mode} {caseSensitive : Bool} (fits : Pattern → Bool)
    (h : (compilePattern mode caseSensitive text).toOption.map fits = some true) :
    ∃ p, compilePattern mode caseSensitive text = .ok p ∧ fits p = true := by
  cases hp : compilePattern mode caseSensitive text with
  | error e =>
    rw [hp] at h
    cases h
  | ok p =>
    rw [hp] at h
    exact ⟨p, rfl, Option.some.inj h⟩

/-- The keyword as a pattern fits itself. -/
theorem exists_keyPattern (caseSensitive : Bool) :
    ∃ p, compilePattern .find caseSensitive "timestamp" = .ok p ∧ p.holds "timestamp" = true := by
  refine exists_pattern (·.holds "timestamp") ?_
  cases caseSensitive with
  | false => decide +kernel
  | true => decide +kernel

/-- Behind the keyword for the time of the last change and a colon, a text without slashes between quotes is always
compiled where texts are no patterns. The query looks for the text, without the blanks at its ends, in the time of
the last change and nowhere else. Where texts are patterns, it is compiled if the text is one, and it looks for a tag
whose key and value both fit: it asks for tags, and for the time of the last change only if nothing fits. -/
theorem compile_timestamp (h : '/' ∉ x.toList) (areas : Areas) (now : Instant) (caseSensitive : Bool) :
    let value := String.ofList (Text.trim x.toList)
    let compiled (regex : Bool) :=
      Query.compile (.builtin areas now) ⟨caseSensitive, regex⟩ ("timestamp:" ++ Query.quotedText x)
    (∃ q, compiled false = .ok q ∧ q.AsksForTime ∧
      ∀ {P : Type} [Primitive P] (p : P), q.holds p =
        (Primitive.profile p).timestamp.any fun t =>
          holdsNeedle caseSensitive (Text.normal caseSensitive value) t.shown) ∧
    match compilePattern .find caseSensitive value with
    | .error e => compiled true = .error e
    | .ok pattern =>
      ∃ q keyPattern, compiled true = .ok q ∧ compilePattern .find caseSensitive "timestamp" = .ok keyPattern ∧
        q.AsksForTags ∧ (q.AsksForTime ↔ ∀ v, pattern.holds v = false) ∧
        ∀ {P : Type} [Primitive P] (p : P), q.holds p = true ↔
          ∃ k v, (Primitive.profile p).tags.get? k = some v ∧ keyPattern.holds k = true ∧
            pattern.holds v = true := by
  intro value compiled
  constructor
  · refine ⟨.value (.plain "timestamp" value caseSensitive), ?_, ValueSearch.asksForTime_plain value caseSensitive,
      fun p => ValueSearch.holds_plain_timestamp value caseSensitive p⟩
    show Query.compile _ _ _ = _
    rw [compile_timestamp_eq h, ValueSearch.compile_plain]
    rfl
  · obtain ⟨keyPattern, hkey, hfits⟩ := exists_keyPattern caseSensitive
    have hcompiled : compiled true = Query.value <$> ValueSearch.compile "timestamp" value ⟨caseSensitive, true⟩ :=
      compile_timestamp_eq h areas now ⟨caseSensitive, true⟩
    rw [ValueSearch.compile_of_keyPattern hkey] at hcompiled
    cases hpattern : compilePattern .find caseSensitive value with
    | error e =>
      rw [hpattern] at hcompiled
      exact hcompiled
    | ok pattern =>
      rw [hpattern] at hcompiled
      refine ⟨_, keyPattern, hcompiled, hkey, ValueSearch.asksForTags_patterns rfl,
        ValueSearch.asksForTime_patterns_iff rfl hfits, fun p => ?_⟩
      rw [Query.holds_value]
      exact ValueSearch.holds_patterns_iff rfl _

/-- Without patterns, the start of a date is found in a time. -/
theorem compile_timestamp_month :
    '/' ∉ "2011-02".toList ∧
      ∃ q, Query.compile (.builtin default default) ⟨false, false⟩ "timestamp:\"2011-02\"" = .ok q ∧
        q.AsksForTime ∧ ∀ {P : Type} [Primitive P] (p : P),
          (Primitive.profile p).timestamp = some ⟨1297000000, 0⟩ → q.holds p = true := by
  have hslash : '/' ∉ "2011-02".toList := by decide
  obtain ⟨⟨q, hq, htime, hholds⟩, -⟩ := compile_timestamp hslash default default false
  refine ⟨hslash, q, ?_, htime, fun p hp => ?_⟩
  · have htext : "timestamp:" ++ Query.quotedText "2011-02" = "timestamp:\"2011-02\"" := by decide
    rwa [htext] at hq
  · rw [hholds, hp]
    decide +kernel

/-- Where texts are patterns, of two primitives without a time of the last change one is found and the other one is
not, because of a tag. -/
theorem compile_timestamp_tagged :
    ∃ q, Query.compile (.builtin default default) ⟨false, true⟩ "timestamp:\"2011\"" = .ok q ∧
      ∃ d d' : DataSet, d.Reachable ∧ d'.Reachable ∧ ∃ (p : DataSet.Handle d) (p' : DataSet.Handle d'),
        p.profile.timestamp = none ∧ p'.profile.timestamp = none ∧ q.holds p = true ∧ q.holds p' = false := by
  have hslash : '/' ∉ "2011".toList := by decide
  have htext : "timestamp:" ++ Query.quotedText "2011" = "timestamp:\"2011\"" := by decide
  have htrim : String.ofList (Text.trim "2011".toList) = "2011" := by decide
  have hcompiled := compile_timestamp_eq hslash default default ⟨false, true⟩
  obtain ⟨keyPattern, hkey, hfits⟩ := exists_keyPattern false
  obtain ⟨pattern, hpattern, hyear⟩ : ∃ p, compilePattern .find false "2011" = .ok p ∧
      (p.holds "2011" && !p.holds "1999") = true := exists_pattern _ (by decide +kernel)
  rw [Bool.and_eq_true, Bool.not_eq_true'] at hyear
  rw [htext, htrim, ValueSearch.compile_of_keyPattern hkey, hpattern] at hcompiled
  obtain ⟨d, hd, p, htags, -, htime⟩ := DataSet.exists_single "timestamp" "2011"
  obtain ⟨d', hd', p', htags', -, htime'⟩ := DataSet.exists_single "timestamp" "1999"
  refine ⟨_, hcompiled, d, d', hd, hd', p, p', htime, htime', ?_, ?_⟩
  · rw [Query.holds_value, ValueSearch.holds_patterns_iff rfl]
    refine ⟨"timestamp", "2011", ?_, hfits, hyear.1⟩
    show p.profile.tags.get? _ = _
    rw [htags, Tags.get?_insert, if_pos rfl]
  · rw [Query.holds_value, ← Bool.not_eq_true, ValueSearch.holds_patterns_iff rfl]
    rintro ⟨key, value, hget, -, hvalue⟩
    have hget : p'.profile.tags.get? key = some value := hget
    rw [htags', Tags.get?_insert, Tags.get?_empty] at hget
    split at hget
    · cases hget
      rw [hyear.2] at hvalue
      cases hvalue
    · cases hget

end Compiler

end MapQuery

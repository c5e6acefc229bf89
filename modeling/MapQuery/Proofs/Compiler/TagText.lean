import MapQuery.Proofs.Compiler.OneKey
import MapQuery.Proofs.DataSet.Consistent
import MapQuery.Proofs.Query.Tag
import MapQuery.Proofs.Token.Quoting

/-!
# The text of a query for one tag

The text for a key and a value is a query again, whatever characters they are made of and whatever keywords
there are: between quotes there are neither operators nor keywords. Only a star keeps its meaning there.

* `Compiler.compile_of_kinds` — a key, a sign of equality and a key.
* `Query.FindsTag` — a query finds a tag and nothing else.
* `Compiler.compile_textForTag` — the text for a tag, and when the query finds it and nothing else.
-/

namespace MapQuery

/-! ### A key with a value -/

namespace Compiler

variable {registry : Registry} {flags : Flags} {text : String} {k value : Key} {m : TagMatch}

/-- A key, a sign of equality and a key. Whether the first one is a keyword is not asked. -/
theorem compile_of_kinds (hkinds : (Tokens.ofText text).kinds = [.key k, .equals, .key value])
    (hm : TagMatch.compile k.text (some value.text) flags.regex flags.caseSensitive = .ok m) :
    Query.compile registry flags text = .ok (.tag m) := by
  generalize hs : Tokens.ofText text = s at hkinds
  obtain ⟨hkey, htail⟩ := Tokens.kind_head_of_kinds hkinds
  obtain ⟨hequals, htail⟩ := Tokens.kind_head_of_kinds htail
  obtain ⟨hvalue, hrest⟩ := Tokens.kind_head_of_kinds htail
  have heof : s.tail.tail.tail.head.kind = .eof := Tokens.kind_head_of_nil hrest
  refine compile_of_keyed (by rwa [hs]) (fun nest => ?_) heof
  rw [hs]
  unfold Grammar.keyed
  rw [hequals]
  show Grammar.tag flags k.text flags.regex s.tail.tail = _
  unfold Grammar.tag
  rw [Tokens.text?_of_key hvalue, hm]
  rfl

end Compiler

/-! ### The text for a tag -/

theorem Query.toList_textForTag (key value : String) :
    (textForTag key value).toList =
      (quotedText key).toList ++ '=' :: (if value = "" then "*" else quotedText value).toList := by
  rw [textForTag, String.toList_append, String.toList_append, List.append_assoc]
  rfl

/-- A key between quotes and a sign of equality. -/
theorem Lexeme.kinds_quotedText_equals (key : String) (rest : List Char) :
    kinds ((Query.quotedText key).toList ++ '=' :: rest) =
      .key (Key.quoted key.toList) :: .equals :: kinds rest := by
  have hequals : kinds ('=' :: rest) = .equals :: kinds rest := kinds_cons '=' rest
  rw [kinds_quotedText, hequals]

namespace Tokens

/-- A key and a value, both between quotes. -/
theorem kinds_textForTag {value : String} (h : value ≠ "") (key : String) :
    (ofText (Query.textForTag key value)).kinds =
      [.key (Key.quoted key.toList), .equals, .key (Key.quoted value.toList)] := by
  have hvalue : Lexeme.kinds (Query.quotedText value).toList = [.key (Key.quoted value.toList)] := by
    rw [← List.append_nil (Query.quotedText value).toList, Lexeme.kinds_quotedText, Lexeme.kinds_nil]
  rw [kinds_ofText, Query.toList_textForTag, if_neg h, Lexeme.kinds_quotedText_equals, hvalue]

/-- A key between quotes, and a star without any. -/
theorem kinds_textForTag_empty (key : String) :
    (ofText (Query.textForTag key "")).kinds =
      [.key (Key.quoted key.toList), .equals, .key (Key.unquoted ['*'])] := by
  have hstar : Lexeme.kinds "*".toList = [.key (Key.unquoted ['*'])] :=
    (Lexeme.kinds_cons '*' []).trans (congrArg _ Lexeme.kinds_nil)
  rw [kinds_ofText, Query.toList_textForTag, if_pos rfl, Lexeme.kinds_quotedText_equals, hstar]

end Tokens

/-- What the condition for a tag says, where the value is empty or a star or some other text. -/
theorem TagMatch.holds_written_iff {tags : Tags} (key value : String) :
    (plain key (if value = "" then "*" else value)).holds tags = true ↔
      if key = "*" then value ∈ ["", "*"] ∨ ∃ other, tags.get? other = some value
      else if value ∈ ["", "*"] then (tags.get? key).isSome = true
      else tags.get? key = some value := by
  by_cases hvalue : value = ""
  · subst hvalue
    rw [if_pos rfl, holds_plain_iff (by decide), if_pos rfl, if_pos List.mem_cons_self]
    split
    · exact iff_of_true (.inl rfl) (.inl List.mem_cons_self)
    · rfl
  · have hstar : value ∈ ["", "*"] ↔ value = "*" := by simp [hvalue]
    rw [if_neg hvalue, holds_plain_iff hvalue]
    simp only [hstar]

namespace Compiler

/-- The text for a tag is compiled to the condition on its key and its value, where a star is the value if
there is none. -/
theorem compile_textForTag_eq {key : String} (hkey : key ≠ "") (value : String) (registry : Registry)
    (caseSensitive : Bool) :
    Query.compile registry ⟨caseSensitive, false⟩ (Query.textForTag key value) =
      .ok (.tag (.plain key (if value = "" then "*" else value))) := by
  by_cases hvalue : value = ""
  · subst hvalue
    refine compile_of_kinds (Tokens.kinds_textForTag_empty key) ?_
    rw [Key.text_quoted_toList, if_pos rfl]
    exact TagMatch.compile_plain hkey "*" caseSensitive
  · refine compile_of_kinds (Tokens.kinds_textForTag hvalue key) ?_
    rw [Key.text_quoted_toList, Key.text_quoted_toList, if_neg hvalue]
    exact TagMatch.compile_plain hkey value caseSensitive

end Compiler

/-! ### What the text finds -/

/-- A query holds of the primitives with a tag, or with its key where there is no value, and of no others. -/
def Query.FindsTag (q : Query) (key value : String) : Prop :=
  ∀ d : DataSet, d.Reachable → ∀ p : DataSet.Handle d, q.holds p = true ↔
    if value = "" then (p.profile.tags.get? key).isSome = true else p.profile.tags.get? key = some value

/-- There is a primitive with one tag and no others. -/
theorem DataSet.exists_tagged (key value : String) :
    ∃ d : DataSet, d.Reachable ∧ ∃ p : Handle d, ∀ other,
      p.profile.tags.get? other = if key = other then some value else none := by
  obtain ⟨d, hd, p, htags, -, -⟩ := exists_single key value
  refine ⟨d, hd, p, fun other => ?_⟩
  rw [htags, Tags.get?_insert, Tags.get?_empty]

/-- Only a star makes the condition hold where the tag is another one, and then it does so somewhere. -/
theorem Query.findsTag_written_iff (key value : String) :
    (tag (.plain key (if value = "" then "*" else value))).FindsTag key value ↔
      key ≠ "*" ∧ value ≠ "*" := by
  constructor
  · intro h
    constructor
    · rintro rfl
      obtain ⟨d, hd, p, hp⟩ := DataSet.exists_tagged "name" value
      have hname : p.profile.tags.get? "name" = some value := by rw [hp, if_pos rfl]
      have hnone : p.profile.tags.get? "*" = none := by rw [hp, if_neg (by decide)]
      have hiff := h d hd p
      rw [holds_tag, TagMatch.holds_written_iff, if_pos rfl, hnone] at hiff
      have hfound := hiff.mp (.inr ⟨"name", hname⟩)
      split at hfound <;> cases hfound
    · rintro rfl
      obtain ⟨d, hd, p, hp⟩ := DataSet.exists_tagged key "Main"
      have hkey : p.profile.tags.get? key = some "Main" := by rw [hp, if_pos rfl]
      have hholds : (tag (.plain key "*")).holds p = true := by
        rw [holds_tag, TagMatch.holds_plain_iff (by decide), if_pos rfl]
        split
        · exact .inl rfl
        · exact congrArg Option.isSome hkey
      have hfound := (h d hd p).mp hholds
      rw [if_neg (by decide), hkey] at hfound
      exact absurd hfound (by decide)
  · rintro ⟨hkey, hvalue⟩ d _ p
    have hempty : value ∈ ["", "*"] ↔ value = "" := by simp [hvalue]
    rw [holds_tag, TagMatch.holds_written_iff, if_neg hkey]
    simp only [hempty]
    rfl

namespace Compiler

/-- The text for a tag is a query with any keywords and in any case. A star is any value, and as a key any key,
though it is written between quotes. So the query finds the tag and nothing else unless the key or the value
is a star. -/
theorem compile_textForTag {key : String} (hkey : key ≠ "") (value : String) (registry : Registry)
    (caseSensitive : Bool) :
    ∃ q, Query.compile registry ⟨caseSensitive, false⟩ (Query.textForTag key value) = .ok q ∧
      (q.FindsTag key value ↔ key ≠ "*" ∧ value ≠ "*") ∧
      ∀ {P : Type} [Primitive P] (p : P),
        let tags := (Primitive.profile p).tags
        q.holds p = true ↔
          if key = "*" then value ∈ ["", "*"] ∨ ∃ other, tags.get? other = some value
          else if value ∈ ["", "*"] then (tags.get? key).isSome = true
          else tags.get? key = some value := by
  refine ⟨_, compile_textForTag_eq hkey value registry caseSensitive, Query.findsTag_written_iff key value,
    fun {P} _ p => ?_⟩
  rw [Query.holds_tag]
  exact TagMatch.holds_written_iff key value

/-- A key that is an operator elsewhere, and a value with a quote and a backslash. -/
theorem compile_textForTag_operator :
    "or" ≠ "" ∧ Query.textForTag "or" "a\"\\" = "\"or\"=\"a\\\"\\\\\"" ∧
      ∃ q, Query.compile (.builtin default default) ⟨false, false⟩ (Query.textForTag "or" "a\"\\") = .ok q ∧
        q.FindsTag "or" "a\"\\" := by
  have hkey : "or" ≠ "" := by decide
  obtain ⟨q, hq, hfinds, _⟩ := compile_textForTag hkey "a\"\\" (.builtin default default) false
  exact ⟨hkey, by decide, q, hq, hfinds.mpr (by decide)⟩

/-- The text for a value that is a star finds every primitive with the key, whatever its value. -/
theorem compile_textForTag_star :
    ¬ ∃ q, Query.compile (.builtin default default) ⟨false, false⟩ (Query.textForTag "name" "*") = .ok q ∧
      q.FindsTag "name" "*" := by
  rintro ⟨q, hq, hfinds⟩
  rw [compile_textForTag_eq (by decide) "*" (.builtin default default) false] at hq
  cases hq
  exact ((Query.findsTag_written_iff "name" "*").mp hfinds).2 rfl

end Compiler

end MapQuery

import MapQuery.Proofs.Compiler.Keywords
import MapQuery.Proofs.Compiler.OneKey
import MapQuery.Proofs.Token.Ranges
import MapQuery.Proofs.Token.Words

/-!
# Numbers and ranges that are written out

The decimal text of a number is read as the number, and the text of a range as the range, though a dash is a sign
in one place and stands between two numbers in another. Behind a keyword and a colon the text of a range is a
condition on this range.

* `Range.form_shown` — the text of a range is one of its forms.
* `Tokens.kinds_toString`, `Tokens.kinds_shown` — the tokens of both texts: one key each.
* `Tokens.kinds_keyword` — a text behind a keyword.
* `Compiler.compile_keyword_shown` — what it is compiled to.
* `Compiler.shown_is_read` — what is read of written numbers and ranges.
-/

namespace MapQuery

open Whole (Fits)

/-! ### Texts -/

namespace Range

theorem between_start_stop (r : Range) : between r.start r.stop = r := by
  obtain ⟨start, stop, hle⟩ := r
  simp only [between, mk.injEq]
  omega

theorem toList_shown (r : Range) :
    r.shown.toList = (toString r.start).toList ++ '-' :: (toString r.stop).toList := by
  rw [shown, String.toList_append, String.toList_append, List.append_assoc]
  rfl

/-- The text of a range whose ends fit into 64 bits is a form of it: two numbers with a dash between them. -/
theorem form_shown {r : Range} (hstart : Fits r.start) (hstop : Fits r.stop) : Form r.shown.toList r := by
  have hform := Form.interval (Whole.numeral_toString hstart) (Whole.numeral_toString hstop)
  rwa [between_start_stop, ← toList_shown] at hform

/-- The text of a range begins like a number and has nothing but digits and dashes. -/
theorem exists_isNumeric_shown (r : Range) : ∃ c cs, r.shown.toList = c :: cs ∧ Cursor.IsNumeric c cs := by
  obtain ⟨c, cs, hstart, hnumeric⟩ := Cursor.exists_isNumeric_toString r.start
  obtain ⟨d, ds, hstop, hnumeric'⟩ := Cursor.exists_isNumeric_toString r.stop
  refine ⟨c, cs ++ '-' :: d :: ds, ?_, hnumeric.append ?_⟩
  · rw [toList_shown, hstart, hstop, List.cons_append]
  · exact List.forall_mem_cons.mpr ⟨.inr rfl, hnumeric'.numeric⟩

end Range

/-! ### Tokens -/

namespace Tokens

theorem kinds_toString (n : Int) :
    (ofText (toString n)).kinds = [.key (Key.unquoted (toString n).toList)] := by
  obtain ⟨c, cs, htext, hnumeric⟩ := Cursor.exists_isNumeric_toString n
  rw [kinds_ofText, htext, Lexeme.kinds_numeric hnumeric]

theorem kinds_shown (r : Range) : (ofText r.shown).kinds = [.key (Key.unquoted r.shown.toList)] := by
  obtain ⟨c, cs, htext, hnumeric⟩ := r.exists_isNumeric_shown
  rw [kinds_ofText, htext, Lexeme.kinds_numeric hnumeric]

/-- A keyword that is a word, a colon, and a text. -/
theorem kinds_keyword {keyword : String} {c : Char} {cs : List Char} (htext : keyword.toList = c :: cs)
    (hplain : Cursor.IsPlain c cs) (hword : Cursor.word? (c :: cs) = some (.key (Key.unquoted (c :: cs))))
    (rest : String) :
    (ofText (keyword ++ ":" ++ rest)).kinds =
      .key (Key.unquoted keyword.toList) :: .colon :: (ofText rest).kinds := by
  have hends : Lexeme.EndsWords (':' :: rest.toList) := by
    intro d ds hd
    cases hd
    rfl
  have happend : (keyword ++ ":" ++ rest).toList = c :: cs ++ ':' :: rest.toList := by
    rw [String.toList_append, String.toList_append, htext, List.append_assoc]
    rfl
  have hcolon : Lexeme.kinds (':' :: rest.toList) = .colon :: Lexeme.kinds rest.toList :=
    Lexeme.kinds_cons ':' _
  rw [kinds_ofText, happend, Lexeme.kinds_plain hplain hends hword, hcolon, ← kinds_ofText, htext]

end Tokens

/-! ### What is read -/

namespace Token

variable {t : Token} {w : List Char}

theorem number_of_numeral {n : Int} (h : Whole.Numeral w n) (hkind : t.kind = .key (Key.unquoted w)) :
    t.number = .ok n := by
  rw [Key.unquoted_of_numeral h] at hkind
  unfold number
  rw [hkind]

theorem range_of_form {r : Range} (h : Range.Form w r) (hkind : t.kind = .key (Key.unquoted w)) :
    t.range = .ok r :=
  range_eq_ok_iff.mpr ⟨_, hkind, Tokenizer.rangeOf?_unquoted_eq_some_iff.mpr (.inl h)⟩

end Token

/-- The keyword of a number is a word and no operator. -/
theorem Property.isPlain_keyword (p : Property) :
    ∃ c cs, p.keyword.toList = c :: cs ∧ Cursor.IsPlain c cs ∧
      Cursor.word? (c :: cs) = some (.key (Key.unquoted (c :: cs))) := by
  cases p <;> exact ⟨_, _, rfl, Cursor.isPlain_of_all rfl (by decide), rfl⟩

namespace Compiler

variable {r : Range} {p : Property} {message : String}

/-- A range of a number is read of a token that is a range. -/
theorem along_range {s : Tokens} (p : Property) (message : String) (h : s.head.range = .ok r) :
    (Builtin.range p message).along s = .ok (.range p r, s.tail) := by
  show ((Reading.ofExcept (s.head.range.mapError (.unreadable message))).bind fun r =>
    (pure (Query.range p r) : Reading Query)).along s.tail = _
  rw [h]
  rfl

/-- Behind a keyword for a range and a colon, the text of a range is a condition on exactly this range. -/
theorem compile_keyword_shown (hp : (p, message) ∈ Builtin.ranges) (hr : Range.Form r.shown.toList r)
    (areas : Areas) (now : Instant) (flags : Flags) :
    Query.compile (.builtin areas now) flags (p.keyword ++ ":" ++ r.shown) = .ok (.range p r) := by
  obtain ⟨c, cs, htext, hplain, hword⟩ := p.isPlain_keyword
  have hkinds := Tokens.kinds_keyword htext hplain hword r.shown
  rw [Tokens.kinds_shown] at hkinds
  have hentry : (p.keyword, Builtin.withArgument fun _ => Builtin.range p message) ∈
      Builtin.entries areas now := by
    simp only [Builtin.entries, List.mem_append, List.mem_map]
    exact .inl (.inl (.inl (.inl ⟨(p, message), hp, rfl⟩)))
  have hget := Registry.get?_builtin hentry
  generalize hs : Tokens.ofText (p.keyword ++ ":" ++ r.shown) = s at hkinds
  obtain ⟨hkey, htail⟩ := Tokens.kind_head_of_kinds hkinds
  obtain ⟨hcolon, htail⟩ := Tokens.kind_head_of_kinds htail
  obtain ⟨hshown, hrest⟩ := Tokens.kind_head_of_kinds htail
  have heof : s.tail.tail.tail.head.kind = .eof := Tokens.kind_head_of_nil hrest
  have htextKey : (Key.unquoted p.keyword.toList).text = p.keyword := by
    rw [Key.text_unquoted, String.ofList_toList]
  refine compile_of_keyed (by rwa [hs]) (fun nest => ?_) heof
  rw [hs, htextKey, Grammar.keyed_of_called hget hcolon]
  exact along_range p message (Token.range_of_form hr hshown)

/-- Every number of a primitive but its time has a keyword for a range. -/
theorem exists_mem_ranges (hp : p ≠ .timestamp) : ∃ message, (p, message) ∈ Builtin.ranges := by
  have hproperty : p ∈ Builtin.ranges.map Prod.fst := by
    cases p with
    | timestamp => exact absurd rfl hp
    | _ => decide
  obtain ⟨⟨q, message⟩, hmem, rfl⟩ := List.mem_map.mp hproperty
  exact ⟨message, hmem⟩

example : Builtin.ranges.map (fun e => e.1.keyword) =
    ["id", "version", "changeset", "nodes", "ways", "members", "tags", "areasize", "waylength"] := rfl

/-- Numbers and ranges of 64 bits survive being written. The decimal text of a number is read as the number, and
the text of a range as the range, whatever signs there are among the dashes. Behind one of the nine keywords for a
range and a colon the text is compiled to the condition on exactly this range. -/
theorem shown_is_read {n : Int} (hn : Fits n) {r : Range} (hstart : Fits r.start) (hstop : Fits r.stop)
    (areas : Areas) (now : Instant) (flags : Flags) :
    (Tokenizer.ofText (toString n)).number.1 = .ok n ∧
      (Tokenizer.ofText r.shown).range.1 = .ok r ∧
      ∀ p : Property, p ≠ .timestamp →
        Query.compile (.builtin areas now) flags (p.keyword ++ ":" ++ r.shown) = .ok (.range p r) := by
  have hform := Range.form_shown hstart hstop
  refine ⟨?_, ?_, fun p hp => ?_⟩
  · have hkind := (Tokens.kind_head_of_kinds (Tokens.kinds_toString n)).1
    rw [(Tokenizer.faces_ofText _).number.1]
    exact Token.number_of_numeral (Whole.numeral_toString hn) hkind
  · have hkind := (Tokens.kind_head_of_kinds (Tokens.kinds_shown r)).1
    rw [(Tokenizer.faces_ofText _).range.1]
    exact Token.range_of_form hform hkind
  · obtain ⟨message, hmem⟩ := exists_mem_ranges hp
    exact compile_keyword_shown hmem hform areas now flags

/-- The least number, and the range of all numbers. -/
theorem shown_is_read_extreme :
    let r := Range.between Whole.least Whole.greatest
    Fits Whole.least ∧ Fits r.start ∧ Fits r.stop ∧
      r.shown = "-9223372036854775808-9223372036854775807" ∧
      (Tokenizer.ofText (toString Whole.least)).number.1 = .ok Whole.least ∧
      (Tokenizer.ofText r.shown).range.1 = .ok r ∧
      Query.compile (.builtin default default) default ("nodes:" ++ r.shown) = .ok (.range .nodes r) := by
  intro r
  have hleast : Fits Whole.least := by decide
  have hstart : Fits r.start := by decide
  have hstop : Fits r.stop := by decide
  obtain ⟨hnumber, hrange, hcompile⟩ := shown_is_read hleast hstart hstop default default default
  exact ⟨hleast, hstart, hstop, by decide, hnumber, hrange, hcompile .nodes (by decide)⟩

end Compiler

end MapQuery

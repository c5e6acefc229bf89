import MapQuery.Compiler.Basic
import MapQuery.Proofs.Token.Joined
import MapQuery.Proofs.Token.Layout

/-!
# Text between quotes

A text that has been escaped and put between quotes is one key again, whatever stands in it and whatever comes
after it.

* `Literal.guarded`, `Literal.escape_eq_guarded` — escaping is one replacement after another.
* `Literal.raw_escape` — an escaped text ends at the quote after it, and no earlier.
* `Lexeme.first_quoted`, `Lexeme.kinds_quotedText` — the first lexeme, and the kinds of the tokens.
* `Token.moved`, `Lexeme.placed_add` — tokens of a source that stands further behind.
* `Tokenizer.stream_quotedText_append` — what is read of a quoted text and the source after it.
-/

namespace MapQuery

open Cursor (endsQuote)

/-! ### Literals -/

/-- A text with a backslash put before each `d` in it. -/
def Literal.guarded (d : Char) (cs : List Char) : List Char :=
  cs.flatMap fun c => if c = d then ['\\', c] else [c]

/-- Escaping is two replacements. The backslashes are the first to be replaced, so that those which are put
before quotes stay single. -/
theorem Literal.escape_eq_guarded (cs : List Char) :
    escape cs = guarded '"' (guarded '\\' cs) := by
  unfold guarded
  induction cs with
  | nil => rfl
  | cons c cs ih =>
    rw [escape, ih, List.flatMap_cons, List.flatMap_append]
    by_cases hbackslash : c = '\\'
    · subst hbackslash
      rfl
    · by_cases hquote : c = '"'
      · subst hquote
        rfl
      · simp [hbackslash, hquote]

/-- An escaped text is a literal up to the quote after it: every quote in it stands after a backslash, and
every backslash before another character. -/
theorem Literal.raw_escape (cs rest : List Char) :
    raw endsQuote (escape cs ++ '"' :: rest) = (escape cs, '"' :: rest) := by
  induction cs with
  | nil =>
    have hends : endsQuote '"' = true := rfl
    show raw endsQuote ('"' :: rest) = ([], '"' :: rest)
    rw [raw_cons_of_ne endsQuote (by decide), if_pos hends]
  | cons c cs ih =>
    rw [escape]
    split
    · rw [List.cons_append, List.cons_append, raw, ih]
    · next hc =>
      have hbackslash : c ≠ '\\' := fun h => hc (.inl h)
      have hquote : ¬ endsQuote c = true := fun h => hc (.inr (beq_iff_eq.mp h))
      rw [List.cons_append, raw_cons_of_ne endsQuote hbackslash, if_neg hquote, ih]

theorem Key.text_quoted_toList (s : String) : (Key.quoted s.toList).text = s :=
  String.ofList_toList

/-! ### Lexemes -/

theorem Query.toList_quotedText (s : String) :
    (quotedText s).toList = '"' :: (Literal.escape s.toList ++ ['"']) := by
  show (String.ofList ('"' :: (Literal.escape s.toList ++ ['"']))).toList = _
  rw [String.toList_ofList]

/-- A quoted text before a source is a quote, and then the escaped text up to the next one. -/
theorem Query.toList_quotedText_append (s : String) (rest : List Char) :
    (quotedText s).toList ++ rest = '"' :: (Literal.escape s.toList ++ '"' :: rest) := by
  rw [toList_quotedText, List.cons_append, List.append_assoc]
  rfl

namespace Lexeme

/-- The first lexeme of a source that begins with a quote. -/
theorem first_quoted (cs rest : List Char) :
    first '"' (Literal.escape cs ++ '"' :: rest) =
      (⟨'"' :: (Literal.escape cs ++ ['"']), some (.key (Key.quoted cs))⟩, rest) := by
  have hfirst : ∀ source, first '"' source =
      (⟨'"' :: ((Literal.raw endsQuote source).1 ++ (Literal.raw endsQuote source).2.take 1),
        some (.key (Key.quoted (Literal.unescape (Literal.raw endsQuote source).1)))⟩,
        (Literal.raw endsQuote source).2.drop 1) := fun _ => rfl
  rw [hfirst, Literal.raw_escape, Literal.unescape_escape]
  rfl

/-- Between quotes no character means anything but itself. -/
theorem kinds_quotedText (s : String) (rest : List Char) :
    kinds ((Query.quotedText s).toList ++ rest) = .key (Key.quoted s.toList) :: kinds rest := by
  rw [Query.toList_quotedText_append, kinds_cons, first_quoted]
  rfl

end Lexeme

/-! ### Tokens further behind -/

/-- A token that stands some bytes further behind. -/
def Token.moved (offset : Nat) (t : Token) : Token :=
  ⟨t.kind, ⟨offset + t.span.start, offset + t.span.stop⟩⟩

/-- Tokens that stand some bytes further behind. -/
def Tokens.moved (offset : Nat) (s : Tokens) : Tokens :=
  ⟨s.list.map (Token.moved offset), offset + s.stop⟩

theorem Tokens.stream_moved (offset : Nat) (s : Tokens) (i : Nat) :
    (s.moved offset).stream i = (s.stream i).moved offset := by
  show ((s.list.map (Token.moved offset))[i]?).getD (.endAt (offset + s.stop)) = _
  rw [List.getElem?_map, stream]
  cases s.list[i]? <;> rfl

/-- Lexemes that stand further behind have the same tokens further behind. -/
theorem Lexeme.placed_add (offset position : Nat) (ls : List Lexeme) :
    placed (offset + position) ls = (placed position ls).map (Token.moved offset) := by
  induction ls generalizing position with
  | nil => rfl
  | cons l ls ih =>
    have hstop := ih (position + Text.width l.source)
    rw [← Nat.add_assoc] at hstop
    cases hkind : l.kind? with
    | none => rw [placed_cons_none hkind, placed_cons_none hkind, hstop]
    | some kind =>
      rw [placed_cons_some hkind, placed_cons_some hkind, hstop, List.map_cons, Token.moved]
      simp only [Nat.add_assoc]

namespace Tokens

/-- The tokens of a quoted text and a source after it: one key, and the tokens of the source behind it. -/
theorem ofText_quotedText_append (s rest : String) :
    let behind := (ofText rest).moved (Query.quotedText s).utf8ByteSize
    ofText (Query.quotedText s ++ rest) =
      ⟨⟨.key (Key.quoted s.toList), ⟨0, (Query.quotedText s).utf8ByteSize⟩⟩ :: behind.list, behind.stop⟩ := by
  intro behind
  have hwidth : Text.width ('"' :: (Literal.escape s.toList ++ ['"'])) = (Query.quotedText s).utf8ByteSize := by
    rw [← Query.toList_quotedText, Text.width_toList]
  have hlexemes : Lexeme.all ((Query.quotedText s).toList ++ rest.toList) =
      ⟨'"' :: (Literal.escape s.toList ++ ['"']), some (.key (Key.quoted s.toList))⟩ ::
        Lexeme.all rest.toList := by
    rw [Query.toList_quotedText_append, Lexeme.all_cons, Lexeme.first_quoted]
  have hbehind : behind = ⟨(Lexeme.placed 0 (Lexeme.all rest.toList)).map
      (Token.moved (Query.quotedText s).utf8ByteSize),
        (Query.quotedText s).utf8ByteSize + Text.width rest.toList⟩ := by
    show (ofText rest).moved _ = _
    rw [ofText_eq_placed]
    rfl
  rw [hbehind, ← Lexeme.placed_add, ofText_eq_placed, String.toList_append, hlexemes,
    Lexeme.placed_cons_some rfl, Text.width_append, Text.width_toList, Nat.zero_add, Nat.add_zero, hwidth]

end Tokens

/-! ### What is read -/

/-- A text that is escaped and put between quotes is read as one key with this text, on exactly what has been
written for it. It is no number and no range, whatever stands in it. After it the tokens of the source behind
it are read as they are without it, only that they stand further behind, and so is the end of input. -/
theorem Tokenizer.stream_quotedText_append (s rest : String) :
    let quoted := Query.quotedText s
    let reader := ofText (quoted ++ rest)
    quoted.toList = '"' :: (Literal.guarded '"' (Literal.guarded '\\' s.toList) ++ ['"']) ∧
      reader.stream 0 = ⟨.key ⟨s, none, none, false⟩, ⟨0, quoted.utf8ByteSize⟩⟩ ∧
      ∀ i, reader.stream (i + 1) = ((ofText rest).stream i).moved quoted.utf8ByteSize := by
  intro quoted reader
  have hreader : reader.stream = (Tokens.ofText (quoted ++ rest)).stream :=
    (faces_ofText (quoted ++ rest)).stream_eq
  have hrest : (ofText rest).stream = (Tokens.ofText rest).stream := (faces_ofText rest).stream_eq
  have hkey : Key.quoted s.toList = ⟨s, none, none, false⟩ := by
    rw [Key.quoted, String.ofList_toList]
  refine ⟨?_, ?_, fun i => ?_⟩
  · rw [← Literal.escape_eq_guarded]
    exact Query.toList_quotedText s
  · rw [hreader, Tokens.stream_zero, Tokens.ofText_quotedText_append, Tokens.head_cons, hkey]
  · rw [hreader, Tokens.stream_succ, Tokens.ofText_quotedText_append, hrest, ← Tokens.stream_moved]
    rfl

end MapQuery

import MapQuery.Console.Session
import MapQuery.Proofs.Compiler.Blame
import MapQuery.Proofs.Token.Layout

/-!
# What is marked under a query

Under a query that cannot be compiled the wrong place is marked. Places are counted in bytes and marks in
characters. The place of a failure is the place of a token, so that both of its ends are found, and the marks
stand under the characters of the token.

* `Tokens.exists_cuts_stream` — every token of a text is a piece of it, the end of input an empty one.
* `Console.charactersIn?_width` — the bytes that some characters take are counted as these characters.
* `Console.columns_of_cuts` — the columns of a piece of a query.
* `Console.compile_marks_token` — what is marked under a query is a token.
-/

namespace MapQuery

/-- Each token that a reader of a text gives is a piece of the text. The end of input is the empty piece at
its end. -/
theorem Tokens.exists_cuts_stream (text : String) (i : Nat) :
    ∃ before source after, ((ofText text).stream i).span.Cuts text.toList before source after := by
  unfold stream
  cases hi : (ofText text).list[i]? with
  | some t =>
    have hmem : t ∈ (ofText text).list := List.mem_of_getElem? hi
    rw [ofText_eq_placed] at hmem
    obtain ⟨_, before, source, after, hcuts, _⟩ := Lexeme.cuts_of_mem_placed [] text.toList rfl t hmem
    exact ⟨before, source, after, hcuts⟩
  | none =>
    rw [ofText_eq_placed]
    exact ⟨text.toList, [], [], by simp, rfl, rfl⟩

namespace Console

/-- The bytes that some characters take are counted as these characters. -/
theorem charactersIn?_width (before rest : List Char) :
    charactersIn? (Text.width before) (before ++ rest) = some before.length := by
  induction before with
  | nil =>
    rw [Text.width_nil, charactersIn?]
    rfl
  | cons c before ih =>
    have hpos : 0 < c.utf8Size := c.utf8Size_pos
    rw [Text.width_cons, List.cons_append, charactersIn?, if_pos (Nat.le_add_right _ _),
      Nat.add_sub_cancel_left, ih, Option.map_some, List.length_cons]
    -- A character takes a byte at least, so that there are bytes to count.
    omega

section

variable {span : Span} {query before source after : List Char}

/-- Both ends of a piece of a query are found. -/
theorem charactersIn?_of_cuts (h : span.Cuts query before source after) :
    charactersIn? span.start query = some before.length ∧
      charactersIn? span.stop query = some (before ++ source).length := by
  rw [h.start_eq, h.stop_eq, h.text_eq]
  constructor
  · rw [List.append_assoc]
    exact charactersIn?_width before (source ++ after)
  · rw [← Text.width_append]
    exact charactersIn?_width (before ++ source) after

/-- A piece of a query stands in the columns of its characters, and takes one column at least. -/
theorem columns_of_cuts (h : span.Cuts query before source after) :
    columns query span = (before.length, max 1 source.length) := by
  obtain ⟨hfirst, hlast⟩ := charactersIn?_of_cuts h
  have hle : span.start ≤ span.stop := by
    rw [h.start_eq, h.stop_eq]
    exact Nat.le_add_right _ _
  unfold columns
  rw [hfirst, hlast]
  dsimp only
  rw [if_pos hle, List.length_append, Nat.add_sub_cancel_left, Nat.max_comm]

end

/-- The place of a failure in compiling a query with the built-in keywords is the place of a token of its
text, or of the end of input. So it is a piece of the text, from character to character, and the number of
characters up to each of its ends is found. Under the query the characters of the token are marked, or one
column at the end of the text. -/
theorem compile_marks_token {areas : Areas} {now : Instant} {flags : Flags} {text : String} {f : Failure}
    {span : Span} (h : Query.compile (.builtin areas now) flags text = .error f)
    (hspan : f.span? = some span) :
    (∃ i, span = ((Tokenizer.ofText text).stream i).span) ∧
      ∃ before source after, span.Cuts text.toList before source after ∧
        span.start ≤ span.stop ∧ span.stop ≤ text.utf8ByteSize ∧
        charactersIn? span.start text.toList = some before.length ∧
        charactersIn? span.stop text.toList = some (before ++ source).length ∧
        placeLines text f =
          ["  " ++ text, "  " ++ copies before.length ' ' ++ copies (max 1 source.length) '^',
            "  位置 " ++ toString span.start ++ "-" ++ toString span.stop] := by
  obtain ⟨i, hi⟩ := Compiler.exists_stream_of_compile (Registry.blamesTokens_builtin areas now) h hspan
  obtain ⟨before, source, after, hcuts⟩ := Tokens.exists_cuts_stream text i
  rw [hi] at hcuts
  have hstream := (Tokenizer.faces_ofText text).stream_eq
  have hstop : span.stop ≤ text.utf8ByteSize := by
    rw [hcuts.stop_eq, ← Text.width_toList, hcuts.text_eq, Text.width_append, Text.width_append]
    exact Nat.le_add_right _ _
  refine ⟨⟨i, ?_⟩, before, source, after, hcuts, ?_, hstop, ?_, ?_, ?_⟩
  · rw [hstream, hi]
  · rw [hcuts.start_eq, hcuts.stop_eq]
    exact Nat.le_add_right _ _
  · exact (charactersIn?_of_cuts hcuts).1
  · exact (charactersIn?_of_cuts hcuts).2
  · unfold placeLines
    rw [hspan]
    dsimp only
    rw [columns_of_cuts hcuts]

/-- A word in the place of a number, behind a letter of two bytes: it begins at the eighth byte and is
marked in the seventh column. -/
theorem compile_marks_token_wide :
    ∃ f, Query.compile (.builtin default default) default "ü? nth:xy" = .error f ∧
      f.span? = some ⟨8, 10⟩ ∧ ∃ before source after,
        (⟨8, 10⟩ : Span).Cuts "ü? nth:xy".toList before source after ∧
          placeLines "ü? nth:xy" f =
            ["  ü? nth:xy", "  " ++ copies before.length ' ' ++ copies (max 1 source.length) '^',
              "  位置 8-10"] := by
  have h : Query.compile (.builtin default default) default "ü? nth:xy" =
      .error (.unreadable "Positive integer expected" ⟨8, 10⟩) := by
    with_unfolding_all rfl
  obtain ⟨_, before, source, after, hcuts, _, _, _, _, hlines⟩ := compile_marks_token h rfl
  exact ⟨_, h, rfl, before, source, after, hcuts, hlines⟩

end Console

end MapQuery

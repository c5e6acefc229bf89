import MapQuery.Proofs.Token.Lexemes
import MapQuery.Proofs.Token.Operations

/-!
# Where tokens stand

The tokens of a query stand one after the other in its text, each on some characters of it, and what is
between them only separates them.

* `Span.Cuts` — a span is a piece of a text, from character to character.
* `Literal.Means` — what a literal means without its quotes and escaping backslashes.
* `Separates` — blanks, signs `&` and words `and`, none of which is a token.
* `Lexeme.exists_first_of_mem_placed` — a token is the first lexeme of what is left of the text at its place.
* `Tokens.gaps` — the spans before, between and after the tokens.
* `Tokens.cover_text` — tokens and gaps are pieces of the text, the former with the meaning of their
  literals and the latter separating them.
-/

namespace MapQuery

/-! ### Pieces of a text -/

/-- The bytes of a text are those of its characters. -/
theorem Text.width_toList (text : String) : width text.toList = text.utf8ByteSize := by
  have h : ∀ cs : List Char, width cs = (String.ofList cs).utf8ByteSize := by
    intro cs
    induction cs with
    | nil => rfl
    | cons c cs ih =>
      rw [width_cons, ih, String.ofList_cons, String.utf8ByteSize_append, String.utf8ByteSize_singleton]
  rw [h, String.ofList_toList]

/-- Every character takes a byte at least, so that two beginnings of a text with the same number of bytes are
the same. -/
theorem Text.eq_of_width_eq {a b rest rest' : List Char} (h : a ++ rest = b ++ rest')
    (hwidth : width a = width b) : a = b ∧ rest = rest' := by
  induction a generalizing b with
  | nil =>
    cases b with
    | nil => exact ⟨rfl, h⟩
    | cons d b =>
      have hpos := d.utf8Size_pos
      rw [width_nil, width_cons] at hwidth
      omega
  | cons c a ih =>
    cases b with
    | nil =>
      have hpos := c.utf8Size_pos
      rw [width_nil, width_cons] at hwidth
      omega
    | cons d b =>
      obtain ⟨rfl, happend⟩ := List.cons.inj h
      rw [width_cons, width_cons] at hwidth
      obtain ⟨rfl, hrest⟩ := ih happend (by omega)
      exact ⟨rfl, hrest⟩

/-- A span is the piece `source` of a text, with `before` and `after` around it. -/
structure Span.Cuts (span : Span) (text before source after : List Char) : Prop where
  text_eq : text = before ++ source ++ after
  start_eq : span.start = Text.width before
  stop_eq : span.stop = Text.width before + Text.width source

/-- A source is one literal, which means a text: between quotes, the closing one of which is missing where
the source breaks off, or else without any. Escaping backslashes do not count. -/
inductive Literal.Means : (source text : List Char) → Prop
  | quoted {body : List Char} (h : raw Cursor.endsQuote (body ++ ['"']) = (body, ['"'])) :
    Means ('"' :: (body ++ ['"'])) (unescape body)
  | unclosed {body : List Char} (h : raw Cursor.endsQuote body = (body, [])) :
    Means ('"' :: body) (unescape body)
  | unquoted {c : Char} {body : List Char} (h : raw Cursor.endsWord (c :: body) = (c :: body, [])) :
    Means (c :: body) (unescape (c :: body))

/-- Blanks, signs `&` and unquoted words that mean `and` in any case of its letters, before `after`. A word
is as long as it can be. -/
inductive Separates : (between after : List Char) → Prop
  | nothing {after : List Char} : Separates [] after
  | sign {c : Char} {between after : List Char} (h : (Text.isBlank c || c == '&') = true)
    (hrest : Separates between after) : Separates (c :: between) after
  | word {w between after : List Char}
    (h : Literal.raw Cursor.endsWord (w ++ (between ++ after)) = (w, between ++ after))
    (hand : Ascii.sameWord (Literal.unescape w) "and".toList = true)
    (hrest : Separates between after) : Separates (w ++ between) after

/-- Separators one after the other. -/
theorem Separates.append {a b after : List Char} (ha : Separates a (b ++ after))
    (hb : Separates b after) : Separates (a ++ b) after := by
  generalize hrest : b ++ after = rest at ha
  induction ha with
  | nothing => exact hb
  | sign h _ ih => exact .sign h (ih hrest)
  | word h hand _ ih =>
    subst hrest
    rw [List.append_assoc]
    refine .word ?_ hand (ih rfl)
    rw [List.append_assoc]
    exact h

/-! ### Lexemes in a text -/

/-- A quote, what comes up to the next one, and the latter if there is one. -/
theorem Literal.means_take (cs : List Char) :
    Means ('"' :: ((raw Cursor.endsQuote cs).1 ++ (raw Cursor.endsQuote cs).2.take 1))
      (unescape (raw Cursor.endsQuote cs).1) := by
  have hraw := raw_append_take Cursor.endsQuote cs 1
  cases hrest : (raw Cursor.endsQuote cs).2 with
  | nil =>
    rw [hrest, List.take_nil, List.append_nil] at hraw
    rw [List.take_nil, List.append_nil]
    exact .unclosed hraw
  | cons c rest =>
    have hends : Cursor.endsQuote c = true := ends_of_raw_eq_cons hrest
    obtain rfl : c = '"' := beq_iff_eq.1 hends
    rw [hrest] at hraw
    exact .quoted hraw

theorem Key.text_quoted (text : List Char) : (quoted text).text = String.ofList text := rfl

theorem Key.text_unquoted (text : List Char) : (unquoted text).text = String.ofList text := by
  unfold unquoted
  split <;> rfl

namespace Cursor

theorem key_of_word? {text : List Char} {k : Key} (h : word? text = some (.key k)) :
    k = Key.unquoted text := by
  unfold word? at h
  repeat' split at h
  all_goals cases h
  rfl

/-- A word that is a key has its own text. -/
theorem text_of_word? {text : List Char} {k : Key} (h : word? text = some (.key k)) :
    k.text = String.ofList text := by
  rw [key_of_word? h, Key.text_unquoted]

/-- A sign is a token that is no key. -/
theorem ofPunctuation?_ne_key (c : Char) (k : Key) : Token.Kind.ofPunctuation? c ≠ some (.key k) := by
  unfold Token.Kind.ofPunctuation?
  split <;> nofun

/-- Only the word `and` is no token. -/
theorem sameWord_of_word? {text : List Char} (h : word? text = none) :
    Ascii.sameWord text "and".toList = true := by
  unfold word? at h
  repeat' split at h
  all_goals first | assumption | cases h

end Cursor

namespace Lexeme

/-- A key has the text that its source means. -/
theorem means_first {c : Char} {cs : List Char} {k : Key} (h : (first c cs).1.kind? = some (.key k)) :
    Literal.Means (first c cs).1.source k.text.toList := by
  have hbegins := begins_first c cs
  generalize first c cs = r at h hbegins ⊢
  cases hbegins with
  | sign => cases h
  | punctuation hp => exact absurd (hp.trans h) (Cursor.ofPunctuation?_ne_key c k)
  | quoted hquote =>
    cases h
    subst hquote
    rw [Key.text_quoted, String.toList_ofList]
    exact Literal.means_take cs
  | negation => cases h
  | word hword =>
    have hraw := Literal.raw_append_take Cursor.endsWord (c :: cs) 0
    obtain ⟨w, hw⟩ := Literal.exists_raw_eq_cons cs hword
    rw [List.take_zero, List.append_nil, hw] at hraw
    rw [Cursor.text_of_word? h, String.toList_ofList]
    dsimp only
    rw [hw]
    exact .unquoted hraw

/-- A lexeme that is no token separates tokens. -/
theorem separates_first {c : Char} {cs : List Char} (h : (first c cs).1.kind? = none) :
    Separates (first c cs).1.source (first c cs).2 := by
  have hbegins := begins_first c cs
  generalize first c cs = r at h hbegins ⊢
  cases hbegins with
  | sign hsign => exact .sign hsign .nothing
  | word =>
    have hraw := Literal.raw_append Cursor.endsWord (c :: cs)
    have hword : Separates ((Literal.raw Cursor.endsWord (c :: cs)).1 ++ []) _ :=
      .word (by rw [List.nil_append, hraw]) (Cursor.sameWord_of_word? h) .nothing
    rwa [List.append_nil] at hword
  | _ => cases h

/-- A token among the lexemes of a source is the first lexeme of what is left of the source at its place. The
induction is on the lexemes, for every beginning of the text that the source ends. -/
theorem exists_first_of_mem_placed {text : List Char} (before cs : List Char) (htext : text = before ++ cs) :
    ∀ t ∈ placed (Text.width before) (all cs), ∃ head c rest,
      t.span.Cuts text head (first c rest).1.source (first c rest).2 ∧
        (first c rest).1.kind? = some t.kind := by
  fun_induction all cs generalizing before with
  | case1 =>
    intro t ht
    cases ht
  | case2 c cs ih =>
    have happend : before ++ (first c cs).1.source ++ (first c cs).2 = text := by
      rw [List.append_assoc, source_append_first, htext]
    have hrest := ih _ happend.symm
    rw [Text.width_append] at hrest
    cases hkind : (first c cs).1.kind? with
    | none => rwa [placed_cons_none hkind]
    | some kind =>
      rw [placed_cons_some hkind]
      exact List.forall_mem_cons.2 ⟨⟨before, c, cs, ⟨happend.symm, rfl, rfl⟩, hkind⟩, hrest⟩

/-- A token among the lexemes of a source is a piece of the text that the source ends, and a key has the
text that this piece means. -/
theorem cuts_of_mem_placed {text : List Char} (before cs : List Char) (htext : text = before ++ cs) :
    ∀ t ∈ placed (Text.width before) (all cs), t.kind ≠ .eof ∧ ∃ head source after,
      t.span.Cuts text head source after ∧ source ≠ [] ∧
        ∀ k, t.kind = .key k → Literal.Means source k.text.toList := by
  intro t ht
  obtain ⟨head, c, rest, hcuts, hkind⟩ := exists_first_of_mem_placed before cs htext t ht
  refine ⟨?_, head, (first c rest).1.source, (first c rest).2, hcuts, source_first_ne_nil c rest, ?_⟩
  · exact fun heof => Cursor.kind?_first_ne_eof c rest (hkind.trans (congrArg some heof))
  · exact fun k hk => means_first (hkind.trans (congrArg some hk))

end Lexeme

/-! ### Between tokens -/

namespace Tokens

/-- The spans from a byte to the first token, between the tokens, and from the last token to `stop`. -/
def gapsFrom (start : Nat) : List Token → (stop : Nat) → List Span
  | [], stop => [⟨start, stop⟩]
  | t :: ts, stop => ⟨start, t.span.start⟩ :: gapsFrom t.span.stop ts stop

/-- The spans before, between and after the tokens of a text. -/
def gaps (s : Tokens) : List Span :=
  gapsFrom 0 s.list s.stop

/-- The gaps in the source that ends a text separate its tokens. The induction is on the lexemes, for every
beginning of the text and every separator that the first gap begins with. -/
theorem separates_gapsFrom {text : List Char} (before between cs : List Char)
    (htext : text = before ++ between ++ cs) (h : Separates between cs) :
    ∀ gap ∈ gapsFrom (Text.width before)
        (Lexeme.placed (Text.width before + Text.width between) (Lexeme.all cs)) (Text.width text),
      ∃ head source after, gap.Cuts text head source after ∧ Separates source after := by
  fun_induction Lexeme.all cs generalizing before between with
  | case1 =>
    refine List.forall_mem_singleton.2 ⟨before, between, [], ⟨htext, rfl, ?_⟩, h⟩
    rw [htext, List.append_nil, Text.width_append]
  | case2 c cs ih =>
    have happend := Lexeme.source_append_first c cs
    cases hkind : (Lexeme.first c cs).1.kind? with
    | none =>
      -- The gap goes on: what it begins with takes in the lexeme.
      have hmore : Separates (between ++ (Lexeme.first c cs).1.source) (Lexeme.first c cs).2 :=
        .append (happend.symm ▸ h) (Lexeme.separates_first hkind)
      have hrest := ih before _ (by simp [htext, happend]) hmore
      rwa [Text.width_append, ← Nat.add_assoc, ← Lexeme.placed_cons_none hkind] at hrest
    | some kind =>
      rw [Lexeme.placed_cons_some hkind, gapsFrom]
      refine List.forall_mem_cons.2 ⟨⟨before, between, c :: cs, ⟨htext, rfl, rfl⟩, h⟩, ?_⟩
      -- The next gap begins behind the token, with nothing so far.
      have hrest := ih (before ++ between ++ (Lexeme.first c cs).1.source) []
        (by simp [htext, happend]) .nothing
      rwa [Text.width_nil, Nat.add_zero, Text.width_append, Text.width_append] at hrest

/-- The tokens of a query cover its text. A token reader gives them in their order and ends with the end of
input, which is at the end of the text and nowhere else. Each token is a piece of the text that is not
empty, and a key has the text that this piece means, without quotes around it and escaping backslashes. The
gaps before, between and after the tokens are pieces of the text too, so that no two tokens overlap, and
they only separate tokens. -/
theorem cover_text (text : String) :
    let s := Tokens.ofText text
    (Tokenizer.ofText text).stream = s.stream ∧
      s.stop = text.utf8ByteSize ∧
      (∀ t ∈ s.list, t.kind ≠ .eof ∧ ∃ before source after,
        t.span.Cuts text.toList before source after ∧ source ≠ [] ∧
          ∀ k, t.kind = .key k → Literal.Means source k.text.toList) ∧
      ∀ gap ∈ s.gaps, ∃ before between after,
        gap.Cuts text.toList before between after ∧ Separates between after := by
  refine ⟨(Tokenizer.faces_ofText text).stream_eq, ?_, ?_, ?_⟩
  · rw [ofText_eq_placed, Text.width_toList]
  · rw [ofText_eq_placed]
    exact Lexeme.cuts_of_mem_placed [] text.toList rfl
  · rw [ofText_eq_placed, gaps]
    exact separates_gapsFrom [] [] text.toList rfl .nothing

end Tokens

end MapQuery

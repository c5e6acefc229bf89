import MapQuery.Proofs.Compiler.Enclosed
import MapQuery.Proofs.Compiler.Limit
import MapQuery.Proofs.Query.Evaluation
import MapQuery.Proofs.Token.Joined

/-!
# Queries are put together from queries

Two texts that are queries on their own can be put in parentheses and joined by an operator, and one of
them can be negated. What comes out means what it looks like: nothing in a parenthesis reaches across it.
Only the nesting may become too deep, since there is one more level of it.

* `Reading.Yields` — a program gives a value and leaves tokens of given kinds, or finds the nesting too
  deep.
* `Compiler.yields_parenthesized` — a query in parentheses is a factor.
* `Compiler.yields_last`, `Compiler.yields_before` — the loop over factors, at the last one and at one
  before others.
* `Compiler.compile_composed` — the texts of conjunctions, disjunctions, exclusive ones, and negations.
-/

namespace MapQuery

/-! ### Programs -/

namespace Reading

variable {A B : Type} {s : Tokens} {between more : List Token.Kind}

/-- Gives a value and leaves tokens of these kinds, unless the nesting is too deep. -/
def Yields (p : Reading A) (a : A) (s : Tokens) (more : List Token.Kind) : Prop :=
  p.along s = .error .tooDeep ∨ ∃ rest, p.along s = .ok (a, rest) ∧ rest.kinds = more

theorem yields_pure (a : A) (hs : s.kinds = more) : (pure a : Reading A).Yields a s more :=
  .inr ⟨s, rfl, hs⟩

/-- Whatever comes after the program goes on with the value, unless the nesting is too deep. -/
theorem Yields.bind_along {p : Reading A} {a : A} (h : p.Yields a s between)
    (go : A × Tokens → Except Failure B) :
    p.along s >>= go = .error .tooDeep ∨
      ∃ rest : Tokens, rest.kinds = between ∧ p.along s >>= go = go (a, rest) := by
  rcases h with hdeep | ⟨rest, hp, hrest⟩
  · rw [hdeep]
    exact .inl rfl
  · rw [hp]
    exact .inr ⟨rest, hrest, rfl⟩

/-- One program after another. -/
theorem Yields.bind {p : Reading A} {f : A → Reading B} {a : A} {b : B} (h : p.Yields a s between)
    (hf : ∀ rest : Tokens, rest.kinds = between → (f a).Yields b rest more) :
    (p >>= f).Yields b s more := by
  unfold Yields
  rw [along_bind]
  rcases h.bind_along _ with hdeep | ⟨rest, hrest, hgo⟩
  · exact .inl hdeep
  · rw [hgo]
    exact hf rest hrest

end Reading

/-! ### Texts -/

namespace Operator

/-- The parentheses around an operator, and what is written for it between them. -/
def between : Operator → String
  | and => ") ("
  | or => ") or ("
  | xor => ") xor ("

/-- What is written for an operator. -/
def written : Operator → List Char
  | and => [' ']
  | or => [' ', 'o', 'r', ' ']
  | xor => [' ', 'x', 'o', 'r', ' ']

/-- The tokens of an operator. -/
def kinds : Operator → List Token.Kind
  | and => []
  | or => [.or]
  | xor => [.xor]

end Operator

namespace Lexeme

theorem kinds_written (o : Operator) (cs : List Char) :
    kinds (o.written ++ '(' :: cs) = o.kinds ++ kinds ('(' :: cs) := by
  have hblank : ∀ ds, kinds (' ' :: ds) = kinds ds := kinds_cons ' '
  cases o with
  | and => exact hblank _
  | or =>
    have hor : kinds ('o' :: 'r' :: ' ' :: '(' :: cs) = .or :: kinds (' ' :: '(' :: cs) := kinds_cons _ _
    exact (hblank _).trans (hor.trans (congrArg _ (hblank _)))
  | xor =>
    have hxor : kinds ('x' :: 'o' :: 'r' :: ' ' :: '(' :: cs) = .xor :: kinds (' ' :: '(' :: cs) :=
      kinds_cons _ _
    exact (hblank _).trans (hxor.trans (congrArg _ (hblank _)))

end Lexeme

namespace Tokens

open Literal (isClosed)

/-- Two texts in parentheses with an operator between them. -/
theorem kinds_ofText_joined (o : Operator) {a b : String} (ha : isClosed false a.toList = true)
    (hb : isClosed false b.toList = true) :
    (ofText ("(" ++ a ++ o.between ++ b ++ ")")).kinds =
      .leftParen :: ((ofText a).kinds ++ .rightParen ::
        (o.kinds ++ .leftParen :: ((ofText b).kinds ++ [.rightParen]))) := by
  have htext : ("(" ++ a ++ o.between ++ b ++ ")").toList =
      '(' :: (a.toList ++ ')' :: (o.written ++ '(' :: (b.toList ++ [')']))) := by
    cases o <;> simp [Operator.between, Operator.written]
  rw [kinds_ofText, htext, Lexeme.kinds_parenthesized ha, Lexeme.kinds_written,
    Lexeme.kinds_parenthesized hb, Lexeme.kinds_nil, kinds_ofText, kinds_ofText]

/-- A text in parentheses with a negation before them. -/
theorem kinds_ofText_negated {a : String} (ha : isClosed false a.toList = true) :
    (ofText ("-(" ++ a ++ ")")).kinds =
      .not :: .leftParen :: ((ofText a).kinds ++ [.rightParen]) := by
  have htext : ("-(" ++ a ++ ")").toList = '-' :: '(' :: (a.toList ++ [')']) := by simp
  have hnot : Lexeme.kinds ('-' :: '(' :: (a.toList ++ [')'])) =
      .not :: Lexeme.kinds ('(' :: (a.toList ++ [')'])) := Lexeme.kinds_cons _ _
  rw [kinds_ofText, htext, hnot, Lexeme.kinds_parenthesized ha, Lexeme.kinds_nil, kinds_ofText]

end Tokens

namespace Compiler

open Reading
open Literal (isClosed)

variable {registry : Registry} {flags : Flags} {fuel nest : Nat} {s : Tokens}
  {more : List Token.Kind} {text : String} {q : Query}

/-! ### Factors -/

/-- A query is an expression with nothing after it, and any fuel will do that exceeds its length. -/
theorem compile_eq_ended (hfuel : text.length < fuel) :
    Query.compile registry flags text =
      ((expression (factor registry flags fuel nestingLimit) fuel).along (.ofText text) >>= fun r =>
        ended (r.1.getD .always) r.2).map Prod.fst := by
  have hsize := Nat.lt_of_le_of_lt (Tokens.size_ofText_le text) hfuel
  rw [compile_eq_query, ← along_query registry flags _ hsize, along_query_ended]

/-- Where a text is a query, an expression has been read up to its end. -/
theorem along_expression_of_compile (h : Query.compile registry flags text = .ok q)
    (hfuel : text.length < fuel) :
    ∃ read rest, (expression (factor registry flags fuel nestingLimit) fuel).along (.ofText text) =
      .ok (read, rest) ∧ read.getD .always = q ∧ rest.head.kind = .eof := by
  rw [compile_eq_ended hfuel] at h
  cases hread : (expression (factor registry flags fuel nestingLimit) fuel).along (.ofText text) with
  | error e =>
    rw [hread] at h
    cases h
  | ok r =>
    obtain ⟨read, rest⟩ := r
    rw [hread] at h
    change (ended (read.getD .always) rest).map Prod.fst = .ok q at h
    unfold ended at h
    split at h
    · next heof => exact ⟨read, rest, rfl, Except.ok.inj h, heof⟩
    · cases h

/-- It is read in the same way before a closing parenthesis, also where less nesting is left. -/
theorem yields_inside (hr : registry.Respects AgreeEnclosed) (h : Query.compile registry flags text = .ok q)
    (hfuel : text.length < fuel) (hnest : nest ≤ nestingLimit)
    (hs : s.kinds = (Tokens.ofText text).kinds ++ .rightParen :: more) :
    ∃ read : Option Query, read.getD .always = q ∧
      (expression (factor registry flags fuel nest) fuel).Yields read s (.rightParen :: more) := by
  obtain ⟨read, rest, hread, hq, heof⟩ := along_expression_of_compile h hfuel
  refine ⟨read, hq, ?_⟩
  rcases cutOff_expression hnest s with hdeep | hsame
  · exact .inl hdeep
  have henclosed : Tokens.Enclosed more (.ofText text) s :=
    ⟨hs, Tokens.kinds_ofText text ▸ Lexeme.eof_not_mem_kinds _⟩
  obtain ⟨rest', hread', hrest⟩ :=
    agreeEnclosed_expression hr flags fuel nestingLimit henclosed hread
  refine .inr ⟨rest', hsame.trans hread', ?_⟩
  -- The expression has left nothing of its own text, so that the closing parenthesis is next.
  rcases hrest.head_cases with ⟨_, hkinds⟩ | ⟨hne, _⟩
  · exact hkinds
  · exact absurd heof hne

/-- A query in parentheses is a factor. -/
theorem yields_parenthesized (hr : registry.Respects AgreeEnclosed)
    (h : Query.compile registry flags text = .ok q) (hfuel : text.length < fuel)
    (hnest : nest ≤ nestingLimit)
    (hs : s.kinds = .leftParen :: ((Tokens.ofText text).kinds ++ .rightParen :: more)) :
    (factor registry flags fuel nest).Yields (some q) s more := by
  cases nest with
  | zero => exact .inl rfl
  | succ nest =>
    obtain ⟨hopening, hinside⟩ := Tokens.kind_head_of_kinds hs
    obtain ⟨read, rfl, hread⟩ := yields_inside hr h hfuel (Nat.le_of_succ_le hnest) hinside
    unfold Yields
    rw [along_parenthesis hopening]
    rcases hread.bind_along _ with hdeep | ⟨rest, hrest, hclosed⟩
    · exact .inl hdeep
    · obtain ⟨hclosing, hmore⟩ := Tokens.kind_head_of_kinds hrest
      rw [hclosed, closed, hclosing]
      exact .inr ⟨rest.tail, rfl, hmore⟩

/-- A query in parentheses with a negation before them is a factor. -/
theorem yields_negated (hr : registry.Respects AgreeEnclosed) (h : Query.compile registry flags text = .ok q)
    (hfuel : text.length < fuel) (hnest : nest ≤ nestingLimit)
    (hs : s.kinds = .not :: .leftParen :: ((Tokens.ofText text).kinds ++ .rightParen :: more)) :
    (factor registry flags fuel nest).Yields (some (.not q)) s more := by
  cases nest with
  | zero => exact .inl rfl
  | succ nest =>
    obtain ⟨hnot, hoperand⟩ := Tokens.kind_head_of_kinds hs
    unfold Yields
    rw [along_negation hnot]
    have hread := yields_parenthesized hr h hfuel (Nat.le_of_succ_le hnest) hoperand
    rcases hread.bind_along _ with hdeep | ⟨rest, hrest, hnegated⟩
    · exact .inl hdeep
    · exact .inr ⟨rest, hnegated, hrest⟩

/-- No factor stands at the end of input. -/
theorem yields_no_factor (hs : s.kinds = []) :
    (factor registry flags fuel nest).Yields none s [] := by
  cases nest with
  | zero => exact .inl rfl
  | succ nest =>
    have heof := Tokens.kind_head_of_nil hs
    refine .inr ⟨s, along_no_factor ?_ ?_ ?_, hs⟩
    · rw [heof]; nofun
    · rw [heof]; nofun
    · rw [heof]; exact fun _ => nofun

/-! ### The loop over factors -/

theorem yields_operator {o : Operator} (hs : s.kinds = o.kinds ++ .leftParen :: more) :
    ∃ isWritten, operator.Yields (o, isWritten) s (.leftParen :: more) := by
  unfold Yields
  rw [along_operator]
  cases o with
  | and =>
    rw [(Tokens.kind_head_of_kinds hs).1]
    exact ⟨false, .inr ⟨s, rfl, hs⟩⟩
  | or =>
    obtain ⟨hor, htail⟩ := Tokens.kind_head_of_kinds hs
    rw [hor]
    exact ⟨true, .inr ⟨s.tail, rfl, htail⟩⟩
  | xor =>
    obtain ⟨hxor, htail⟩ := Tokens.kind_head_of_kinds hs
    rw [hxor]
    exact ⟨true, .inr ⟨s.tail, rfl, htail⟩⟩

theorem yields_no_operator (hs : s.kinds = []) : operator.Yields (.and, false) s [] := by
  unfold Yields
  rw [along_operator, Tokens.kind_head_of_nil hs]
  exact .inr ⟨s, rfl, hs⟩

section

variable {reading : Reading (Option Query)} {wanting : Option Operator} {read : List (Query × Operator)}

/-- The loop at a factor with nothing after it. -/
theorem yields_last (h : reading.Yields (some q) s [])
    (hend : ∀ rest : Tokens, rest.kinds = [] → reading.Yields none rest []) :
    (factors reading (fuel + 2) wanting read).Yields ((q, .and) :: read) s [] := by
  rw [factors.eq_def]
  refine h.bind fun rest hrest => ?_
  refine (yields_no_operator hrest).bind fun rest hrest => ?_
  show (factors reading (fuel + 1) none _).Yields _ rest []
  rw [factors.eq_def]
  exact (hend rest hrest).bind fun rest hrest => yields_pure _ hrest

/-- The loop at a factor with an operator and a parenthesis after it. What was wanted before does not count,
since there is a factor. -/
theorem yields_before {o : Operator} {all : List (Query × Operator)}
    (h : reading.Yields (some q) s (o.kinds ++ .leftParen :: more))
    (hafter : ∀ wanting, ∀ rest : Tokens, rest.kinds = .leftParen :: more →
      (factors reading fuel wanting ((q, o) :: read)).Yields all rest []) :
    (factors reading (fuel + 1) wanting read).Yields all s [] := by
  rw [factors.eq_def]
  refine h.bind fun rest hrest => ?_
  obtain ⟨isWritten, hoperator⟩ := yields_operator hrest
  exact hoperator.bind fun rest hrest => hafter _ rest hrest

end

/-! ### Queries -/

/-- A text of which the loop reads all factors is compiled to their join, unless it is nested too deeply. -/
theorem compile_of_yields {all : List (Query × Operator)} (hfuel : text.length < fuel)
    (h : (factors (factor registry flags fuel nestingLimit) fuel none []).Yields all (.ofText text) []) :
    Query.compile registry flags text = .error .tooDeep ∨
      Query.compile registry flags text = .ok ((joined all).getD .always) := by
  have hexpression : (expression (factor registry flags fuel nestingLimit) fuel).Yields (joined all)
      (.ofText text) [] := h.bind fun rest hrest => yields_pure (joined all) hrest
  rw [compile_eq_ended hfuel]
  rcases hexpression.bind_along _ with hdeep | ⟨rest, hrest, hended⟩
  · rw [hdeep]
    exact .inl rfl
  · rw [hended, ended, Tokens.kind_head_of_nil hrest]
    exact .inr rfl

section

variable {a b : String} {qa qb : Query}

/-- Two queries in parentheses with an operator between them. -/
theorem compile_joined (hr : registry.Respects AgreeEnclosed) (o : Operator)
    (ha : Query.compile registry flags a = .ok qa) (hb : Query.compile registry flags b = .ok qb)
    (hclosed : isClosed false a.toList = true) (hclosed' : isClosed false b.toList = true) :
    Query.compile registry flags ("(" ++ a ++ o.between ++ b ++ ")") = .error .tooDeep ∨
      Query.compile registry flags ("(" ++ a ++ o.between ++ b ++ ")") = .ok (.join o qa qb) := by
  have hkinds := Tokens.kinds_ofText_joined o hclosed hclosed'
  generalize htext : "(" ++ a ++ o.between ++ b ++ ")" = text at hkinds
  have hlength := congrArg String.length htext
  simp only [String.length_append] at hlength
  -- Three turns of the loop: both factors, and none at the end.
  have hfactors : (factors (factor registry flags (text.length + 3) nestingLimit) (text.length + 3)
      none []).Yields [(qb, .and), (qa, o)] (.ofText text) [] := by
    refine yields_before (yields_parenthesized hr ha (by omega) (Nat.le_refl _) hkinds) ?_
    intro wanting rest hrest
    refine yields_last (yields_parenthesized hr hb (by omega) (Nat.le_refl _) hrest) ?_
    exact fun _ => yields_no_factor
  exact compile_of_yields (by omega) hfactors

/-- A query in parentheses with a negation before it. -/
theorem compile_negated (hr : registry.Respects AgreeEnclosed)
    (ha : Query.compile registry flags a = .ok qa) (hclosed : isClosed false a.toList = true) :
    Query.compile registry flags ("-(" ++ a ++ ")") = .error .tooDeep ∨
      Query.compile registry flags ("-(" ++ a ++ ")") = .ok (.not qa) := by
  have hkinds := Tokens.kinds_ofText_negated hclosed
  generalize htext : "-(" ++ a ++ ")" = text at hkinds
  have hlength := congrArg String.length htext
  simp only [String.length_append] at hlength
  have hfactors : (factors (factor registry flags (text.length + 2) nestingLimit) (text.length + 2)
      none []).Yields [(.not qa, .and)] (.ofText text) [] := by
    refine yields_last (yields_negated hr ha (by omega) (Nat.le_refl _) hkinds) ?_
    exact fun _ => yields_no_factor
  exact compile_of_yields (by omega) hfactors

/-- A text is nested too deeply to be compiled, or it is a query that holds where `meaning` does. -/
def MeansIfShallow (registry : Registry) (flags : Flags) (text : String)
    (meaning : {P : Type} → [Primitive P] → P → Bool) : Prop :=
  (∃ e, Query.compile registry flags text = .error e ∧ e.message = "Expression nested too deeply") ∨
    ∃ q, Query.compile registry flags text = .ok q ∧
      ∀ {P : Type} [Primitive P] (p : P), q.holds p = meaning p

theorem meansIfShallow_of_compile {meaning : {P : Type} → [Primitive P] → P → Bool}
    (h : Query.compile registry flags text = .error .tooDeep ∨
      Query.compile registry flags text = .ok q)
    (hq : ∀ {P : Type} [Primitive P] (p : P), q.holds p = meaning p) :
    MeansIfShallow registry flags text meaning :=
  h.imp (fun hdeep => ⟨.tooDeep, hdeep, rfl⟩) fun hok => ⟨q, hok, hq⟩

end

section

variable {areas : Areas} {now : Instant} {a b : String} {qa qb : Query}

/-- Two texts that are queries and that do not end inside of quotes or right after an escaping backslash
can be joined in parentheses, and one of them can be negated. With the built-in keywords the result is
nested too deeply, or it is a query that puts the answers of both queries together as it says. -/
theorem compile_composed (ha : Query.compile (.builtin areas now) flags a = .ok qa)
    (hb : Query.compile (.builtin areas now) flags b = .ok qb)
    (hclosed : isClosed false a.toList = true) (hclosed' : isClosed false b.toList = true) :
    MeansIfShallow (.builtin areas now) flags ("(" ++ a ++ ") (" ++ b ++ ")")
        (fun p => qa.holds p && qb.holds p) ∧
      MeansIfShallow (.builtin areas now) flags ("(" ++ a ++ ") or (" ++ b ++ ")")
        (fun p => qa.holds p || qb.holds p) ∧
      MeansIfShallow (.builtin areas now) flags ("(" ++ a ++ ") xor (" ++ b ++ ")")
        (fun p => qa.holds p ^^ qb.holds p) ∧
      MeansIfShallow (.builtin areas now) flags ("-(" ++ a ++ ")") (fun p => !qa.holds p) := by
  have hr := Registry.respects_builtin isCongruence_agreeEnclosed areas now
  have hjoined := fun o => compile_joined hr o ha hb hclosed hclosed'
  refine ⟨meansIfShallow_of_compile (hjoined .and) fun p => ?_,
    meansIfShallow_of_compile (hjoined .or) fun p => ?_,
    meansIfShallow_of_compile (hjoined .xor) fun p => ?_,
    meansIfShallow_of_compile (compile_negated hr ha hclosed) fun p => ?_⟩
  all_goals simp only [Query.holds_eq_satisfied]; rfl

/-- A keyword without its operand, and a quoted argument. The parentheses are no operand, and the texts are
not nested too deeply. -/
theorem compile_composed_operand :
    (∃ qa qb, Query.compile (.builtin default default) default "parent" = .ok qa ∧
      Query.compile (.builtin default default) default "type:\"node\" | -child" = .ok qb ∧
      MeansIfShallow (.builtin default default) default "(parent) (type:\"node\" | -child)"
        fun p => qa.holds p && qb.holds p) ∧
      Query.compile (.builtin default default) default "(parent) (type:\"node\" | -child)" =
        .ok (.join .and (.parent .always) (.join .or (.kind .node) (.not (.child .always)))) := by
  have ha : Query.compile (.builtin default default) default "parent" = .ok (.parent .always) := by
    with_unfolding_all rfl
  have hb : Query.compile (.builtin default default) default "type:\"node\" | -child" =
      .ok (.join .or (.kind .node) (.not (.child .always))) := by
    with_unfolding_all rfl
  refine ⟨⟨_, _, ha, hb, (compile_composed ha hb rfl rfl).1⟩, ?_⟩
  with_unfolding_all rfl

end

end Compiler

end MapQuery

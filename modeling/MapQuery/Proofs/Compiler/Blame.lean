import MapQuery.Proofs.Compiler.Congruence
import MapQuery.Proofs.Token.Operations

/-!
# Failures stand at tokens

A failure with a place is about a token. The places that the compiler knows are those of the tokens that it
has been given, so that each of them is found among the tokens of the query, the end of input included.

* `Tokens.Leaves` — some tokens have been taken from the front, and others are left.
* `Reading.BlamesTokens` — where a program fails at a place, a token stands there.
* `Factory.BlamesTokens`, `Registry.BlamesTokens` — keywords that keep to this; the built-in ones do.
* `Compiler.blamesTokens_factor`, `blamesTokens_query` — so do factors, by induction on the nesting that is
  left, and whole queries.
* `Compiler.exists_stream_of_compile` — the place of a failure in the tokens of a text.
-/

namespace MapQuery

/-! ### Tokens that are left -/

namespace Tokens

variable {s rest rest' : Tokens}

/-- What is left after some tokens have been taken. -/
def Leaves (s rest : Tokens) : Prop :=
  ∃ n, ∀ i, rest.stream i = s.stream (n + i)

theorem Leaves.refl (s : Tokens) : s.Leaves s :=
  ⟨0, fun i => by rw [Nat.zero_add]⟩

theorem Leaves.trans (h : s.Leaves rest) (h' : rest.Leaves rest') : s.Leaves rest' := by
  obtain ⟨n, hn⟩ := h
  obtain ⟨m, hm⟩ := h'
  exact ⟨n + m, fun i => by rw [hm, hn, Nat.add_assoc]⟩

theorem leaves_tail (s : Tokens) : s.Leaves s.tail :=
  ⟨1, fun i => by rw [Nat.add_comm, s.stream_succ]⟩

theorem leaves_accept (s : Tokens) (kind : Token.Kind) : s.Leaves (s.accept kind).2 := by
  unfold accept
  split
  · exact s.leaves_tail
  · exact .refl s

theorem leaves_text? (s : Tokens) : s.Leaves s.text?.2 := by
  unfold text?
  split
  · exact s.leaves_tail
  · exact .refl s

end Tokens

/-- A token that is no number is found where it stands. -/
theorem Token.span_of_number {t : Token} {span : Span} (h : t.number = .error span) : t.span = span := by
  unfold number at h
  split at h
  · cases h
  · cases h
    rfl

/-- A token that is no range is found where it stands. -/
theorem Token.span_of_range {t : Token} {span : Span} (h : t.range = .error span) : t.span = span := by
  unfold range at h
  split at h
  · split at h
    · cases h
    · cases h
      rfl
  · cases h
    rfl

namespace Reading

variable {A B : Type}

theorem leaves_along {p : Reading A} {s rest : Tokens} {a : A} (h : p.along s = .ok (a, rest)) :
    s.Leaves rest := by
  induction p generalizing s with
  | done b =>
    cases h
    exact .refl rest
  | fail e => cases h
  | next go ih => exact s.leaves_tail.trans (ih _ h)
  | accept kind go ih => exact (s.leaves_accept kind).trans (ih _ h)
  | text go ih => exact s.leaves_text?.trans (ih _ h)
  | number go ih => exact s.leaves_tail.trans (ih _ h)
  | range go ih => exact s.leaves_tail.trans (ih _ h)
  | ahead go ih => exact ih _ h

/-! ### Programs -/

/-- Where a program fails at a place, a token in front of it stands there. -/
def BlamesTokens (p : Reading A) : Prop :=
  ∀ (s : Tokens) (e : Failure) (span : Span), p.along s = .error e → e.span? = some span →
    ∃ i, (s.stream i).span = span

theorem blamesTokens_pure (a : A) : BlamesTokens (pure a : Reading A) := by
  intro s e span he
  cases he

theorem blamesTokens_ofExcept {r : Except Failure A} (h : Unplaced r) : (ofExcept r).BlamesTokens := by
  intro s e span he hspan
  cases r with
  | ok a => cases he
  | error e' =>
    cases he
    rw [h e rfl] at hspan
    cases hspan

theorem blamesTokens_fail {e : Failure} (h : e.span? = none) : (fail e : Reading A).BlamesTokens :=
  blamesTokens_ofExcept (unplaced_error h)

/-- One program after another: the tokens that the first one leaves are among those that it was given. -/
theorem BlamesTokens.bind {p : Reading A} {f : A → Reading B} (h : p.BlamesTokens)
    (hf : ∀ a, (f a).BlamesTokens) : (p >>= f).BlamesTokens := by
  intro s e span he hspan
  rw [along_bind] at he
  cases hp : p.along s with
  | error e' =>
    rw [hp] at he
    cases he
    exact h s e span hp hspan
  | ok r =>
    rw [hp] at he
    obtain ⟨i, hi⟩ := hf r.1 r.2 e span he hspan
    obtain ⟨n, hn⟩ := leaves_along hp
    exact ⟨n + i, by rw [← hn, hi]⟩

theorem blamesTokens_takeIf (kind : Token.Kind) : (takeIf kind).BlamesTokens := by
  intro s e span he
  cases he

theorem blamesTokens_takeText : takeText.BlamesTokens := by
  intro s e span he
  cases he

theorem blamesTokens_takeNumber (message : String) : (takeNumber message).BlamesTokens := by
  intro s e span he hspan
  refine ⟨0, ?_⟩
  rw [s.stream_zero]
  change (ofExcept (s.head.number.mapError (.unreadable message))).along s.tail = .error e at he
  cases hnumber : s.head.number with
  | ok n =>
    rw [hnumber] at he
    cases he
  | error place =>
    rw [hnumber] at he
    cases he
    cases hspan
    exact Token.span_of_number hnumber

theorem blamesTokens_takeRange (message : String) : (takeRange message).BlamesTokens := by
  intro s e span he hspan
  refine ⟨0, ?_⟩
  rw [s.stream_zero]
  change (ofExcept (s.head.range.mapError (.unreadable message))).along s.tail = .error e at he
  cases hrange : s.head.range with
  | ok r =>
    rw [hrange] at he
    cases he
  | error place =>
    rw [hrange] at he
    cases he
    cases hspan
    exact Token.span_of_range hrange

/-- A choice by the next token. -/
theorem blamesTokens_choice (kind : Token.Kind) {p p' : Reading A} (h : p.BlamesTokens)
    (h' : p'.BlamesTokens) : (takeIf kind >>= fun isNext => if isNext then p else p').BlamesTokens := by
  refine (blamesTokens_takeIf kind).bind fun isNext => ?_
  split
  · exact h
  · exact h'

/-- Of the next token either a value is made or a failure at its place. -/
theorem blamesTokens_takeNext_bind {f : Token → Reading A}
    (h : ∀ t, (∃ a, f t = .done a) ∨ ∃ e, f t = .fail e ∧ e.span? = some t.span) :
    (takeNext >>= f).BlamesTokens := by
  intro s e span he hspan
  refine ⟨0, ?_⟩
  rw [s.stream_zero]
  change (f s.head).along s.tail = .error e at he
  rcases h s.head with ⟨a, hdone⟩ | ⟨e', hfail, hplace⟩
  · rw [hdone] at he
    cases he
  · rw [hfail] at he
    cases he
    exact Option.some.inj (hplace.symm.trans hspan)

theorem Makes.blamesTokens {p : Reading Query} (h : p.Makes) : p.BlamesTokens := by
  cases h with
  | done h => exact blamesTokens_pure _
  | fail h => exact blamesTokens_fail h

theorem TakesOne.blamesTokens {p : Reading Query} (h : p.TakesOne) : p.BlamesTokens := by
  cases h with
  | text h => exact blamesTokens_takeText.bind fun x => (h x).blamesTokens
  | number message h => exact (blamesTokens_takeNumber message).bind fun x => (h x).blamesTokens
  | range message h => exact (blamesTokens_takeRange message).bind fun x => (h x).blamesTokens

end Reading

open Reading

/-! ### Keywords -/

/-- A keyword that fails without a place, or at the place of a token. -/
def Factory.BlamesTokens : Factory → Prop
  | .simple alone called => ∀ keyword flags,
    Unplaced (alone keyword flags) ∧ (called keyword flags).BlamesTokens
  | .unary alone called => ∀ keyword q, Unplaced (alone keyword q) ∧ (called keyword q).BlamesTokens
  | .binary _ => True

/-- All keywords fail like this. -/
def Registry.BlamesTokens (r : Registry) : Prop :=
  ∀ keyword f, r.get? keyword = some f → f.BlamesTokens

theorem Factory.Basic.blamesTokens {f : Factory} (h : f.Basic) : f.BlamesTokens := by
  cases h with
  | plain h => exact fun _ _ => ⟨unplaced_ok _, blamesTokens_pure _⟩
  | withArgument h => exact fun _ flags => ⟨unplaced_error rfl, (h flags).blamesTokens⟩
  | around h => exact fun _ _ => ⟨unplaced_ok _, blamesTokens_pure _⟩

theorem Registry.blamesTokens_builtin (areas : Areas) (now : Instant) :
    (builtin areas now).BlamesTokens :=
  fun _ _ h => (basic_builtin h).blamesTokens

/-! ### Expressions and factors -/

namespace Compiler

theorem blamesTokens_operator : operator.BlamesTokens :=
  blamesTokens_choice .or (blamesTokens_pure _)
    (blamesTokens_choice .xor (blamesTokens_pure _) (blamesTokens_pure _))

/-- The induction is on the fuel. Where an operator has nothing after it, no place is known. -/
theorem blamesTokens_factors {factor : Reading (Option Query)} (h : factor.BlamesTokens) (fuel : Nat)
    (wanting : Option Operator) (read : List (Query × Operator)) :
    (factors factor fuel wanting read).BlamesTokens := by
  induction fuel generalizing wanting read with
  | zero => exact blamesTokens_pure read
  | succ fuel ih =>
    rw [factors.eq_def]
    refine h.bind fun q => ?_
    cases q with
    | some q => exact blamesTokens_operator.bind fun _ => ih _ _
    | none =>
      cases wanting with
      | some o => exact blamesTokens_fail rfl
      | none => exact blamesTokens_pure read

theorem blamesTokens_expression {factor : Reading (Option Query)} (h : factor.BlamesTokens) (fuel : Nat) :
    (expression factor fuel).BlamesTokens :=
  (blamesTokens_factors h fuel none []).bind fun _ => blamesTokens_pure _

/-- What stands in the place of a closing parenthesis is blamed. -/
theorem blamesTokens_closing (inner : Option Query) : (closing inner).BlamesTokens := by
  refine blamesTokens_takeNext_bind fun t => ?_
  split
  · exact .inl ⟨_, rfl⟩
  · exact .inr ⟨_, rfl, rfl⟩

section

variable {registry : Registry} {flags : Flags} {key : String} {operand : Reading (Option Query)}

theorem blamesTokens_tag (regex : Bool) : (tag flags key regex).BlamesTokens :=
  blamesTokens_takeText.bind fun value =>
    blamesTokens_ofExcept ((TagMatch.unplaced_compile key value regex flags.caseSensitive).map _)

theorem blamesTokens_comparison (c : Comparison) : (comparison key c).BlamesTokens :=
  blamesTokens_takeText.bind fun reference =>
    blamesTokens_ofExcept ((ValueComparison.unplaced_compile key reference c).map _)

theorem blamesTokens_argument (hr : registry.BlamesTokens) (h : operand.BlamesTokens) :
    (argument registry flags key operand).BlamesTokens := by
  unfold argument
  split
  · next alone called hget => exact (hr key _ hget key flags).2
  · next alone called hget => exact h.bind fun q => (hr key _ hget key (q.getD .always)).2
  · refine blamesTokens_takeText.bind fun value => ?_
    cases value with
    | none => exact blamesTokens_ofExcept ((TagMatch.unplaced_compile key _ _ _).map _)
    | some value => exact blamesTokens_ofExcept ((ValueSearch.unplaced_compile key value flags).map _)

theorem blamesTokens_bare (hr : registry.BlamesTokens) (h : operand.BlamesTokens) :
    (bare registry flags key operand).BlamesTokens := by
  unfold bare
  split
  · next alone called hget => exact blamesTokens_ofExcept (hr key _ hget key flags).1
  · next alone called hget =>
    exact h.bind fun q => blamesTokens_ofExcept (hr key _ hget key (q.getD .always)).1
  · exact blamesTokens_ofExcept ((TextSearch.unplaced_compile key flags).map _)

theorem blamesTokens_keyed (hr : registry.BlamesTokens) (h : operand.BlamesTokens) :
    (keyed registry flags key operand).BlamesTokens := by
  refine blamesTokens_choice .equals (blamesTokens_tag _) ?_
  refine blamesTokens_choice .tilde (blamesTokens_tag _) ?_
  refine blamesTokens_choice .lessThan (blamesTokens_comparison _) ?_
  refine blamesTokens_choice .greaterThan (blamesTokens_comparison _) ?_
  refine blamesTokens_choice .colon (blamesTokens_argument hr h) ?_
  exact blamesTokens_choice .questionMark (blamesTokens_pure _) (blamesTokens_bare hr h)

/-- The induction is on the nesting that is left. -/
theorem blamesTokens_factor (hr : registry.BlamesTokens) (fuel nest : Nat) :
    (factor registry flags fuel nest).BlamesTokens := by
  induction nest with
  | zero => exact blamesTokens_fail rfl
  | succ nest ih =>
    rw [factor]
    refine blamesTokens_choice .leftParen ?_ (blamesTokens_choice .not ?_ ?_)
    · exact (blamesTokens_expression ih fuel).bind blamesTokens_closing
    · refine ih.bind fun q => ?_
      cases q with
      | some q => exact blamesTokens_pure _
      | none => exact blamesTokens_fail rfl
    · refine blamesTokens_takeText.bind fun key => ?_
      cases key with
      | some key => exact (blamesTokens_keyed hr ih).bind fun _ => blamesTokens_pure _
      | none => exact blamesTokens_pure _

/-- What is left over after a query is blamed. -/
theorem blamesTokens_query (hr : registry.BlamesTokens) (fuel : Nat) :
    (query registry flags fuel).BlamesTokens := by
  refine (blamesTokens_expression (blamesTokens_factor hr fuel nestingLimit) fuel).bind fun q => ?_
  refine blamesTokens_takeNext_bind fun t => ?_
  split
  · exact .inl ⟨_, rfl⟩
  · exact .inr ⟨_, rfl, rfl⟩

end

/-- The place of a failure is the place of a token of the text, or of the end of input. -/
theorem exists_stream_of_compile {registry : Registry} {flags : Flags} {text : String} {e : Failure}
    {span : Span} (hr : registry.BlamesTokens) (h : Query.compile registry flags text = .error e)
    (hspan : e.span? = some span) : ∃ i, ((Tokens.ofText text).stream i).span = span := by
  have hrun := run_eq_along (query registry flags (text.length + 1)) (Tokenizer.faces_ofText text)
  rw [← Query.compile, h] at hrun
  cases halong : (query registry flags (text.length + 1)).along (.ofText text) with
  | ok r =>
    rw [halong] at hrun
    cases hrun
  | error e' =>
    rw [halong] at hrun
    cases hrun
    exact blamesTokens_query hr _ _ _ _ halong hspan

end Compiler

end MapQuery

import MapQuery.Compiler.Basic
import MapQuery.Proofs.Compiler.Keywords

/-!
# Compiled queries are shallow

A query is compiled with a limit on the nesting of its factors, and there is none on their number. What
comes out has a rank within the limit, however long the text is.

* `Reading.Gives` — every value of a program has a property, whatever the tokens are.
* `Factory.AddsOneRank`, `Registry.AddsOneRank` — keywords that add one to the rank of their operand at
  most; the built-in ones are such keywords.
* `Compiler.gives_expression`, `Compiler.gives_factor` — what an expression and a factor give, the latter by
  induction on the nesting that is left.
* `Compiler.rank_compile_le` — the rank of a compiled query.
-/

namespace MapQuery

/-! ### Values of programs -/

namespace Reading

variable {A B : Type}

/-- Every value that a program can give has a property. -/
def Gives (Good : A → Prop) : Reading A → Prop
  | done a => Good a
  | fail _ => True
  | next go => ∀ x, (go x).Gives Good
  | accept _ go => ∀ x, (go x).Gives Good
  | text go => ∀ x, (go x).Gives Good
  | number go => ∀ x, (go x).Gives Good
  | range go => ∀ x, (go x).Gives Good
  | ahead go => ∀ s, (go s).Gives Good

variable {Good : A → Prop} {Good' : B → Prop}

/-- One program after another. -/
theorem Gives.bind {p : Reading A} {f : A → Reading B} (h : p.Gives Good)
    (hf : ∀ a, Good a → (f a).Gives Good') : (p >>= f).Gives Good' := by
  show (p.bind f).Gives Good'
  induction p with
  | done a => exact hf a h
  | fail e => trivial
  | next go ih => exact fun x => ih x (h x)
  | accept kind go ih => exact fun x => ih x (h x)
  | text go ih => exact fun x => ih x (h x)
  | number go ih => exact fun x => ih x (h x)
  | range go ih => exact fun x => ih x (h x)
  | ahead go ih => exact fun s => ih s (h s)

/-- A weaker property. -/
theorem Gives.mono {Weaker : A → Prop} {p : Reading A} (h : p.Gives Good)
    (hweaker : ∀ a, Good a → Weaker a) : p.Gives Weaker := by
  induction p with
  | done a => exact hweaker a h
  | fail e => trivial
  | next go ih => exact fun x => ih x (h x)
  | accept kind go ih => exact fun x => ih x (h x)
  | text go ih => exact fun x => ih x (h x)
  | number go ih => exact fun x => ih x (h x)
  | range go ih => exact fun x => ih x (h x)
  | ahead go ih => exact fun s => ih s (h s)

theorem gives_true (p : Reading A) : p.Gives fun _ => True := by
  induction p with
  | done a => trivial
  | fail e => trivial
  | next go ih => exact ih
  | accept kind go ih => exact ih
  | text go ih => exact ih
  | number go ih => exact ih
  | range go ih => exact ih
  | ahead go ih => exact ih

/-- A program after one whose value does not matter. -/
theorem gives_bind {p : Reading A} {f : A → Reading B} (hf : ∀ a, (f a).Gives Good') :
    (p >>= f).Gives Good' :=
  p.gives_true.bind fun a _ => hf a

/-- A choice by the next token. -/
theorem gives_choice (kind : Token.Kind) {p p' : Reading A} (h : p.Gives Good) (h' : p'.Gives Good) :
    (takeIf kind >>= fun isNext => if isNext then p else p').Gives Good := by
  refine gives_bind fun isNext => ?_
  split
  · exact h
  · exact h'

theorem gives_ofExcept {r : Except Failure A} (h : ∀ a, r = .ok a → Good a) :
    (ofExcept r).Gives Good := by
  cases r with
  | ok a => exact h a rfl
  | error e => trivial

theorem gives_ofExcept_map {r : Except Failure A} {f : A → B} (h : ∀ a, Good' (f a)) :
    (ofExcept (f <$> r)).Gives Good' := by
  cases r with
  | ok a => exact h a
  | error e => trivial

/-- What a program gives with a token reader has the property. -/
theorem Gives.of_run {p : Reading A} (h : p.Gives Good) {t t' : Tokenizer} {a : A}
    (hrun : p.run t = .ok (a, t')) : Good a := by
  induction p generalizing t with
  | done b =>
    cases hrun
    exact h
  | fail e => cases hrun
  | next go ih => exact ih _ (h _) hrun
  | accept kind go ih => exact ih _ (h _) hrun
  | text go ih => exact ih _ (h _) hrun
  | number go ih => exact ih _ (h _) hrun
  | range go ih => exact ih _ (h _) hrun
  | ahead go ih => exact ih _ (h _) hrun

end Reading

/-! ### Keywords -/

/-- A keyword that gives a query of no rank, or adds one to the rank of its operand at most. -/
def Factory.AddsOneRank : Factory → Prop
  | .simple alone called => ∀ keyword flags,
    (∀ q, alone keyword flags = .ok q → q.rank = 0) ∧
      (called keyword flags).Gives fun q => q.rank = 0
  | .unary alone called => ∀ keyword operand,
    (∀ q, alone keyword operand = .ok q → q.rank ≤ operand.rank + 1) ∧
      (called keyword operand).Gives fun q => q.rank ≤ operand.rank + 1
  | .binary _ => True

/-- No keyword adds more than one to the rank of its operand. -/
def Registry.AddsOneRank (r : Registry) : Prop :=
  ∀ keyword f, r.get? keyword = some f → f.AddsOneRank

theorem Reading.Makes.gives {p : Reading Query} (h : p.Makes) : p.Gives fun q => q.rank = 0 := by
  cases h with
  | done h => exact h
  | fail h => trivial

theorem Reading.TakesOne.gives {p : Reading Query} (h : p.TakesOne) : p.Gives fun q => q.rank = 0 := by
  cases h with
  | text h => exact gives_bind fun x => (h x).gives
  | number message h => exact gives_bind fun x => (h x).gives
  | range message h => exact gives_bind fun x => (h x).gives

theorem Factory.Basic.addsOneRank {f : Factory} (h : f.Basic) : f.AddsOneRank := by
  cases h with
  | plain h =>
    refine fun keyword flags => ⟨fun q hq => ?_, h⟩
    cases hq
    exact h
  | withArgument h =>
    refine fun keyword flags => ⟨fun q hq => ?_, (h flags).gives⟩
    cases hq
  | around h =>
    refine fun keyword operand => ⟨fun q hq => ?_, Nat.le_of_eq (h operand)⟩
    cases hq
    exact Nat.le_of_eq (h operand)

theorem Registry.addsOneRank_builtin (areas : Areas) (now : Instant) :
    (builtin areas now).AddsOneRank :=
  fun _ _ h => (basic_builtin h).addsOneRank

/-! ### Expressions and factors -/

namespace Compiler

open Reading

variable {rank : Nat}

/-- Factors of a rank below a bound are joined to a query within the bound: the last one keeps its rank, and
the others add one to theirs. -/
theorem rank_joined_le {read : List (Query × Operator)} (h : ∀ r ∈ read, r.1.rank < rank) :
    ((joined read).getD .always).rank ≤ rank := by
  cases read with
  | nil => exact Nat.zero_le _
  | cons last before =>
    obtain ⟨hlast, hbefore⟩ := List.forall_mem_cons.1 h
    show (before.foldl (fun right left => .join left.2 left.1 right) last.1).rank ≤ rank
    -- The last factor need not stay below the bound: the induction carries a right operand within it.
    have hright : last.1.rank ≤ rank := Nat.le_of_lt hlast
    clear hlast h
    generalize last.1 = right at hright
    induction before generalizing right with
    | nil => exact hright
    | cons left before ih =>
      obtain ⟨hleft, hbefore⟩ := List.forall_mem_cons.1 hbefore
      exact ih hbefore _ (Nat.max_le.2 ⟨hleft, hright⟩)

/-- The induction is on the fuel, for all factors that have been read before. -/
theorem gives_factors {factor : Reading (Option Query)}
    (h : factor.Gives fun q => (q.getD .always).rank < rank) (fuel : Nat) (wanting : Option Operator)
    {read : List (Query × Operator)} (hread : ∀ r ∈ read, r.1.rank < rank) :
    (factors factor fuel wanting read).Gives fun read => ∀ r ∈ read, r.1.rank < rank := by
  induction fuel generalizing wanting read with
  | zero => exact hread
  | succ fuel ih =>
    rw [factors.eq_def]
    refine h.bind fun q hq => ?_
    cases q with
    | some q => exact gives_bind fun _ => ih _ (List.forall_mem_cons.2 ⟨hq, hread⟩)
    | none =>
      cases wanting with
      | some o => trivial
      | none => exact hread

theorem gives_expression {factor : Reading (Option Query)}
    (h : factor.Gives fun q => (q.getD .always).rank < rank) (fuel : Nat) :
    (expression factor fuel).Gives fun q => (q.getD .always).rank ≤ rank :=
  (gives_factors h fuel none (List.forall_mem_nil _)).bind fun _ hread => rank_joined_le hread

section

variable {registry : Registry} {flags : Flags} {key : String} {operand : Reading (Option Query)}

theorem gives_tag (regex : Bool) : (tag flags key regex).Gives fun q => q.rank ≤ rank :=
  gives_bind fun _ => gives_ofExcept_map fun _ => Nat.zero_le rank

theorem gives_comparison (c : Comparison) : (comparison key c).Gives fun q => q.rank ≤ rank :=
  gives_bind fun _ => gives_ofExcept_map fun _ => Nat.zero_le rank

theorem gives_argument (hr : registry.AddsOneRank)
    (h : operand.Gives fun q => (q.getD .always).rank < rank) :
    (argument registry flags key operand).Gives fun q => q.rank ≤ rank := by
  unfold argument
  split
  · next alone called hget =>
    exact (hr key _ hget key flags).2.mono fun q hq => hq ▸ Nat.zero_le rank
  · next alone called hget =>
    refine h.bind fun q hq => ?_
    exact (hr key _ hget key (q.getD .always)).2.mono fun _ hle => Nat.le_trans hle hq
  · refine gives_bind fun value => ?_
    cases value with
    | none => exact gives_ofExcept_map fun _ => Nat.zero_le rank
    | some value => exact gives_ofExcept_map fun _ => Nat.zero_le rank

theorem gives_bare (hr : registry.AddsOneRank)
    (h : operand.Gives fun q => (q.getD .always).rank < rank) :
    (bare registry flags key operand).Gives fun q => q.rank ≤ rank := by
  unfold bare
  split
  · next alone called hget =>
    exact gives_ofExcept fun q hq => (hr key _ hget key flags).1 q hq ▸ Nat.zero_le rank
  · next alone called hget =>
    refine h.bind fun q hq => gives_ofExcept fun wrapped hwrapped => ?_
    exact Nat.le_trans ((hr key _ hget key (q.getD .always)).1 wrapped hwrapped) hq
  · exact gives_ofExcept_map fun _ => Nat.zero_le rank

/-- What begins with a key is within the bound where the operand is below it. -/
theorem gives_keyed (hr : registry.AddsOneRank)
    (h : operand.Gives fun q => (q.getD .always).rank < rank) :
    (keyed registry flags key operand).Gives fun q => q.rank ≤ rank := by
  refine gives_choice .equals (gives_tag _) ?_
  refine gives_choice .tilde (gives_tag _) ?_
  refine gives_choice .lessThan (gives_comparison _) ?_
  refine gives_choice .greaterThan (gives_comparison _) ?_
  refine gives_choice .colon (gives_argument hr h) ?_
  exact gives_choice .questionMark (Nat.zero_le rank) (gives_bare hr h)

/-- A factor has a rank below the nesting that is left, and where there is no factor some nesting is left.
The induction is on this nesting. -/
theorem gives_factor (hr : registry.AddsOneRank) (fuel nest : Nat) :
    (factor registry flags fuel nest).Gives fun q => (q.getD .always).rank < nest := by
  induction nest with
  | zero => trivial
  | succ nest ih =>
    rw [factor]
    refine gives_choice .leftParen ?_ (gives_choice .not ?_ ?_)
    · refine (gives_expression ih fuel).bind fun inner hinner => gives_bind fun token => ?_
      split
      · exact Nat.lt_succ_of_le hinner
      · trivial
    · refine ih.bind fun q hq => ?_
      cases q with
      | some q => exact Nat.succ_lt_succ hq
      | none => trivial
    · refine gives_bind fun key => ?_
      cases key with
      | some key => exact (gives_keyed hr ih).bind fun q hq => Nat.lt_succ_of_le hq
      | none => exact Nat.succ_pos nest

theorem gives_query (hr : registry.AddsOneRank) (fuel : Nat) :
    (query registry flags fuel).Gives fun q => q.rank ≤ nestingLimit := by
  refine (gives_expression (gives_factor hr fuel nestingLimit) fuel).bind fun q hq => ?_
  refine gives_bind fun token => ?_
  split
  · exact hq
  · trivial

end

/-- A query that is compiled with the built-in keywords is shallow, whatever the length of its text: its
rank is within the limit of nesting, and it can be evaluated on every primitive with calls that go no
deeper than the limit. -/
theorem rank_compile_le {areas : Areas} {now : Instant} {flags : Flags} {text : String} {q : Query}
    (h : Query.compile (.builtin areas now) flags text = .ok q) :
    q.rank ≤ nestingLimit ∧
      ∀ {P : Type} [Primitive P] (p : P), q.walkWithin nestingLimit false p = some (q.holds p) := by
  have hrank : q.rank ≤ nestingLimit := by
    unfold Query.compile at h
    cases hrun : (query (.builtin areas now) flags (text.length + 1)).run (.ofText text) with
    | error e =>
      rw [hrun] at h
      cases h
    | ok r =>
      rw [hrun] at h
      cases h
      exact (gives_query (Registry.addsOneRank_builtin areas now) _).of_run hrun
  exact ⟨hrank, fun p => q.walkWithin_eq hrank false p⟩

/-- A query with operators and with queries about the primitives around. -/
theorem rank_compile_le_nested :
    ∃ q, Query.compile (.builtin default default) default "-parent(child new | closed) new" = .ok q ∧
      q.rank = 5 ∧ q.rank ≤ nestingLimit := by
  have h : Query.compile (.builtin default default) default "-parent(child new | closed) new" =
      .ok (.join .and
        (.not (.parent (.join .or (.child (.state .new)) (.state .closed)))) (.state .new)) := by
    with_unfolding_all rfl
  exact ⟨_, h, rfl, (rank_compile_le h).1⟩

end Compiler

end MapQuery

import MapQuery.Proofs.Compiler.Places

/-!
# Queries are read by the kinds of their tokens

A query is read as the grammar says, whatever its keywords do with the tokens that are left. Where what the
keywords make of these depends on their kinds, as it does with the built-in ones, and their places go into
failures only, so it is with queries: what a text means depends on the kinds of its tokens.

* `Complaint` — why an argument is refused, and at which place.
* `KindFactory` — a keyword that makes of the tokens what their kinds say; `KindFactory.toFactory` as a factory.
* `Registry.Initial` — a registry before the first call.
* `Registry.ignoresPlaces_keptAfter` — such keywords do not look at places, however many are registered.
* `Compiler.compile_follows_grammar` — what is compiled from a text.
-/

namespace MapQuery

/-! ### Keywords that go by kinds -/

/-- Why an argument is refused, in the words of the host. The place is found among those of the tokens. -/
structure Complaint where
  message : String
  cause : Option Failure.Cause
  place : Tokens → Option Span

/-- What a complaint says of the tokens that are left. -/
def Complaint.failure (c : Complaint) (s : Tokens) : Failure :=
  .refused c.message (c.place s) c.cause

namespace Reading

variable {A : Type}

/-- A function of the kinds of the tokens that are left, which gives a value and says how many of them it has
taken. -/
def ofKinds (f : List Token.Kind → Except Complaint (A × Nat)) : Reading A :=
  ofFunction fun s => (f s.kinds).mapError (·.failure s)

theorem ignoresPlaces_ofKinds (f : List Token.Kind → Except Complaint (A × Nat)) :
    (ofKinds f).IgnoresPlaces := by
  refine ignoresPlaces_ofFunction fun s s' h => ?_
  rw [h]
  cases f s'.kinds <;> rfl

end Reading

/-- What a keyword of the host stands for. An argument is any function of the kinds of the tokens that are left,
so that it may be as long as the tokens are. -/
inductive KindFactory where
  | simple (alone : String → Flags → Except Failure Query)
    (called : String → Flags → List Token.Kind → Except Complaint (Query × Nat))
  | unary (alone : String → Query → Except Failure Query)
    (called : String → Query → List Token.Kind → Except Complaint (Query × Nat))
  | binary (join : String → Query → Query → Except Failure Query)

/-- The factory of a keyword that goes by kinds. -/
def KindFactory.toFactory : KindFactory → Factory
  | simple alone called => .simple alone fun keyword flags => .ofKinds (called keyword flags)
  | unary alone called => .unary alone fun keyword q => .ofKinds (called keyword q)
  | binary join => .binary join

theorem KindFactory.ignoresPlaces_toFactory (f : KindFactory) : f.toFactory.IgnoresPlaces := by
  cases f with
  | simple alone called => exact fun keyword flags => Reading.ignoresPlaces_ofKinds _
  | unary alone called => exact fun keyword q => Reading.ignoresPlaces_ofKinds _
  | binary join => trivial

/-! ### Registries of them -/

namespace Registry

/-- A registry before the first call: without keywords, or with the built-in ones. -/
inductive Initial : Registry → Prop
  | empty : Initial .empty
  | builtin (areas : Areas) (now : Instant) : Initial (.builtin areas now)

variable {r : Registry}

theorem Initial.ignoresPlaces (h : r.Initial) : r.IgnoresPlaces := by
  cases h with
  | empty =>
    intro keyword f hf
    rw [get?_empty] at hf
    cases hf
  | builtin areas now => exact ignoresPlaces_builtin areas now

/-- A call leaves no keyword that looks at places, whether it is refused or not. -/
theorem IgnoresPlaces.run_registering (h : r.IgnoresPlaces) (keywords : List String) {f : Factory}
    (hf : f.IgnoresPlaces) : ((registering keywords f).run r).2.IgnoresPlaces := by
  rw [Registry.run_registering]
  cases hr : r.register keywords f with
  | ok r' => exact h.register hf hr
  | error e => exact h

/-- Nor do several calls. -/
theorem ignoresPlaces_keptAfter (h : r.IgnoresPlaces) (calls : List (List String × KindFactory)) :
    (r.keptAfter (calls.map fun (keywords, f) => (keywords, f.toFactory))).IgnoresPlaces := by
  induction calls generalizing r with
  | nil => exact h
  | cons call calls ih => exact ih (h.run_registering call.1 call.2.ignoresPlaces_toFactory)

end Registry

/-! ### Queries -/

namespace Compiler

/-- A query is compiled as the grammar reads the tokens of its text, whatever keywords are registered: it gives the
query of the grammar, or its failure with the same wording, finding and place. Where keywords that go by the kinds
of tokens are registered with the built-in ones or without them, only the kinds of the tokens of the text count:
another text with tokens of the same kinds gives the same query, or the same failure at its own place. -/
theorem compile_follows_grammar (registry : Registry) (flags : Flags) (text : String) :
    Query.compile registry flags text = Grammar.query registry flags (.ofText text) ∧
      ∀ (first : Registry) (calls : List (List String × KindFactory)), first.Initial →
        registry = first.keptAfter (calls.map fun (keywords, f) => (keywords, f.toFactory)) →
        ∀ other : String, (Tokens.ofText text).kinds = (Tokens.ofText other).kinds →
          (Query.compile registry flags text).mapError Failure.withoutPlace =
            (Query.compile registry flags other).mapError Failure.withoutPlace := by
  refine ⟨compile_eq_query registry flags text, ?_⟩
  rintro first calls hfirst rfl other h
  exact compile_congr_kinds (Registry.ignoresPlaces_keptAfter hfirst.ignoresPlaces calls) flags h

/-- The texts of the keys that stand next, as far as these go. -/
def keysAhead : List Token.Kind → List String
  | .key k :: kinds => k.text :: keysAhead kinds
  | _ => []

/-- A keyword that takes all keys after its colon is registered, and reads as many of them as there are. Two texts
with it have tokens that differ in their places only; a parenthesis is not closed, which is found at the end of each
text. -/
theorem compile_follows_grammar_unclosed :
    let anyOf : KindFactory := .simple (fun keyword _ => .error (.colonNeeded keyword)) fun _ _ kinds =>
      .ok ((keysAhead kinds).foldr (fun key q => .join .or (.booleanTag key false) q) .never,
        (keysAhead kinds).length)
    let registry := (Registry.builtin default default).keptAfter [(["anyof"], anyOf.toFactory)]
    (Tokens.ofText "(anyof:a b c").kinds = (Tokens.ofText " ( anyof : a  b c ").kinds ∧
      Query.compile registry default "(anyof:a b c" = .error (.expected .rightParen ⟨.eof, ⟨12, 12⟩⟩) ∧
      (Query.compile registry default "(anyof:a b c").mapError Failure.withoutPlace =
        (Query.compile registry default " ( anyof : a  b c ").mapError Failure.withoutPlace := by
  intro anyOf registry
  have hkinds : (Tokens.ofText "(anyof:a b c").kinds = (Tokens.ofText " ( anyof : a  b c ").kinds := by
    decide +kernel
  have hspec := compile_follows_grammar registry default "(anyof:a b c"
  refine ⟨hkinds, ?_, hspec.2 _ [(["anyof"], anyOf)] (.builtin default default) rfl _ hkinds⟩
  with_unfolding_all rfl

end Compiler

end MapQuery

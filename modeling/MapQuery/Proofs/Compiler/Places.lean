import MapQuery.Proofs.Compiler.Agreement
import MapQuery.Proofs.Compiler.Congruence
import MapQuery.Proofs.Compiler.Registry

/-!
# Places matter to failures only

What a query means is decided by the kinds of its tokens. The places of the tokens go into failures, and
into nothing else, as long as the registered keywords keep to this.

* `Failure.withoutPlace` — a failure whatever its place.
* `Reading.Alike` — two programs that do the same with tokens of the same kinds.
* `Factory.IgnoresPlaces`, `Registry.IgnoresPlaces` — keywords that do not look at places.
  `Registry.ignoresPlaces_builtin` and `Registry.IgnoresPlaces.register` — the built-in ones are such
  keywords, and registering more of them keeps this.
* `Compiler.query_congr`, `Compiler.compile_congr_kinds` — of the tokens of a query only the kinds count.
-/

namespace MapQuery

/-! ### Failures -/

namespace Failure

/-- A failure whatever its place. -/
def withoutPlace : Failure → Failure
  | expected kind found => expected kind ⟨found.kind, default⟩
  | leftover found => leftover ⟨found.kind, default⟩
  | unreadable message _ => unreadable message default
  | refused message _ cause => refused message none cause
  | e => e

/-- Without its place a failure keeps its wording. -/
theorem message_withoutPlace (e : Failure) : e.withoutPlace.message = e.message := by
  cases e <;> rfl

/-- Without its place a failure keeps what is behind it. -/
theorem cause?_withoutPlace (e : Failure) : e.withoutPlace.cause? = e.cause? := by
  cases e <;> rfl

end Failure

/-! ### Lists of tokens -/

namespace Tokens

variable {s s' : Tokens}

theorem kind_head_congr (h : s.kinds = s'.kinds) : s.head.kind = s'.head.kind := by
  obtain ⟨list, stop⟩ := s
  obtain ⟨list', stop'⟩ := s'
  cases list with
  | nil =>
    cases list' with
    | nil => rfl
    | cons t' list' => cases h
  | cons t list =>
    cases list' with
    | nil => cases h
    | cons t' list' => exact (List.cons.inj h).1

theorem kinds_tail_congr (h : s.kinds = s'.kinds) : s.tail.kinds = s'.tail.kinds := by
  show s.list.tail.map Token.kind = s'.list.tail.map Token.kind
  rw [List.map_tail, List.map_tail]
  exact congrArg List.tail h

end Tokens

namespace Token

variable {x y : Token}

theorem text?_congr (h : x.kind = y.kind) : x.text? = y.text? := by
  unfold text?
  rw [h]

theorem number_congr (h : x.kind = y.kind) : x.number.toOption = y.number.toOption := by
  unfold number
  rw [h]
  split <;> rfl

theorem range_congr (h : x.kind = y.kind) : x.range.toOption = y.range.toOption := by
  unfold range
  rw [h]
  cases y.kind with
  | key k =>
    dsimp only
    cases Tokenizer.rangeOf? k <;> rfl
  | _ => rfl

end Token

/-! ### Programs -/

namespace Reading

variable {A B : Type}

/-- Two programs that do the same with tokens of the same kinds, but for the places in their failures. -/
inductive Alike : Reading A → Reading A → Prop where
  | done (a : A) : Alike (done a) (done a)
  | fail {e e' : Failure} (h : e.withoutPlace = e'.withoutPlace) : Alike (fail e) (fail e')
  | next {go go' : Token → Reading A} (h : ∀ x y, x.kind = y.kind → Alike (go x) (go' y)) :
    Alike (next go) (next go')
  | accept (kind : Token.Kind) {go go' : Bool → Reading A} (h : ∀ b, Alike (go b) (go' b)) :
    Alike (accept kind go) (accept kind go')
  | text {go go' : Option String → Reading A} (h : ∀ x, Alike (go x) (go' x)) :
    Alike (text go) (text go')
  | number {go go' : Except Span Int → Reading A}
    (h : ∀ x y, x.toOption = y.toOption → Alike (go x) (go' y)) : Alike (number go) (number go')
  | range {go go' : Except Span Range → Reading A}
    (h : ∀ x y, x.toOption = y.toOption → Alike (go x) (go' y)) : Alike (range go) (range go')
  | ahead {go go' : Tokens → Reading A} (h : ∀ s s', s.kinds = s'.kinds → Alike (go s) (go' s')) :
    Alike (ahead go) (ahead go')

/-- A program to which the places of tokens do not matter. -/
def IgnoresPlaces (p : Reading A) : Prop :=
  p.Alike p

/-- One program after another. -/
theorem Alike.bind {p p' : Reading A} {f f' : A → Reading B} (h : p.Alike p')
    (hf : ∀ a, (f a).Alike (f' a)) : (p >>= f).Alike (p' >>= f') := by
  show (p.bind f).Alike (p'.bind f')
  induction h with
  | done a => exact hf a
  | fail h => exact .fail h
  | next _ ih => exact .next ih
  | accept kind _ ih => exact .accept kind ih
  | text _ ih => exact .text ih
  | number _ ih => exact .number ih
  | range _ ih => exact .range ih
  | ahead _ ih => exact .ahead ih

/-- Programs that are alike give the same, but for the places of failures. The induction is on the two
programs at once. -/
theorem Alike.along {p p' : Reading A} (h : p.Alike p') {s s' : Tokens} (hs : s.kinds = s'.kinds) :
    ((p.along s).map Prod.fst).mapError Failure.withoutPlace =
      ((p'.along s').map Prod.fst).mapError Failure.withoutPlace := by
  induction h generalizing s s' with
  | done a => rfl
  | fail h => exact congrArg Except.error h
  | next _ ih => exact ih _ _ (Tokens.kind_head_congr hs) (Tokens.kinds_tail_congr hs)
  | accept kind _ ih =>
    rw [Reading.along, Reading.along]
    unfold Tokens.accept
    rw [Tokens.kind_head_congr hs]
    split
    · exact ih true (Tokens.kinds_tail_congr hs)
    · exact ih false hs
  | text _ ih =>
    rw [Reading.along, Reading.along]
    unfold Tokens.text?
    rw [Token.text?_congr (Tokens.kind_head_congr hs)]
    split
    · exact ih _ (Tokens.kinds_tail_congr hs)
    · exact ih none hs
  | number _ ih =>
    exact ih _ _ (Token.number_congr (Tokens.kind_head_congr hs)) (Tokens.kinds_tail_congr hs)
  | range _ ih =>
    exact ih _ _ (Token.range_congr (Tokens.kind_head_congr hs)) (Tokens.kinds_tail_congr hs)
  | ahead _ ih => exact ih _ _ hs hs

/-- A program that goes on with the next token, and looks only at its kind. -/
theorem Alike.bind_takeNext {f f' : Token → Reading A}
    (h : ∀ x y, x.kind = y.kind → (f x).Alike (f' y)) : (takeNext >>= f).Alike (takeNext >>= f') :=
  .next h

/-- Values that are failures at most at different places. -/
theorem alike_ofExcept {x y : Except Failure A}
    (h : x.mapError Failure.withoutPlace = y.mapError Failure.withoutPlace) :
    (ofExcept x).Alike (ofExcept y) := by
  cases x with
  | error e =>
    cases y with
    | error e' => exact .fail (Except.error.inj h)
    | ok b => cases h
  | ok a =>
    cases y with
    | error e' => cases h
    | ok b =>
      cases h
      exact .done a

/-- A reading that failed at one place has failed at any other one. -/
theorem alike_ofExcept_mapError (message : String) {x y : Except Span A}
    (h : x.toOption = y.toOption) :
    (ofExcept (x.mapError (.unreadable message))).Alike
      (ofExcept (y.mapError (.unreadable message))) := by
  refine alike_ofExcept ?_
  cases x with
  | error span =>
    cases y with
    | error span' => rfl
    | ok b => cases h
  | ok a =>
    cases y with
    | error span' => cases h
    | ok b => exact congrArg Except.ok (Option.some.inj h)

/-- Taking tokens without a look at them. -/
theorem alike_skip (n : Nat) : (skip n).Alike (skip n) := by
  induction n with
  | zero => exact .done ()
  | succ n ih => exact .next fun _ _ _ => ih

/-- A function that makes the same of tokens of the same kinds, but for the places in its failures. -/
theorem ignoresPlaces_ofFunction {f : Tokens → Except Failure (A × Nat)}
    (h : ∀ s s', s.kinds = s'.kinds →
      (f s).mapError Failure.withoutPlace = (f s').mapError Failure.withoutPlace) :
    (ofFunction f).IgnoresPlaces :=
  .ahead fun s s' hs => (alike_ofExcept (h s s' hs)).bind fun r => (alike_skip r.2).bind fun _ => .done r.1

/-- The next token goes into the failure where it is no closing parenthesis. -/
theorem alike_closing (inner : Option Query) :
    (Compiler.closing inner).Alike (Compiler.closing inner) := by
  refine Alike.bind_takeNext fun x y hkind => ?_
  rw [hkind]
  split
  · exact .done _
  · refine .fail ?_
    show Failure.expected .rightParen ⟨x.kind, default⟩ = .expected .rightParen ⟨y.kind, default⟩
    rw [hkind]

theorem isCongruence_alike : IsCongruence Alike where
  pure := .done
  fail _ := .fail rfl
  bind h hf := h.bind hf
  takeIf _ _ := .accept _ .done
  takeText := .text .done
  takeNumber message := .number fun _ _ h => alike_ofExcept_mapError message h
  takeRange message := .range fun _ _ h => alike_ofExcept_mapError message h
  closing := alike_closing

end Reading

/-! ### Keywords -/

/-- A keyword whose argument is read without a look at places. -/
def Factory.IgnoresPlaces : Factory → Prop
  | .simple _ called => ∀ keyword flags, (called keyword flags).IgnoresPlaces
  | .unary _ called => ∀ keyword q, (called keyword q).IgnoresPlaces
  | .binary _ => True

theorem Factory.ignoresPlaces_iff {f : Factory} : f.IgnoresPlaces ↔ f.Respects Reading.Alike := by
  cases f <;> exact Iff.rfl

namespace Registry

/-- No keyword looks at places. -/
def IgnoresPlaces (r : Registry) : Prop :=
  ∀ keyword f, r.get? keyword = some f → f.IgnoresPlaces

variable {r : Registry} {f : Factory}

theorem IgnoresPlaces.insert (h : r.IgnoresPlaces) (hf : f.IgnoresPlaces) (keyword : String) :
    (r.insert keyword f).IgnoresPlaces := by
  intro other g hg
  rw [get?_insert] at hg
  split at hg
  · cases hg
    exact hf
  · exact h other g hg

theorem IgnoresPlaces.insertAll (h : r.IgnoresPlaces) (hf : f.IgnoresPlaces) (keywords : List String) :
    (r.insertAll keywords f).IgnoresPlaces := by
  unfold Registry.insertAll
  induction keywords generalizing r with
  | nil => exact h
  | cons keyword keywords ih => exact ih (h.insert hf keyword)

/-- Registering keywords that do not look at places. -/
theorem IgnoresPlaces.register {keywords : List String} {r' : Registry} (h : r.IgnoresPlaces)
    (hf : f.IgnoresPlaces) (hr : r.register keywords f = .ok r') : r'.IgnoresPlaces := by
  obtain ⟨_, rfl⟩ := register_eq_ok.mp hr
  exact h.insertAll hf keywords

theorem IgnoresPlaces.respects (h : r.IgnoresPlaces) : r.Respects Reading.Alike :=
  fun keyword f hf => Factory.ignoresPlaces_iff.1 (h keyword f hf)

/-- The built-in keywords do not look at places. -/
theorem ignoresPlaces_builtin (areas : Areas) (now : Instant) : (builtin areas now).IgnoresPlaces :=
  fun keyword f hf =>
    Factory.ignoresPlaces_iff.2 (respects_builtin Reading.isCongruence_alike areas now keyword f hf)

end Registry

/-! ### Queries -/

namespace Compiler

open Reading

theorem ignoresPlaces_query {registry : Registry} (hr : registry.IgnoresPlaces) (flags : Flags)
    (fuel : Nat) : (query registry flags fuel).IgnoresPlaces := by
  have hfactor : (factor registry flags fuel nestingLimit).IgnoresPlaces :=
    isCongruence_alike.factor hr.respects fuel nestingLimit
  refine (isCongruence_alike.expression hfactor fuel).bind fun q => ?_
  refine Alike.bind_takeNext fun x y hkind => ?_
  rw [hkind]
  split
  · exact .done _
  · refine .fail ?_
    show Failure.leftover ⟨x.kind, default⟩ = .leftover ⟨y.kind, default⟩
    rw [hkind]

/-- The grammar does not look at places where the keywords do not. -/
theorem query_congr {registry : Registry} (hr : registry.IgnoresPlaces) (flags : Flags) {s s' : Tokens}
    (h : s.kinds = s'.kinds) :
    (Grammar.query registry flags s).mapError Failure.withoutPlace =
      (Grammar.query registry flags s').mapError Failure.withoutPlace := by
  have hlt : s.size < s.size + s'.size + 1 := by omega
  have hlt' : s'.size < s.size + s'.size + 1 := by omega
  rw [← along_query registry flags s hlt, ← along_query registry flags s' hlt']
  exact (ignoresPlaces_query hr flags _).along h

/-- Of the tokens of a text only the kinds count, where the keywords do not look at places. -/
theorem compile_congr_kinds {registry : Registry} (hr : registry.IgnoresPlaces) (flags : Flags)
    {text other : String} (h : (Tokens.ofText text).kinds = (Tokens.ofText other).kinds) :
    (Query.compile registry flags text).mapError Failure.withoutPlace =
      (Query.compile registry flags other).mapError Failure.withoutPlace := by
  rw [compile_eq_query, compile_eq_query]
  exact query_congr hr flags h

end Compiler

end MapQuery

import MapQuery.Compiler.Basic
import MapQuery.Proofs.Compiler.Keywords

/-!
# Relations between the programs of the compiler

Programs are put together from a few of them, one after another. A relation that these keep is kept by all
that the compiler reads: by expressions and by factors, as soon as the keywords keep it.

* `Reading.IsCongruence` — a relation that the programs are built along.
* `Factory.Respects`, `Registry.Respects` — keywords that keep a relation; `Registry.respects_builtin` says
  that the built-in ones keep every such relation.
* `IsCongruence.expression`, `IsCongruence.keyed` — expressions of related factors, and what begins with a
  key before related operands.
* `IsCongruence.factor_succ`, `IsCongruence.factor` — factors, the latter by induction on the nesting.
-/

namespace MapQuery

namespace Compiler

/-- After an opening parenthesis and an expression: the closing one. -/
def closing (inner : Option Query) : Reading (Option Query) := do
  let token ← Reading.takeNext
  match token.kind with
  | .rightParen => return some (inner.getD .always)
  | _ => .fail (.expected .rightParen token)

end Compiler

namespace Reading

/-- A relation that every program which takes a single token has to itself, and that is kept by one program
after another. A token that may be missing is never a closing parenthesis or the end of input. -/
structure IsCongruence (R : {A : Type} → Reading A → Reading A → Prop) : Prop where
  pure : ∀ {A : Type} (a : A), R (pure a) (pure a)
  fail : ∀ {A : Type} (e : Failure), R (fail e : Reading A) (fail e)
  bind : ∀ {A B : Type} {p p' : Reading A} {f f' : A → Reading B},
    R p p' → (∀ a, R (f a) (f' a)) → R (p >>= f) (p' >>= f')
  takeIf : ∀ {kind : Token.Kind}, Token.Kind.eof.sameSort kind = false →
    Token.Kind.rightParen.sameSort kind = false → R (takeIf kind) (takeIf kind)
  takeText : R takeText takeText
  takeNumber : ∀ message, R (takeNumber message) (takeNumber message)
  takeRange : ∀ message, R (takeRange message) (takeRange message)
  closing : ∀ inner, R (Compiler.closing inner) (Compiler.closing inner)

end Reading

open Reading

variable {R : {A : Type} → Reading A → Reading A → Prop}

/-! ### Keywords -/

/-- A keyword whose argument is read by a program that is related to itself. -/
def Factory.Respects (R : {A : Type} → Reading A → Reading A → Prop) : Factory → Prop
  | .simple _ called => ∀ keyword flags, R (called keyword flags) (called keyword flags)
  | .unary _ called => ∀ keyword q, R (called keyword q) (called keyword q)
  | .binary _ => True

/-- All keywords are read like this. -/
def Registry.Respects (R : {A : Type} → Reading A → Reading A → Prop) (r : Registry) : Prop :=
  ∀ keyword f, r.get? keyword = some f → f.Respects R

/-- A relation between every program and itself is kept by all keywords. -/
theorem Registry.respects_of_refl (h : ∀ {A : Type} (p : Reading A), R p p) (r : Registry) :
    r.Respects R := by
  intro keyword f _
  cases f with
  | simple alone called => exact fun _ _ => h _
  | unary alone called => exact fun _ _ => h _
  | binary join => trivial

namespace Reading.IsCongruence

theorem makes (hR : IsCongruence R) {p : Reading Query} (h : p.Makes) : R p p := by
  cases h with
  | done h => exact hR.pure _
  | fail h => exact hR.fail _

theorem takesOne (hR : IsCongruence R) {p : Reading Query} (h : p.TakesOne) : R p p := by
  cases h with
  | text h => exact hR.bind hR.takeText fun x => hR.makes (h x)
  | number message h => exact hR.bind (hR.takeNumber message) fun x => hR.makes (h x)
  | range message h => exact hR.bind (hR.takeRange message) fun x => hR.makes (h x)

theorem basic (hR : IsCongruence R) {f : Factory} (h : f.Basic) : f.Respects R := by
  cases h with
  | plain h => exact fun _ _ => hR.pure _
  | withArgument h => exact fun _ flags => hR.takesOne (h flags)
  | around h => exact fun _ _ => hR.pure _

end Reading.IsCongruence

theorem Registry.respects_builtin (hR : IsCongruence R) (areas : Areas) (now : Instant) :
    (builtin areas now).Respects R :=
  fun _ _ h => hR.basic (basic_builtin h)

/-! ### Expressions and factors -/

namespace Reading.IsCongruence

open Compiler

theorem ofExcept (hR : IsCongruence R) {A : Type} (r : Except Failure A) :
    R (ofExcept r) (ofExcept r) := by
  cases r with
  | ok a => exact hR.pure a
  | error e => exact hR.fail e

/-- A choice by a token that may be missing. -/
theorem choice (hR : IsCongruence R) {A : Type} {kind : Token.Kind} {p p' q q' : Reading A} (h : R p p')
    (h' : R q q') (hend : Token.Kind.eof.sameSort kind = false)
    (hclosing : Token.Kind.rightParen.sameSort kind = false) :
    R (Reading.takeIf kind >>= fun isNext => if isNext then p else q)
      (Reading.takeIf kind >>= fun isNext => if isNext then p' else q') := by
  refine hR.bind (hR.takeIf hend hclosing) fun isNext => ?_
  cases isNext with
  | true => exact h
  | false => exact h'

theorem operator (hR : IsCongruence R) : R operator operator :=
  hR.choice (hR.pure _) (hR.choice (hR.pure _) (hR.pure _) rfl rfl) rfl rfl

theorem factors (hR : IsCongruence R) {factor factor' : Reading (Option Query)} (h : R factor factor')
    (fuel : Nat) (wanting : Option Operator) (read : List (Query × Operator)) :
    R (factors factor fuel wanting read) (factors factor' fuel wanting read) := by
  induction fuel generalizing wanting read with
  | zero => exact hR.pure read
  | succ fuel ih =>
    rw [factors.eq_def, factors.eq_def]
    refine hR.bind h fun q => ?_
    cases q with
    | some q => exact hR.bind hR.operator fun _ => ih _ _
    | none =>
      cases wanting with
      | some o => exact hR.fail _
      | none => exact hR.pure read

theorem expression (hR : IsCongruence R) {factor factor' : Reading (Option Query)} (h : R factor factor')
    (fuel : Nat) : R (expression factor fuel) (expression factor' fuel) :=
  hR.bind (hR.factors h fuel none []) fun _ => hR.pure _

section

variable {registry : Registry} {flags : Flags} {key : String} {operand operand' : Reading (Option Query)}

theorem tag (hR : IsCongruence R) (regex : Bool) : R (tag flags key regex) (tag flags key regex) :=
  hR.bind hR.takeText fun _ => hR.ofExcept _

theorem comparison (hR : IsCongruence R) (c : Comparison) : R (comparison key c) (comparison key c) :=
  hR.bind hR.takeText fun _ => hR.ofExcept _

theorem argument (hR : IsCongruence R) (hr : registry.Respects R) (h : R operand operand') :
    R (argument registry flags key operand) (argument registry flags key operand') := by
  unfold Compiler.argument
  split
  · next alone called hget => exact hr key _ hget key flags
  · next alone called hget => exact hR.bind h fun q => hr key _ hget key (q.getD .always)
  · refine hR.bind hR.takeText fun value => ?_
    cases value with
    | none => exact hR.ofExcept _
    | some value => exact hR.ofExcept _

theorem bare (hR : IsCongruence R) (h : R operand operand') :
    R (bare registry flags key operand) (bare registry flags key operand') := by
  unfold Compiler.bare
  split
  · exact hR.ofExcept _
  · exact hR.bind h fun _ => hR.ofExcept _
  · exact hR.ofExcept _

theorem keyed (hR : IsCongruence R) (hr : registry.Respects R) (h : R operand operand') :
    R (keyed registry flags key operand) (keyed registry flags key operand') := by
  refine hR.choice (hR.tag _) ?_ rfl rfl
  refine hR.choice (hR.tag _) ?_ rfl rfl
  refine hR.choice (hR.comparison _) ?_ rfl rfl
  refine hR.choice (hR.comparison _) ?_ rfl rfl
  refine hR.choice (hR.argument hr h) ?_ rfl rfl
  exact hR.choice (hR.pure _) (hR.bare h) rfl rfl

variable {fuel nest nest' : Nat}

/-- One more level of nesting, in each of the three places where a factor is read. -/
theorem factor_succ (hR : IsCongruence R) (hr : registry.Respects R)
    (h : R (factor registry flags fuel nest) (factor registry flags fuel nest')) :
    R (factor registry flags fuel (nest + 1)) (factor registry flags fuel (nest' + 1)) := by
  rw [factor, factor]
  refine hR.choice ?_ (hR.choice ?_ ?_ rfl rfl) rfl rfl
  -- In parentheses, after a negation, and after a key.
  · exact hR.bind (hR.expression h fuel) hR.closing
  · refine hR.bind h fun q => ?_
    cases q with
    | some q => exact hR.pure _
    | none => exact hR.fail _
  · refine hR.bind hR.takeText fun key => ?_
    cases key with
    | some key => exact hR.bind (hR.keyed hr h) fun _ => hR.pure _
    | none => exact hR.pure _

theorem factor (hR : IsCongruence R) (hr : registry.Respects R) (fuel nest : Nat) :
    R (factor registry flags fuel nest) (factor registry flags fuel nest) := by
  induction nest with
  | zero => exact hR.fail _
  | succ nest ih => exact hR.factor_succ hr ih

end

end Reading.IsCongruence

end MapQuery

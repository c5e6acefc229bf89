import MapQuery.Proofs.Compiler.Congruence

/-!
# The limit of nesting

What is read does not depend on how much nesting is left, except that with less of it a factor may be found
to be nested too deeply.

* `Reading.CutOff` — a program that gives what another one gives, or finds the nesting too deep.
* `Compiler.cutOff_factor`, `Compiler.cutOff_expression` — factors and expressions with less nesting left.
-/

namespace MapQuery

namespace Reading

variable {A B : Type}

/-- Gives what the other program gives, or finds the nesting too deep. -/
def CutOff (p p' : Reading A) : Prop :=
  ∀ s, p.along s = .error .tooDeep ∨ p.along s = p'.along s

theorem CutOff.refl (p : Reading A) : p.CutOff p :=
  fun _ => .inr rfl

/-- One program after another. -/
theorem CutOff.bind {p p' : Reading A} {f f' : A → Reading B} (h : p.CutOff p')
    (hf : ∀ a, (f a).CutOff (f' a)) : (p >>= f).CutOff (p' >>= f') := by
  intro s
  rw [along_bind, along_bind]
  rcases h s with hdeep | hsame
  · rw [hdeep]
    exact .inl rfl
  · rw [hsame]
    cases p'.along s with
    | error e => exact .inr rfl
    | ok r => exact hf r.1 r.2

theorem isCongruence_cutOff : IsCongruence CutOff where
  pure _ := .refl _
  fail _ := .refl _
  bind h hf := h.bind hf
  takeIf _ _ := .refl _
  takeText := .refl _
  takeNumber _ := .refl _
  takeRange _ := .refl _
  closing _ := .refl _

end Reading

namespace Compiler

open Reading

variable {registry : Registry} {flags : Flags} {fuel nest nest' : Nat}

/-- A factor with less nesting left is the same factor, or it is nested too deeply. The induction is on the
nesting that is left. -/
theorem cutOff_factor (h : nest ≤ nest') :
    (factor registry flags fuel nest).CutOff (factor registry flags fuel nest') := by
  induction nest generalizing nest' with
  | zero => exact fun _ => .inl rfl
  | succ nest ih =>
    cases nest' with
    | zero => cases h
    | succ nest' =>
      have hr : registry.Respects CutOff := registry.respects_of_refl CutOff.refl
      exact isCongruence_cutOff.factor_succ hr (ih (Nat.le_of_succ_le_succ h))

theorem cutOff_expression (h : nest ≤ nest') :
    (expression (factor registry flags fuel nest) fuel).CutOff
      (expression (factor registry flags fuel nest') fuel) :=
  isCongruence_cutOff.expression (cutOff_factor h) fuel

end Compiler

end MapQuery

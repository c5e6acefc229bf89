import MapQuery.Query.Leaf

/-!
# Failures without a place

A condition that cannot be prepared fails because of what it says, and not because of where it stands.

* `Unplaced` — a result which is no failure that has a place; `Unplaced.bind` for one step after another.
* `TagMatch.unplaced_compile`, `ValueSearch.unplaced_compile`, `ValueComparison.unplaced_compile`,
  `TextSearch.unplaced_compile` — the conditions.
-/

namespace MapQuery

variable {A B : Type}

/-- If this is a failure, it has no place. -/
def Unplaced (r : Except Failure A) : Prop :=
  ∀ e, r = .error e → e.span? = none

theorem unplaced_ok (a : A) : Unplaced (.ok a) := by
  intro e he
  cases he

theorem unplaced_error {e : Failure} (h : e.span? = none) : Unplaced (.error e : Except Failure A) := by
  intro e' he
  cases he
  exact h

/-- One step after another. -/
theorem Unplaced.bind {r : Except Failure A} {f : A → Except Failure B} (h : Unplaced r)
    (hf : ∀ a, Unplaced (f a)) : Unplaced (r >>= f) := by
  cases r with
  | error e => exact unplaced_error (h e rfl)
  | ok a => exact hf a

/-- One step, or another one in its place, and what comes after it. -/
theorem Unplaced.choice_bind {c : Prop} [Decidable c] {r r' : Except Failure A} {f : A → Except Failure B}
    (h : Unplaced r) (h' : Unplaced r') (hf : ∀ a, Unplaced (f a)) :
    Unplaced (if c then r >>= f else r' >>= f) := by
  split
  · exact h.bind hf
  · exact h'.bind hf

theorem Unplaced.map {r : Except Failure A} (h : Unplaced r) (f : A → B) : Unplaced (f <$> r) := by
  cases r with
  | error e => exact unplaced_error (h e rfl)
  | ok a => exact unplaced_ok (f a)

/-! ### Conditions -/

theorem unplaced_compilePattern (mode : Pattern.Mode) (caseSensitive : Bool) (text : String) :
    Unplaced (compilePattern mode caseSensitive text) := by
  unfold compilePattern
  cases Pattern.compile mode caseSensitive text with
  | error refusal => exact unplaced_error rfl
  | ok pattern => exact unplaced_ok pattern

theorem TagMatch.unplaced_compile (key : String) (value : Option String) (regex caseSensitive : Bool) :
    Unplaced (TagMatch.compile key value regex caseSensitive) := by
  have hpattern : ∀ text, Unplaced (some <$> compilePattern .full caseSensitive text) := fun text =>
    (unplaced_compilePattern .full caseSensitive text).map some
  unfold TagMatch.compile
  dsimp only
  split
  · show Unplaced (.error .emptyKey)
    exact unplaced_error rfl
  · refine .choice_bind (hpattern key) (unplaced_ok none) fun keyPattern => ?_
    exact .choice_bind (hpattern (value.getD "")) (unplaced_ok none) fun valuePattern => unplaced_ok _

theorem ValueSearch.unplaced_compile (key value : String) (flags : Flags) :
    Unplaced (ValueSearch.compile key value flags) := by
  have hpattern := unplaced_compilePattern .find flags.caseSensitive
  unfold ValueSearch.compile
  split
  · refine (hpattern key).bind fun keyPattern => (hpattern value).bind fun valuePattern => ?_
    exact unplaced_ok _
  · exact unplaced_ok _

theorem ValueComparison.unplaced_compile (key : String) (reference : Option String) (c : Comparison) :
    Unplaced (ValueComparison.compile key reference c) := by
  unfold ValueComparison.compile
  cases reference with
  | some r => exact unplaced_ok _
  | none => exact unplaced_error rfl

theorem TextSearch.unplaced_compile (text : String) (flags : Flags) :
    Unplaced (TextSearch.compile text flags) := by
  unfold TextSearch.compile
  split
  · exact (unplaced_compilePattern .find flags.caseSensitive _).bind fun pattern => unplaced_ok _
  · exact unplaced_ok _

end MapQuery

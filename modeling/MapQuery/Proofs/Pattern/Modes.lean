import MapQuery.Proofs.Pattern.Ends
import MapQuery.Proofs.Pattern.Whole

/-!
# The whole text or some part of it

The text for the whole-text mode puts a group and two anchors around a pattern. Where these fit, and the builder takes
both texts, the two modes accept the same patterns.

* `Node.Anchored.meaning_eq` — a tree between the anchors means its expression between the ends of the text.
* `Expr.ofText?_wrapped_eq_ok_iff` — what the text with the anchors stands for, from what the pattern stands for.
* `compile_eq_ok_iff`, `compile_find_eq_ok_iff`, `compile_full_eq_ok_iff` — what is compiled in each mode.
* `full_and_find` — how the two modes are related.
-/

namespace MapQuery.Pattern

variable {t : Node} {p : String} {caseSensitive : Bool} {builder : Builder} {compiled : Pattern}

theorem Settings.apply_nil (s : Settings) : s.apply [] = s := rfl

theorem SameValue.eq_ok {A : Type} {x y : Except Located A} (h : SameValue x y) {a : A} (hy : y = .ok a) :
    x = .ok a := by
  subst hy
  cases x with
  | error e => cases h
  | ok b => exact congrArg Except.ok (Option.some.inj h)

theorem SameValue.exists_error {A : Type} {x y : Except Located A} (h : SameValue x y) {l : Located}
    (hy : y = .error l) : ∃ l', x = .error l' := by
  subst hy
  cases x with
  | error e => exact ⟨e, rfl⟩
  | ok b => cases h

theorem Node.meaning_anchors (extent first around last : Extent) (n : Node) (s : Settings) :
    meaning (.concat extent [.assertion first .startText, .group around (some []) n, .assertion last .endText]) s =
      n.meaning s >>= fun read => pure (read.1.anchored, s) := by
  have hparts : meaning (.concat extent
      [.assertion first .startText, .group around (some []) n, .assertion last .endText]) s =
      (((n.meaning (s.apply []) >>= fun read => pure (read.1, s)) >>= fun read =>
        pure ([read.1, .look .textEnd], read.2)) >>= fun read => pure (.look .textStart :: read.1, read.2)) >>=
          fun read => pure (Expr.sequence read.1, read.2) := rfl
  rw [hparts, s.apply_nil, bind_assoc, bind_assoc, bind_assoc]
  rfl

/-- A tree between the anchors means the expression of the tree between the ends of the text. -/
theorem Node.Anchored.sameValue_meaning {tree : Node} (h : t.Anchored tree) (s : Settings) :
    SameValue (tree.meaning s) (t.meaning s >>= fun read => pure (read.1.anchored, s)) := by
  cases h with
  | @intro extent first around last t' hsame =>
    have hbare : SameValue (t'.meaning s) (t.meaning s) := by
      have hmeaning := t'.sameValue_meaning s
      rw [← hsame] at hmeaning
      exact hmeaning.symm.trans (t.sameValue_meaning s)
    rw [meaning_anchors]
    exact hbare.bind fun _ => .refl _

theorem Node.Anchored.meaning_eq {tree : Node} {s s' : Settings} {e : Expr} (h : t.Anchored tree)
    (ht : t.meaning s = .ok (e, s')) : tree.meaning s = .ok (e.anchored, s) :=
  (h.sameValue_meaning s).eq_ok (by rw [ht]; rfl)

theorem Node.Anchored.exists_error {tree : Node} {s : Settings} {l : Located} (h : t.Anchored tree)
    (ht : t.meaning s = .error l) : ∃ l', tree.meaning s = .error l' :=
  (h.sameValue_meaning s).exists_error (l := l) (by rw [ht]; rfl)

/-! ### Expressions -/

namespace Expr

theorem ofText?_eq_ok_iff {e : Expr} :
    ofText? caseSensitive p = .ok e ↔
      ∃ t s, Node.ofText? p = .ok t ∧ t.meaning (settings caseSensitive) = .ok (e, s) := by
  unfold ofText?
  cases Node.ofText? p with
  | error l => exact ⟨nofun, fun ⟨_, _, ht, _⟩ => by cases ht⟩
  | ok t =>
    show (t.meaning (settings caseSensitive) >>= fun read => pure read.1) = _ ↔ _
    constructor
    · intro h
      cases hmeaning : t.meaning (settings caseSensitive) with
      | error l =>
        rw [hmeaning] at h
        cases h
      | ok read =>
        rw [hmeaning] at h
        cases h
        exact ⟨t, read.2, rfl, hmeaning⟩
    · rintro ⟨_, s, ⟨⟩, hmeaning⟩
      rw [hmeaning]
      rfl

/-- The text with the anchors stands for what the pattern stands for, between the ends of the text, if the pattern
leaves room for what stands around it. -/
theorem ofText?_wrapped_eq_ok_iff {e : Expr} (ht : Node.ofText? p = .ok t) :
    ofText? caseSensitive (wrapped .full p) = .ok e ↔
      ¬ EndsInComment p ∧ ¬ LiesTooDeep p ∧ ∃ e', ofText? caseSensitive p = .ok e' ∧ e = e'.anchored := by
  rcases Node.ofText?_wrapped ht with ⟨hcomment, hdeep, tree, hanchored, htree⟩ | ⟨hcomment, l, hrefused⟩ |
    ⟨hdeep, l, hrefused⟩
  · rw [and_iff_right hcomment, and_iff_right hdeep, ofText?_eq_ok_iff]
    constructor
    · rintro ⟨tree', s, htree', hmeaning⟩
      cases htree.symm.trans htree'
      cases hmeaning' : t.meaning (settings caseSensitive) with
      | error l =>
        obtain ⟨l', hl'⟩ := hanchored.exists_error hmeaning'
        cases hmeaning.symm.trans hl'
      | ok read =>
        have hexpr := (Prod.mk.inj (Except.ok.inj (hmeaning.symm.trans (hanchored.meaning_eq hmeaning')))).1
        exact ⟨read.1, ofText?_eq_ok_iff.mpr ⟨t, read.2, ht, hmeaning'⟩, hexpr⟩
    · rintro ⟨e', he', rfl⟩
      obtain ⟨t', s, ht', hmeaning⟩ := ofText?_eq_ok_iff.mp he'
      cases ht.symm.trans ht'
      exact ⟨tree, _, htree, hanchored.meaning_eq hmeaning⟩
  · refine ⟨fun h => ?_, fun h => absurd hcomment h.1⟩
    obtain ⟨_, _, htree, _⟩ := ofText?_eq_ok_iff.mp h
    cases hrefused.symm.trans htree
  · refine ⟨fun h => ?_, fun h => absurd hdeep h.2.1⟩
    obtain ⟨_, _, htree, _⟩ := ofText?_eq_ok_iff.mp h
    cases hrefused.symm.trans htree

end Expr

/-! ### Compilation -/

/-- A pattern is compiled where it can be read alone, the text for the mode stands for an expression, and the builder
takes this text. -/
theorem compile_eq_ok_iff {mode : Mode} :
    compile mode caseSensitive p builder = .ok compiled ↔
      (∃ t, Node.ofText? p = .ok t) ∧ Expr.ofText? caseSensitive (wrapped mode p) = .ok compiled.expr ∧
        builder.refuses (wrapped mode p) caseSensitive = false ∧ compiled.source = wrapped mode p := by
  unfold compile
  dsimp only
  cases Node.ofText? p with
  | error l => exact ⟨nofun, fun ⟨⟨_, ht⟩, _⟩ => by cases ht⟩
  | ok t =>
    cases Expr.ofText? caseSensitive (wrapped mode p) with
    | error l => exact ⟨nofun, fun ⟨_, he, _⟩ => by cases he⟩
    | ok e =>
      show (if builder.refuses (wrapped mode p) caseSensitive = true then .error .tooLarge
        else .ok ⟨wrapped mode p, e⟩ : Except Refusal Pattern) = _ ↔ _
      cases builder.refuses (wrapped mode p) caseSensitive with
      | true => exact ⟨nofun, fun ⟨_, _, h, _⟩ => by cases h⟩
      | false =>
        refine ⟨fun h => ?_, fun ⟨_, he, _, hsource⟩ => ?_⟩
        · cases h
          exact ⟨⟨t, rfl⟩, rfl, rfl, rfl⟩
        · cases he
          rw [← hsource]
          rfl

/-- For some part of a text, a pattern is compiled where it stands for an expression and the builder takes it. -/
theorem compile_find_eq_ok_iff :
    compile .find caseSensitive p builder = .ok compiled ↔
      ∃ e, Expr.ofText? caseSensitive p = .ok e ∧ builder.refuses p caseSensitive = false ∧ compiled = ⟨p, e⟩ := by
  rw [compile_eq_ok_iff]
  constructor
  · rintro ⟨-, he, hbuilt, hsource⟩
    exact ⟨compiled.expr, he, hbuilt, congrArg (Pattern.mk · compiled.expr) hsource⟩
  · rintro ⟨e, he, hbuilt, rfl⟩
    obtain ⟨t, -, ht, -⟩ := Expr.ofText?_eq_ok_iff.mp he
    exact ⟨⟨t, ht⟩, he, hbuilt, rfl⟩

/-- For the whole text, it is compiled where it stands for an expression and leaves room for what stands around it, and
the builder takes it with that. -/
theorem compile_full_eq_ok_iff :
    compile .full caseSensitive p builder = .ok compiled ↔
      ∃ e, Expr.ofText? caseSensitive p = .ok e ∧ ¬ EndsInComment p ∧ ¬ LiesTooDeep p ∧
        builder.refuses (wrapped .full p) caseSensitive = false ∧ compiled = ⟨wrapped .full p, e.anchored⟩ := by
  rw [compile_eq_ok_iff]
  constructor
  · rintro ⟨⟨t, ht⟩, he, hbuilt, hsource⟩
    obtain ⟨hcomment, hdeep, e, he', hexpr⟩ := (Expr.ofText?_wrapped_eq_ok_iff ht).mp he
    refine ⟨e, he', hcomment, hdeep, hbuilt, ?_⟩
    rw [← hexpr, ← hsource]
  · rintro ⟨e, he, hcomment, hdeep, hbuilt, rfl⟩
    obtain ⟨t, -, ht, -⟩ := Expr.ofText?_eq_ok_iff.mp he
    exact ⟨⟨t, ht⟩, (Expr.ofText?_wrapped_eq_ok_iff ht).mpr ⟨hcomment, hdeep, e, he, rfl⟩, hbuilt, rfl⟩

/-! ### The two modes -/

/-- Whatever the builder refuses as too large: a pattern can be used for some part of a text if it stands for an
expression and the builder takes it, and for the whole text if it stands for an expression, does not end in a comment
and does not lie too deep for the group around it, and the builder takes it with the anchors. Where it can be used for
both, what matches as a whole has a match. -/
theorem full_and_find (builder : Builder) (caseSensitive : Bool) (p : String) :
    ((∃ found, compile .find caseSensitive p builder = .ok found) ↔
      (∃ e, Expr.ofText? caseSensitive p = .ok e) ∧ builder.refuses p caseSensitive = false) ∧
    ((∃ whole, compile .full caseSensitive p builder = .ok whole) ↔
      (∃ e, Expr.ofText? caseSensitive p = .ok e) ∧ ¬ EndsInComment p ∧ ¬ LiesTooDeep p ∧
        builder.refuses (wrapped .full p) caseSensitive = false) ∧
    (EndsInComment p → SignInLastLine p.toList) ∧
    ∀ whole found, compile .full caseSensitive p builder = .ok whole →
      compile .find caseSensitive p builder = .ok found →
        ∀ text, whole.holds text = true → found.holds text = true := by
  refine ⟨⟨?_, ?_⟩, ⟨?_, ?_⟩, EndsInComment.signInLastLine, ?_⟩
  · rintro ⟨found, hfound⟩
    obtain ⟨e, he, hbuilt, -⟩ := compile_find_eq_ok_iff.mp hfound
    exact ⟨⟨e, he⟩, hbuilt⟩
  · rintro ⟨⟨e, he⟩, hbuilt⟩
    exact ⟨_, compile_find_eq_ok_iff.mpr ⟨e, he, hbuilt, rfl⟩⟩
  · rintro ⟨whole, hwhole⟩
    obtain ⟨e, he, hcomment, hdeep, hbuilt, -⟩ := compile_full_eq_ok_iff.mp hwhole
    exact ⟨⟨e, he⟩, hcomment, hdeep, hbuilt⟩
  · rintro ⟨⟨e, he⟩, hcomment, hdeep, hbuilt⟩
    exact ⟨_, compile_full_eq_ok_iff.mpr ⟨e, he, hcomment, hdeep, hbuilt, rfl⟩⟩
  · rintro whole found hwhole hfound text htext
    obtain ⟨e, he, -, -, -, rfl⟩ := compile_full_eq_ok_iff.mp hwhole
    obtain ⟨e', he', -, rfl⟩ := compile_find_eq_ok_iff.mp hfound
    cases he.symm.trans he'
    exact Expr.occursIn_of_anchored htext

/-- This pattern ends in a comment, so that it cannot be used for the whole text, whatever the builder takes. -/
theorem full_and_find_comment :
    EndsInComment "(?x)a#" ∧ (compile .find false "(?x)a#").isOk = true ∧
      ∀ builder whole, compile .full false "(?x)a#" builder ≠ .ok whole := by
  have hcomment : EndsInComment "(?x)a#" := by
    have hread : (Read.pattern.run (Source.ofText "(?x)a#")).toOption.map (·.2.inComment) = some true := by
      decide +kernel
    cases hrun : Read.pattern.run (Source.ofText "(?x)a#") with
    | error l =>
      rw [hrun] at hread
      cases hread
    | ok read =>
      rw [hrun] at hread
      exact ⟨read.1, read.2, hrun, Option.some.inj hread⟩
  refine ⟨hcomment, by decide +kernel, fun builder whole h => ?_⟩
  obtain ⟨-, -, hcomment', -⟩ := compile_full_eq_ok_iff.mp h
  exact hcomment' hcomment

end MapQuery.Pattern

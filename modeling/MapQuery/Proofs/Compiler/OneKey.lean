import MapQuery.Proofs.Compiler.Agreement
import MapQuery.Proofs.Compiler.Enclosed

/-!
# A query of one key

A text that begins with a key, with nothing after what belongs to the key, is a query that says what is made of
the key.

* `Grammar.factor_of_keyed`, `Grammar.expression_of_last` — a key with what stands after it, and nothing more.
* `Grammar.keyed_of_called` — a keyword with a colon after it.
* `Compiler.compile_of_keyed`, `Compiler.compile_of_keyed_error` — the whole text.
-/

namespace MapQuery

namespace Grammar

variable {registry : Registry} {flags : Flags} {nest : Nat} {s rest : Tokens} {k : Key} {q : Query}

/-- A key is a factor with what stands after it. -/
theorem factor_of_keyed (hkind : s.head.kind = .key k)
    (h : keyed registry flags k.text (factor registry flags nest) s.tail = .ok (q, rest)) :
    ∃ hrest, factor registry flags (nest + 1) s = .ok (some (q, ⟨rest, hrest⟩)) := by
  have htail : s.tail.size < s.size := Tokens.size_tail_lt (by rw [hkind]; nofun)
  refine ⟨Nat.lt_of_le_of_lt (size_keyed_le h) htail, ?_⟩
  rw [factor]
  split
  · next hparen => cases hkind.symm.trans hparen
  · next hnot => cases hkind.symm.trans hnot
  · next k' hk =>
    cases hkind.symm.trans hk
    split
    · next q' rest' hkeyed =>
      cases h.symm.trans hkeyed
      rfl
    · next e hkeyed => cases h.symm.trans hkeyed
  · next _ _ hkey => exact absurd hkind (hkey k)

/-- What fails after a key makes the factor fail. -/
theorem factor_of_keyed_error {e : Failure} (hkind : s.head.kind = .key k)
    (h : keyed registry flags k.text (factor registry flags nest) s.tail = .error e) :
    factor registry flags (nest + 1) s = .error e := by
  rw [factor]
  split
  · next hparen => cases hkind.symm.trans hparen
  · next hnot => cases hkind.symm.trans hnot
  · next k' hk =>
    cases hkind.symm.trans hk
    split
    · next q rest hkeyed => cases h.symm.trans hkeyed
    · next e' hkeyed =>
      cases h.symm.trans hkeyed
      rfl
  · next _ _ hkey => exact absurd hkind (hkey k)

/-- A keyword with a colon after it reads its argument behind the colon. -/
theorem keyed_of_called {key : String} {alone : String → Flags → Except Failure Query}
    {called : String → Flags → Reading Query} (hget : registry.get? key = some (.simple alone called))
    (hcolon : s.head.kind = .colon) (operand : (s : Tokens) → Part s) :
    keyed registry flags key operand s = (called key flags).along s.tail := by
  unfold keyed
  rw [hcolon]
  show argument registry flags key operand s.tail = _
  unfold argument
  rw [hget]

theorem factor_of_eof (hkind : s.head.kind = .eof) : factor registry flags (nest + 1) s = .ok none := by
  rw [factor]
  split
  · next hparen => cases hkind.symm.trans hparen
  · next hnot => cases hkind.symm.trans hnot
  · next k hkey => cases hkind.symm.trans hkey
  · rfl

/-- The last factor is an expression by itself. -/
theorem expression_of_last {factor : (s : Tokens) → Part s} {hrest : rest.size < s.size}
    (h : factor s = .ok (some (q, ⟨rest, hrest⟩))) (hkind : rest.head.kind = .eof)
    (hend : factor rest = .ok none) : expression factor s = .ok (some (q, ⟨rest, hrest⟩)) := by
  have hnothing : expression factor rest = .ok none := by
    rw [expression, hend]
    rfl
  have hoperator : operator? rest.head.kind = none := by rw [hkind]; rfl
  rw [expression, h]
  simp only [bind, Except.bind, hnothing]
  split
  · next o ho => cases hoperator.symm.trans ho
  · rfl

end Grammar

namespace Compiler

variable {registry : Registry} {flags : Flags} {text : String} {k : Key} {q : Query} {rest : Tokens}

/-- A key with what stands after it up to the end of input, however deep the nesting may be. -/
theorem compile_of_keyed (hkey : (Tokens.ofText text).head.kind = .key k)
    (h : ∀ nest, Grammar.keyed registry flags k.text (Grammar.factor registry flags nest)
      (Tokens.ofText text).tail = .ok (q, rest)) (hend : rest.head.kind = .eof) :
    Query.compile registry flags text = .ok q := by
  obtain ⟨nest, hnest⟩ : ∃ nest, nestingLimit = nest + 1 := ⟨_, rfl⟩
  obtain ⟨hless, hfactor⟩ := Grammar.factor_of_keyed hkey (h nest)
  have hexpression := Grammar.expression_of_last hfactor hend (Grammar.factor_of_eof hend)
  rw [compile_eq_query, Grammar.query, hnest, hexpression]
  simp only [bind, Except.bind, Grammar.orAlways, hend]
  rfl

/-- What fails after a key makes the whole text fail. -/
theorem compile_of_keyed_error {e : Failure} (hkey : (Tokens.ofText text).head.kind = .key k)
    (h : ∀ nest, Grammar.keyed registry flags k.text (Grammar.factor registry flags nest)
      (Tokens.ofText text).tail = .error e) :
    Query.compile registry flags text = .error e := by
  obtain ⟨nest, hnest⟩ : ∃ nest, nestingLimit = nest + 1 := ⟨_, rfl⟩
  have hfactor := Grammar.factor_of_keyed_error hkey (h nest)
  rw [compile_eq_query, Grammar.query, hnest, Grammar.expression, hfactor]
  rfl

end Compiler

end MapQuery

import MapQuery.Proofs.Compiler.Congruence
import MapQuery.Proofs.Compiler.Places

/-!
# A closing parenthesis is like the end of input

Tokens that are read up to the end of input are read in the same way where a closing parenthesis and more
tokens come after them: what may be missing after a factor, an operator or a key is missing before a closing
parenthesis as it is at the end.

* `Tokens.Enclosed` — tokens, and the same tokens before a closing parenthesis.
* `Reading.AgreeEnclosed` — programs that give the same with both, and leave such tokens again.
* `Reading.isCongruence_agreeEnclosed` — the compiler's programs are built along this relation.
* `Compiler.agreeEnclosed_expression` — expressions.
-/

namespace MapQuery

/-! ### Lists of tokens -/

namespace Tokens

/-- Tokens before the end of input, and tokens of the same kinds before a closing parenthesis with more
after it. -/
structure Enclosed (more : List Token.Kind) (s s' : Tokens) : Prop where
  kinds : s'.kinds = s.kinds ++ .rightParen :: more
  noEnd : .eof ∉ s.kinds

variable {more : List Token.Kind} {s s' : Tokens}

theorem kinds_mk (list : List Token) (stop : Nat) : kinds ⟨list, stop⟩ = list.map Token.kind := rfl

theorem kind_head_of_nil (h : s.kinds = []) : s.head.kind = .eof := by
  obtain ⟨list, stop⟩ := s
  cases list with
  | nil => rfl
  | cons t list => cases h

theorem kind_head_of_kinds {kind : Token.Kind} {kinds : List Token.Kind} (h : s.kinds = kind :: kinds) :
    s.head.kind = kind ∧ s.tail.kinds = kinds := by
  obtain ⟨list, stop⟩ := s
  cases list with
  | nil => cases h
  | cons t list => exact List.cons.inj h

/-- At the end of input there is the closing parenthesis, and before that the next tokens are of the same
kind. -/
theorem Enclosed.head_cases (h : Enclosed more s s') :
    (s.head.kind = .eof ∧ s'.kinds = .rightParen :: more) ∨
      (s.head.kind ≠ .eof ∧ s'.head.kind = s.head.kind ∧ Enclosed more s.tail s'.tail) := by
  obtain ⟨hkinds, hend⟩ := h
  obtain ⟨list, stop⟩ := s
  cases list with
  | nil => exact .inl ⟨rfl, hkinds⟩
  | cons t list =>
    rw [kinds_mk, List.map_cons] at hend
    obtain ⟨hhead, htail⟩ := kind_head_of_kinds hkinds
    refine .inr ⟨fun heof => hend ?_, hhead, htail, fun hmem => hend (List.mem_cons_of_mem _ hmem)⟩
    exact heof ▸ List.mem_cons_self

/-- Where a token has been found that is not the end of input, the same one is found before a closing
parenthesis. -/
theorem Enclosed.of_head (h : Enclosed more s s') (hne : s.head.kind ≠ .eof) :
    s'.head.kind = s.head.kind ∧ Enclosed more s.tail s'.tail := by
  rcases h.head_cases with ⟨heof, _⟩ | ⟨_, hstep⟩
  · exact absurd heof hne
  · exact hstep

/-- A token that is neither the end of input nor a closing parenthesis is accepted in both. -/
theorem Enclosed.accept (h : Enclosed more s s') {kind : Token.Kind}
    (hend : Token.Kind.eof.sameSort kind = false)
    (hclosing : Token.Kind.rightParen.sameSort kind = false) :
    (s'.accept kind).1 = (s.accept kind).1 ∧ Enclosed more (s.accept kind).2 (s'.accept kind).2 := by
  unfold Tokens.accept
  rcases h.head_cases with ⟨heof, hkinds⟩ | ⟨_, hkind, htail⟩
  · rw [heof, hend, (kind_head_of_kinds hkinds).1, hclosing]
    exact ⟨rfl, h⟩
  · rw [hkind]
    split
    · exact ⟨rfl, htail⟩
    · exact ⟨rfl, h⟩

/-- Neither the end of input nor a closing parenthesis is a text. -/
theorem Enclosed.text? (h : Enclosed more s s') :
    s'.text?.1 = s.text?.1 ∧ Enclosed more s.text?.2 s'.text?.2 := by
  unfold Tokens.text?
  rcases h.head_cases with ⟨heof, hkinds⟩ | ⟨_, hkind, htail⟩
  · unfold Token.text?
    rw [heof, (kind_head_of_kinds hkinds).1]
    exact ⟨rfl, h⟩
  · rw [Token.text?_congr hkind]
    split
    · exact ⟨rfl, htail⟩
    · exact ⟨rfl, h⟩

end Tokens

/-! ### Programs -/

namespace Reading

open Tokens (Enclosed)

variable {A B : Type}

/-- What one program gives up to the end of input the other one gives before a closing parenthesis, and the
tokens that they leave stand like that again. -/
def AgreeEnclosed (p p' : Reading A) : Prop :=
  ∀ ⦃more : List Token.Kind⦄ ⦃s s' : Tokens⦄, Enclosed more s s' → ∀ ⦃a : A⦄ ⦃rest : Tokens⦄,
    p.along s = .ok (a, rest) → ∃ rest', p'.along s' = .ok (a, rest') ∧ Enclosed more rest rest'

/-- One program after another. -/
theorem AgreeEnclosed.bind {p p' : Reading A} {f f' : A → Reading B} (h : p.AgreeEnclosed p')
    (hf : ∀ a, (f a).AgreeEnclosed (f' a)) : (p >>= f).AgreeEnclosed (p' >>= f') := by
  intro more s s' hs b rest hb
  rw [along_bind] at hb ⊢
  obtain ⟨⟨a, between⟩, ha, hb⟩ := exists_of_bind_eq_ok hb
  obtain ⟨between', ha', hbetween⟩ := h hs ha
  obtain ⟨rest', hb', hrest⟩ := hf a hbetween hb
  refine ⟨rest', ?_, hrest⟩
  rw [ha']
  exact hb'

theorem agreeEnclosed_pure (a : A) : (pure a : Reading A).AgreeEnclosed (pure a) := by
  intro more s s' hs b rest h
  cases h
  exact ⟨s', rfl, hs⟩

theorem agreeEnclosed_fail (e : Failure) : (fail e : Reading A).AgreeEnclosed (fail e) := by
  intro more s s' hs a rest h
  cases h

/-- A program that takes a token or none, as the kind of the next one decides. -/
theorem agreeEnclosed_of_along {p : Reading A} {take : Tokens → A × Tokens}
    (hp : ∀ s, p.along s = .ok (take s))
    (h : ∀ {more s s'}, Enclosed more s s' →
      (take s').1 = (take s).1 ∧ Enclosed more (take s).2 (take s').2) : p.AgreeEnclosed p := by
  intro more s s' hs a rest ha
  rw [hp] at ha ⊢
  have htake : take s = (a, rest) := Except.ok.inj ha
  have hstep := h hs
  rw [htake] at hstep
  exact ⟨(take s').2, congrArg Except.ok (Prod.ext hstep.1 rfl), hstep.2⟩

theorem along_ofExcept_mapError {x : Except Span A} {f : Span → Failure} {s rest : Tokens} {a : A} :
    (ofExcept (x.mapError f)).along s = .ok (a, rest) ↔ x.toOption = some a ∧ s = rest := by
  cases x with
  | error span => exact ⟨nofun, nofun⟩
  | ok b =>
    constructor
    · intro h
      cases h
      exact ⟨rfl, rfl⟩
    · rintro ⟨h, rfl⟩
      cases h
      rfl

/-- The end of input is no number, and any other token is one before a closing parenthesis too. -/
theorem agreeEnclosed_takeNumber (message : String) :
    (takeNumber message).AgreeEnclosed (takeNumber message) := by
  intro more s s' hs n rest h
  obtain ⟨hn, rfl⟩ := along_ofExcept_mapError.1 h
  have hne : s.head.kind ≠ .eof := by
    intro heof
    rw [Tokens.number, Token.number, heof] at hn
    cases hn
  obtain ⟨hkind, htail⟩ := hs.of_head hne
  exact ⟨s'.tail, along_ofExcept_mapError.2 ⟨(Token.number_congr hkind).trans hn, rfl⟩, htail⟩

theorem agreeEnclosed_takeRange (message : String) :
    (takeRange message).AgreeEnclosed (takeRange message) := by
  intro more s s' hs r rest h
  obtain ⟨hr, rfl⟩ := along_ofExcept_mapError.1 h
  have hne : s.head.kind ≠ .eof := by
    intro heof
    rw [Tokens.range, Token.range, heof] at hr
    cases hr
  obtain ⟨hkind, htail⟩ := hs.of_head hne
  exact ⟨s'.tail, along_ofExcept_mapError.2 ⟨(Token.range_congr hkind).trans hr, rfl⟩, htail⟩

/-- Parentheses inside are closed by a token of their own, which stands before the closing one: at the end
of input they are not closed at all. -/
theorem agreeEnclosed_closing (inner : Option Query) :
    (Compiler.closing inner).AgreeEnclosed (Compiler.closing inner) := by
  intro more s s' hs q rest h
  unfold Compiler.closing at h ⊢
  rw [along_bind, along_takeNext] at h ⊢
  simp only [Bind.bind, Except.bind] at h ⊢
  split at h
  · next hclosing =>
    cases h
    obtain ⟨hkind, htail⟩ := hs.of_head (by rw [hclosing]; nofun)
    rw [hkind, hclosing]
    exact ⟨s'.tail, rfl, htail⟩
  · cases h

theorem isCongruence_agreeEnclosed : IsCongruence AgreeEnclosed where
  pure := agreeEnclosed_pure
  fail := agreeEnclosed_fail
  bind h hf := h.bind hf
  takeIf hend hclosing := agreeEnclosed_of_along (fun _ => rfl) fun hs => hs.accept hend hclosing
  takeText := agreeEnclosed_of_along along_takeText fun hs => hs.text?
  takeNumber := agreeEnclosed_takeNumber
  takeRange := agreeEnclosed_takeRange
  closing := agreeEnclosed_closing

end Reading

/-- What an expression gives up to the end of input it gives before a closing parenthesis too, where the
keywords do. -/
theorem Compiler.agreeEnclosed_expression {registry : Registry} (hr : registry.Respects Reading.AgreeEnclosed)
    (flags : Flags) (fuel nest : Nat) :
    (expression (factor registry flags fuel nest) fuel).AgreeEnclosed
      (expression (factor registry flags fuel nest) fuel) :=
  Reading.isCongruence_agreeEnclosed.expression (Reading.isCongruence_agreeEnclosed.factor hr fuel nest) fuel

end MapQuery

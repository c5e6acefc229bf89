import MapQuery.Proofs.Compiler.Congruence
import MapQuery.Proofs.Compiler.Registry

/-!
# More keywords

A text in which no new keyword occurs is read as it was before, and so is every text where the new keywords
only join queries that have been read already. A registry is asked for the texts of keys, and for nothing
else.

* `Registry.reading?` — what a key stands for where it is read; the registry matters through this only.
* `Tokens.keyTexts`, `Tokens.Spares` — the texts of the keys among tokens, and tokens without certain ones.
* `Reading.AgreeSparing` — programs that do the same with such tokens.
* `Reading.isCongruence_agreeSparing` — the compiler's programs are built along this relation.
* `Compiler.compile_register` — queries before and after keywords have been registered.
-/

namespace MapQuery

/-! ### What a key stands for -/

namespace Registry

variable {r r' : Registry} {f : Factory} {keywords : List String} {keyword : String}

/-- What a key stands for where it is read. A keyword that joins queries is a text there. -/
def reading? (r : Registry) (key : String) : Option Factory :=
  match r.get? key with
  | some (.binary _) => none
  | f => f

theorem get?_of_reading?_eq_none (h : r.reading? keyword = none) :
    r.get? keyword = none ∨ ∃ join, r.get? keyword = some (.binary join) := by
  unfold reading? at h
  split at h
  · next join hget => exact .inr ⟨join, hget⟩
  · exact .inl h

theorem get?_of_reading?_eq_some (h : r.reading? keyword = some f) : r.get? keyword = some f := by
  unfold reading? at h
  split at h
  · cases h
  · exact h

theorem reading?_of_get?_eq (h : r'.get? keyword = r.get? keyword) :
    r'.reading? keyword = r.reading? keyword := by
  unfold reading?
  rw [h]

/-- Where another key is read, it stands for what it did before. -/
theorem reading?_register (h : r.register keywords f = .ok r') (hkeyword : keyword ∉ keywords) :
    r'.reading? keyword = r.reading? keyword :=
  reading?_of_get?_eq ((get?_register h keyword).trans (if_neg hkeyword))

/-- Keywords that join queries are read as they were before, as texts. -/
theorem reading?_register_binary {join : String → Query → Query → Except Failure Query}
    (h : r.register keywords (.binary join) = .ok r') (keyword : String) :
    r'.reading? keyword = r.reading? keyword := by
  by_cases hmem : keyword ∈ keywords
  · unfold reading?
    rw [get?_register h, if_pos hmem, get?_of_mem_register h hmem]
  · exact reading?_register h hmem

end Registry

/-! ### The texts that a registry is asked for -/

namespace Compiler

variable {r r' : Registry} {flags : Flags} {key : String}

/-- A key that stands for nothing is read as it is where there are no keywords. -/
theorem argument_of_reading?_eq_none (h : r.reading? key = none) (operand : Reading (Option Query)) :
    argument r flags key operand = argument .empty flags key operand := by
  unfold argument
  rw [Registry.get?_empty]
  rcases Registry.get?_of_reading?_eq_none h with hnone | ⟨join, hjoin⟩
  · rw [hnone]
  · rw [hjoin]

theorem bare_of_reading?_eq_none (h : r.reading? key = none) (operand : Reading (Option Query)) :
    bare r flags key operand = bare .empty flags key operand := by
  unfold bare
  rw [Registry.get?_empty]
  rcases Registry.get?_of_reading?_eq_none h with hnone | ⟨join, hjoin⟩
  · rw [hnone]
  · rw [hjoin]

/-- A registry is asked what a key stands for, and nothing else of it counts. -/
theorem argument_congr (h : r'.reading? key = r.reading? key) (operand : Reading (Option Query)) :
    argument r' flags key operand = argument r flags key operand := by
  cases hread : r.reading? key with
  | none => rw [argument_of_reading?_eq_none (h.trans hread), argument_of_reading?_eq_none hread]
  | some f =>
    unfold argument
    rw [Registry.get?_of_reading?_eq_some (h.trans hread), Registry.get?_of_reading?_eq_some hread]

theorem bare_congr (h : r'.reading? key = r.reading? key) (operand : Reading (Option Query)) :
    bare r' flags key operand = bare r flags key operand := by
  cases hread : r.reading? key with
  | none => rw [bare_of_reading?_eq_none (h.trans hread), bare_of_reading?_eq_none hread]
  | some f =>
    unfold bare
    rw [Registry.get?_of_reading?_eq_some (h.trans hread), Registry.get?_of_reading?_eq_some hread]

theorem keyed_congr (h : r'.reading? key = r.reading? key) (operand : Reading (Option Query)) :
    keyed r' flags key operand = keyed r flags key operand := by
  unfold keyed
  rw [argument_congr h, bare_congr h]

end Compiler

/-! ### Tokens without certain texts -/

namespace Tokens

/-- The texts of the keys among the tokens. -/
def keyTexts (s : Tokens) : List String :=
  s.list.filterMap Token.text?

/-- Certain texts are not among those of the keys. -/
def Spares (texts : List String) (s : Tokens) : Prop :=
  ∀ x ∈ texts, x ∉ s.keyTexts

variable {texts : List String} {s : Tokens}

theorem Spares.of_suffix {rest : Tokens} (h : s.Spares texts) (hrest : rest.list <:+ s.list) :
    rest.Spares texts :=
  fun x hx hmem => h x hx ((hrest.filterMap Token.text?).mem hmem)

theorem mem_keyTexts_of_text? {x : String} (h : s.text?.1 = some x) : x ∈ s.keyTexts := by
  unfold text? at h
  obtain ⟨list, stop⟩ := s
  cases list with
  | nil => cases h
  | cons t list =>
    rw [head_cons] at h
    split at h
    · next y ht =>
      cases h
      exact List.mem_filterMap.mpr ⟨t, List.mem_cons_self, ht⟩
    · cases h

end Tokens

/-! ### Programs -/

namespace Reading

variable {A B : Type} {texts : List String}

/-- Two programs do the same with tokens among which certain texts are not the texts of keys. -/
def AgreeSparing (texts : List String) (p p' : Reading A) : Prop :=
  ∀ s : Tokens, s.Spares texts → p.along s = p'.along s

theorem AgreeSparing.refl (p : Reading A) : p.AgreeSparing texts p :=
  fun _ _ => rfl

theorem AgreeSparing.bind {p p' : Reading A} {f f' : A → Reading B} (h : p.AgreeSparing texts p')
    (hf : ∀ a, (f a).AgreeSparing texts (f' a)) : (p >>= f).AgreeSparing texts (p' >>= f') := by
  intro s hs
  rw [along_bind, along_bind, ← h s hs]
  cases hp : p.along s with
  | error e => rfl
  | ok r => exact hf r.1 r.2 (hs.of_suffix (suffix_along hp))

/-- After a text has been taken, it is none of those. -/
theorem AgreeSparing.takeText_bind {f f' : Option String → Reading A}
    (hnone : (f none).AgreeSparing texts (f' none))
    (hsome : ∀ text, text ∉ texts → (f (some text)).AgreeSparing texts (f' (some text))) :
    (takeText >>= f).AgreeSparing texts (takeText >>= f') := by
  intro s hs
  rw [along_bind, along_bind, along_takeText]
  have hrest : s.text?.2.Spares texts := hs.of_suffix s.suffix_text?
  show (f s.text?.1).along s.text?.2 = (f' s.text?.1).along s.text?.2
  cases htext : s.text?.1 with
  | none => exact hnone _ hrest
  | some text => exact hsome text (fun hmem => hs text hmem (Tokens.mem_keyTexts_of_text? htext)) _ hrest

theorem isCongruence_agreeSparing (texts : List String) : IsCongruence (AgreeSparing texts) where
  pure _ := .refl _
  fail _ := .refl _
  bind h hf := h.bind hf
  takeIf _ _ := .refl _
  takeText := .refl _
  takeNumber _ := .refl _
  takeRange _ := .refl _
  closing _ := .refl _

end Reading

/-! ### Queries -/

namespace Compiler

open Reading

variable {r r' : Registry} {texts : List String}

/-- Factors are read alike where the registries read all other keys alike. -/
theorem agreeSparing_factor (h : ∀ key, key ∉ texts → r'.reading? key = r.reading? key) (flags : Flags)
    (fuel nest : Nat) :
    (factor r' flags fuel nest).AgreeSparing texts (factor r flags fuel nest) := by
  have hR := isCongruence_agreeSparing texts
  have hr : r.Respects (AgreeSparing texts) := Registry.respects_of_refl (fun _ => .refl _) r
  induction nest with
  | zero => exact .refl _
  | succ nest ih =>
    rw [factor, factor]
    refine hR.choice ?_ (hR.choice ?_ ?_ rfl rfl) rfl rfl
    -- In parentheses, after a negation, and after a key, where the registries are asked.
    · exact (hR.expression ih fuel).bind fun _ => .refl _
    · exact ih.bind fun _ => .refl _
    · refine .takeText_bind (.refl _) fun key hkey => ?_
      dsimp only
      rw [keyed_congr (h key hkey)]
      exact (hR.keyed hr ih).bind fun _ => .refl _

/-- Queries are the same where the registries read all keys of the text alike. -/
theorem compile_congr (h : ∀ key, key ∉ texts → r'.reading? key = r.reading? key) (flags : Flags)
    {text : String} (htext : (Tokens.ofText text).Spares texts) :
    Query.compile r' flags text = Query.compile r flags text := by
  have hquery : (query r' flags (text.length + 1)).AgreeSparing texts (query r flags (text.length + 1)) := by
    have hfactor := agreeSparing_factor h flags (text.length + 1) nestingLimit
    exact ((isCongruence_agreeSparing texts).expression hfactor _).bind fun _ => .refl _
  unfold Query.compile
  rw [run_eq_along _ (Tokenizer.faces_ofText text), run_eq_along _ (Tokenizer.faces_ofText text),
    hquery _ htext]

/-- After keywords have been registered, every text without a key that is one of them is compiled to the same
query as before, or fails as before. Where the keywords only join queries, every text is. -/
theorem compile_register {keywords : List String} {f : Factory} (h : r.register keywords f = .ok r')
    (flags : Flags) (text : String) :
    ((∀ keyword ∈ keywords, keyword ∉ (Tokens.ofText text).keyTexts) →
      Query.compile r' flags text = Query.compile r flags text) ∧
    ((∃ join, f = .binary join) → Query.compile r' flags text = Query.compile r flags text) := by
  constructor
  · intro htext
    exact compile_congr (fun _ hkey => Registry.reading?_register h hkey) flags htext
  · rintro ⟨join, rfl⟩
    have hspares : (Tokens.ofText text).Spares [] := fun _ hx => absurd hx List.not_mem_nil
    exact compile_congr (fun key _ => Registry.reading?_register_binary h key) flags hspares

/-- There is a keyword that takes all tokens that are left. A condition and a way to join queries are registered
under new names. A text with other keys keeps its meaning, and so does one with the name of the latter. -/
theorem compile_register_places :
    let rest := Factory.simple (fun keyword _ => .error (.colonNeeded keyword)) fun _ _ =>
      .ofFunction fun s => .ok (.always, s.size)
    let r := (Registry.builtin default default).insert "rest" rest
    let condition := Builtin.plain (.kind .node)
    let near := Factory.binary fun _ left right => .ok (.join .and left right)
    ∃ r' r'', r.register ["village", "hamlet"] condition = .ok r' ∧ r.register ["near"] near = .ok r'' ∧
      Query.compile r' default "town -name=city rest: a b" = Query.compile r default "town -name=city rest: a b" ∧
      Query.compile r'' default "town near:river" = Query.compile r default "town near:river" := by
  intro rest r condition near
  have h : r.register ["village", "hamlet"] condition = .ok (r.insertAll ["village", "hamlet"] condition) := by
    with_unfolding_all rfl
  have h' : r.register ["near"] near = .ok (r.insertAll ["near"] near) := by
    with_unfolding_all rfl
  have htext : (Tokens.ofText "town -name=city rest: a b").keyTexts =
      ["town", "name", "city", "rest", "a", "b"] := by
    with_unfolding_all rfl
  refine ⟨_, _, h, h', (compile_register h default _).1 ?_, (compile_register h' default _).2 ⟨_, rfl⟩⟩
  rw [htext]
  decide

end Compiler

end MapQuery

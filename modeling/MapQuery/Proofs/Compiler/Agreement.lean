import MapQuery.Proofs.Compiler.Grammar

/-!
# Compiling follows the grammar

The compiler reads factors in a loop, keeps the operator that waits for its right operand, and joins what
it has read from the right when the loop is over. Over a list of tokens it gives what the grammar gives.

* `along_factors`, `along_expression` — the loop and the rule for expressions.
* `along_keyed`, `along_factor` — keys and factors, the latter by induction on the nesting that is left.
* `compile_eq_query` — a whole query, from its text.
-/

namespace MapQuery

namespace Compiler

open Grammar (Part operator? orAlways)

/-- The tokens after a part, whether or not something was read. -/
def taken {s : Tokens} : Part s → Except Failure (Option Query × Tokens)
  | .error e => .error e
  | .ok none => .ok (none, s)
  | .ok (some (q, ⟨rest, _⟩)) => .ok (some q, rest)

/-- Where nothing was read, going on with the query that matches everything. -/
theorem taken_bind {B : Type} {s : Tokens} (part : Part s) (f : Query → Tokens → Except Failure B) :
    (taken part >>= fun r => f (r.1.getD .always) r.2) =
      part >>= fun read => f (orAlways read).1 (orAlways read).2.1 := by
  cases part using Grammar.part_cases with
  | failed e => rfl
  | nothing => rfl
  | read q rest hrest => rfl

/-! ### Expressions -/

/-- A right operand with the factors to the left of it, the nearest one first. -/
def joinedTo (right : Query) (read : List (Query × Operator)) : Query :=
  read.foldl (fun right (left, o) => .join o left right) right

/-- What the factors that have been read become with the part after them. -/
def continued {s : Tokens} (wanting : Option Operator) (read : List (Query × Operator)) :
    Part s → Except Failure (Option Query × Tokens)
  | .error e => .error e
  | .ok none =>
    match wanting with
    | some o => .error (.nothingAfter o)
    | none => .ok (joined read, s)
  | .ok (some (right, ⟨rest, _⟩)) => .ok (some (joinedTo right read), rest)

theorem along_operator (s : Tokens) :
    operator.along s =
      .ok (match operator? s.head.kind with
        | some o => ((o, true), s.tail)
        | none => ((.and, false), s)) := by
  unfold operator
  simp only [Reading.along_takeIf_bind, if_true, Bool.false_eq_true, if_false]
  cases s.head.kind <;> rfl

/-- The factors of an expression, read one after the other and joined from the right at the end, are the
expression of the grammar. The induction is on the fuel; the factors read so far and the operator that
waits are arbitrary. -/
theorem along_factors {reading : Reading (Option Query)} {factor : (s : Tokens) → Part s} {limit : Nat}
    (hfactor : ∀ s : Tokens, s.size < limit → reading.along s = taken (factor s)) :
    ∀ (fuel : Nat) (s : Tokens), s.size < fuel → s.size < limit →
      ∀ (wanting : Option Operator) (read : List (Query × Operator)),
        ((factors reading fuel wanting read).along s).map (fun r => (joined r.1, r.2)) =
          continued wanting read (Grammar.expression factor s) := by
  intro fuel
  induction fuel with
  | zero =>
    intro s hs
    exact absurd hs (Nat.not_lt_zero _)
  | succ fuel ih =>
    intro s hs hlimit wanting read
    rw [factors.eq_def, Grammar.expression]
    dsimp only
    rw [Reading.along_bind, hfactor s hlimit]
    cases factor s using Grammar.part_cases with
    | failed e => rfl
    | nothing => cases wanting <;> rfl
    | read left rest hrest =>
      have htail := rest.size_tail_le
      show Except.map _ ((_ >>= _ : Reading _).along rest) = _
      rw [Reading.along_bind, along_operator]
      cases ho : operator? rest.head.kind with
      | some o =>
        refine (ih rest.tail (by omega) (by omega) (some o) ((left, o) :: read)).trans ?_
        simp only [ho, bind, Except.bind]
        cases Grammar.expression factor rest.tail using Grammar.part_cases with
        | failed e => rfl
        | nothing => rfl
        | read right after hafter => rfl
      | none =>
        refine (ih rest (by omega) (by omega) none ((left, .and) :: read)).trans ?_
        simp only [ho, bind, Except.bind]
        cases Grammar.expression factor rest using Grammar.part_cases with
        | failed e => rfl
        | nothing => rfl
        | read right after hafter => rfl

theorem along_expression {reading : Reading (Option Query)} {factor : (s : Tokens) → Part s}
    {fuel : Nat} (hfactor : ∀ s : Tokens, s.size < fuel → reading.along s = taken (factor s))
    (s : Tokens) (hs : s.size < fuel) :
    (expression reading fuel).along s = taken (Grammar.expression factor s) := by
  have hread := along_factors hfactor fuel s hs hs none []
  unfold expression
  rw [Reading.along_bind]
  calc ((factors reading fuel none []).along s >>= fun r => .ok (joined r.1, r.2))
      = ((factors reading fuel none []).along s).map (fun r => (joined r.1, r.2)) := by
        cases (factors reading fuel none []).along s <;> rfl
    _ = continued none [] (Grammar.expression factor s) := hread
    _ = taken (Grammar.expression factor s) := by
        cases Grammar.expression factor s using Grammar.part_cases with
        | failed e => rfl
        | nothing => rfl
        | read q rest hrest => rfl

/-! ### Keys -/

section

variable {registry : Registry} {flags : Flags} {key : String} {reading : Reading (Option Query)}
  {operand : (s : Tokens) → Part s} {s : Tokens}

/-- A condition that could be built takes no tokens. -/
theorem along_built {A : Type} (f : A → Query) (built : Except Failure A) (s : Tokens) :
    (Reading.ofExcept (f <$> built)).along s = built >>= fun a => .ok (f a, s) := by
  cases built <;> rfl

theorem along_tag (regex : Bool) (s : Tokens) :
    (tag flags key regex).along s = Grammar.tag flags key regex s := by
  unfold tag
  rw [Reading.along_bind, Reading.along_takeText]
  exact along_built _ _ _

theorem along_comparison (c : Comparison) (s : Tokens) :
    (comparison key c).along s = Grammar.comparison key c s := by
  unfold comparison
  rw [Reading.along_bind, Reading.along_takeText]
  exact along_built _ _ _

theorem along_operand (h : reading.along s = taken (operand s)) (f : Query → Reading Query) :
    (reading >>= fun q => f (q.getD .always)).along s =
      operand s >>= fun part => (f (orAlways part).1).along (orAlways part).2.1 := by
  rw [Reading.along_bind, h]
  exact taken_bind (operand s) fun q rest => (f q).along rest

theorem along_argument (h : reading.along s = taken (operand s)) :
    (argument registry flags key reading).along s = Grammar.argument registry flags key operand s := by
  unfold argument Grammar.argument
  generalize registry.get? key = meaning
  match meaning with
  | some (.simple alone called) => rfl
  | some (.unary alone called) => exact along_operand h (called key)
  | some (.binary _) | none =>
    show (Reading.takeText >>= _ : Reading _).along s = _
    rw [Reading.along_bind, Reading.along_takeText]
    unfold Tokens.text?
    cases s.head.text? with
    | none => exact along_built _ _ _
    | some value => exact along_built _ _ _

theorem along_bare (h : reading.along s = taken (operand s)) :
    (bare registry flags key reading).along s = Grammar.bare registry flags key operand s := by
  unfold bare Grammar.bare
  generalize registry.get? key = meaning
  match meaning with
  | some (.simple alone called) => exact Reading.along_ofExcept _ _
  | some (.unary alone called) =>
    refine (along_operand h fun q => Reading.ofExcept (alone key q)).trans ?_
    simp only [Reading.along_ofExcept]
    rfl
  | some (.binary _) | none => exact along_built _ _ _

/-- What begins with a key, where the operand is read as it should be. -/
theorem along_keyed
    (h : ∀ rest : Tokens, rest.size ≤ s.size → reading.along rest = taken (operand rest)) :
    (keyed registry flags key reading).along s = Grammar.keyed registry flags key operand s := by
  unfold keyed Grammar.keyed
  simp only [Reading.along_takeIf_bind, if_true, Bool.false_eq_true, if_false]
  cases s.head.kind with
  | equals => exact along_tag flags.regex s.tail
  | tilde => exact along_tag true s.tail
  | lessThan => exact along_comparison .less s.tail
  | greaterThan => exact along_comparison .greater s.tail
  | colon => exact along_argument (h s.tail s.size_tail_le)
  | questionMark => rfl
  | _ => exact along_bare (h s (Nat.le_refl _))

end

/-! ### Factors and queries -/

/-- A query in parentheses, with what stands after it. -/
def closed (q : Query) (rest : Tokens) : Except Failure (Option Query × Tokens) :=
  match rest.head.kind with
  | .rightParen => .ok (some q, rest.tail)
  | _ => .error (.expected .rightParen rest.head)

/-- What stands after a negation, if anything does. -/
def negated (q : Option Query) (rest : Tokens) : Except Failure (Option Query × Tokens) :=
  match q with
  | some q => .ok (some (.not q), rest)
  | none => .error .nothingToNegate

/-- A whole query, with what stands after it. -/
def ended (q : Query) (rest : Tokens) : Except Failure (Query × Tokens) :=
  match rest.head.kind with
  | .eof => .ok (q, rest.tail)
  | _ => .error (.leftover rest.head)

section

variable {registry : Registry} {flags : Flags} {fuel nest : Nat} {s : Tokens}

theorem along_parenthesis (hkind : s.head.kind = .leftParen) :
    (factor registry flags fuel (nest + 1)).along s =
      (expression (factor registry flags fuel nest) fuel).along s.tail >>= fun r =>
        closed (r.1.getD .always) r.2 := by
  rw [factor, Reading.along_takeIf_bind, hkind]
  show (_ >>= _ : Reading _).along s.tail = _
  rw [Reading.along_bind]
  refine congrArg _ (funext fun r => ?_)
  rw [Reading.along_bind, Reading.along_takeNext, closed]
  simp only [bind, Except.bind]
  cases r.2.head.kind <;> rfl

theorem along_negation (hkind : s.head.kind = .not) :
    (factor registry flags fuel (nest + 1)).along s =
      (factor registry flags fuel nest).along s.tail >>= fun r => negated r.1 r.2 := by
  rw [factor]
  simp only [Reading.along_takeIf_bind, hkind, if_true, Bool.false_eq_true, if_false]
  show (_ >>= _ : Reading _).along s.tail = _
  rw [Reading.along_bind]
  refine congrArg _ (funext fun r => ?_)
  obtain ⟨q, rest⟩ := r
  cases q <;> rfl

theorem along_key {k : Key} (hkind : s.head.kind = .key k) :
    (factor registry flags fuel (nest + 1)).along s =
      (keyed registry flags k.text (factor registry flags fuel nest)).along s.tail >>= fun r =>
        .ok (some r.1, r.2) := by
  rw [factor]
  simp only [Reading.along_takeIf_bind, hkind, if_true, Bool.false_eq_true, if_false]
  show (Reading.takeText >>= _ : Reading _).along s = _
  rw [Reading.along_bind, Reading.along_takeText, Tokens.text?_of_key hkind]
  show (_ >>= _ : Reading _).along s.tail = _
  rw [Reading.along_bind]
  rfl

theorem along_no_factor (hparen : s.head.kind ≠ .leftParen) (hnot : s.head.kind ≠ .not)
    (hkey : ∀ k, s.head.kind ≠ .key k) :
    (factor registry flags fuel (nest + 1)).along s = .ok (none, s) := by
  rw [factor]
  simp only [Reading.along_takeIf_bind, if_true, Bool.false_eq_true, if_false]
  cases hkind : s.head.kind with
  | leftParen => exact absurd hkind hparen
  | not => exact absurd hkind hnot
  | key k => exact absurd hkind (hkey k)
  | _ =>
    show (Reading.takeText >>= _ : Reading _).along s = _
    rw [Reading.along_bind, Reading.along_takeText, Tokens.text?_of_not_key hkey]
    rfl

variable (registry flags)

/-- A factor is read as the grammar says, on fewer tokens than the fuel. The induction is on the nesting
that is left. -/
theorem along_factor (nest : Nat) (s : Tokens) (hs : s.size < fuel) :
    (factor registry flags fuel nest).along s = taken (Grammar.factor registry flags nest s) := by
  induction nest generalizing s with
  | zero => rfl
  | succ nest ih =>
    have htail := s.size_tail_le
    rw [Grammar.factor]
    split
    · next hkind =>
      rw [along_parenthesis hkind, along_expression ih s.tail (by omega)]
      refine (taken_bind _ closed).trans ?_
      cases Grammar.expression (Grammar.factor registry flags nest) s.tail with
      | error e => rfl
      | ok part =>
        simp only [bind, Except.bind, closed]
        generalize orAlways part = read
        obtain ⟨q, rest, hrest⟩ := read
        cases rest.head.kind <;> rfl
    · next hkind =>
      rw [along_negation hkind, ih s.tail (by omega)]
      cases Grammar.factor registry flags nest s.tail using Grammar.part_cases with
      | failed e => rfl
      | nothing => rfl
      | read q rest hrest => rfl
    · next k hkind =>
      rw [along_key hkind, along_keyed fun rest hrest => ih rest (by omega)]
      split
      · next heq => simp only [heq]; rfl
      · next heq => simp only [heq]; rfl
    · next hparen hnot hkey =>
      exact along_no_factor hparen hnot hkey

/-- A query is an expression with nothing after it. -/
theorem along_query_ended (s : Tokens) :
    (query registry flags fuel).along s =
      (expression (factor registry flags fuel nestingLimit) fuel).along s >>= fun r =>
        ended (r.1.getD .always) r.2 := by
  unfold query
  rw [Reading.along_bind]
  refine congrArg _ (funext fun r => ?_)
  rw [Reading.along_bind, Reading.along_takeNext, ended]
  simp only [bind, Except.bind]
  cases r.2.head.kind <;> rfl

theorem along_query (s : Tokens) (hs : s.size < fuel) :
    ((query registry flags fuel).along s).map Prod.fst = Grammar.query registry flags s := by
  rw [along_query_ended, along_expression (along_factor registry flags nestingLimit) s hs, taken_bind,
    Grammar.query]
  cases Grammar.expression (Grammar.factor registry flags nestingLimit) s with
  | error e => rfl
  | ok part =>
    simp only [bind, Except.bind, ended]
    generalize orAlways part = read
    obtain ⟨q, rest, hrest⟩ := read
    cases rest.head.kind <;> rfl

end

/-- A query is compiled as the grammar reads the tokens of its text. -/
theorem compile_eq_query (registry : Registry) (flags : Flags) (text : String) :
    Query.compile registry flags text = Grammar.query registry flags (.ofText text) := by
  unfold Query.compile
  rw [Reading.run_eq_along _ (Tokenizer.faces_ofText text)]
  exact along_query registry flags _ (Nat.lt_succ_of_le (Tokens.size_ofText_le text))

end Compiler

end MapQuery

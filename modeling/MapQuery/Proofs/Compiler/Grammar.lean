import MapQuery.Compiler.Basic
import MapQuery.Proofs.Compiler.Reading

/-!
# The grammar of queries

    query      := expression end
    expression := factor (or expression | xor expression | expression)?
    factor     := '(' expression ')' | not factor
                | key ('=' value | '~' value | '<' value | '>' value | ':' argument | '?')?

The grammar is read off the list of tokens by recursion, one function for each rule. There is no loop, no
token is ever put back, and no operator waits for its right operand. A keyword is what its factory makes
of the tokens after it.

* `Grammar.expression` — the rule for expressions; the three operators group to the right.
* `Grammar.keyed` — what begins with a key.
* `Grammar.factor` — the rule for factors, with the nesting that is left.
* `Grammar.query` — a whole query.
-/

namespace MapQuery

namespace Tokens

/-- Fewer tokens than these. -/
abbrev Fewer (s : Tokens) :=
  { rest : Tokens // rest.size < s.size }

/-- As many tokens as these, or fewer. -/
abbrev AtMost (s : Tokens) :=
  { rest : Tokens // rest.size ≤ s.size }

/-- Before the end of input, taking a token leaves fewer. -/
theorem size_tail_lt {s : Tokens} (h : s.head.kind ≠ .eof) : s.tail.size < s.size := by
  obtain ⟨list, stop⟩ := s
  cases list with
  | nil => exact absurd rfl h
  | cons t list => simp

end Tokens

namespace Grammar

open Tokens (Fewer AtMost size_tail_lt)

/-- What a rule reads from `s`: nothing, and then it takes no token, or a query, with the tokens after
it, which are fewer. -/
abbrev Part (s : Tokens) :=
  Except Failure (Option (Query × Fewer s))

/-- What a rule reads fails, is nothing, or is a query with the tokens after it. -/
@[elab_as_elim]
theorem part_cases {s : Tokens} {motive : Part s → Prop} (part : Part s)
    (failed : ∀ e, motive (.error e)) (nothing : motive (.ok none))
    (read : ∀ q rest hrest, motive (.ok (some (q, ⟨rest, hrest⟩)))) : motive part := by
  cases part with
  | error e => exact failed e
  | ok r =>
    cases r with
    | none => exact nothing
    | some r =>
      obtain ⟨q, rest, hrest⟩ := r
      exact read q rest hrest

/-! ### Expressions -/

/-- The operator that a token writes. -/
def operator? : Token.Kind → Option Operator
  | .or => some .or
  | .xor => some .xor
  | _ => none

/-- `factor (or expression | xor expression | expression)?` -/
def expression (factor : (s : Tokens) → Part s) (s : Tokens) : Part s := do
  match ← factor s with
  | none => return none
  | some (left, ⟨rest, hrest⟩) =>
    have htail : rest.tail.size < s.size := Nat.lt_of_le_of_lt rest.size_tail_le hrest
    match operator? rest.head.kind with
    | some o =>
      match ← expression factor rest.tail with
      | some (right, ⟨after, hafter⟩) =>
        return some (.join o left right, ⟨after, Nat.lt_trans hafter htail⟩)
      | none => throw (.nothingAfter o)
    | none =>
      match ← expression factor rest with
      | some (right, ⟨after, hafter⟩) =>
        return some (.join .and left right, ⟨after, Nat.lt_trans hafter hrest⟩)
      | none => return some (left, ⟨rest, hrest⟩)
termination_by s.size

/-- Where no query is read, everything matches. -/
def orAlways {s : Tokens} : Option (Query × Fewer s) → Query × AtMost s
  | none => (.always, ⟨s, Nat.le_refl _⟩)
  | some (q, ⟨rest, hrest⟩) => (q, ⟨rest, Nat.le_of_lt hrest⟩)

/-! ### Keys -/

section

variable (registry : Registry) (flags : Flags)

/-- `key '=' value` and `key '~' value`; the value may be missing. -/
def tag (key : String) (regex : Bool) (s : Tokens) : Except Failure (Query × Tokens) := do
  let m ← TagMatch.compile key s.text?.1 regex flags.caseSensitive
  return (.tag m, s.text?.2)

/-- `key '<' value` and `key '>' value`. -/
def comparison (key : String) (c : Comparison) (s : Tokens) : Except Failure (Query × Tokens) := do
  let m ← ValueComparison.compile key s.text?.1 c
  return (.comparison m, s.text?.2)

/-- `key ':' argument`: a keyword with its argument or with its operand, or a key with a text to be found
in its value. Without the text the key has to have some value. -/
def argument (key : String) (operand : (s : Tokens) → Part s) (s : Tokens) :
    Except Failure (Query × Tokens) := do
  match registry.get? key with
  | some (.simple _ called) => (called key flags).along s
  | some (.unary _ called) =>
    let (q, rest) := orAlways (← operand s)
    (called key q).along rest
  | _ =>
    match s.text? with
    | (some value, rest) =>
      let m ← ValueSearch.compile key value flags
      return (.value m, rest)
    | (none, _) =>
      let m ← TagMatch.compile key (some "*") flags.regex flags.caseSensitive
      return (.tag m, s)

/-- `key` alone: a keyword, perhaps with its operand, or a text to be found anywhere. -/
def bare (key : String) (operand : (s : Tokens) → Part s) (s : Tokens) :
    Except Failure (Query × Tokens) := do
  match registry.get? key with
  | some (.simple alone _) => return (← alone key flags, s)
  | some (.unary alone _) =>
    let (q, rest) := orAlways (← operand s)
    return (← alone key q, rest)
  | _ =>
    let m ← TextSearch.compile key flags
    return (.text m, s)

/-- What stands after a key, and the key alone. -/
def keyed (key : String) (operand : (s : Tokens) → Part s) (s : Tokens) :
    Except Failure (Query × Tokens) :=
  match s.head.kind with
  | .equals => tag flags key flags.regex s.tail
  | .tilde => tag flags key true s.tail
  | .lessThan => comparison key .less s.tail
  | .greaterThan => comparison key .greater s.tail
  | .colon => argument registry flags key operand s.tail
  | .questionMark => .ok (.booleanTag key false, s.tail)
  | _ => bare registry flags key operand s

variable {registry flags}
variable {key : String} {operand : (s : Tokens) → Part s} {s rest : Tokens} {q : Query}

theorem size_tag_le {regex : Bool} (h : tag flags key regex s = .ok (q, rest)) :
    rest.size ≤ s.size := by
  obtain ⟨m, _, hm⟩ := exists_of_bind_eq_ok h
  cases hm
  exact s.size_text?_le

theorem size_comparison_le {c : Comparison} (h : comparison key c s = .ok (q, rest)) :
    rest.size ≤ s.size := by
  obtain ⟨m, _, hm⟩ := exists_of_bind_eq_ok h
  cases hm
  exact s.size_text?_le

theorem size_argument_le (h : argument registry flags key operand s = .ok (q, rest)) :
    rest.size ≤ s.size := by
  unfold argument at h
  split at h
  · exact Reading.size_along_le h
  · obtain ⟨part, _, hpart⟩ := exists_of_bind_eq_ok h
    exact Nat.le_trans (Reading.size_along_le hpart) (orAlways part).2.2
  · have hle := s.size_text?_le
    split at h
    · next value after htext =>
      rw [htext] at hle
      obtain ⟨m, _, hm⟩ := exists_of_bind_eq_ok h
      cases hm
      exact hle
    · obtain ⟨m, _, hm⟩ := exists_of_bind_eq_ok h
      cases hm
      exact Nat.le_refl _

theorem size_bare_le (h : bare registry flags key operand s = .ok (q, rest)) :
    rest.size ≤ s.size := by
  unfold bare at h
  split at h
  · obtain ⟨m, _, hm⟩ := exists_of_bind_eq_ok h
    cases hm
    exact Nat.le_refl _
  · obtain ⟨part, _, hpart⟩ := exists_of_bind_eq_ok h
    obtain ⟨m, _, hm⟩ := exists_of_bind_eq_ok hpart
    cases hm
    exact (orAlways part).2.2
  · obtain ⟨m, _, hm⟩ := exists_of_bind_eq_ok h
    cases hm
    exact Nat.le_refl _

/-- What stands after a key takes tokens and never gives any back. -/
theorem size_keyed_le (h : keyed registry flags key operand s = .ok (q, rest)) :
    rest.size ≤ s.size := by
  have htail := s.size_tail_le
  unfold keyed at h
  split at h
  · exact Nat.le_trans (size_tag_le h) htail
  · exact Nat.le_trans (size_tag_le h) htail
  · exact Nat.le_trans (size_comparison_le h) htail
  · exact Nat.le_trans (size_comparison_le h) htail
  · exact Nat.le_trans (size_argument_le h) htail
  · cases h
    exact htail
  · exact size_bare_le h

end

/-! ### Factors and queries -/

section

variable (registry : Registry) (flags : Flags)

/-- `'(' expression ')'`, `not factor`, or what begins with a key. Any other token begins no factor. No
factor is asked for where no nesting is left. -/
def factor : (nest : Nat) → (s : Tokens) → Part s
  | 0, _ => .error .tooDeep
  | nest + 1, s =>
    match h : s.head.kind with
    | .leftParen => do
      have htail : s.tail.size < s.size := size_tail_lt (by simp [h])
      let (q, ⟨rest, hrest⟩) := orAlways (← expression (factor nest) s.tail)
      match rest.head.kind with
      | .rightParen =>
        have hclosed := Nat.le_trans rest.size_tail_le hrest
        return some (q, ⟨rest.tail, Nat.lt_of_le_of_lt hclosed htail⟩)
      | _ => throw (.expected .rightParen rest.head)
    | .not => do
      have htail : s.tail.size < s.size := size_tail_lt (by simp [h])
      match ← factor nest s.tail with
      | some (q, ⟨rest, hrest⟩) => return some (.not q, ⟨rest, Nat.lt_trans hrest htail⟩)
      | none => throw .nothingToNegate
    | .key k =>
      have htail : s.tail.size < s.size := size_tail_lt (by simp [h])
      match hkeyed : keyed registry flags k.text (factor nest) s.tail with
      | .ok (q, rest) => .ok (some (q, ⟨rest, Nat.lt_of_le_of_lt (size_keyed_le hkeyed) htail⟩))
      | .error e => .error e
    | _ => .ok none

/-- An expression with nothing after it. -/
def query (s : Tokens) : Except Failure Query := do
  let (q, ⟨rest, _⟩) := orAlways (← expression (factor registry flags Compiler.nestingLimit) s)
  match rest.head.kind with
  | .eof => return q
  | _ => throw (.leftover rest.head)

end

end Grammar

end MapQuery

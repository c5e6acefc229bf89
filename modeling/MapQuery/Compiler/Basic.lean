import MapQuery.Compiler.Registry

/-!
# Compiling queries

    query      := expression end
    expression := factor (or expression | xor expression | expression)?
    factor     := '(' expression ')' | not factor
                | key ('=' value | '~' value | '<' value | '>' value | ':' argument | '?')?

The three operators have equal precedence and group to the right. An expression may be empty, and then
matches everything. Parentheses, negations and keywords around a query nest up to a limit.

* `Compiler.factor`, `Compiler.expression` — the two parts of the grammar.
* `Query.compile` — a query from its text.
* `Query.textForTag` — the text of a query for one tag.
-/

namespace MapQuery

namespace Compiler

/-- The deepest nesting of factors. -/
def nestingLimit : Nat := 100

/-- Factors with the operators after them, the last one first, joined from the right. The operator after
the last factor does not count. -/
def joined : List (Query × Operator) → Option Query
  | [] => none
  | (last, _) :: before => some (before.foldl (fun right (left, o) => .join o left right) last)

/-- The operator after a factor. Where none is written the factors around it both have to hold. -/
def operator : Reading (Operator × Bool) := do
  if ← Reading.takeIf .or then return (.or, true)
  else if ← Reading.takeIf .xor then return (.xor, true)
  else return (.and, false)

/-- Factors as long as there are any. `wanting` is the operator that has been written before the next
one. Each factor takes a token, so that `fuel` need only exceed the number of tokens. -/
def factors (factor : Reading (Option Query)) :
    (fuel : Nat) → (wanting : Option Operator) → List (Query × Operator) →
      Reading (List (Query × Operator))
  | 0, _, read => .done read
  | fuel + 1, wanting, read => do
    match ← factor with
    | some q =>
      let (o, isWritten) ← operator
      factors factor fuel (if isWritten then some o else none) ((q, o) :: read)
    | none =>
      match wanting with
      | some o => .fail (.nothingAfter o)
      | none => return read

/-- Factors joined by operators, or nothing. -/
def expression (factor : Reading (Option Query)) (fuel : Nat) : Reading (Option Query) := do
  return joined (← factors factor fuel none [])

section

variable (registry : Registry) (flags : Flags)

/-- A key with a colon after it: a keyword, or a text to be found in the value of the key. Without a text
the key has to have some value. -/
def argument (key : String) (operand : Reading (Option Query)) : Reading Query := do
  match registry.get? key with
  | some (.simple _ called) => called key flags
  | some (.unary _ called) =>
    let q ← operand
    called key (q.getD .always)
  | _ =>
    match ← Reading.takeText with
    | none =>
      Reading.ofExcept (.tag <$> TagMatch.compile key (some "*") flags.regex flags.caseSensitive)
    | some value => Reading.ofExcept (.value <$> ValueSearch.compile key value flags)

/-- A key alone: a keyword, or a text to be found anywhere. -/
def bare (key : String) (operand : Reading (Option Query)) : Reading Query := do
  match registry.get? key with
  | some (.simple alone _) => Reading.ofExcept (alone key flags)
  | some (.unary alone _) =>
    let q ← operand
    Reading.ofExcept (alone key (q.getD .always))
  | _ => Reading.ofExcept (.text <$> TextSearch.compile key flags)

/-- A tag whose value stands next. -/
def tag (key : String) (regex : Bool) : Reading Query := do
  let value ← Reading.takeText
  Reading.ofExcept (.tag <$> TagMatch.compile key value regex flags.caseSensitive)

/-- A comparison with the value that stands next. -/
def comparison (key : String) (c : Comparison) : Reading Query := do
  let reference ← Reading.takeText
  Reading.ofExcept (.comparison <$> ValueComparison.compile key reference c)

/-- What begins with a key. -/
def keyed (key : String) (operand : Reading (Option Query)) : Reading Query := do
  if ← Reading.takeIf .equals then tag flags key flags.regex
  else if ← Reading.takeIf .tilde then tag flags key true
  else if ← Reading.takeIf .lessThan then comparison key .less
  else if ← Reading.takeIf .greaterThan then comparison key .greater
  else if ← Reading.takeIf .colon then argument registry flags key operand
  else if ← Reading.takeIf .questionMark then return .booleanTag key false
  else bare registry flags key operand

/-- A factor, or nothing if the next token cannot begin one. `nest` is the nesting that is left. -/
def factor (fuel : Nat) : (nest : Nat) → Reading (Option Query)
  | 0 => .fail .tooDeep
  | nest + 1 => do
    if ← Reading.takeIf .leftParen then
      let inner ← expression (factor fuel nest) fuel
      let token ← Reading.takeNext
      match token.kind with
      | .rightParen => return some (inner.getD .always)
      | _ => .fail (.expected .rightParen token)
    else if ← Reading.takeIf .not then
      match ← factor fuel nest with
      | some q => return some (.not q)
      | none => .fail .nothingToNegate
    else
      match ← Reading.takeText with
      | some key => return some (← keyed registry flags key (factor fuel nest))
      | none => return none

/-- A whole query. -/
def query (fuel : Nat) : Reading Query := do
  let q ← expression (factor registry flags fuel nestingLimit) fuel
  let token ← Reading.takeNext
  match token.kind with
  | .eof => return q.getD .always
  | _ => .fail (.leftover token)

end

end Compiler

namespace Query

/-- A query from its text. -/
def compile (registry : Registry) (flags : Flags) (text : String) : Except Failure Query :=
  ((Compiler.query registry flags (text.length + 1)).run (.ofText text)).map Prod.fst

/-- A text between quotes, as a query writes it. -/
def quotedText (s : String) : String :=
  String.ofList ('"' :: Literal.escape s.toList ++ ['"'])

/-- The text of a query for one tag. An empty value stands for any value. -/
def textForTag (key value : String) : String :=
  quotedText key ++ "=" ++ if value = "" then "*" else quotedText value

end Query

end MapQuery

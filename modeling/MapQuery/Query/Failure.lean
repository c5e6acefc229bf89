import MapQuery.Pattern.Basic
import MapQuery.Query.Operator
import MapQuery.Text.Quoted
import MapQuery.Token.Basic

/-!
# Why a query cannot be compiled

The first thing that is wrong with a query, with its wording and, where it is a matter of a token, its
place.

* `Comparison` — the two comparisons of values, whose failure names their sign.
* `Failure` — what is wrong.
* `Failure.message`, `Failure.span?` — the wording and the place.
* `Failure.cause?` — the finding behind the failure, where there is one.
-/

namespace MapQuery

/-- The directions in which values are compared. -/
inductive Comparison where
  | less
  | greater
  deriving DecidableEq, Repr, Inhabited

/-- The sign of a comparison. -/
def Comparison.symbol : Comparison → String
  | less => "<"
  | greater => ">"

/-- The finding behind a failure. -/
inductive Failure.Cause where
  /-- A pattern has a fault, perhaps after a number of characters. -/
  | pattern (text : String) (offset : Option Nat) (detail : String)
  /-- A token stands where another one, or the end of input, is expected. -/
  | token (wanted : Option Token.Kind) (found : Token.Kind)
  /-- A text is no instant. -/
  | instant (text : String) (detail : String)

/-- What is wrong with a query. -/
inductive Failure where
  /-- Parentheses, negations and keywords with an operand are nested too deep. -/
  | tooDeep
  /-- Nothing stands after an operator. -/
  | nothingAfter (o : Operator)
  /-- Nothing stands after a negation. -/
  | nothingToNegate
  /-- A certain token is missing. -/
  | expected (kind : Token.Kind) (found : Token)
  /-- A token stands after the end of the query. -/
  | leftover (found : Token)
  /-- A tag is asked for whose key is empty. -/
  | emptyKey
  /-- Nothing stands after a comparison. -/
  | nothingToCompare (c : Comparison)
  /-- A pattern cannot be used. -/
  | pattern (text : String) (refusal : Pattern.Refusal)
  /-- A text is no instant. -/
  | instant (text : String)
  /-- A keyword stands alone that needs an argument. -/
  | colonNeeded (keyword : String)
  /-- There is no such kind of primitives. -/
  | unknownKind (name : String)
  /-- The role after `hasRole` is missing. -/
  | roleNeeded
  /-- A position is zero, or negative where it has to be positive. -/
  | positiveNeeded
  /-- There are more than two instants. -/
  | tooManyInstants
  /-- A token is no number or no range. -/
  | unreadable (message : String) (span : Span)
  /-- A keyword does not join two queries. -/
  | noJoin (keyword : String)
  /-- A registered keyword refuses what it is given, in its own words. -/
  | refused (message : String) (span : Option Span := none) (cause : Option Failure.Cause := none)

namespace Failure

/-- The forms of an instant, as a message names them. -/
def instantForms : String :=
  "expected YYYY, YYYY-MM, YYYY-MM-DD or YYYY-MM-DDTHH:MM:SS"

namespace Cause

/-- The wording of a finding. -/
def shown : Cause → String
  | pattern text _ detail => "regex " ++ Text.quoted text ++ ": " ++ detail
  | token wanted found =>
    "expected " ++ (wanted.getD .eof).shown ++ ", found " ++ found.shown
  | instant text detail => "cannot parse timestamp " ++ Text.quoted text ++ ": " ++ detail

end Cause

/-- The finding behind a failure, where there is one. -/
def cause? : Failure → Option Cause
  | expected kind found => some (.token (some kind) found.kind)
  | leftover found => some (.token none found.kind)
  | pattern text refusal => some (.pattern text refusal.offset? refusal.detail)
  | instant text => some (.instant text instantForms)
  | refused _ _ cause => cause
  | _ => none

/-- The wording of a failure of a pattern. -/
def patternMessage (text : String) (refusal : Pattern.Refusal) : String :=
  let place := match refusal.offset? with
    | some n => " at offset " ++ toString n
    | none => ""
  "The regex \"" ++ text ++ "\" had a parse error" ++ place ++ ", full error:\n\n" ++ refusal.detail

/-- The name of an operator in a message. -/
def operatorName : Operator → String
  | .and => "AND"
  | .or => "OR"
  | .xor => "XOR"

/-- The wording of a failure. -/
def message : Failure → String
  | tooDeep => "Expression nested too deeply"
  | nothingAfter o => "Missing parameter for " ++ operatorName o
  | nothingToNegate => "Missing operator for NOT"
  | expected kind found =>
    "Unexpected token. Expected " ++ kind.shown ++ ", found " ++ found.kind.shown
  | leftover found => "Unexpected token: " ++ found.kind.shown
  | emptyKey => "Key cannot be empty when tag operator is used. Sample use: key=value"
  | nothingToCompare c => "Reference value for '" ++ c.symbol ++ "' expected"
  | pattern text refusal => patternMessage text refusal
  | instant text => "Cannot parse timestamp '" ++ text ++ "'"
  | colonNeeded keyword => "Expecting ':' after " ++ keyword
  | unknownKind name =>
    "Unknown primitive type: " ++ name ++ ". Allowed values are node, way or relation"
  | roleNeeded => "Expecting role after hasRole"
  | positiveNeeded => "Positive integer expected"
  | tooManyInstants => "Expecting min/max after timestamp"
  | unreadable message _ => message
  | noJoin keyword => "No binary match factory registered for '" ++ keyword ++ "'"
  | refused message _ _ => message

/-- The place of the token that is wrong, where the failure is about one. -/
def span? : Failure → Option Span
  | expected _ found => some found.span
  | leftover found => some found.span
  | unreadable _ span => some span
  | refused _ span _ => span
  | _ => none

end Failure

end MapQuery

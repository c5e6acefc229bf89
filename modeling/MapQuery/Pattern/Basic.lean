import MapQuery.Pattern.Meaning
import MapQuery.Pattern.Report
import MapQuery.Pattern.Size

/-!
# Patterns

A pattern is a regular expression that a text is compared with, either as a whole or in some part.

* `Pattern.Builder` — what decides which machines would be too large; `Builder.standard` reckons their sizes.
* `Pattern.compile` — a pattern from its text.
* `Pattern.holds` — whether a text matches.
* `Pattern.Refusal` — why there is no such pattern.
-/

namespace MapQuery

/-- A regular expression and the text that it was read from. -/
structure Pattern where
  source : String
  expr : Pattern.Expr

namespace Pattern

/-- Which part of a text has to match. -/
inductive Mode where
  /-- The whole text. -/
  | full
  /-- Some part of it. -/
  | find
  deriving DecidableEq, Repr

/-- Why a pattern is refused. -/
inductive Refusal where
  /-- The pattern itself has a fault. -/
  | malformed (l : Located)
  /-- The text for the mode, in which the pattern stands, has a fault. -/
  | unusable (source : String) (l : Located)
  | tooLarge
  deriving DecidableEq, Repr

namespace Refusal

/-- The number of characters before the fault of a malformed pattern. -/
def offset? : Refusal → Option Nat
  | malformed l => some l.extent.start.offset
  | _ => none

/-- The wording of a refusal. -/
def detail : Refusal → String
  | malformed l => l.fault.message
  | unusable source l => l.report source
  | tooLarge => "Compiled regex exceeds size limit of " ++ toString sizeLimit ++ " bytes."

end Refusal

/-- The text to be read for a mode: anchors at both ends when the whole text has to match. -/
def wrapped (mode : Mode) (pattern : String) : String :=
  match mode with
  | .full => "\\A(?:" ++ pattern ++ ")\\z"
  | .find => pattern

/-- The flags at the start of a pattern. The dot stands for line feeds too. -/
def settings (caseSensitive : Bool) : Settings :=
  ⟨!caseSensitive, false, true, true, false⟩

/-- The expression that a text for a mode stands for. -/
def Expr.ofText? (caseSensitive : Bool) (source : String) : Except Located Expr := do
  let tree ← Node.ofText? source
  let (expr, _) ← tree.meaning (settings caseSensitive)
  return expr

/-- What builds the machine of an expression. It is its own affair which machines exceed the size limit. -/
structure Builder where
  /-- The machine for a text is too large, where the case of letters counts or does not. -/
  refuses : (source : String) → (caseSensitive : Bool) → Bool

/-- The builder that reckons the size of a machine by its states. -/
def Builder.standard : Builder where
  refuses source caseSensitive :=
    match Expr.ofText? caseSensitive source with
    | .ok expr => sizeLimit < expr.machineSize
    | .error _ => false

/-- A pattern from its text. -/
def compile (mode : Mode) (caseSensitive : Bool) (pattern : String) (builder : Builder := .standard) :
    Except Refusal Pattern := do
  let _ ← (Node.ofText? pattern).mapError .malformed
  let source := wrapped mode pattern
  let expr ← (Expr.ofText? caseSensitive source).mapError (.unusable source)
  if builder.refuses source caseSensitive then
    throw .tooLarge
  return ⟨source, expr⟩

/-- Whether a text matches. -/
def holds (p : Pattern) (text : String) : Bool :=
  p.expr.occursIn text.toList

end Pattern

end MapQuery

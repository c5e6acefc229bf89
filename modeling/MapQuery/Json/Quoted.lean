import MapQuery.Character.Ranges
import MapQuery.Json.Basic
import MapQuery.Token.Span

/-!
# Strings of a document

* `escape` — a text as it is written between quotes.
* `readQuoted` — the text up to the closing quote.
* `readQuoted_escape` — what is written is read again.
-/

namespace MapQuery.Json

/-! ### Writing -/

/-- A hexadecimal digit. -/
def hexDigit (n : Nat) : Char :=
  if n < 10 then Char.ofNat (48 + n) else Char.ofNat (87 + n)

/-- A character between quotes: quotes, backslashes and control characters are escaped. -/
def escapeChar (c : Char) : List Char :=
  if c = '"' then ['\\', '"']
  else if c = '\\' then ['\\', '\\']
  else if c = '\n' then ['\\', 'n']
  else if c = '\r' then ['\\', 'r']
  else if c = '\t' then ['\\', 't']
  else if c = '\x08' then ['\\', 'b']
  else if c = '\x0c' then ['\\', 'f']
  else if c.toNat < 0x20 then
    ['\\', 'u', '0', '0', hexDigit (c.toNat / 16), hexDigit (c.toNat % 16)]
  else [c]

/-- A text between quotes. -/
def escape (cs : List Char) : List Char :=
  cs.flatMap escapeChar

/-! ### Reading -/

/-- What a string turns out to be: its text, or the fault that keeps it from being one, and what comes
after it. A fault in the text of the string may leave a rest, a fault of the document does not. -/
structure Quotation where
  text : Result (List Char)
  rest : Result (List Char)

namespace Quotation

/-- With a character in front. -/
def cons (c : Char) (q : Quotation) : Quotation :=
  { q with text := q.text.map (c :: ·) }

/-- With a fault in front, which counts before any fault after it. -/
def fail (f : Fault) (q : Quotation) : Quotation :=
  { q with text := .error f }

/-- A fault of the document. -/
def broken (f : Fault) : Quotation :=
  ⟨.error f, .error f⟩

end Quotation

/-- The characters that have an escape of one letter. -/
def simpleEscape? : Char → Option Char
  | '"' => some '"'
  | '\\' => some '\\'
  | '/' => some '/'
  | 'b' => some '\x08'
  | 'f' => some '\x0c'
  | 'n' => some '\n'
  | 'r' => some '\r'
  | 't' => some '\t'
  | _ => none

/-- A number of four hexadecimal digits. -/
def hexNumber? (a b c d : Char) : Option Nat := do
  let a ← Character.Ranges.hexValue? a
  let b ← Character.Ranges.hexValue? b
  let c ← Character.Ranges.hexValue? c
  let d ← Character.Ranges.hexValue? d
  return 4096 * a + 256 * b + 16 * c + d

/-- The second half of a pair of numbers. -/
def isTrailing (n : Nat) : Bool :=
  0xdc00 ≤ n && n ≤ 0xdfff

/-- The first half of a pair of numbers. -/
def isLeading (n : Nat) : Bool :=
  0xd800 ≤ n && n ≤ 0xdbff

/-- The character of a pair of numbers. -/
def paired (lead trail : Nat) : Char :=
  Char.ofNat ((lead - 0xd800) * 1024 + (trail - 0xdc00) + 0x10000)

/-- The fault of an escape by number whose four digits are not all there. -/
def shortFault (cs : List Char) : Fault :=
  if Text.width cs < 4 then .cutShort else .malformed

/-- The text up to the closing quote. Characters beyond 16 bits are escaped as a pair of numbers;
`lead` is the first of them while the second is expected. Half a pair is no text. -/
def readQuoted : (lead : Option Nat) → List Char → Quotation
  | _, [] => .broken .cutShort
  | _, ['\\'] => .broken .cutShort
  | none, '\\' :: 'u' :: a :: b :: c :: d :: cs =>
    match hexNumber? a b c d with
    | none => .broken .malformed
    | some n =>
      if isLeading n then readQuoted (some n) cs
      else if isTrailing n then (readQuoted none cs).fail .malformed
      else (readQuoted none cs).cons (Char.ofNat n)
  | some lead, '\\' :: 'u' :: a :: b :: c :: d :: cs =>
    match hexNumber? a b c d with
    | none => .broken .malformed
    | some n =>
      if isTrailing n then (readQuoted none cs).cons (paired lead n)
      else (readQuoted none cs).fail .malformed
  | _, '\\' :: 'u' :: cs => .broken (shortFault cs)
  | some _, cs => (readQuoted none cs).fail .malformed
  | none, '\\' :: c :: cs =>
    match simpleEscape? c with
    | some d => (readQuoted none cs).cons d
    | none => .broken .malformed
  | none, c :: cs =>
    if c = '"' then ⟨.ok [], .ok cs⟩
    else if c.toNat < 0x20 then .broken .malformed
    else (readQuoted none cs).cons c
termination_by lead cs => 2 * cs.length + lead.isSome.toNat

/-- A character that needs no escape stands for itself. -/
theorem readQuoted_ordinary {c : Char} {cs : List Char} (hc : 0x20 ≤ c.toNat) (hq : c ≠ '"')
    (hb : c ≠ '\\') : readQuoted none (c :: cs) = (readQuoted none cs).cons c := by
  rw [readQuoted]
  · rw [if_neg hq, if_neg (Nat.not_lt.2 hc)]
  all_goals
    intros
    contradiction

theorem hexValue?_hexDigit : ∀ n, n < 16 → Character.Ranges.hexValue? (hexDigit n) = some n := by
  decide

/-- The escape of a control character by its number is read as that number. -/
theorem hexNumber?_control {n : Nat} (h : n < 0x20) :
    hexNumber? '0' '0' (hexDigit (n / 16)) (hexDigit (n % 16)) = some n := by
  have h0 : Character.Ranges.hexValue? '0' = some 0 := by decide
  simp only [hexNumber?, h0, hexValue?_hexDigit (n / 16) (by omega),
    hexValue?_hexDigit (n % 16) (by omega), bind, Option.bind, pure]
  congr 1
  omega

/-- An escaped character is read as the character. -/
theorem readQuoted_escapeChar (c : Char) (cs : List Char) :
    readQuoted none (escapeChar c ++ cs) = (readQuoted none cs).cons c := by
  unfold escapeChar
  split
  · subst_vars; simp [readQuoted, simpleEscape?]
  split
  · subst_vars; simp [readQuoted, simpleEscape?]
  split
  · subst_vars; simp [readQuoted, simpleEscape?]
  split
  · subst_vars; simp [readQuoted, simpleEscape?]
  split
  · subst_vars; simp [readQuoted, simpleEscape?]
  split
  · subst_vars; simp [readQuoted, simpleEscape?]
  split
  · subst_vars; simp [readQuoted, simpleEscape?]
  split
  · rename_i h
    have h1 : isLeading c.toNat = false := by simp [isLeading]; omega
    have h2 : isTrailing c.toNat = false := by simp [isTrailing]; omega
    simp [readQuoted, hexNumber?_control h, h1, h2]
  · rename_i hq hb _ _ _ _ _ hc
    exact readQuoted_ordinary (by omega) hq hb

/-- What is written between quotes is read again. -/
theorem readQuoted_escape (text rest : List Char) :
    readQuoted none (escape text ++ '"' :: rest) = ⟨.ok text, .ok rest⟩ := by
  induction text with
  | nil => simp [escape, readQuoted]
  | cons c text ih =>
    have h : escape (c :: text) = escapeChar c ++ escape text := rfl
    rw [h, List.append_assoc, readQuoted_escapeChar, ih]
    rfl

end MapQuery.Json

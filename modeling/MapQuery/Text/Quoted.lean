import MapQuery.Character.Property

/-!
# Quoted text

How diagnostics write a text: between quotes, with quotes, backslashes and everything that cannot be
seen written as an escape.

* `escapeChar` — the escape of one character, or the character.
* `quoted` — a text between quotes.
-/

namespace MapQuery.Text

/-- The hexadecimal digits of a number, without leading zeros. -/
def hexDigits (n : Nat) : List Char :=
  Nat.toDigits 16 n

/-- A character between quotes. Marks that would join the character before them are escaped, and so is
whatever cannot be seen, the blank itself apart. -/
def escapeChar (c : Char) : List Char :=
  if c = '\x00' then ['\\', '0']
  else if c = '\t' then ['\\', 't']
  else if c = '\n' then ['\\', 'n']
  else if c = '\r' then ['\\', 'r']
  else if c = '"' then ['\\', '"']
  else if c = '\\' then ['\\', '\\']
  else if 0x20 ≤ c.toNat && c.toNat ≤ 0x7e then [c]
  else if Character.extending.has c.toNat || Character.unprintable.has c.toNat then
    ['\\', 'u', '\x7b'] ++ hexDigits c.toNat ++ ['\x7d']
  else [c]

/-- A text between quotes, as diagnostics write it. -/
def quoted (s : String) : String :=
  String.ofList ('"' :: s.toList.flatMap escapeChar ++ ['"'])

end MapQuery.Text

import MapQuery.Text.CaseTable

/-!
# Lower case

The full lower-case form of a text. Nearly every character has a form of its own; a capital sigma
becomes a final sigma at the end of a word, which depends on the characters around it.

* `lowerChar` — the form of one character, whatever stands around it.
* `endsWord` — whether a capital sigma between two texts is at the end of a word.
* `lowercase` — the form of a text.
-/

namespace MapQuery.Text

/-- A code point lies in one of the ranges. -/
def inRanges (table : List (Nat × Nat)) (c : Char) : Bool :=
  table.any fun r => r.1 ≤ c.toNat && c.toNat ≤ r.2

/-- The property `Cased`. -/
def isCased (c : Char) : Bool :=
  inRanges casedRanges c

/-- The property `Case_Ignorable`. -/
def isCaseIgnorable (c : Char) : Bool :=
  inRanges caseIgnorableRanges c

/-- The lower-case form of one character. Only the dotted capital I has a form of two characters. -/
def lowerChar (c : Char) : List Char :=
  if c.toNat < 0x80 then [c.toLower]
  else if c.toNat = 0x130 then ['i', Char.ofNat 0x307]
  else [Char.ofNat (shifted lowerShifts c.toNat)]

/-- The first character that is not case-ignorable is cased. -/
def meetsCased (cs : List Char) : Bool :=
  match cs.dropWhile isCaseIgnorable with
  | c :: _ => isCased c
  | [] => false

/-- A letter stands before, the text before being given backwards, and none stands after. -/
def endsWord (before after : List Char) : Bool :=
  meetsCased before && !meetsCased after

/-- The lower-case form of a text that follows another one, which is given backwards. -/
def lowercaseAfter (before : List Char) : List Char → List Char
  | [] => []
  | c :: cs =>
    (if c.toNat = 0x3a3 then [Char.ofNat (if endsWord before cs then 0x3c2 else 0x3c3)]
      else lowerChar c) ++ lowercaseAfter (c :: before) cs

/-- The lower-case form of a text. -/
def lowercase (cs : List Char) : List Char :=
  lowercaseAfter [] cs

end MapQuery.Text

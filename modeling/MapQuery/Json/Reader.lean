import MapQuery.Json.Number
import MapQuery.Json.Quoted

/-!
# Reading documents

* `readDoc` — the value at the start of a text, and the rest.
* `Doc.ofText` — a whole text as a document, with the fault of whatever follows it.
-/

namespace MapQuery.Json

/-- The characters between the parts of a document. -/
def isSpace (c : Char) : Bool :=
  c == ' ' || c == '\n' || c == '\t' || c == '\r'

/-- A text without the blanks it starts with. -/
def skipSpace (cs : List Char) : List Char :=
  cs.dropWhile isSpace

/-- A fixed word at the start of a text. -/
def readWord (value : Doc) : (word : List Char) → List Char → Doc × List Char
  | [], cs => (value, cs)
  | _ :: _, [] => (.unfinished .cutShort, [])
  | w :: ws, c :: cs => if w = c then readWord value ws cs else (.broken .malformed, [])

/-- A number at the start of a text. To one who passes over it, a number that is cut short is no
number. -/
def readNumber (cs : List Char) : Doc × List Char :=
  match readNumeral cs with
  | .ok (n, rest) => (n.doc, rest)
  | .error .cutShort => (.unfinished .malformed, [])
  | .error f => (.flawed f (some .malformed), [])

/-- A string at the start of a text, after its opening quote. -/
def readText (cs : List Char) : Doc × List Char :=
  match readQuoted none cs with
  | ⟨.ok s, .ok rest⟩ => (.text (String.ofList s), rest)
  | ⟨.error f, .ok rest⟩ => (.flawed f none, rest)
  | ⟨.error f, .error g⟩ => (.flawed f (some g), [])
  | ⟨.ok _, .error g⟩ => (.broken g, [])

/-- The key of a member after its opening quote, and the text from its value on; or what stands in the
place of the value. -/
def readKey (cs : List Char) : Result String × Except Doc (List Char) :=
  let q := readQuoted none cs
  let value : Except Doc (List Char) :=
    match q.rest with
    | .error f => .error (.broken f)
    | .ok rest =>
      match skipSpace rest with
      | ':' :: after => .ok after
      | [] => .error (.broken .cutShort)
      | _ => .error (.broken .malformed)
  (q.text.map String.ofList, value)

/-- The fault of a text that ends, or goes on in the wrong way. -/
def faultAt (cs : List Char) : Fault :=
  if cs.isEmpty then .cutShort else .malformed

mutual

/-- The value at the start of a text, and the rest of the text; after a fault of the text there is no
rest. Each step takes a character or ends, so that `fuel` need not exceed twice the length. -/
def readDoc : (fuel : Nat) → List Char → Doc × List Char
  | 0, _ => (.broken .cutShort, [])
  | fuel + 1, cs =>
    match skipSpace cs with
    | [] => (.broken .cutShort, [])
    | 'n' :: rest => readWord .null "ull".toList rest
    | 't' :: rest => readWord (.bool true) "rue".toList rest
    | 'f' :: rest => readWord (.bool false) "alse".toList rest
    | '"' :: rest => readText rest
    | '[' :: rest =>
      match skipSpace rest with
      | ']' :: after => (.array [] .closed, after)
      | [] => (.array [] (.fault .cutShort), [])
      | _ =>
        let (items, tail, after) := readItems fuel rest
        (.array items tail, after)
    | '\x7b' :: rest =>
      match skipSpace rest with
      | '\x7d' :: after => (.object [] [] .closed, after)
      | '"' :: after =>
        let (keys, values, tail, after) := readMembers fuel after
        (.object keys values tail, after)
      | [] => (.object [] [] (.fault .cutShort), [])
      | _ => (.object [] [(readDoc fuel rest).1] (.fault .malformed), [])
    | c :: rest =>
      if c == '-' || Ascii.isDigit c then readNumber (c :: rest) else (.broken .malformed, [])

/-- The items of an array, the first of which follows, up to the closing bracket. -/
def readItems : (fuel : Nat) → List Char → List Doc × Tail × List Char
  | 0, _ => ([], .fault .cutShort, [])
  | fuel + 1, cs =>
    let (item, rest) := readDoc fuel cs
    match skipSpace rest with
    | ']' :: after => ([item], .closed, after)
    | ',' :: rest =>
      match skipSpace rest with
      | ']' :: _ => ([item], .afterComma .malformed, [])
      | [] => ([item], .afterComma .cutShort, [])
      | _ =>
        let (items, tail, after) := readItems fuel rest
        (item :: items, tail, after)
    | other => ([item], .fault (faultAt other), [])

/-- The members of an object, the first of which follows after its opening quote, up to the closing
brace. -/
def readMembers : (fuel : Nat) → List Char → List (Result String) × List Doc × Tail × List Char
  | 0, _ => ([], [], .fault .cutShort, [])
  | fuel + 1, cs =>
    let (key, place) := readKey cs
    match place with
    | .error value => ([key], [value], .fault .cutShort, [])
    | .ok rest =>
      let (value, rest) := readDoc fuel rest
      match skipSpace rest with
      | '\x7d' :: after => ([key], [value], .closed, after)
      | ',' :: rest =>
        match skipSpace rest with
        | '"' :: after =>
          let (keys, values, tail, after) := readMembers fuel after
          (key :: keys, value :: values, tail, after)
        | other => ([key], [value], .afterComma (faultAt other), [])
      | other => ([key], [value], .fault (faultAt other), [])

end

/-- The document of a text, and what is wrong with the text after it, if anything. -/
def Doc.ofText (s : String) : Doc × Option Fault :=
  let cs := s.toList
  let (doc, rest) := readDoc (2 * cs.length + 2) cs
  (doc, if (skipSpace rest).isEmpty then none else some .malformed)

end MapQuery.Json

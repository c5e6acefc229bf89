import Mathlib.Data.List.Forall2
import MapQuery.Json.Reader
import MapQuery.Json.Writer

/-!
# What is written is read again

The writer goes down a value, the reader goes along a text. They meet in the parts of a text: a text spells a
document if the reader takes the document off any text that begins so, and texts that spell documents can be
put between brackets.

* `Spells`, `SpellsMember` — texts that the reader takes off as a document, or as a member of an object.
* `Spells.array`, `Spells.object` — parts between brackets.
* `Value.doc` — a value as a document.
* `Value.spells_shown`, `Doc.ofText_pretty` — a value spells its document.
-/

namespace MapQuery.Json

/-! ### Blanks -/

theorem skipSpace_append {blanks : List Char} (h : ∀ c ∈ blanks, isSpace c) (cs : List Char) :
    skipSpace (blanks ++ cs) = skipSpace cs :=
  List.dropWhile_append_of_pos h

theorem skipSpace_cons {c : Char} (h : isSpace c = false) (cs : List Char) : skipSpace (c :: cs) = c :: cs :=
  List.dropWhile_cons_of_neg (Bool.eq_false_iff.1 h)

/-- Blanks between the parts of a document are passed over. -/
theorem readDoc_skipSpace (fuel : Nat) {cs cs' : List Char} (h : skipSpace cs = skipSpace cs') :
    readDoc fuel cs = readDoc fuel cs' := by
  cases fuel with
  | zero => rfl
  | succ fuel => rw [readDoc, readDoc, h]

/-! ### One step of the reader -/

section

variable {fuel : Nat} {cs rest after : List Char} {c : Char} {d : Doc}

theorem readDoc_array (h : skipSpace cs = c :: after) (hc : c ≠ ']') :
    readDoc (fuel + 1) ('[' :: cs) =
      (.array (readItems fuel cs).1 (readItems fuel cs).2.1, (readItems fuel cs).2.2) := by
  rw [readDoc, skipSpace_cons (by decide)]
  simp only [h]
  split
  · next heq => exact absurd (List.cons.inj heq).1 hc
  · next heq => cases heq
  · rfl

theorem readDoc_object (h : skipSpace cs = '"' :: after) :
    readDoc (fuel + 1) ('\x7b' :: cs) =
      (.object (readMembers fuel after).1 (readMembers fuel after).2.1 (readMembers fuel after).2.2.1,
        (readMembers fuel after).2.2.2) := by
  rw [readDoc, skipSpace_cons (by decide)]
  simp only [h]

theorem readItems_last (hd : readDoc fuel cs = (d, rest)) (h : skipSpace rest = ']' :: after) :
    readItems (fuel + 1) cs = ([d], .closed, after) := by
  rw [readItems, hd]
  simp only [h]

theorem readItems_more {more : List Char} (hd : readDoc fuel cs = (d, rest))
    (h : skipSpace rest = ',' :: more) (hmore : skipSpace more = c :: after) (hc : c ≠ ']') :
    readItems (fuel + 1) cs =
      (d :: (readItems fuel more).1, (readItems fuel more).2.1, (readItems fuel more).2.2) := by
  rw [readItems, hd]
  simp only [h, hmore]
  split
  · next heq => exact absurd (List.cons.inj heq).1 hc
  · next heq => cases heq
  · rfl

theorem readKey_escape (key rest : List Char) :
    readKey (escape key ++ '"' :: ':' :: rest) = (.ok (String.ofList key), .ok rest) := by
  rw [readKey, readQuoted_escape]
  rfl

theorem readMembers_last {key : Result String} (hk : readKey cs = (key, .ok after))
    (hd : readDoc fuel after = (d, rest)) {left : List Char} (h : skipSpace rest = '\x7d' :: left) :
    readMembers (fuel + 1) cs = ([key], [d], .closed, left) := by
  rw [readMembers, hk]
  simp only [hd, h]

theorem readMembers_more {key : Result String} (hk : readKey cs = (key, .ok after))
    (hd : readDoc fuel after = (d, rest)) {more left : List Char} (h : skipSpace rest = ',' :: more)
    (hmore : skipSpace more = '"' :: left) :
    readMembers (fuel + 1) cs =
      (key :: (readMembers fuel left).1, d :: (readMembers fuel left).2.1, (readMembers fuel left).2.2.1,
        (readMembers fuel left).2.2.2) := by
  rw [readMembers, hk]
  simp only [hd, h, hmore]

end

/-! ### Texts that spell documents -/

/-- A text spells a document: whatever comes after it, the reader takes off the document and leaves what comes
after. The length of the text is fuel enough. The text begins like a value. -/
structure Spells (text : List Char) (d : Doc) : Prop where
  begins : ∃ c cs, text = c :: cs ∧ isSpace c = false ∧ c ≠ ']'
  read : ∀ fuel rest, text.length ≤ fuel → readDoc fuel (text ++ rest) = (d, rest)

namespace Spells

/-- What is found after blanks in front of a text that spells a document. -/
theorem skipSpace_eq {text : List Char} {d : Doc} (h : Spells text d) {blanks : List Char}
    (hb : ∀ c ∈ blanks, isSpace c) (rest : List Char) :
    ∃ c after, skipSpace (blanks ++ (text ++ rest)) = c :: after ∧ c ≠ ']' := by
  obtain ⟨c, cs, rfl, hc, hne⟩ := h.begins
  exact ⟨c, cs ++ rest, by rw [skipSpace_append hb, List.cons_append, skipSpace_cons hc], hne⟩

/-- A text may stand after blanks. -/
theorem read_after {text : List Char} {d : Doc} (h : Spells text d) {blanks : List Char}
    (hb : ∀ c ∈ blanks, isSpace c) {fuel : Nat} (hf : text.length ≤ fuel) (rest : List Char) :
    readDoc fuel (blanks ++ (text ++ rest)) = (d, rest) := by
  rw [readDoc_skipSpace fuel (skipSpace_append hb _)]
  exact h.read fuel rest hf

/-- Fuel that is enough for a text is not zero. -/
theorem of_succ {text : List Char} {d : Doc} (hbegins : ∃ c cs, text = c :: cs ∧ isSpace c = false ∧ c ≠ ']')
    (hread : ∀ fuel rest, text.length ≤ fuel + 1 → readDoc (fuel + 1) (text ++ rest) = (d, rest)) :
    Spells text d where
  begins := hbegins
  read := by
    intro fuel rest hf
    cases fuel with
    | zero =>
      obtain ⟨c, cs, rfl, -⟩ := hbegins
      exact absurd hf (by simp)
    | succ fuel => exact hread fuel rest hf

theorem bool (b : Bool) : Spells (if b then "true" else "false").toList (.bool b) := by
  cases b with
  | true => exact of_succ ⟨'t', _, rfl, by decide, by decide⟩ fun fuel rest _ => rfl
  | false => exact of_succ ⟨'f', _, rfl, by decide, by decide⟩ fun fuel rest _ => rfl

theorem quoted (s : String) : Spells (Value.quoted s).toList (.text s) := by
  have htext : (Value.quoted s).toList = '"' :: (escape s.toList ++ ['"']) := by
    simp [Value.quoted]
  rw [htext]
  refine of_succ ⟨'"', _, rfl, by decide, by decide⟩ fun fuel rest _ => ?_
  rw [List.cons_append, List.append_assoc, List.singleton_append, readDoc, skipSpace_cons (by decide)]
  show readText _ = _
  rw [readText, readQuoted_escape]
  show (Doc.text (String.ofList s.toList), rest) = _
  rw [String.ofList_toList]

end Spells

/-- A text spells a member of an object. -/
def SpellsMember (part : List Char) (m : String × Doc) : Prop :=
  ∃ text, part = '"' :: (escape m.1.toList ++ '"' :: ':' :: ' ' :: text) ∧ Spells text m.2

/-- What the reader does with a member after blanks: it passes over the quote, takes the key and the colon,
and takes the value. -/
theorem SpellsMember.read_after {part : List Char} {m : String × Doc} (h : SpellsMember part m)
    {blanks : List Char} (hb : ∀ c ∈ blanks, isSpace c) (rest : List Char) :
    ∃ after value, skipSpace (blanks ++ (part ++ rest)) = '"' :: after ∧
      readKey after = (.ok m.1, .ok value) ∧
      ∀ fuel, part.length ≤ fuel → readDoc fuel value = (m.2, rest) := by
  obtain ⟨text, rfl, h⟩ := h
  refine ⟨escape m.1.toList ++ '"' :: ':' :: ([' '] ++ (text ++ rest)), [' '] ++ (text ++ rest), ?_, ?_, ?_⟩
  · rw [skipSpace_append hb, List.cons_append, skipSpace_cons (by decide), List.append_assoc]
    rfl
  · rw [readKey_escape, String.ofList_toList]
  · -- The blank after the colon is left to the reader of the value.
    intro fuel hf
    have hspace : ∀ c ∈ [' '], isSpace c := fun c hc => by
      rw [List.mem_singleton.mp hc]
      rfl
    simp only [List.length_cons, List.length_append] at hf
    exact h.read_after hspace (by omega) rest

/-! ### Parts between brackets -/

/-- The parts after the first one, each after a comma and blanks. -/
def further (blanks : List Char) : (parts : List (List Char)) → List Char
  | [] => []
  | part :: parts => ',' :: (blanks ++ (part ++ further blanks parts))

theorem intercalate_cons_eq (blanks part : List Char) (parts : List (List Char)) :
    List.intercalate (',' :: blanks) (part :: parts) = part ++ further blanks parts := by
  induction parts generalizing part with
  | nil => rw [List.intercalate_singleton, further, List.append_nil]
  | cons next parts ih =>
    rw [List.intercalate_cons_cons, ih, further, List.append_assoc, List.cons_append]

/-- The text of several parts between brackets. -/
theorem toList_enclosed (opening closing : String) (level : Nat) (part : String) (parts : List String) :
    (Value.enclosed opening closing level (part :: parts)).toList =
      opening.toList ++ ((Value.newLine (level + 1)).toList ++ (part.toList ++
        (further (Value.newLine (level + 1)).toList (parts.map String.toList) ++
          ((Value.newLine level).toList ++ closing.toList)))) := by
  have hcomma : ("," ++ Value.newLine (level + 1)).toList = ',' :: (Value.newLine (level + 1)).toList := by
    rw [String.toList_append]
    rfl
  rw [Value.enclosed, if_neg (by simp)]
  simp only [String.toList_append, String.toList_intercalate, hcomma, List.map_cons, intercalate_cons_eq,
    List.append_assoc]

theorem isSpace_newLine (level : Nat) : ∀ c ∈ (Value.newLine level).toList, isSpace c := by
  intro c h
  rw [Value.newLine, String.toList_ofList, List.mem_cons, List.mem_replicate] at h
  rcases h with rfl | ⟨-, rfl⟩ <;> decide

section

variable {blanks closing : List Char} (hb : ∀ c ∈ blanks, isSpace c) (hc : ∀ c ∈ closing, isSpace c)

include hb hc

/-- The items of an array with their commas. The induction is on the items after the first one; each takes one
unit of fuel, which its comma pays for. -/
theorem readItems_parts {text : List Char} {texts : List (List Char)} {d : Doc} {ds : List Doc}
    (h : Spells text d) (hs : List.Forall₂ Spells texts ds) (fuel : Nat) (rest : List Char)
    (hf : (text ++ further blanks texts).length < fuel) :
    readItems fuel (blanks ++ (text ++ (further blanks texts ++ (closing ++ ']' :: rest)))) =
      (d :: ds, .closed, rest) := by
  induction hs generalizing text d fuel with
  | nil =>
    rw [List.length_append] at hf
    obtain ⟨fuel, rfl⟩ : ∃ n, fuel = n + 1 := ⟨fuel - 1, by omega⟩
    apply readItems_last (h.read_after hb (by omega) _)
    rw [further, List.nil_append, skipSpace_append hc, skipSpace_cons (by decide)]
  | @cons next d' texts ds hnext _ ih =>
    rw [further, List.length_append, List.length_cons, List.length_append] at hf
    obtain ⟨fuel, rfl⟩ : ∃ n, fuel = n + 1 := ⟨fuel - 1, by omega⟩
    have hmore := ih hnext fuel (by omega)
    obtain ⟨c, after, hskip, hne⟩ :=
      hnext.skipSpace_eq hb (further blanks texts ++ (closing ++ ']' :: rest))
    rw [further, List.cons_append, List.append_assoc, List.append_assoc,
      readItems_more (h.read_after hb (by omega) _) (skipSpace_cons (by decide) _) hskip hne, hmore]

/-- The members of an object with their commas; the reader goes on after the first quote. -/
theorem readMembers_parts {part : List Char} {parts : List (List Char)} {m : String × Doc}
    {ms : List (String × Doc)} (h : SpellsMember part m) (hs : List.Forall₂ SpellsMember parts ms)
    (fuel : Nat) (rest : List Char) (hf : (part ++ further blanks parts).length < fuel) :
    ∃ after,
      skipSpace (blanks ++ (part ++ (further blanks parts ++ (closing ++ '\x7d' :: rest)))) =
        '"' :: after ∧
      readMembers fuel after = ((m :: ms).map (.ok ·.1), (m :: ms).map (·.2), .closed, rest) := by
  induction hs generalizing part m fuel with
  | nil =>
    obtain ⟨after, value, hskip, hkey, hvalue⟩ :=
      h.read_after hb (further blanks [] ++ (closing ++ '\x7d' :: rest))
    rw [List.length_append] at hf
    obtain ⟨fuel, rfl⟩ : ∃ n, fuel = n + 1 := ⟨fuel - 1, by omega⟩
    refine ⟨after, hskip, readMembers_last hkey (hvalue fuel (by omega)) ?_⟩
    rw [further, List.nil_append, skipSpace_append hc, skipSpace_cons (by decide)]
  | @cons next m' parts ms hnext _ ih =>
    rw [further, List.length_append, List.length_cons, List.length_append] at hf
    obtain ⟨fuel, rfl⟩ : ∃ n, fuel = n + 1 := ⟨fuel - 1, by omega⟩
    obtain ⟨left, hleft, hmore⟩ := ih hnext fuel (by omega)
    obtain ⟨after, value, hskip, hkey, hvalue⟩ := h.read_after hb (',' :: (blanks ++ (next ++
      (further blanks parts ++ (closing ++ '\x7d' :: rest)))))
    refine ⟨after, ?_, ?_⟩
    · rw [← hskip, further, List.cons_append, List.append_assoc, List.append_assoc]
    · rw [readMembers_more hkey (hvalue fuel (by omega)) (skipSpace_cons (by decide) _) hleft, hmore]
      rfl

end

namespace Spells

variable {parts : List String}

/-- Texts between square brackets spell an array. -/
theorem array {ds : List Doc} (level : Nat) (h : List.Forall₂ (Spells ·.toList ·) parts ds) :
    Spells (Value.enclosed "[" "]" level parts).toList (.array ds .closed) := by
  cases h with
  | nil =>
    have htext : (Value.enclosed "[" "]" level []).toList = ['[', ']'] := by simp [Value.enclosed]
    rw [htext]
    exact of_succ ⟨'[', _, rfl, by decide, by decide⟩ fun fuel rest _ => rfl
  | @cons part d parts ds h hs =>
    have hs : List.Forall₂ Spells (parts.map String.toList) ds := List.forall₂_map_left_iff.2 hs
    have hopening : "[".toList = ['['] := rfl
    have hclosing : "]".toList = [']'] := rfl
    rw [toList_enclosed, hopening, hclosing, List.singleton_append]
    refine of_succ ⟨'[', _, rfl, by decide, by decide⟩ fun fuel rest hf => ?_
    simp only [List.length_append, List.length_cons, List.length_nil] at hf
    simp only [List.cons_append, List.append_assoc, List.nil_append]
    obtain ⟨c, after, hskip, hne⟩ := h.skipSpace_eq (isSpace_newLine (level + 1))
      (further (Value.newLine (level + 1)).toList (parts.map String.toList) ++
        ((Value.newLine level).toList ++ ']' :: rest))
    have hitems :=
      readItems_parts (isSpace_newLine (level + 1)) (isSpace_newLine level) h hs fuel rest
        (by simp only [List.length_append]; omega)
    rw [readDoc_array hskip hne, hitems]

/-- Members between braces spell an object. -/
theorem object {ms : List (String × Doc)} (level : Nat)
    (h : List.Forall₂ (SpellsMember ·.toList ·) parts ms) :
    Spells (Value.enclosed "\x7b" "\x7d" level parts).toList
      (.object (ms.map (.ok ·.1)) (ms.map (·.2)) .closed) := by
  cases h with
  | nil =>
    have htext : (Value.enclosed "\x7b" "\x7d" level []).toList = ['\x7b', '\x7d'] := by
      simp [Value.enclosed]
    rw [htext]
    exact of_succ ⟨'\x7b', _, rfl, by decide, by decide⟩ fun fuel rest _ => rfl
  | @cons part m parts ms h hs =>
    have hs : List.Forall₂ SpellsMember (parts.map String.toList) ms := List.forall₂_map_left_iff.2 hs
    have hopening : "\x7b".toList = ['\x7b'] := rfl
    have hclosing : "\x7d".toList = ['\x7d'] := rfl
    rw [toList_enclosed, hopening, hclosing, List.singleton_append]
    refine of_succ ⟨'\x7b', _, rfl, by decide, by decide⟩ fun fuel rest hf => ?_
    simp only [List.length_append, List.length_cons, List.length_nil] at hf
    simp only [List.cons_append, List.append_assoc, List.nil_append]
    obtain ⟨after, hskip, hmembers⟩ :=
      readMembers_parts (isSpace_newLine (level + 1)) (isSpace_newLine level) h hs fuel rest
        (by simp only [List.length_append]; omega)
    rw [readDoc_object hskip, hmembers]

end Spells

/-! ### Values -/

namespace Value

mutual

/-- A value as a document. -/
def doc : Value → Doc
  | bool b => .bool b
  | text s => .text s
  | array items => .array (docs items) .closed
  | object keys values =>
    .object ((members keys values).map (.ok ·.1)) ((members keys values).map (·.2)) .closed

/-- Several values as documents. -/
def docs : List Value → List Doc
  | [] => []
  | v :: vs => doc v :: docs vs

/-- The members of an object, their values as documents. -/
def members : List String → List Value → List (String × Doc)
  | key :: keys, v :: vs => (key, doc v) :: members keys vs
  | _, _ => []

end

theorem docs_eq_map (vs : List Value) : docs vs = vs.map doc := by
  induction vs with
  | nil => rfl
  | cons v vs ih => rw [docs, ih, List.map_cons]

mutual

/-- A value spells its document, at whatever level it stands. -/
theorem spells_shown (level : Nat) : (v : Value) → Spells (shown level v).toList v.doc
  | bool b => .bool b
  | text s => .quoted s
  | array items => by
    rw [shown, doc]
    exact .array level (spells_shownAll (level + 1) items)
  | object keys values => by
    rw [shown, doc]
    exact .object level (spells_shownMembers (level + 1) keys values)

/-- Each of several values spells its document. -/
theorem spells_shownAll (level : Nat) :
    (vs : List Value) → List.Forall₂ (Spells ·.toList ·) (shownAll level vs) (docs vs)
  | [] => .nil
  | v :: vs => .cons (spells_shown level v) (spells_shownAll level vs)

/-- A key and a value spell a member. -/
theorem spells_shownMembers (level : Nat) :
    (keys : List String) → (values : List Value) →
      List.Forall₂ (SpellsMember ·.toList ·) (shownMembers level keys values) (members keys values)
  | key :: keys, v :: vs => by
    refine .cons ⟨(shown level v).toList, ?_, spells_shown level v⟩ (spells_shownMembers level keys vs)
    simp [quoted]
  | [], [] | [], _ :: _ | _ :: _, [] => .nil

end

end Value

/-- A value that has been written is read as its document, and nothing comes after it. -/
theorem Doc.ofText_pretty (v : Value) : Doc.ofText v.pretty = (v.doc, none) := by
  have hread : readDoc (2 * v.pretty.toList.length + 2) (v.pretty.toList ++ []) = (v.doc, []) :=
    (v.spells_shown 0).read _ [] (show v.pretty.toList.length ≤ _ by omega)
  rw [List.append_nil] at hread
  simp only [Doc.ofText, hread]
  rfl

end MapQuery.Json

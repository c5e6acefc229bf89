import MapQuery.Proofs.Query.Forms
import MapQuery.Proofs.Query.Grouping

/-!
# The short form tells queries apart

The short form of a query about states says all of it but how the runs of one operator are grouped. Read from
the left, an operand ends where a blank, a closing parenthesis or nothing follows, and what it begins with
tells what it is.

* `Query.operandText` — a query as an operand, in parentheses if it is joined; it is a `word`, which may be
  missing, and what follows the word, its `inside`.
* `Query.sideText` — a query as an operand of an operator.
* `Query.Determined` — in front of a rest, a text is that of one query only.
* `Readable.of_groupedRight` — so are the texts of a query whose runs are grouped to the right.
* `Query.shown_eq_iff_regrouped` — queries about states with the same short form.
-/

namespace MapQuery

namespace Query

/-! ### Texts -/

/-- A query by itself. -/
def ownText (q : Query) : List Char :=
  q.written.toList

/-- A query as an operand that is joined by nothing yet. -/
def operandText (q : Query) : List Char :=
  (parenthesized q.isJoined q.written).toList

/-- A query as an operand of an operator. -/
def sideText (o : Operator) (q : Query) : List Char :=
  (parenthesized (q.differs o) q.written).toList

theorem operandText_of_not_joined {q : Query} (h : q.operator? = none) :
    q.operandText = q.ownText := by
  rw [operandText, isJoined, h]
  rfl

theorem operandText_join (o : Operator) (left right : Query) :
    (join o left right).operandText = '(' :: ((join o left right).ownText ++ [')']) := by
  show ("(" ++ (join o left right).written ++ ")").toList = _
  rw [String.toList_append, String.toList_append]
  rfl

theorem operandText_not (q : Query) : (not q).operandText = '!' :: q.operandText := by
  rw [operandText_of_not_joined rfl, ownText, written, String.toList_append]
  rfl

/-- An operand stands by itself as it does beside an operator, unless it goes on with that operator. -/
theorem sideText_of_ne {o : Operator} {q : Query} (h : q.operator? ≠ some o) :
    q.sideText o = q.operandText := by
  have hdiffers : q.differs o = q.isJoined := by
    rw [differs, isJoined]
    cases ho : q.operator? with
    | none => rfl
    | some o' => exact decide_eq_true fun he => h (ho.trans (congrArg some he))
  rw [sideText, operandText, hdiffers]

theorem sideText_eq_ownText {o : Operator} {q : Query} (h : q.operator? = none ∨ q.operator? = some o) :
    q.sideText o = q.ownText := by
  have hdiffers : q.differs o = false := by
    rcases h with h | h <;> rw [differs, h]
    · rfl
    · exact decide_eq_false (not_not_intro rfl)
  rw [sideText, hdiffers]
  rfl

theorem ownText_join (o : Operator) (left right : Query) :
    (join o left right).ownText =
      left.sideText o ++ ' ' :: (o.symbol.toList ++ ' ' :: right.sideText o) := by
  rw [ownText, written]
  simp only [String.toList_append, List.append_assoc]
  rfl

/-! ### Words -/

/-- The letters that an operand begins with. -/
def word : Query → List Char
  | join _ _ _ | not _ => []
  | parent _ => "parent".toList
  | child _ => "child".toList
  | q => q.leafShown.toList

/-- What follows the letters. -/
def inside : Query → List Char
  | join o left right => '(' :: ((join o left right).ownText ++ [')'])
  | not q => '!' :: q.operandText
  | parent q | child q => '(' :: (q.ownText ++ [')'])
  | _ => []

theorem operandText_eq (q : Query) : q.operandText = q.word ++ q.inside := by
  have hcall : ∀ (name : String) (q : Query),
      (name ++ "(" ++ q.written ++ ")").toList = name.toList ++ '(' :: (q.ownText ++ [')']) := by
    intro name q
    simp only [String.toList_append, List.append_assoc]
    rfl
  cases q with
  | join o left right => exact operandText_join o left right
  | not q => exact operandText_not q
  | parent q => exact (operandText_of_not_joined rfl).trans (hcall "parent" q)
  | child q => exact (operandText_of_not_joined rfl).trans (hcall "child" q)
  | _ => exact (operandText_of_not_joined rfl).trans (List.append_nil _).symm

theorem isAlpha_of_mem_word {q : Query} (h : GroupedRight q) : ∀ c ∈ q.word, c.isAlpha = true := by
  have hnames : ("parent".toList ++ "child".toList).all Char.isAlpha = true := by decide
  have hname := List.all_eq_true.mp hnames
  refine List.all_eq_true.mp ?_
  cases h with
  | always => decide
  | never => decide
  | state s => cases s <;> decide
  | not _ => rfl
  | parent _ => exact List.all_eq_true.mpr fun c hc => hname c (List.mem_append_left _ hc)
  | child _ => exact List.all_eq_true.mpr fun c hc => hname c (List.mem_append_right _ hc)
  | join o _ _ _ => rfl

/-- What an operand begins with. -/
inductive Opening where
  /-- A query without queries inside. -/
  | leaf (q : Query)
  | negation
  | parent
  | child
  | parenthesis

/-- What a query begins with as an operand. -/
def opening : Query → Opening
  | join _ _ _ => .parenthesis
  | not _ => .negation
  | parent _ => .parent
  | child _ => .child
  | q => .leaf q

/-- What an operand begins with, from its letters and the character behind them. -/
def openingOf? (letters : List Char) (next : Option Char) : Option Opening :=
  if letters = [] then if next = some '!' then some .negation else some .parenthesis
  else if letters = "parent".toList then some .parent
  else if letters = "child".toList then some .child
  else
    let leaves : List Query :=
      [always, never, state .new, state .modified, state .deleted, state .selected, state .incomplete,
        state .untagged, state .closed]
    (leaves.find? fun q => q.word = letters).map .leaf

theorem openingOf?_word {q : Query} (h : GroupedRight q) (s : List Char) :
    openingOf? q.word (q.inside ++ s).head? = some q.opening := by
  cases h with
  | state s => cases s <;> rfl
  | _ => rfl

theorem eq_of_opening_eq {q q' : Query} (h : q.opening = .leaf q') : q = q' := by
  cases q with
  | not _ => cases h
  | join _ _ _ => cases h
  | parent _ => cases h
  | child _ => cases h
  | _ => exact Opening.leaf.inj h

/-- A run of letters ends where the letters end. -/
theorem letters_unique {w w' s s' : List Char} (hw : ∀ c ∈ w, c.isAlpha = true)
    (hw' : ∀ c ∈ w', c.isAlpha = true) (hs : ∀ c ∈ s.head?, c.isAlpha = false)
    (hs' : ∀ c ∈ s'.head?, c.isAlpha = false) (h : w ++ s = w' ++ s') : w = w' ∧ s = s' := by
  induction w generalizing w' with
  | nil =>
    cases w' with
    | nil => exact ⟨rfl, h⟩
    | cons c w' =>
      have hhead : c ∈ s.head? := congrArg List.head? h
      cases (hw' c List.mem_cons_self).symm.trans (hs c hhead)
  | cons c w ih =>
    cases w' with
    | nil =>
      have hhead : c ∈ s'.head? := congrArg List.head? h.symm
      cases (hw c List.mem_cons_self).symm.trans (hs' c hhead)
    | cons c' w' =>
      obtain ⟨rfl, hrest⟩ := List.cons.inj h
      obtain ⟨rfl, rfl⟩ := ih (fun d hd => hw d (List.mem_cons_of_mem _ hd))
        (fun d hd => hw' d (List.mem_cons_of_mem _ hd)) hrest
      exact ⟨rfl, rfl⟩

/-! ### Where a text ends -/

/-- What follows a query: nothing, or the parenthesis that closes around it. -/
def EndsText (s : List Char) : Prop :=
  s.head? = none ∨ s.head? = some ')'

/-- What follows an operand: an operator behind a blank, or what follows a query. -/
def EndsOperand (s : List Char) : Prop :=
  s.head? = some ' ' ∨ EndsText s

theorem endsText_closed (s : List Char) : EndsText (')' :: s) :=
  .inr rfl

theorem endsOperand_blank (s : List Char) : EndsOperand (' ' :: s) :=
  .inl rfl

theorem not_endsText_blank (s : List Char) : ¬ EndsText (' ' :: s) := by
  rintro (h | h)
  · cases h
  · exact absurd (Option.some.inj h) (by decide)

/-- No letter follows the word of an operand. -/
theorem head?_inside_append {s : List Char} (q : Query) (hs : EndsOperand s) :
    ∀ c ∈ (q.inside ++ s).head?, c.isAlpha = false := by
  have hends : ∀ c ∈ s.head?, c.isAlpha = false := by
    rcases hs with h | h | h <;> rw [h]
    · rintro c ⟨⟩
      rfl
    · nofun
    · rintro c ⟨⟩
      rfl
  cases q with
  | not q => rintro c ⟨⟩; rfl
  | join o left right => rintro c ⟨⟩; rfl
  | parent q => rintro c ⟨⟩; rfl
  | child q => rintro c ⟨⟩; rfl
  | _ => exact hends

/-- Operands that are written alike begin alike, and the same comes behind their letters. -/
theorem opening_eq_and_inside_eq {q q' : Query} {s s' : List Char} (hq : GroupedRight q)
    (hq' : GroupedRight q') (hs : EndsOperand s) (hs' : EndsOperand s')
    (h : q.operandText ++ s = q'.operandText ++ s') :
    q.opening = q'.opening ∧ q.inside ++ s = q'.inside ++ s' := by
  rw [operandText_eq, operandText_eq, List.append_assoc, List.append_assoc] at h
  obtain ⟨hword, hinside⟩ := letters_unique (isAlpha_of_mem_word hq) (isAlpha_of_mem_word hq')
    (head?_inside_append q hs) (head?_inside_append q' hs') h
  refine ⟨Option.some.inj ?_, hinside⟩
  rw [← openingOf?_word hq s, ← openingOf?_word hq' s', hword, hinside]

/-! ### One query for a text -/

/-- In front of a rest, a query is written as no other one is. -/
structure Determined (write : Query → List Char) (Ends : List Char → Prop) (q : Query) : Prop where
  unique : ∀ {q' : Query} {s s' : List Char}, GroupedRight q' → Ends s → Ends s' →
    write q ++ s = write q' ++ s' → q = q' ∧ s = s'

/-- A query is written as no other one is: as an operand, by itself, and beside an operator. -/
structure Readable (q : Query) : Prop where
  operand : Determined operandText EndsOperand q
  text : Determined ownText EndsText q
  side : ∀ o, Determined (sideText o) EndsText q

namespace Determined

variable {q left right : Query}

/-- A text between parentheses, with whatever follows them. -/
theorem enclosed (h : Determined ownText EndsText q) {q' : Query} {s s' : List Char}
    (hq' : GroupedRight q')
    (he : '(' :: (q.ownText ++ [')']) ++ s = '(' :: (q'.ownText ++ [')']) ++ s') :
    q = q' ∧ s = s' := by
  have hinner : q.ownText ++ ')' :: s = q'.ownText ++ ')' :: s' := by
    simpa using he
  obtain ⟨rfl, hrest⟩ := h.unique hq' (endsText_closed s) (endsText_closed s') hinner
  exact ⟨rfl, (List.cons.inj hrest).2⟩

/-- A query without queries inside is written as no other operand is. -/
theorem leaf (hq : GroupedRight q) (hopening : q.opening = .leaf q) :
    Determined operandText EndsOperand q := by
  refine ⟨fun {q' s s'} hq' hs hs' he => ?_⟩
  obtain ⟨hopening', hrest⟩ := opening_eq_and_inside_eq hq hq' hs hs' he
  have heq : q' = q := eq_of_opening_eq (hopening'.symm.trans hopening)
  subst heq
  exact ⟨rfl, List.append_cancel_left hrest⟩

theorem not (hq : GroupedRight q) (h : Determined operandText EndsOperand q) :
    Determined operandText EndsOperand (not q) := by
  refine ⟨fun {q' s s'} hq' hs hs' he => ?_⟩
  obtain ⟨hopening, hrest⟩ := opening_eq_and_inside_eq hq.not hq' hs hs' he
  cases hq' with
  | not hq' =>
    obtain ⟨rfl, rfl⟩ := h.unique hq' hs hs' (List.cons.inj hrest).2
    exact ⟨rfl, rfl⟩
  | _ => cases hopening

theorem parent (hq : GroupedRight q) (h : Determined ownText EndsText q) :
    Determined operandText EndsOperand (parent q) := by
  refine ⟨fun {q' s s'} hq' hs hs' he => ?_⟩
  obtain ⟨hopening, hrest⟩ := opening_eq_and_inside_eq hq.parent hq' hs hs' he
  cases hq' with
  | parent hq' =>
    obtain ⟨rfl, rfl⟩ := h.enclosed hq' hrest
    exact ⟨rfl, rfl⟩
  | _ => cases hopening

theorem child (hq : GroupedRight q) (h : Determined ownText EndsText q) :
    Determined operandText EndsOperand (child q) := by
  refine ⟨fun {q' s s'} hq' hs hs' he => ?_⟩
  obtain ⟨hopening, hrest⟩ := opening_eq_and_inside_eq hq.child hq' hs hs' he
  cases hq' with
  | child hq' =>
    obtain ⟨rfl, rfl⟩ := h.enclosed hq' hrest
    exact ⟨rfl, rfl⟩
  | _ => cases hopening

theorem parenthesized {o : Operator} (hq : GroupedRight (join o left right))
    (h : Determined ownText EndsText (join o left right)) :
    Determined operandText EndsOperand (join o left right) := by
  refine ⟨fun {q' s s'} hq' hs hs' he => ?_⟩
  obtain ⟨hopening, hrest⟩ := opening_eq_and_inside_eq hq hq' hs hs' he
  cases hq' with
  | join o' hl hr hne => exact h.enclosed (.join o' hl hr hne) hrest
  | _ => cases hopening

end Determined

/-! ### Queries by themselves and beside an operator -/

/-- An operator is told by its sign. -/
theorem symbol_unique {o o' : Operator} {s s' : List Char}
    (h : o.symbol.toList ++ s = o'.symbol.toList ++ s') : o = o' ∧ s = s' := by
  have ho : o = o' := by
    have hhead := congrArg List.head? h
    cases o <;> cases o' <;> first | rfl | exact absurd (Option.some.inj hhead) (by decide)
  subst ho
  exact ⟨rfl, List.append_cancel_left h⟩

/-- A run begins with an operand, and its operator stands behind that. -/
theorem GroupedRight.exists_run {o : Operator} {q : Query} (h : GroupedRight q) (ho : q.operator? = some o) :
    ∃ left right, q = Query.join o left right ∧ GroupedRight left ∧ GroupedRight right ∧
      q.ownText = left.operandText ++ ' ' :: (o.symbol.toList ++ ' ' :: right.sideText o) := by
  cases h with
  | join o' hl hr hne =>
    cases ho
    refine ⟨_, _, rfl, hl, hr, ?_⟩
    rw [ownText_join, sideText_of_ne hne]
  | _ => cases ho

namespace Determined

variable {o : Operator} {q left right : Query}

/-- A query that does not go on with an operator is written beside it as no other query is. -/
theorem side (h : Determined operandText EndsOperand q) (hne : q.operator? ≠ some o) :
    Determined (sideText o) EndsText q := by
  refine ⟨fun {q' s s'} hq' hs hs' he => ?_⟩
  rw [sideText_of_ne hne] at he
  by_cases ho : q'.operator? = some o
  · -- The first operand of the run would be the query, and the text would end there.
    obtain ⟨left, right, -, hl, -, htext⟩ := hq'.exists_run ho
    rw [sideText_eq_ownText (.inr ho), htext, List.append_assoc] at he
    obtain ⟨-, hrest⟩ := h.unique hl (.inr hs) (endsOperand_blank _) he
    exact absurd (hrest ▸ hs) (not_endsText_blank _)
  · rw [sideText_of_ne ho] at he
    exact h.unique hq' (.inr hs) (.inr hs') he

/-- So is a query that is joined by nothing, by itself. -/
theorem text (h : ∀ o, Determined (sideText o) EndsText q) (hnone : q.operator? = none) :
    Determined ownText EndsText q := by
  refine ⟨fun {q' s s'} hq' hs hs' he => ?_⟩
  have hside : ∃ o, q'.operator? = none ∨ q'.operator? = some o := by
    cases q'.operator? with
    | none => exact ⟨.and, .inl rfl⟩
    | some o => exact ⟨o, .inr rfl⟩
  obtain ⟨o, ho⟩ := hside
  refine (h o).unique hq' hs hs' ?_
  rw [sideText_eq_ownText (.inl hnone), sideText_eq_ownText ho]
  exact he

/-- A run is not written as an operand: the text goes on behind its first operand. -/
theorem run_ne_operand (hq : GroupedRight (join o left right)) (hl : Determined operandText EndsOperand left)
    {q' : Query} {s s' : List Char} (hq' : GroupedRight q') (hs' : EndsText s') :
    (join o left right).ownText ++ s ≠ q'.operandText ++ s' := by
  intro he
  obtain ⟨_, _, ⟨⟩, -, -, htext⟩ := hq.exists_run rfl
  rw [htext, List.append_assoc] at he
  obtain ⟨-, hrest⟩ := hl.unique hq' (endsOperand_blank _) (.inr hs') he
  exact absurd (hrest ▸ hs') (not_endsText_blank _)

/-- A run is written as no other query is, by itself. -/
theorem run (hq : GroupedRight (join o left right)) (hl : Determined operandText EndsOperand left)
    (hr : Determined (sideText o) EndsText right) :
    Determined ownText EndsText (join o left right) := by
  refine ⟨fun {q' s s'} hq' hs hs' he => ?_⟩
  cases ho : q'.operator? with
  | none =>
    rw [← operandText_of_not_joined ho] at he
    exact absurd he (run_ne_operand hq hl hq' hs')
  | some o' =>
    obtain ⟨_, _, ⟨⟩, -, -, htext⟩ := hq.exists_run rfl
    obtain ⟨left', right', rfl, hl', hr', htext'⟩ := hq'.exists_run ho
    rw [htext, htext'] at he
    simp only [List.append_assoc, List.cons_append] at he
    obtain ⟨rfl, hsign⟩ := hl.unique hl' (endsOperand_blank _) (endsOperand_blank _) he
    obtain ⟨rfl, hside⟩ := symbol_unique (List.cons.inj hsign).2
    obtain ⟨rfl, rfl⟩ := hr.unique hr' hs hs' (List.cons.inj hside).2
    exact ⟨rfl, rfl⟩

/-- A run is written as no other query is beside its own operator, where it is not in parentheses. -/
theorem side_run (hq : GroupedRight (join o left right)) (hl : Determined operandText EndsOperand left)
    (h : Determined ownText EndsText (join o left right)) :
    Determined (sideText o) EndsText (join o left right) := by
  refine ⟨fun {q' s s'} hq' hs hs' he => ?_⟩
  rw [sideText_eq_ownText (.inr rfl)] at he
  by_cases ho : q'.operator? = some o
  · rw [sideText_eq_ownText (.inr ho)] at he
    exact h.unique hq' hs hs' he
  · rw [sideText_of_ne ho] at he
    exact absurd he (run_ne_operand hq hl hq' hs')

end Determined

/-! ### Every query -/

namespace Readable

theorem of_operand {q : Query} (h : Determined operandText EndsOperand q) (hnone : q.operator? = none) :
    Readable q :=
  have hside : ∀ o, Determined (sideText o) EndsText q := fun o =>
    h.side fun ho => Option.some_ne_none o (ho.symm.trans hnone)
  ⟨h, .text hside hnone, hside⟩

theorem join {o : Operator} {left right : Query} (hq : GroupedRight (join o left right))
    (hl : Readable left) (hr : Readable right) : Readable (join o left right) := by
  have htext := Determined.run hq hl.operand (hr.side o)
  have hoperand := Determined.parenthesized hq htext
  refine ⟨hoperand, htext, fun o' => ?_⟩
  by_cases ho : o = o'
  · subst ho
    exact Determined.side_run hq hl.operand htext
  · exact hoperand.side fun h => ho (Option.some.inj h)

/-- Where runs are grouped to the right, every query is written as no other one is. The induction is on the
query, and on all its texts at once: an operand in parentheses holds a text, and a text that is a run begins
with an operand and goes on beside the operator. -/
theorem of_groupedRight {q : Query} (h : GroupedRight q) : Readable q := by
  induction h with
  | always => exact of_operand (.leaf .always rfl) rfl
  | never => exact of_operand (.leaf .never rfl) rfl
  | state s => exact of_operand (.leaf (.state s) rfl) rfl
  | not h ih => exact of_operand (.not h ih.operand) rfl
  | parent h ih => exact of_operand (.parent h ih.text) rfl
  | child h ih => exact of_operand (.child h ih.text) rfl
  | join o hl hr hne ihl ihr => exact .join (.join o hl hr hne) ihl ihr

end Readable

/-- Two queries that are built from states, and from what always or never holds, have the same short form
exactly if they differ in nothing but the grouping of runs of one operator. So, where the short forms are the
same, every primitive that matches one of the queries matches the other. -/
theorem shown_eq_iff_regrouped {q q' : Query} (hq : OfStates q) (hq' : OfStates q') :
    (q.shown = q'.shown ↔ Regrouped q q') ∧
      (q.shown = q'.shown → ∀ {P : Type} [Primitive P] (p : P), q.holds p = q'.holds p) := by
  have hregrouped : q.shown = q'.shown → Regrouped q q' := by
    intro h
    have hwritten : q.grouped.written = q'.grouped.written := by
      rw [← (regrouped_grouped q).written_eq, ← (regrouped_grouped q').written_eq, ← shown_eq_written, h,
        shown_eq_written]
    have hreadable : Readable q.grouped := .of_groupedRight hq.groupedRight_grouped
    have hgrouped : q.grouped = q'.grouped :=
      (hreadable.text.unique hq'.groupedRight_grouped (.inl rfl) (.inl rfl)
        (congrArg (fun s => s.toList ++ []) hwritten)).1
    exact (regrouped_grouped q).trans (hgrouped ▸ (regrouped_grouped q').symm)
  refine ⟨⟨hregrouped, fun h => ?_⟩, fun h P _ p => ?_⟩
  · rw [shown_eq_written, shown_eq_written, h.written_eq]
  · rw [holds_eq_satisfied, holds_eq_satisfied, (hregrouped h).satisfied_eq]

/-- Four operands of one run, one of them an operand of two others, joined from the left and from the
right. -/
theorem shown_eq_iff_regrouped_run :
    let inner := join .or (not (state .new)) (child always)
    let q := join .and (join .and (join .and (state .deleted) inner) never) (state .closed)
    let q' := join .and (state .deleted) (join .and inner (join .and never (state .closed)))
    OfStates q ∧ OfStates q' ∧ q.shown = "deleted && (!new || child(always)) && never && closed" ∧
      q.shown = q'.shown ∧ Regrouped q q' ∧ ∀ {P : Type} [Primitive P] (p : P), q.holds p = q'.holds p := by
  intro inner q q'
  have hinner : OfStates inner := .join .or (.not (.state .new)) (.child .always)
  have hq : OfStates q :=
    .join .and (.join .and (.join .and (.state .deleted) hinner) .never) (.state .closed)
  have hq' : OfStates q' :=
    .join .and (.state .deleted) (.join .and hinner (.join .and .never (.state .closed)))
  have hshown : q.shown = q'.shown := by decide
  have hsame := shown_eq_iff_regrouped hq hq'
  exact ⟨hq, hq', by decide, hshown, hsame.1.mp hshown, hsame.2 hshown⟩

end Query

end MapQuery

import MapQuery.Pattern.Basic
import MapQuery.Proofs.Pattern.Groups

/-!
# A pattern for the whole text

* `Node.Anchored` — a tree in a group between the anchors at both ends of the text.
* `Read.pattern_wrapped` — the text with the anchors is read as such a tree, or the group stays open.
* `EndsInComment`, `LiesTooDeep` — patterns that the group does not fit.
* `Node.ofText?_wrapped` — the syntax tree of the text with the anchors, or why there is none.
-/

namespace MapQuery.Pattern

variable {n : Nat} {t t' : Node} {p : String}

/-- A tree in a group between the anchors at both ends of the text. -/
inductive Node.Anchored (t : Node) : Node → Prop where
  | intro (extent first around last : Extent) {t' : Node} (h : t.bare = t'.bare) :
    Node.Anchored t
      (.concat extent [.assertion first .startText, .group around (some []) t', .assertion last .endText])

namespace Read

/-- The branches up to the parenthesis of a group, and past it, where the group was opened in a text that does not
skip blanks. -/
def closed (b : Branches) (q : Place) (opened : Extent) (n : Nat) : Read Node := do
  let body ← branches (.none q) n
  if ← atEnd then
    failAt .groupUnclosed opened
  bump
  modify fun s => { s with skipsBlanks := false }
  branches (b.push (.group (← since opened.start) (some []) body)) n

theorem run_branches_opening (b : Branches) (n : Nat) (cs : List Char) (q : Place) (names : List String) :
    ∃ (first opened : Extent) (q' : Place),
      (branches b (n + 2)).run ⟨'\\' :: 'A' :: '(' :: '?' :: ':' :: cs, q, false, names, false⟩ =
        (closed (b.push (.assertion first .startText)) q' opened n).run ⟨cs, q', false, names, false⟩ :=
  ⟨⟨_, _⟩, ⟨_, _⟩, _, rfl⟩

theorem run_branches_endText (b : Branches) (n : Nat) (q : Place) (names : List String) (inComment : Bool) :
    ∃ (last : Extent) (q' : Place),
      (branches b (n + 1)).run ⟨['\\', 'z'], q, false, names, inComment⟩ =
        .ok ((b.push (.assertion last .endText)).value q', ⟨[], q', false, names, inComment⟩) := by
  cases n with
  | zero => exact ⟨⟨_, _⟩, _, rfl⟩
  | succ n => exact ⟨⟨_, _⟩, _, rfl⟩

theorem run_pattern (s : Source) :
    pattern.run s = (branches (.none s.place) (s.rest.length + 1)).run s >>= fun read =>
      (if read.2.rest.isEmpty then pure read.1 else failAtChar .groupUnopened : Read Node).run read.2 := rfl

/-- A whole pattern is read when its branches go on up to the end. -/
theorem run_pattern_eq_ok_iff {s u : Source} :
    pattern.run s = .ok (t, u) ↔
      (branches (.none s.place) (s.rest.length + 1)).run s = .ok (t, u) ∧ u.rest = [] := by
  rw [run_pattern]
  cases (branches (.none s.place) (s.rest.length + 1)).run s with
  | error e => exact ⟨nofun, nofun⟩
  | ok read =>
    obtain ⟨t₁, u₁⟩ := read
    show (if u₁.rest.isEmpty then pure t₁ else failAtChar .groupUnopened : Read Node).run u₁ = _ ↔ _
    cases hrest : u₁.rest with
    | nil =>
      show Except.ok (t₁, u₁) = _ ↔ _
      exact ⟨fun h => by cases h; exact ⟨rfl, hrest⟩, fun h => h.1⟩
    | cons c cs =>
      refine ⟨nofun, fun h => ?_⟩
      cases h.1
      cases hrest.symm.trans h.2

theorem run_pattern_eq_error {s : Source} {l : Located}
    (h : (branches (.none s.place) (s.rest.length + 1)).run s = .error l) : pattern.run s = .error l := by
  rw [run_pattern, h]
  rfl

theorem run_closed (b : Branches) {q : Place} (opened : Extent) {s u : Source}
    (hbody : (branches (.none q) (n + 1)).run s = .ok (t, u)) (hrest : u.rest = ending) :
    ∃ (around last : Extent) (q' : Place) (u' : Source), (closed b q opened (n + 1)).run s =
      .ok (((b.push (.group around (some []) t)).push (.assertion last .endText)).value q', u') ∧ u'.rest = [] := by
  obtain ⟨rest, place, skipsBlanks, names, inComment⟩ := u
  obtain rfl : rest = ending := hrest
  obtain ⟨last, q', hlast⟩ := run_branches_endText
    (b.push (.group ⟨opened.start, place.after ')'⟩ (some []) t)) n (place.after ')') names inComment
  refine ⟨⟨opened.start, place.after ')'⟩, last, q', ⟨[], q', false, names, inComment⟩, ?_, rfl⟩
  unfold closed
  rw [StateT.run_bind, hbody]
  exact hlast

theorem run_closed_eq_error (b : Branches) {q : Place} (opened : Extent) {s u : Source}
    (hbody : (branches (.none q) n).run s = .ok (t, u)) (hrest : u.rest = []) :
    (closed b q opened n).run s = .error ⟨.groupUnclosed, opened⟩ := by
  obtain ⟨rest, place, skipsBlanks, names, inComment⟩ := u
  obtain rfl : rest = [] := hrest
  unfold closed
  rw [StateT.run_bind, hbody]
  rfl

end Read

theorem toList_wrapped (p : String) :
    (wrapped .full p).toList = '\\' :: 'A' :: '(' :: '?' :: ':' :: (p.toList ++ ending) := by
  unfold wrapped
  rw [String.toList_append, String.toList_append]
  rfl

/-- The pattern is read in the group as it is alone, or the comment at its end goes over the parenthesis. -/
theorem Read.branches_inside {u : Source} (h : Read.pattern.run (Source.ofText p) = .ok (t, u)) (q : Place)
    (hn : p.toList.length + ending.length < n) :
    ∃ t' u', (Read.branches (.none q) n).run ⟨p.toList ++ ending, q, false, [], false⟩ = .ok (t', u') ∧ t.bare = t'.bare ∧
      (u.inComment = false ∧ u'.rest = ending ∨
        u.inComment = true ∧ u'.rest = [] ∧ SignInLastLine p.toList) := by
  obtain ⟨hbranches, hnil⟩ := run_pattern_eq_ok_iff.mp h
  have haround : Around p.toList (Source.ofText p) ⟨p.toList ++ ending, q, false, [], false⟩ :=
    ⟨List.suffix_refl _, rfl, rfl, .inl ⟨rfl, rfl⟩⟩
  have hfuel : (p.toList ++ ending).length < n := by rwa [List.length_append]
  obtain ⟨t', u', hrun, hafter, -, hsame, -⟩ :=
    Follows.branches haround (Branches.alike_none _ q) (Nat.lt_succ_self _) hfuel (Nat.le_refl _) t u hbranches
  refine ⟨t', u', hrun, hsame, ?_⟩
  rcases hafter.rest with ⟨hinside, hrest⟩ | ⟨hopen, -, hrest, hsign⟩
  · rw [hnil] at hrest
    exact .inl ⟨hinside, hrest⟩
  · exact .inr ⟨hopen, hrest, hsign⟩

/-- The text with the anchors is read as the tree of the pattern between them, or the group in it stays open where the
pattern ends in a comment. -/
theorem Read.pattern_wrapped {u : Source} (h : Read.pattern.run (Source.ofText p) = .ok (t, u)) :
    (u.inComment = false ∧ ∃ whole u', t.Anchored whole ∧
        Read.pattern.run (Source.ofText (wrapped .full p)) = .ok (whole, u')) ∨
      u.inComment = true ∧ SignInLastLine p.toList ∧
        ∃ e, Read.pattern.run (Source.ofText (wrapped .full p)) = .error ⟨.groupUnclosed, e⟩ := by
  have hsource : Source.ofText (wrapped .full p) =
      ⟨'\\' :: 'A' :: '(' :: '?' :: ':' :: (p.toList ++ ending), .start, false, [], false⟩ := by
    unfold Source.ofText
    rw [toList_wrapped]
  have hfuel : (Source.ofText (wrapped .full p)).rest.length + 1 = p.toList.length + 6 + 1 + 2 := by
    rw [hsource]
    show (p.toList ++ ending).length + 5 + 1 = _
    rw [List.length_append]
    rfl
  obtain ⟨first, opened, q, hopening⟩ :=
    run_branches_opening (.none Place.start) (p.toList.length + 6 + 1) (p.toList ++ ending) .start []
  have hwhole : (branches (.none (Source.ofText (wrapped .full p)).place)
      ((Source.ofText (wrapped .full p)).rest.length + 1)).run (Source.ofText (wrapped .full p)) =
      (closed ((Branches.none Place.start).push (.assertion first .startText)) q opened
        (p.toList.length + 6 + 1)).run ⟨p.toList ++ ending, q, false, [], false⟩ := by
    rw [hfuel, hsource]
    exact hopening
  have hlasts : p.toList.length + ending.length < p.toList.length + 6 + 1 :=
    Nat.add_lt_add_left (show ending.length < 6 + 1 by decide) _
  obtain ⟨t', u', hbody, hsame, ⟨hinside, hrest⟩ | ⟨hopen, hrest, hsign⟩⟩ := branches_inside h q hlasts
  · obtain ⟨around, last, q', v, hclosed, hnil⟩ :=
      run_closed ((Branches.none Place.start).push (.assertion first .startText)) opened hbody hrest
    exact .inl ⟨hinside, _, v, .intro _ _ _ _ hsame, run_pattern_eq_ok_iff.mpr ⟨hwhole.trans hclosed, hnil⟩⟩
  · have herror := run_pattern_eq_error (hwhole.trans (run_closed_eq_error _ opened hbody hrest))
    exact .inr ⟨hopen, hsign, opened, herror⟩

/-! ### The tree -/

namespace Node

theorem ofText?_of_run {u : Source} (h : Read.pattern.run (Source.ofText p) = .ok (t, u)) :
    ofText? p = match t.tooDeep? 0 with
      | some e => .error ⟨.nestLimitExceeded, e⟩
      | none => .ok t := by
  unfold ofText?
  rw [h]
  rfl

theorem ofText?_of_run_error {l : Located} (h : Read.pattern.run (Source.ofText p) = .error l) :
    ofText? p = .error l := by
  unfold ofText?
  rw [h]
  rfl

theorem exists_run_of_ofText? (h : ofText? p = .ok t) : ∃ u, Read.pattern.run (Source.ofText p) = .ok (t, u) := by
  cases hrun : Read.pattern.run (Source.ofText p) with
  | error e =>
    rw [ofText?_of_run_error hrun] at h
    cases h
  | ok read =>
    rw [ofText?_of_run hrun] at h
    split at h <;> cases h
    exact ⟨read.2, rfl⟩

/-- The anchors lie around a pattern with two more levels. -/
theorem Anchored.isSome_tooDeep? {whole : Node} (h : t.Anchored whole) :
    (whole.tooDeep? 0).isSome = (t.tooDeep? 2).isSome := by
  cases h with
  | @intro _ _ _ _ t' hsame =>
    rw [← t.isSome_tooDeep?_bare, hsame, t'.isSome_tooDeep?_bare]
    show (Option.orElse none fun _ => Option.orElse (tooDeep? 2 t') _).isSome = _
    cases tooDeep? 2 t' <;> rfl

end Node

/-! ### Patterns that do not fit -/

/-- The pattern ends in a comment that no line feed ends, so that the comment would go on over whatever stands behind
the pattern. -/
def EndsInComment (p : String) : Prop :=
  ∃ t u, Read.pattern.run (Source.ofText p) = .ok (t, u) ∧ u.inComment = true

/-- With a group and the anchors around it, the pattern lies too deep. -/
def LiesTooDeep (p : String) : Prop :=
  ∃ t, Node.ofText? p = .ok t ∧ t.tooDeep? 2 ≠ none

theorem endsInComment_iff {u : Source} (h : Read.pattern.run (Source.ofText p) = .ok (t, u)) :
    EndsInComment p ↔ u.inComment = true := by
  constructor
  · rintro ⟨t', u', h', hopen⟩
    cases h.symm.trans h'
    exact hopen
  · exact fun hopen => ⟨t, u, h, hopen⟩

/-- Such a pattern has the sign of a comment in its last line. -/
theorem EndsInComment.signInLastLine (h : EndsInComment p) : SignInLastLine p.toList := by
  obtain ⟨t, u, hread, hopen⟩ := h
  rcases Read.pattern_wrapped hread with ⟨hinside, -⟩ | ⟨-, hsign, -⟩
  · cases hinside.symm.trans hopen
  · exact hsign

/-- What the text with the anchors is read as, and when and why it is refused although the pattern is not. -/
theorem Node.ofText?_wrapped (h : ofText? p = .ok t) :
    (¬ EndsInComment p ∧ ¬ LiesTooDeep p ∧ ∃ whole, t.Anchored whole ∧ ofText? (wrapped .full p) = .ok whole) ∨
      (EndsInComment p ∧ ∃ e, ofText? (wrapped .full p) = .error ⟨.groupUnclosed, e⟩) ∨
        LiesTooDeep p ∧ ∃ e, ofText? (wrapped .full p) = .error ⟨.nestLimitExceeded, e⟩ := by
  have hdeep : LiesTooDeep p ↔ t.tooDeep? 2 ≠ none := by
    refine ⟨?_, fun hnested => ⟨t, h, hnested⟩⟩
    rintro ⟨t', h', hnested⟩
    cases h.symm.trans h'
    exact hnested
  obtain ⟨u, hread⟩ := exists_run_of_ofText? h
  rw [endsInComment_iff hread, hdeep]
  rcases Read.pattern_wrapped hread with ⟨hinside, whole, u', hwhole, hrun⟩ | ⟨hopen, -, e, hrun⟩
  · have hlevels := hwhole.isSome_tooDeep?
    rw [ofText?_of_run hrun]
    cases hnested : whole.tooDeep? 0 with
    | none =>
      rw [hnested, Option.isSome_none, eq_comm, Option.isSome_eq_false_iff, Option.isNone_iff_eq_none] at hlevels
      exact .inl ⟨Bool.eq_false_iff.mp hinside, fun hne => hne hlevels, whole, hwhole, rfl⟩
    | some e =>
      rw [hnested, Option.isSome_some, eq_comm] at hlevels
      exact .inr (.inr ⟨Option.isSome_iff_ne_none.mp hlevels, e, rfl⟩)
  · exact .inr (.inl ⟨hopen, e, ofText?_of_run_error hrun⟩)

end MapQuery.Pattern

import MapQuery.Proofs.DataSet.Redefinition

/-!
# What an addition changes

A node, way or relation that is added touches its own entry, what it lists, and what it has listed before. Of
its own entry it changes the geometry, and whether it is incomplete; of the others it changes the referrers,
and of these its own place among them. What it lists and is not there yet is made. Everything else stays as it
is, and so does all of it where the same is added again.

* `get?_eq_of_content` — an entry is known from its content and its referrers.
* `Addition.entryOf_perform` — all entries after an addition.
* `Addition.filter_referrersOf_perform` — the other referrers stay as they are, in their order.
* `Addition.get?_perform_perform` — the same addition again changes no entry.
* `Reachable.perform_changes` — what an addition changes, and what it does not.
-/

namespace MapQuery

namespace DataSet

variable {d d' : DataSet} {x : Id}

/-! ### Entries that are there -/

theorem get?_of_contains (h : d.contains x) : d.get? x = some (d.entryOf x) := by
  obtain ⟨e, he⟩ := contains_iff.mp h
  rw [he, entryOf_of_get? he]

/-- An entry is known from its content and its referrers. -/
theorem get?_eq_of_content (hcontains : d.contains x = d'.contains x)
    (hcontent : (d.entryOf x).content = (d'.entryOf x).content)
    (hreferrers : d.referrersOf x = d'.referrersOf x) : d.get? x = d'.get? x := by
  by_cases h : d'.contains x
  · rw [get?_of_contains h, get?_of_contains (hcontains.trans h), Entry.eq_of_content hcontent hreferrers]
  · have hnone : ∀ {d : DataSet}, ¬ d.contains x → d.get? x = none := fun h => by
      rwa [contains_eq_isSome, Option.not_isSome_iff_eq_none] at h
    rw [hnone h, hnone (hcontains ▸ h)]

/-- Data sets that have the same entries have the same content. -/
theorem SameContent.of_get?_eq (hentries : ∀ x, d.get? x = d'.get? x) (hselected : d.selected = d'.selected)
    (hareas : d.areas = d'.areas) : SameContent d d' where
  contains x := by rw [contains_eq_isSome, contains_eq_isSome, hentries]
  content x := by rw [entryOf, entryOf, hentries]
  referrers x := by rw [referrersOf, referrersOf, entryOf, entryOf, hentries]
  selected x := by rw [hselected]
  areas := hareas

namespace Addition

variable {a : Addition}

/-! ### The entries after an addition -/

/-- Every entry after an addition is the one before it but for its referrers, and the entry of what has been
added but for its geometry and for being complete, too. -/
theorem entryOf_perform (ha : a.isBare) (d : DataSet) (x : Id) :
    (a.perform d).entryOf x =
      if a.id = x then
        { d.entryOf x with
          geometry := a.geometry
          metadata := { (d.entryOf x).metadata with incomplete := false }
          referrers := (a.perform d).referrersOf x }
      else { d.entryOf x with referrers := (a.perform d).referrersOf x } := by
  have hcontent := a.content_perform d x
  rw [update_of_isBare ha] at hcontent
  split at hcontent
  · next hx =>
    rw [if_pos hx]
    exact Entry.eq_of_content hcontent rfl
  · next hx =>
    rw [if_neg hx]
    exact Entry.eq_of_content hcontent rfl

/-- What has been added is there with what it had before. -/
theorem get?_perform_self (ha : a.isBare) (d : DataSet) :
    (a.perform d).get? a.id = some { d.entryOf a.id with
      geometry := a.geometry
      metadata := { (d.entryOf a.id).metadata with incomplete := false }
      referrers := (a.perform d).referrersOf a.id } := by
  have hadded : (a.perform d).contains a.id := (a.contains_perform d a.id).mpr (.inl rfl)
  rw [get?_of_contains hadded, entryOf_perform ha, if_pos rfl]

/-- Whatever else is there keeps all but its referrers. -/
theorem get?_perform_of_ne (ha : a.isBare) (hx : x ≠ a.id) {e : Entry} (he : d.get? x = some e) :
    (a.perform d).get? x = some { e with referrers := (a.perform d).referrersOf x } := by
  have hkept : (a.perform d).contains x :=
    (a.contains_perform d x).mpr (.inr (.inr (contains_iff.mpr ⟨e, he⟩)))
  rw [get?_of_contains hkept, entryOf_perform ha, if_neg hx.symm, entryOf_of_get? he]

/-! ### The referrers after an addition -/

/-- What has been added is no longer kept where it was listed before, and stands at the end where it is listed
now. Nothing else is done to the referrers. -/
theorem referrersOf_perform_eq (hd : d.Consistent) (a : Addition) (x : Id) :
    (a.perform d).referrersOf x =
      (if x ∈ d.childrenOf a.id then (d.referrersOf x).filter (· ≠ a.id) else d.referrersOf x) ++
        if x ∈ a.geometry.children then [a.id] else [] := by
  have hunlinked := (hd.referrersOf_unlink a.id x).symm.trans (DataSet.referrersOf_unlink d a.id x)
  rw [← hunlinked, a.referrersOf_perform hd]

/-- The other referrers stay as they are, in their order. -/
theorem filter_referrersOf_perform (hd : d.Consistent) (a : Addition) (x : Id) :
    ((a.perform d).referrersOf x).filter (· ≠ a.id) = (d.referrersOf x).filter (· ≠ a.id) := by
  have hentered : (if x ∈ a.geometry.children then [a.id] else []).filter (· ≠ a.id) = [] := by
    split <;> simp
  rw [a.referrersOf_perform hd, List.filter_append, hentered, List.append_nil, List.filter_filter]
  simp only [Bool.and_self]

/-- What an addition makes is listed by what has been added, and by nothing else. -/
theorem get?_perform_new (ha : a.isBare) (hd : d.Consistent) (hx : x ≠ a.id) (hnew : ¬ d.contains x)
    (hlisted : x ∈ a.geometry.children) :
    (a.perform d).get? x = some { Entry.placeholder x.kind with referrers := [a.id] } := by
  have hmade : (a.perform d).contains x := (a.contains_perform d x).mpr (.inr (.inl hlisted))
  have hplaceholder : d.entryOf x = .placeholder x.kind := entryOf_of_not_contains hnew
  have hreferrers : (a.perform d).referrersOf x = [a.id] := by
    rw [a.referrersOf_perform hd, referrersOf, hplaceholder, if_pos hlisted]
    rfl
  rw [get?_of_contains hmade, entryOf_perform ha, if_neg hx.symm, hplaceholder, hreferrers]

/-! ### The same addition again -/

theorem update_update (a : Addition) (e : Entry) : a.update (a.update e) = a.update e := by
  cases a <;> rfl

/-- The same addition again changes no entry: what it takes out of the referrers it enters where it stood, at
the end. -/
theorem get?_perform_perform (hd : d.Consistent) (a : Addition) (x : Id) :
    (a.perform (a.perform d)).get? x = (a.perform d).get? x := by
  refine get?_eq_of_content ?_ ?_ ?_
  · rw [Bool.eq_iff_iff, a.contains_perform, a.contains_perform]
    tauto
  · rw [a.content_perform, a.content_perform]
    split
    · exact a.update_update _
    · rfl
  · rw [a.referrersOf_perform (a.consistent_perform hd), filter_referrersOf_perform hd,
      a.referrersOf_perform hd]

/-- Nor does it change anything else. -/
theorem sameContent_perform_perform (hd : d.Consistent) (a : Addition) :
    SameContent (a.perform (a.perform d)) (a.perform d) :=
  .of_get?_eq (a.get?_perform_perform hd) (a.selected_perform _) (a.areas_perform _)

end Addition

/-! ### What an addition changes -/

/-- A node, a way or a relation is added to a data set that comes of the changes, for the first time or again.
Every other primitive that is there keeps its tags, metadata and geometry. What is added keeps its tags and
its metadata, and is complete. There come to be it and what it lists; of what it lists each one that was
missing is an incomplete placeholder without tags. What is added is taken from the referrers of what it listed
before, and stands at the end of those of what it lists now; the other referrers stay in their order. The
selection and the rectangles are the same. Where the same is added once more, every entry stays as it is, and
every answer, whatever conditions of the host look at. -/
theorem Reachable.perform_changes (h : d.Reachable) {a : Addition} (ha : a.isBare) :
    let d' := a.perform d
    (∀ x e, x ≠ a.id → d.get? x = some e →
        d'.get? x = some { e with referrers := d'.referrersOf x }) ∧
      d'.get? a.id = some { d.entryOf a.id with
        geometry := a.geometry
        metadata := { (d.entryOf a.id).metadata with incomplete := false }
        referrers := d'.referrersOf a.id } ∧
      (∀ x, d'.contains x ↔ a.id = x ∨ x ∈ a.geometry.children ∨ d.contains x) ∧
      (∀ x, x ≠ a.id → ¬ d.contains x → x ∈ a.geometry.children →
        d'.get? x = some { Entry.placeholder x.kind with referrers := [a.id] }) ∧
      (∀ x, d'.referrersOf x =
        (if x ∈ d.childrenOf a.id then (d.referrersOf x).filter (· ≠ a.id) else d.referrersOf x) ++
          if x ∈ a.geometry.children then [a.id] else []) ∧
      (∀ x, (d'.referrersOf x).filter (· ≠ a.id) = (d.referrersOf x).filter (· ≠ a.id)) ∧
      d'.selected = d.selected ∧ d'.areas = d.areas ∧
      (∀ x, (a.perform d').get? x = d'.get? x) ∧ (a.perform d').ids = d'.ids ∧
      (a.perform d').selected = d'.selected ∧ (a.perform d').areas = d'.areas ∧
      SameAnswers (fun _ => True) (a.perform d') d' := by
  intro d'
  have hd := h.consistent
  have hagain := a.sameContent_perform_perform hd
  refine ⟨fun x e hx he => Addition.get?_perform_of_ne ha hx he, Addition.get?_perform_self ha d,
    a.contains_perform d, fun x hx hnew hlisted => Addition.get?_perform_new ha hd hx hnew hlisted,
    a.referrersOf_perform_eq hd, a.filter_referrersOf_perform hd, a.selected_perform d, a.areas_perform d, ?_⟩
  exact ⟨a.get?_perform_perform hd, hagain.ids_eq, a.selected_perform d', a.areas_perform d',
    hagain.sameAnswers_of_referrersOf_eq fun x => by
      rw [referrersOf, referrersOf, entryOf, entryOf, a.get?_perform_perform hd]⟩

/-- A relation that lists itself is added again: it still lists a node, and now twice, no longer a way, and
for the first time another node. Among the referrers of the first node it comes to stand behind a way. -/
theorem perform_changes_self_member :
    let lists : List Member := [⟨⟨.relation, 2⟩, ""⟩, ⟨⟨.node, 1⟩, ""⟩, ⟨⟨.way, 3⟩, ""⟩]
    let d := ((empty.addRelation 2 lists).addWay 4 [1]).putTag ⟨.relation, 2⟩ "type" "route"
    let a : Addition :=
      .relation 2 [⟨⟨.node, 1⟩, "stop"⟩, ⟨⟨.relation, 2⟩, ""⟩, ⟨⟨.node, 1⟩, ""⟩, ⟨⟨.node, 5⟩, ""⟩]
    let d' := a.perform d
    d.Reachable ∧ a.isBare ∧
      d.referrersOf ⟨.node, 1⟩ = [⟨.relation, 2⟩, ⟨.way, 4⟩] ∧
      d'.referrersOf ⟨.node, 1⟩ = [⟨.way, 4⟩, ⟨.relation, 2⟩] ∧
      d'.referrersOf ⟨.relation, 2⟩ = [⟨.relation, 2⟩] ∧
      d.referrersOf ⟨.way, 3⟩ = [⟨.relation, 2⟩] ∧
      d'.get? ⟨.way, 3⟩ = (d.get? ⟨.way, 3⟩).map ({ · with referrers := [] }) ∧
      d'.get? ⟨.node, 5⟩ = some { Entry.placeholder .node with referrers := [⟨.relation, 2⟩] } ∧
      (d'.get? ⟨.relation, 2⟩).map Entry.tags = some (d.entryOf ⟨.relation, 2⟩).tags ∧
      SameAnswers (fun _ => True) (a.perform d') d' := by
  intro lists d a d'
  have hreachable : d.Reachable := .putTag (.addWay (.addRelation .empty 2 lists) 4 [1]) _ _ _
  obtain ⟨hother, hself, -, hnew, -, -, -, -, -, -, -, -, hagain⟩ := hreachable.perform_changes (a := a) rfl
  have hleft : d'.get? ⟨.way, 3⟩ = (d.get? ⟨.way, 3⟩).map ({ · with referrers := [] }) := by
    obtain ⟨e, he⟩ := contains_iff.mp (show d.contains ⟨.way, 3⟩ by decide +kernel)
    have hreferrers : d'.referrersOf ⟨.way, 3⟩ = [] := by decide +kernel
    rw [hother _ e (by decide) he, he, hreferrers]
    rfl
  have htags : (d'.get? ⟨.relation, 2⟩).map Entry.tags = some (d.entryOf ⟨.relation, 2⟩).tags :=
    congrArg (Option.map Entry.tags) hself
  exact ⟨hreachable, rfl, by decide +kernel, by decide +kernel, by decide +kernel, by decide +kernel, hleft,
    hnew _ (by decide) (by decide +kernel) (by decide), htags, hagain⟩

end DataSet

end MapQuery

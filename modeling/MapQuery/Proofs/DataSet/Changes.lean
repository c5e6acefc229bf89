import MapQuery.DataSet.Basic

/-!
# What changes do to a data set

A data set is looked at through what each primitive lists, the primitives that list it, and whether there
is one at all. Each change is described by what it does to these.

* `DataSet.childrenOf`, `DataSet.referrersOf` — what a primitive lists, and what lists it.
* `entryOf_unlink`, `entryOf_link` — a primitive is taken away from, and entered with, what it lists.
* `geometry_add`, `contains_add`, `referrersOf_add` — a primitive is added.
* `frame_add` — the selection and the rectangles stay as they are.
-/

namespace MapQuery

/-! ### Entries -/

namespace Entry

variable (e : Entry) (id : Id)

@[simp] theorem geometry_addReferrer : (e.addReferrer id).geometry = e.geometry := by
  unfold addReferrer
  split <;> rfl

theorem referrers_addReferrer :
    (e.addReferrer id).referrers = if id ∈ e.referrers then e.referrers else e.referrers ++ [id] := by
  unfold addReferrer
  by_cases h : id ∈ e.referrers
  · rw [if_pos (List.contains_iff_mem.mpr h), if_pos h]
  · rw [if_neg (mt List.contains_iff_mem.mp h), if_neg h]

/-- Entered twice is entered once. -/
theorem addReferrer_addReferrer : (e.addReferrer id).addReferrer id = e.addReferrer id := by
  have hmem : id ∈ (e.addReferrer id).referrers := by
    rw [referrers_addReferrer]
    split
    · assumption
    · exact List.mem_append_right _ (List.mem_singleton_self id)
  rw [addReferrer, if_pos (List.contains_iff_mem.mpr hmem)]

theorem dropReferrer_dropReferrer : (e.dropReferrer id).dropReferrer id = e.dropReferrer id := by
  simp only [dropReferrer, List.filter_filter, Bool.and_self]

end Entry

namespace Geometry

@[simp] theorem children_blank (k : Kind) : (blank k).children = [] := by
  cases k <;> rfl

@[simp] theorem kind_blank (k : Kind) : (blank k).kind = k := by
  cases k <;> rfl

end Geometry

namespace DataSet

/-- The ids of what a primitive lists, in order. -/
def childrenOf (d : DataSet) (id : Id) : List Id :=
  (d.entryOf id).geometry.children

/-- The ids of the ways and relations that are kept as listing a primitive. -/
def referrersOf (d : DataSet) (id : Id) : List Id :=
  (d.entryOf id).referrers

variable {d : DataSet} {id x y : Id}

/-! ### Presence -/

theorem contains_eq_isSome (d : DataSet) (x : Id) : d.contains x = (d.get? x).isSome :=
  Std.TreeMap.contains_eq_isSome_getElem?

theorem contains_iff : d.contains x = true ↔ ∃ e, d.get? x = some e := by
  rw [contains_eq_isSome, Option.isSome_iff_exists]

theorem entryOf_of_get? {e : Entry} (h : d.get? x = some e) : d.entryOf x = e := by
  rw [entryOf, h, Option.getD_some]

/-- A primitive that is not there lists nothing, and nothing is kept as listing it. -/
theorem entryOf_of_not_contains (h : ¬ d.contains x) : d.entryOf x = .placeholder x.kind := by
  rw [contains_eq_isSome, Option.not_isSome_iff_eq_none] at h
  rw [entryOf, h, Option.getD_none]

theorem contains_of_mem_childrenOf (h : x ∈ d.childrenOf y) : d.contains y := by
  by_cases hy : d.contains y
  · exact hy
  · rw [childrenOf, entryOf_of_not_contains hy] at h
    simp [Entry.placeholder] at h

/-! ### Single entries -/

theorem entryOf_put (d : DataSet) (id x : Id) (e : Entry) :
    (d.put id e).entryOf x = if id = x then e else d.entryOf x := by
  rw [entryOf, get?_put]
  split <;> rfl

theorem contains_put (d : DataSet) (id x : Id) (e : Entry) :
    (d.put id e).contains x ↔ id = x ∨ d.contains x := by
  rw [contains_eq_isSome, contains_eq_isSome, get?_put]
  split <;> simp_all

theorem contains_modify (d : DataSet) (id x : Id) (f : Entry → Entry) :
    (d.modify id f).contains x = d.contains x := by
  rw [contains_eq_isSome, contains_eq_isSome, get?_modify]
  split <;> simp

/-- A change of one entry, where it does nothing to what stands for a missing one. -/
theorem entryOf_modify (d : DataSet) (id x : Id) {f : Entry → Entry}
    (hf : f (.placeholder id.kind) = .placeholder id.kind) :
    (d.modify id f).entryOf x = if id = x then f (d.entryOf x) else d.entryOf x := by
  rw [entryOf, entryOf, get?_modify]
  split
  · next h =>
    subst h
    cases d.get? id with
    | none => exact hf.symm
    | some e => rfl
  · rfl

/-- A change of one entry that is there. -/
theorem entryOf_modify_of_contains (h : d.contains id) (x : Id) (f : Entry → Entry) :
    (d.modify id f).entryOf x = if id = x then f (d.entryOf x) else d.entryOf x := by
  obtain ⟨e, he⟩ := contains_iff.mp h
  rw [entryOf, entryOf, get?_modify]
  split
  · next hx =>
    subst hx
    rw [he]
    rfl
  · rfl

/-- What a change of one entry keeps of every entry is kept. -/
theorem entryOf_modify_congr {A : Type} (view : Entry → A) (d : DataSet) (id x : Id) {f : Entry → Entry}
    (hf : ∀ e, view (f e) = view e) : view ((d.modify id f).entryOf x) = view (d.entryOf x) := by
  rw [entryOf, entryOf, get?_modify]
  split
  · cases d.get? x with
    | none => rfl
    | some e => exact hf e
  · rfl

/-- Changing one entry after the other, where a second change of the same entry does nothing. -/
theorem entryOf_foldl {step : DataSet → Id → DataSet} (f : Entry → Entry)
    (hstep : ∀ d child x, (step d child).entryOf x = if child = x then f (d.entryOf x) else d.entryOf x)
    (hf : ∀ e, f (f e) = f e) (l : List Id) (d : DataSet) (x : Id) :
    (l.foldl step d).entryOf x = if x ∈ l then f (d.entryOf x) else d.entryOf x := by
  induction l generalizing d with
  | nil => simp
  | cons child l ih =>
    rw [List.foldl_cons, ih, hstep]
    by_cases hchild : child = x
    · simp [hchild, hf]
    · simp [hchild, Ne.symm hchild]

/-! ### Taking a primitive away from what it lists -/

theorem contains_foldl_drop (d : DataSet) (id x : Id) (l : List Id) :
    (l.foldl (fun d child => d.modify child (·.dropReferrer id)) d).contains x = d.contains x := by
  induction l generalizing d with
  | nil => rfl
  | cons child l ih => rw [List.foldl_cons, ih, contains_modify]

theorem entryOf_unlink (d : DataSet) (id x : Id) :
    (d.unlink id).entryOf x =
      if x ∈ d.childrenOf id then (d.entryOf x).dropReferrer id else d.entryOf x := by
  unfold unlink childrenOf entryOf
  cases d.get? id with
  | none => simp [Entry.placeholder]
  | some e =>
    exact entryOf_foldl (·.dropReferrer id) (fun d child x => entryOf_modify d child x rfl)
      (Entry.dropReferrer_dropReferrer · id) e.geometry.children d x

theorem contains_unlink (d : DataSet) (id x : Id) : (d.unlink id).contains x = d.contains x := by
  unfold unlink
  split
  · exact contains_foldl_drop d id x _
  · rfl

theorem geometry_unlink (d : DataSet) (id x : Id) :
    ((d.unlink id).entryOf x).geometry = (d.entryOf x).geometry := by
  rw [entryOf_unlink]
  split <;> rfl

/-! ### Entering a primitive with what it lists -/

theorem entryOf_link (d : DataSet) (id child x : Id) :
    (d.link id child).entryOf x =
      if child = x then (d.entryOf x).addReferrer id else d.entryOf x := by
  rw [link, entryOf_put]
  split
  · next h => rw [h]
  · rfl

theorem entryOf_foldl_link (d : DataSet) (id x : Id) (l : List Id) :
    (l.foldl (fun d child => d.link id child) d).entryOf x =
      if x ∈ l then (d.entryOf x).addReferrer id else d.entryOf x :=
  entryOf_foldl (·.addReferrer id) (fun d child x => entryOf_link d id child x)
    (Entry.addReferrer_addReferrer · id) l d x

theorem contains_foldl_link (d : DataSet) (id x : Id) (l : List Id) :
    (l.foldl (fun d child => d.link id child) d).contains x ↔ x ∈ l ∨ d.contains x := by
  induction l generalizing d with
  | nil => simp
  | cons child l ih =>
    rw [List.foldl_cons, ih, link, contains_put, List.mem_cons, or_left_comm, or_assoc,
      @eq_comm _ child]

/-! ### Adding a primitive -/

theorem geometry_add (d : DataSet) (id x : Id) (g : Geometry) :
    ((d.add id g).entryOf x).geometry = if id = x then g else (d.entryOf x).geometry := by
  unfold add
  rw [entryOf_put]
  split
  · rfl
  · rw [entryOf_foldl_link]
    split
    · rw [Entry.geometry_addReferrer, geometry_unlink]
    · rw [geometry_unlink]

/-- Adding a primitive gives it what it lists, and changes what no other one lists. -/
theorem childrenOf_add (d : DataSet) (id x : Id) (g : Geometry) :
    (d.add id g).childrenOf x = if id = x then g.children else d.childrenOf x := by
  rw [childrenOf, geometry_add]
  split <;> rfl

/-- Adding a primitive adds what it lists too. -/
theorem contains_add (d : DataSet) (id x : Id) (g : Geometry) :
    (d.add id g).contains x ↔ id = x ∨ x ∈ g.children ∨ d.contains x := by
  unfold add
  rw [contains_put, contains_foldl_link, contains_unlink]

theorem referrersOf_unlink (d : DataSet) (id x : Id) :
    (d.unlink id).referrersOf x =
      if x ∈ d.childrenOf id then (d.referrersOf x).filter (· ≠ id) else d.referrersOf x := by
  rw [referrersOf, entryOf_unlink]
  split <;> rfl

/-- Adding a primitive takes it out where it was listed before, and enters it at the end where it is
listed now. -/
theorem referrersOf_add (d : DataSet) (id x : Id) (g : Geometry) :
    (d.add id g).referrersOf x =
      if x ∈ g.children ∧ id ∉ (d.unlink id).referrersOf x then (d.unlink id).referrersOf x ++ [id]
      else (d.unlink id).referrersOf x := by
  have hlinked : (d.add id g).referrersOf x =
      ((g.children.foldl (fun d child => d.link id child) (d.unlink id)).entryOf x).referrers := by
    unfold add referrersOf
    rw [entryOf_put]
    split
    · next h => rw [h]
    · rfl
  rw [hlinked, entryOf_foldl_link]
  by_cases hx : x ∈ g.children
  · rw [if_pos hx, Entry.referrers_addReferrer]
    show (if id ∈ (d.unlink id).referrersOf x then (d.unlink id).referrersOf x
      else (d.unlink id).referrersOf x ++ [id]) = _
    by_cases hid : id ∈ (d.unlink id).referrersOf x
    · rw [if_pos hid, if_neg (fun h => h.2 hid)]
    · rw [if_neg hid, if_pos ⟨hx, hid⟩]
  · rw [if_neg hx, if_neg (fun h => hx h.1)]
    rfl

/-! ### What is not an entry -/

/-- The selection and the rectangles. -/
def frame (d : DataSet) : Std.TreeSet Id × Areas :=
  (d.selected, d.areas)

theorem frame_modify (d : DataSet) (id : Id) (f : Entry → Entry) : (d.modify id f).frame = d.frame := by
  unfold modify
  split <;> rfl

theorem frame_foldl (step : DataSet → Id → DataSet)
    (hstep : ∀ d child, (step d child).frame = d.frame) (l : List Id) (d : DataSet) :
    (l.foldl step d).frame = d.frame := by
  induction l generalizing d with
  | nil => rfl
  | cons child l ih => rw [List.foldl_cons, ih, hstep]

theorem frame_unlink (d : DataSet) (id : Id) : (d.unlink id).frame = d.frame := by
  unfold unlink
  split
  · exact frame_foldl _ (fun d child => frame_modify d child _) _ d
  · rfl

theorem frame_add (d : DataSet) (id : Id) (g : Geometry) : (d.add id g).frame = d.frame := by
  have hlinked : (g.children.foldl (fun d child => d.link id child) (d.unlink id)).frame =
      (d.unlink id).frame :=
    frame_foldl (fun d child => d.link id child) (fun _ _ => rfl) g.children (d.unlink id)
  exact hlinked.trans (frame_unlink d id)

end DataSet

end MapQuery

import MapQuery.Proofs.DataSet.Inside
import MapQuery.Proofs.Query.Surroundings

/-!
# Data sets with the same content

What a data set says about a primitive is its entry, and the order of the referrers in the entry is no part
of it. Where two data sets say the same, no query tells them apart, unless a condition of the host looks at the
order.

* `Entry.content` — an entry without its referrers; `content_add` says what adding a primitive does to it.
* `DataSet.SameContent` — the same primitives with the same content, the same referrers in some order, the
  same selection and the same rectangles.
* `DataSet.AgreesOn` — two data sets say the same of some primitives, and of all that stands around them.
* `AgreesOn.isCorrespondence` — these primitives correspond to those of the same id.
* `DataSet.SameAnswers`, `SameContent.sameAnswers` — every query has the same answers, and finds the same, if no
  condition of the host looks around; `SameContent.sameAnswers_of_referrersOf_eq` is on any query.
-/

namespace MapQuery

open List (Forall₂)

/-! ### Entries without their referrers -/

namespace Entry

/-- An entry without its referrers. -/
def content (e : Entry) : Entry :=
  { e with referrers := [] }

variable {e e' : Entry} {id : Id}

@[simp] theorem content_addReferrer : (e.addReferrer id).content = e.content := by
  unfold addReferrer
  split <;> rfl

@[simp] theorem content_dropReferrer : (e.dropReferrer id).content = e.content := rfl

theorem tags_eq_of_content (h : e.content = e'.content) : e.tags = e'.tags := by
  show e.content.tags = e'.content.tags
  rw [h]

theorem metadata_eq_of_content (h : e.content = e'.content) : e.metadata = e'.metadata := by
  show e.content.metadata = e'.content.metadata
  rw [h]

theorem geometry_eq_of_content (h : e.content = e'.content) : e.geometry = e'.geometry := by
  show e.content.geometry = e'.content.geometry
  rw [h]

end Entry

namespace DataSet

theorem content_unlink (d : DataSet) (id x : Id) :
    ((d.unlink id).entryOf x).content = (d.entryOf x).content := by
  rw [entryOf_unlink]
  split <;> rfl

/-- Adding a primitive gives it a geometry and makes it complete, and changes nothing that is said about
another one. -/
theorem content_add (d : DataSet) (id x : Id) (g : Geometry) :
    ((d.add id g).entryOf x).content =
      if id = x then
        { (d.entryOf x).content with
          geometry := g, metadata := { (d.entryOf x).metadata with incomplete := false } }
      else (d.entryOf x).content := by
  have hlinked : ∀ x, ((g.children.foldl (fun d child => d.link id child) (d.unlink id)).entryOf x).content =
      (d.entryOf x).content := by
    intro x
    rw [entryOf_foldl_link, ← content_unlink d id x]
    split
    · exact Entry.content_addReferrer
    · rfl
  unfold add
  rw [entryOf_put]
  split
  · next hx =>
    subst hx
    rw [← Entry.metadata_eq_of_content (hlinked id), ← hlinked id]
    rfl
  · exact hlinked x

/-! ### Sameness -/

/-- Two data sets have the same primitives with the same tags, metadata and geometry, the same referrers in
some order, the same selection and the same rectangles. -/
structure SameContent (d d' : DataSet) : Prop where
  contains : ∀ x, d.contains x = d'.contains x
  content : ∀ x, (d.entryOf x).content = (d'.entryOf x).content
  referrers : ∀ x, (d.referrersOf x).Perm (d'.referrersOf x)
  selected : ∀ x, d.selected.contains x = d'.selected.contains x
  areas : d.areas = d'.areas

/-- Two primitives have the same id. -/
def Handle.SameId {d d' : DataSet} (p : Handle d) (p' : Handle d') : Prop :=
  p.id = p'.id

/-- Every query of those that may be asked holds of a primitive of one data set exactly if it does of the one
with the same id in the other, and a search for it finds the same ids in the same order. -/
structure SameAnswers (asked : Query → Prop) (d d' : DataSet) : Prop where
  holds : ∀ q, asked q → ∀ (p : Handle d) (p' : Handle d'), p.SameId p' → q.holds p = q.holds p'
  search : ∀ q, asked q → (d.search q).map Handle.id = (d'.search q).map Handle.id

/-- Lists of ids that are in order are known from which ids are in them. -/
theorem eq_of_ordered {ids ids' : List Id} (h : ids.Pairwise fun x y => compare x y = .lt)
    (h' : ids'.Pairwise fun x y => compare x y = .lt) (hmem : ∀ x, x ∈ ids ↔ x ∈ ids') : ids = ids' := by
  have hnodup : ∀ {ids : List Id}, (ids.Pairwise fun x y => compare x y = .lt) → ids.Nodup := fun h =>
    h.imp fun {x y} hlt heq => by
      have hself : compare x x = .eq := Std.ReflCmp.compare_self
      rw [← heq, hself] at hlt
      cases hlt
  have hperm : ids.Perm ids' := (List.perm_ext_iff_of_nodup (hnodup h) (hnodup h')).mpr hmem
  refine hperm.eq_of_pairwise (fun x y _ _ hxy hyx => ?_) h h'
  exact absurd hyx (Std.OrientedCmp.not_lt_of_lt hxy)

/-! ### Agreement on some primitives -/

/-- Two data sets say the same of the primitives of some ids, and whatever these list or are listed by is
among them. -/
structure AgreesOn (known : Id → Prop) (d d' : DataSet) : Prop where
  contains : ∀ x, known x → d.contains x = d'.contains x
  content : ∀ x, known x → (d.entryOf x).content = (d'.entryOf x).content
  referrers : ∀ x, known x → (d.referrersOf x).Perm (d'.referrersOf x)
  selected : ∀ x, known x → d.selected.contains x = d'.selected.contains x
  listed : ∀ x, known x → ∀ y ∈ d'.childrenOf x, known y
  listing : ∀ x, known x → ∀ y ∈ d'.referrersOf x, known y

/-- Two primitives have the same id, one of those that are known. -/
def Handle.SameKnown {d d' : DataSet} (known : Id → Prop) (p : Handle d) (p' : Handle d') : Prop :=
  p.SameId p' ∧ known p'.id

namespace AgreesOn

variable {d d' : DataSet} {known : Id → Prop}

/-- An id that is known has handles in both data sets or in none. -/
theorem rel_handle? (h : AgreesOn known d d') {x : Id} (hx : known x) :
    Option.Rel (Handle.SameKnown known) (d.handle? x) (d'.handle? x) := by
  cases hp : d.handle? x with
  | some p =>
    have hcontains : d'.contains x = true := by
      rw [← h.contains x hx, ← handle?_eq_some.mp hp, p.contains_id]
    obtain ⟨p', hp', hid'⟩ := handle?_of_contains hcontains
    rw [hp']
    exact .some ⟨(handle?_eq_some.mp hp).trans hid'.symm, hid' ▸ hx⟩
  | none =>
    rw [handle?_eq_none, h.contains x hx, ← handle?_eq_none] at hp
    rw [hp]
    exact .none

/-- The handles of a list of ids that are known correspond. -/
theorem forall₂_handles (h : AgreesOn known d d') {ids : List Id} (hids : ∀ x ∈ ids, known x) :
    Forall₂ (Handle.SameKnown known) (ids.filterMap d.handle?) (ids.filterMap d'.handle?) := by
  have hsame : Forall₂ (fun x y => x = y ∧ known x) ids ids :=
    List.forall₂_same.mpr fun x hx => ⟨rfl, hids x hx⟩
  refine List.rel_filterMap (fun x y hxy => ?_) hsame
  obtain ⟨rfl, hx⟩ := hxy
  exact h.rel_handle? hx

variable {p : Handle d} {p' : Handle d'}

theorem entry_content_eq (h : AgreesOn known d d') (hp : p.SameKnown known p') :
    p.entry.content = p'.entry.content := by
  have hid : p.id = p'.id := hp.1
  rw [← p.entryOf_id, ← p'.entryOf_id, hid]
  exact h.content p'.id hp.2

theorem geometry_eq (h : AgreesOn known d d') (hp : p.SameKnown known p') :
    p.entry.geometry = p'.entry.geometry :=
  Entry.geometry_eq_of_content (h.entry_content_eq hp)

/-- What a known primitive lists is known. -/
theorem known_of_mem_children (h : AgreesOn known d d') (hp : p.SameKnown known p') {x : Id}
    (hx : x ∈ p'.entry.geometry.children) : known x := by
  rw [← p'.entryOf_id] at hx
  exact h.listed p'.id hp.2 x hx

theorem profile_eq (h : AgreesOn known d d') (hp : p.SameKnown known p') : p.profile = p'.profile := by
  have hid : p.id = p'.id := hp.1
  have hcontent := h.entry_content_eq hp
  unfold Handle.profile Handle.isNew
  rw [hid, h.selected p'.id hp.2, Entry.tags_eq_of_content hcontent, Entry.metadata_eq_of_content hcontent,
    Entry.geometry_eq_of_content hcontent]

/-- What is taken from the handle of an id that is known is the same, where it is the same of handles that
correspond. -/
theorem bind_handle?_eq {A : Type} (h : AgreesOn known d d') {f : Handle d → Option A}
    {g : Handle d' → Option A} (hfg : ∀ p p', p.SameKnown known p' → f p = g p') {x : Id} (hx : known x) :
    (d.handle? x).bind f = (d'.handle? x).bind g :=
  bind_eq_of_rel (h.rel_handle? hx) hfg

theorem path_eq (h : AgreesOn known d d') (hp : p.SameKnown known p') : p.path = p'.path := by
  unfold Handle.path
  rw [h.geometry_eq hp]
  split
  · next nodes hnodes =>
    refine mapM_eq_of_forall_mem fun n hn => ?_
    have hchild : (⟨.node, n⟩ : Id) ∈ p'.entry.geometry.children := by
      rw [hnodes]
      exact List.mem_map_of_mem hn
    exact h.bind_handle?_eq (fun p p' hp => by rw [h.profile_eq hp]) (h.known_of_mem_children hp hchild)
  · rfl

theorem ringArea_eq (h : AgreesOn known d d') (hp : p.SameKnown known p') : p.ringArea = p'.ringArea := by
  unfold Handle.ringArea
  rw [h.geometry_eq hp, h.path_eq hp]

theorem multipolygonArea_eq (h : AgreesOn known d d') {members : List Member}
    (hmembers : ∀ m ∈ members, known m.target) :
    Handle.multipolygonArea (d := d) members = Handle.multipolygonArea (d := d') members := by
  have hareas : (members.filterMap fun m =>
        if m.target.kind = .way then
          (d.handle? m.target).bind fun way => way.ringArea.map fun a => (m.role, a)
        else none) =
      members.filterMap fun m =>
        if m.target.kind = .way then
          (d'.handle? m.target).bind fun way => way.ringArea.map fun a => (m.role, a)
        else none := by
    refine List.filterMap_congr fun m hm => ?_
    rw [h.bind_handle?_eq (fun p p' hp => by rw [h.ringArea_eq hp]) (hmembers m hm)]
  unfold Handle.multipolygonArea
  rw [hareas]

theorem area_eq (h : AgreesOn known d d') (hp : p.SameKnown known p') : p.area = p'.area := by
  unfold Handle.area
  rw [h.geometry_eq hp, h.ringArea_eq hp, Entry.tags_eq_of_content (h.entry_content_eq hp)]
  split
  · rfl
  · next members hgeometry =>
    rw [h.multipolygonArea_eq fun m hm => h.known_of_mem_children hp ?_]
    rw [hgeometry]
    exact List.mem_map_of_mem hm
  · rfl

theorem forall₂_wayNodes (h : AgreesOn known d d') (hp : p.SameKnown known p') :
    Forall₂ (Handle.SameKnown known) p.wayNodes p'.wayNodes := by
  unfold Handle.wayNodes
  rw [h.geometry_eq hp]
  cases hgeometry : p'.entry.geometry with
  | line nodes =>
    have hknown : ∀ x ∈ nodes.map (Id.mk .node), known x := fun x hx => by
      refine h.known_of_mem_children hp ?_
      rw [hgeometry]
      exact hx
    have hnodes := h.forall₂_handles hknown
    rwa [List.filterMap_map, List.filterMap_map] at hnodes
  | _ => exact .nil

theorem forall₂_members (h : AgreesOn known d d') (hp : p.SameKnown known p') :
    Forall₂ (fun m m' => m.1 = m'.1 ∧ Handle.SameKnown known m.2 m'.2) p.members p'.members := by
  unfold Handle.members
  rw [h.geometry_eq hp]
  cases hgeometry : p'.entry.geometry with
  | group members =>
    have hsame : Forall₂ (fun m m' => m = m' ∧ known m.target) members members := by
      refine List.forall₂_same.mpr fun m hm => ⟨rfl, h.known_of_mem_children hp ?_⟩
      rw [hgeometry]
      exact List.mem_map_of_mem hm
    refine List.rel_filterMap (fun m m' hm => ?_) hsame
    obtain ⟨rfl, hm⟩ := hm
    exact rel_map_of_rel (h.rel_handle? hm) fun _ _ hp => ⟨rfl, hp⟩
  | _ => exact .nil

/-- Known primitives correspond to those of the same id. -/
theorem isCorrespondence (h : AgreesOn known d d') :
    Primitive.IsCorrespondence (Handle.SameKnown known : Handle d → Handle d' → Prop) where
  profile hp := h.profile_eq hp
  isTagged {p p'} hp := by
    show (!p.entry.tags.isPlain) = !p'.entry.tags.isPlain
    rw [Entry.tags_eq_of_content (h.entry_content_eq hp)]
  isClosed {p p'} hp := by
    show p.entry.geometry.isClosed = p'.entry.geometry.isClosed
    rw [h.geometry_eq hp]
  area hp := h.area_eq hp
  length {p p'} hp := by
    show p.path.map Geometry.pathLength = p'.path.map Geometry.pathLength
    rw [h.path_eq hp]
  wayNodes hp := h.forall₂_wayNodes hp
  members hp := h.forall₂_members hp
  referrers {p p'} hp := by
    have hid : p.id = p'.id := hp.1
    have hperm : p.entry.referrers.Perm p'.entry.referrers := by
      rw [← p.entryOf_id, ← p'.entryOf_id, hid]
      exact h.referrers p'.id hp.2
    have hknown : ∀ x ∈ p'.entry.referrers, known x := by
      rw [← p'.entryOf_id]
      exact h.listing p'.id hp.2
    exact ⟨_, hperm.filterMap d.handle?, h.forall₂_handles hknown⟩

end AgreesOn

namespace SameContent

variable {d d' d'' : DataSet}

theorem refl (d : DataSet) : SameContent d d where
  contains _ := rfl
  content _ := rfl
  referrers _ := .refl _
  selected _ := rfl
  areas := rfl

theorem trans (h : SameContent d d') (h' : SameContent d' d'') : SameContent d d'' where
  contains x := (h.contains x).trans (h'.contains x)
  content x := (h.content x).trans (h'.content x)
  referrers x := (h.referrers x).trans (h'.referrers x)
  selected x := (h.selected x).trans (h'.selected x)
  areas := h.areas.trans h'.areas

/-- The ids of a data set are known from which ids are in it, since they are kept in order. -/
theorem ids_eq (h : SameContent d d') : d.ids = d'.ids :=
  eq_of_ordered Std.TreeMap.ordered_keys Std.TreeMap.ordered_keys fun x => by
    show x ∈ d.ids ↔ x ∈ d'.ids
    rw [mem_ids, mem_ids, h.contains]

theorem size_eq (h : SameContent d d') : d.size = d'.size :=
  calc d.size = d.ids.length := Std.TreeMap.length_keys.symm
    _ = d'.ids.length := congrArg List.length h.ids_eq
    _ = d'.size := Std.TreeMap.length_keys

/-- Data sets of the same content agree on all primitives. -/
theorem agreesOn (h : SameContent d d') : AgreesOn (fun _ => True) d d' where
  contains x _ := h.contains x
  content x _ := h.content x
  referrers x _ := h.referrers x
  selected x _ := h.selected x
  listed _ _ _ _ := trivial
  listing _ _ _ _ := trivial

/-- Primitives of the same id correspond. -/
theorem isSimilarity (h : SameContent d d') :
    Primitive.IsSimilarity (Handle.SameKnown (fun _ => True) : Handle d → Handle d' → Prop) where
  toIsCorrespondence := h.agreesOn.isCorrespondence
  population _ := h.size_eq

/-! ### Queries -/

/-- A search finds the same primitives in the same order, if those of the same id answer the same. -/
theorem map_id_search (h : SameContent d d') {q : Query}
    (hq : ∀ (p : Handle d) (p' : Handle d'), p.SameId p' → q.holds p = q.holds p') :
    (d.search q).map Handle.id = (d'.search q).map Handle.id := by
  have hhandles : Forall₂ (Handle.SameKnown fun _ => True) d.handles d'.handles := by
    unfold handles
    rw [h.ids_eq]
    exact h.agreesOn.forall₂_handles fun _ _ => trivial
  have hsearch : Forall₂ (Handle.SameKnown fun _ => True) (d.search q) (d'.search q) :=
    List.rel_filter (fun p p' hp => Bool.eq_iff_iff.mp (hq p p' hp.1)) hhandles
  exact map_eq_of_forall₂ hsearch fun _ _ hp => hp.1

/-- No query tells data sets of the same content apart, unless conditions of the host look at what is around a
primitive. -/
theorem sameAnswers (h : SameContent d d') : SameAnswers Query.IsLocal d d' := by
  have hholds (q : Query) (hq : q.IsLocal) (p : Handle d) (p' : Handle d') (hp : p.SameId p') :
      q.holds p = q.holds p' :=
    h.isSimilarity.holds_eq hq ⟨hp, trivial⟩
  exact ⟨hholds, fun q hq => h.map_id_search (hholds q hq)⟩

/-- Where the referrers are kept in the same order, too, primitives of the same id look the same. -/
theorem isLikeness (h : SameContent d d') (hreferrers : ∀ x, d.referrersOf x = d'.referrersOf x) :
    Primitive.IsLikeness (Handle.SameKnown (fun _ => True) : Handle d → Handle d' → Prop) where
  toIsSimilarity := h.isSimilarity
  inOrder {p p'} hp := by
    have hid : p.id = p'.id := hp.1
    have hkept : p.entry.referrers = p'.entry.referrers := by
      rw [← p.entryOf_id, ← p'.entryOf_id, hid]
      exact hreferrers p'.id
    show Forall₂ _ (p.entry.referrers.filterMap d.handle?) (p'.entry.referrers.filterMap d'.handle?)
    rw [hkept]
    exact h.agreesOn.forall₂_handles fun _ _ => trivial

/-- Then no query at all tells the data sets apart. -/
theorem sameAnswers_of_referrersOf_eq (h : SameContent d d')
    (hreferrers : ∀ x, d.referrersOf x = d'.referrersOf x) : SameAnswers (fun _ => True) d d' := by
  have hholds (q : Query) (p : Handle d) (p' : Handle d') (hp : p.SameId p') : q.holds p = q.holds p' :=
    (h.isLikeness hreferrers).holds_eq q ⟨hp, trivial⟩
  exact ⟨fun q _ => hholds q, fun q _ => h.map_id_search (hholds q)⟩

end SameContent

end DataSet

end MapQuery

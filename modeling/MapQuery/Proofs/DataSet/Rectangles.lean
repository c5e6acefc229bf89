import MapQuery.DataSet.File
import MapQuery.Proofs.DataSet.Consistent
import MapQuery.Proofs.Geometry.Corners
import MapQuery.Proofs.Query.Evaluation
import MapQuery.Proofs.Query.Inside

/-!
# The rectangles of a data set

A rectangle comes into a data set in one of two ways: it is placed between two corners, or it is loaded with a file. What
is placed is in order, and what is found in it does not depend on the order of the corners. What is loaded is taken as it
stands in the file, where the corners may be in no order; nothing is ever found in such a rectangle.

* `Step`, `run` — loading and placing, step after step.
* `Step.Gives` — the rectangle that a step brings, and `exists_gives_of_run`: every rectangle is brought by some step.
* `Areas.Alike` — rectangles that contain the same; `alike_run` and `Query.holds_inArea_congr`.
* `run_rectangles` — what is known of the rectangles after any steps.
-/

namespace MapQuery

/-! ### Rectangles that contain the same -/

/-- Two rectangles, or none, that contain the same points. -/
def Areas.Alike (a a' : Areas) : Prop :=
  ∀ (area : Area) (c : Coordinate), (a.get? area).any (·.contains c) = (a'.get? area).any (·.contains c)

section

variable {P : Type} [Primitive P]

/-- The search for what is inside asks of a rectangle only what it contains. The induction is on the steps that are left
to the search. -/
theorem isInside_congr {r r' : Option Bounds} (h : ∀ c, r.any (·.contains c) = r'.any (·.contains c)) (all : Bool)
    (fuel : Nat) : isInside (P := P) r all fuel = isInside r' all fuel := by
  induction fuel with
  | zero => rfl
  | succ fuel ih =>
    funext p
    refine StateT.ext fun path => ?_
    rw [run_isInside_succ, run_isInside_succ, ih]
    generalize (Primitive.profile p).coordinate = coordinate
    cases coordinate with
    | none => cases r <;> cases r' <;> rfl
    | some c =>
      have hc := h c
      cases r <;> cases r' <;> simp only [Option.any_none, Option.any_some] at hc <;> simp only [hc]

theorem Query.holds_inArea_congr {a a' : Areas} (h : a.Alike a') (area : Area) (all : Bool) (p : P) :
    (Query.inArea area all a).holds p = (Query.inArea area all a').holds p := by
  rw [Query.holds_eq_satisfied, Query.holds_eq_satisfied]
  show isInArea area all a p = isInArea area all a' p
  unfold isInArea
  rw [isInside_congr (h area)]

end

namespace DataSet

/-! ### Steps -/

/-- A step in the life of a data set, as far as its rectangles go. -/
inductive Step where
  /-- The text of a file is loaded. If it is not one, the data set stays as it is. -/
  | load (text : String)
  /-- A rectangle is placed between two corners, or taken away. -/
  | place (area : Area) (corners : Option (Coordinate × Coordinate))

/-- With another one of the two rectangles. -/
def withArea (d : DataSet) : Area → Option Bounds → DataSet
  | .view, b => d.withView b
  | .downloaded, b => d.withDownloaded b

/-- The data set after a step. -/
def Step.apply (d : DataSet) : Step → DataSet
  | load text =>
    match ofText text with
    | .ok d' => d'
    | .error _ => d
  | place area corners => d.withArea area (corners.map fun c => Bounds.between c.1 c.2)

/-- The data set after steps, which begin with nothing. -/
def run (steps : List Step) : DataSet :=
  steps.foldl Step.apply empty

/-- The corners are finite. -/
def Step.IsFinite : Step → Prop
  | load _ => True
  | place _ corners => ∀ c ∈ corners, c.1.IsFinite ∧ c.2.IsFinite

/-- Steps that differ in the order of corners only. -/
inductive Step.Alike : Step → Step → Prop where
  | load (text : String) : Alike (load text) (load text)
  | place (area : Area) {c c' : Coordinate × Coordinate} (h : Bounds.SameCorners c c') :
    Alike (place area (some c)) (place area (some c'))
  | clear (area : Area) : Alike (place area none) (place area none)

/-- The rectangle that a step brings. -/
def Step.Gives (area : Area) (b : Bounds) : Step → Prop
  | load text => ∃ f, File.shape.read text = .ok f ∧ f.areas.get? area = some b
  | place area' corners => area' = area ∧ ∃ c ∈ corners, b = Bounds.between c.1 c.2

/-! ### The rectangles after a step -/

theorem get?_areas_withArea (d : DataSet) (area other : Area) (b : Option Bounds) :
    (d.withArea area b).areas.get? other = if area = other then b else d.areas.get? other := by
  cases area <;> cases other <;> rfl

/-- The primitives of a file leave its rectangles as they are. -/
theorem areas_ofFile (f : File) : (ofFile f).areas = f.areas := by
  have hselect : ∀ (l : List Id) (d : DataSet), (l.foldl (fun d id => d.select id true) d).areas = d.areas := by
    intro l
    induction l with
    | nil => exact fun _ => rfl
    | cons id l ih => exact fun d => ih _
  have hrecord : ∀ (d : DataSet) (r : Record), (d.addRecord r).frame = d.frame := fun d r =>
    (frame_modify _ _ _).trans (frame_add d r.id r.geometry)
  have hrecords : ∀ (l : List Record) (d : DataSet), (l.foldl addRecord d).frame = d.frame := by
    intro l
    induction l with
    | nil => exact fun _ => rfl
    | cons r l ih => exact fun d => (ih _).trans (hrecord d r)
  exact (hselect f.selected _).trans (congrArg Prod.snd (hrecords (f.nodes ++ f.ways ++ f.relations) _))

/-- A rectangle after a step was there before, or the step brings it. -/
theorem gives_of_apply {d : DataSet} {step : Step} {area : Area} {b : Bounds}
    (h : (step.apply d).areas.get? area = some b) : d.areas.get? area = some b ∨ step.Gives area b := by
  cases step with
  | load text =>
    cases hf : File.shape.read text with
    | ok f =>
      simp only [Step.apply, ofText, hf, Except.map, areas_ofFile] at h
      exact .inr ⟨f, hf, h⟩
    | error e =>
      simp only [Step.apply, ofText, hf, Except.map] at h
      exact .inl h
  | place area' corners =>
    unfold Step.apply at h
    rw [get?_areas_withArea] at h
    split at h
    · next harea =>
      obtain ⟨c, hc, hb⟩ := Option.map_eq_some_iff.mp h
      exact .inr ⟨harea, c, hc, hb.symm⟩
    · exact .inl h

/-- Every rectangle is brought by some step. -/
theorem exists_gives_of_run {steps : List Step} {area : Area} {b : Bounds}
    (h : (run steps).areas.get? area = some b) : ∃ step ∈ steps, step.Gives area b := by
  induction steps using List.reverseRecOn with
  | nil => cases area <;> cases h
  | append_singleton steps step ih =>
    rw [run, List.foldl_append] at h
    rcases gives_of_apply h with hbefore | hgives
    · obtain ⟨step', hmem, hgives⟩ := ih hbefore
      exact ⟨step', List.mem_append_left _ hmem, hgives⟩
    · exact ⟨step, List.mem_append_right _ List.mem_cons_self, hgives⟩

/-! ### The order of the corners -/

/-- Steps that differ in the order of corners keep rectangles alike. -/
theorem alike_apply {d d' : DataSet} (h : d.areas.Alike d'.areas) {step step' : Step} (hstep : step.Alike step')
    (hfinite : step.IsFinite) : (step.apply d).areas.Alike (step'.apply d').areas := by
  intro area p
  cases hstep with
  | load text =>
    simp only [Step.apply]
    cases ofText text with
    | ok _ => rfl
    | error _ => exact h area p
  | @place area' c c' hcorners =>
    obtain ⟨h₁, h₂⟩ := hfinite c rfl
    unfold Step.apply
    rw [get?_areas_withArea, get?_areas_withArea]
    split
    · exact Bounds.contains_between_congr hcorners h₁ h₂ p
    · exact h area p
  | clear area' =>
    unfold Step.apply
    rw [get?_areas_withArea, get?_areas_withArea]
    split
    · rfl
    · exact h area p

theorem alike_foldl {steps steps' : List Step} (h : List.Forall₂ Step.Alike steps steps')
    (hfinite : ∀ step ∈ steps, step.IsFinite) {d d' : DataSet} (hd : d.areas.Alike d'.areas) :
    (steps.foldl Step.apply d).areas.Alike (steps'.foldl Step.apply d').areas := by
  induction h generalizing d d' with
  | nil => exact hd
  | cons hstep _ ih =>
    obtain ⟨hfirst, hrest⟩ := List.forall_mem_cons.mp hfinite
    exact ih hrest (alike_apply hd hstep hfirst)

theorem alike_run {steps steps' : List Step} (h : List.Forall₂ Step.Alike steps steps')
    (hfinite : ∀ step ∈ steps, step.IsFinite) : (run steps).areas.Alike (run steps').areas :=
  alike_foldl h hfinite fun _ _ => rfl

/-! ### After any steps -/

/-- A placed rectangle contains both of its corners. A rectangle is in order if it contains its own least and greatest
corner; where it is not, it contains nothing and stands so in a file. In whatever order corners are given, queries for
what is inside find the same. -/
theorem run_rectangles {steps steps' : List Step} (hfinite : ∀ step ∈ steps, step.IsFinite)
    (halike : List.Forall₂ Step.Alike steps steps') :
    (∀ area c, .place area (some c) ∈ steps →
      (Bounds.between c.1 c.2).contains c.1 = true ∧ (Bounds.between c.1 c.2).contains c.2 = true) ∧
    (∀ area b, (run steps).areas.get? area = some b →
      (b.IsOrdered ↔ b.contains b.low = true ∧ b.contains b.high = true) ∧
      (b.IsOrdered ∨ (∀ p, b.contains p = false) ∧
        ∃ text f, .load text ∈ steps ∧ File.shape.read text = .ok f ∧ f.areas.get? area = some b)) ∧
    ∀ area all {P : Type} [Primitive P] (p : P),
      (Query.inArea area all (run steps).areas).holds p = (Query.inArea area all (run steps').areas).holds p := by
  refine ⟨fun area c hplaced => ?_, fun area b hb => ⟨Bounds.isOrdered_iff_contains, ?_⟩,
    fun area all P _ p => Query.holds_inArea_congr (alike_run halike hfinite) area all p⟩
  · obtain ⟨h₁, h₂⟩ := hfinite _ hplaced c rfl
    exact Bounds.contains_corners h₁ h₂
  · by_cases hordered : b.IsOrdered
    · exact .inl hordered
    · -- A placed rectangle is in order, so this one was loaded.
      obtain ⟨step, hmem, hgives⟩ := exists_gives_of_run hb
      cases step with
      | load text =>
        obtain ⟨f, hf, harea⟩ := hgives
        refine .inr ⟨fun p => Bool.eq_false_iff.mpr fun hp => hordered (Bounds.isOrdered_of_contains hp), ?_⟩
        exact ⟨text, f, hmem, hf, harea⟩
      | place area' corners =>
        obtain ⟨-, c, hc, rfl⟩ := hgives
        obtain ⟨h₁, h₂⟩ := hfinite _ hmem c hc
        exact absurd (Bounds.isOrdered_between h₁ h₂) hordered

/-- A view that is loaded with an empty file before it is placed, between the same corners in another order. -/
theorem run_rectangles_placed :
    let steps := [.load "\x7b\x7d", .place .view (some (⟨10, 20⟩, ⟨0, 0⟩))]
    let steps' := [.load "\x7b\x7d", .place .view (some (⟨10, 0⟩, ⟨0, 20⟩))]
    (∀ step ∈ steps, Step.IsFinite step) ∧ List.Forall₂ Step.Alike steps steps' ∧
      (∃ b : Bounds, (run steps).areas.view = some b ∧ b.IsOrdered) ∧
      ∀ {P : Type} [Primitive P] (p : P),
        (Query.inArea .view true (run steps).areas).holds p =
          (Query.inArea .view true (run steps').areas).holds p := by
  intro steps steps'
  have hfinite : ∀ step ∈ steps, Step.IsFinite step := by
    refine List.forall_mem_cons.mpr ⟨trivial, List.forall_mem_cons.mpr ⟨?_, nofun⟩⟩
    rintro _ ⟨⟩
    exact ⟨⟨by decide +kernel, by decide +kernel⟩, by decide +kernel, by decide +kernel⟩
  have halike : List.Forall₂ Step.Alike steps steps' :=
    .cons (.load _) (.cons (.place .view ⟨.inl ⟨rfl, rfl⟩, .inr ⟨rfl, rfl⟩⟩) .nil)
  obtain ⟨hcorners, hstored, hqueries⟩ := run_rectangles hfinite halike
  have hview : (run steps).areas.get? .view = some (.between ⟨10, 20⟩ ⟨0, 0⟩) := by decide +kernel
  refine ⟨hfinite, halike, ⟨_, hview, ?_⟩, hqueries .view true⟩
  refine (hstored .view _ hview).2.resolve_right fun hnothing => ?_
  have hcorner := (hcorners .view (⟨10, 20⟩, ⟨0, 0⟩) (List.mem_cons_of_mem _ List.mem_cons_self)).1
  exact absurd ((hnothing.1 _).symm.trans hcorner) Bool.false_ne_true

/-- A file whose view goes from its greatest numbers to its least ones. The view contains neither of its corners, and a
node between them is not in it, though it is in the rectangle between the corners. -/
theorem loaded_rectangle_unordered :
    let text := "\x7b\"view\": \x7b\"min_lat\": 10, \"min_lon\": 20, \"max_lat\": 0, \"max_lon\": 0\x7d, " ++
      "\"nodes\": [\x7b\"id\": 1, \"lat\": 5, \"lon\": 5\x7d]\x7d"
    let b : Bounds := ⟨10, 20, 0, 0⟩
    (run [.load text]).areas.view = some b ∧ ¬ b.IsOrdered ∧ b.contains b.low = false ∧ b.contains b.high = false ∧
      ∃ p, (run [.load text]).handle? ⟨.node, 1⟩ = some p ∧
        (Query.inArea .view false (run [.load text]).areas).holds p = false ∧
        (Query.inArea .view false ⟨some (.between b.low b.high), none⟩).holds p = true := by
  intro text b
  have hcontains : (run [.load text]).contains ⟨.node, 1⟩ = true := by decide +kernel
  obtain ⟨p, hp, -⟩ := handle?_of_contains hcontains
  have houtside : ((run [.load text]).handle? ⟨.node, 1⟩).map
      (Query.holds (.inArea .view false (run [.load text]).areas)) = some false := by decide +kernel
  have hinside : ((run [.load text]).handle? ⟨.node, 1⟩).map
      (Query.holds (.inArea .view false ⟨some (.between b.low b.high), none⟩)) = some true := by decide +kernel
  rw [hp] at houtside hinside
  exact ⟨by decide +kernel, by decide +kernel, by decide +kernel, by decide +kernel, p, hp,
    Option.some.inj houtside, Option.some.inj hinside⟩

end DataSet

end MapQuery

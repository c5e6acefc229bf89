import Mathlib.Data.Finset.Card
import Mathlib.Logic.Relation
import MapQuery.Proofs.DataSet.Consistent
import MapQuery.Proofs.Query.Inside

/-!
# What is inside a rectangle

A node is inside a rectangle if its place is; a way or a relation is, if some or every primitive that it
lists is. Where relations list each other in a circle, nothing more is inside than this demands. The
search follows one path at a time and gives up where a relation comes again. It finds the same.

* `Handle.Lists`, `Handle.Reaches` — a primitive lists another one, or leads to it.
* `Handle.IsSolution` — the equation for what is inside.
* `Handle.Inside` — the least solution, where the relations of a list must not be entered.
* `Inside.enter_some`, `Inside.enter_every` — a relation need not be entered twice.
* `Consistent.run_isInside` — the search comes to an end, and finds what is inside.
-/

namespace MapQuery

namespace DataSet

open Relation (ReflTransGen TransGen)

variable {d : DataSet} {rectangle : Option Bounds} {all : Bool} {avoid : List Id}

namespace Handle

/-- A way or a relation lists a primitive. -/
def Lists (x y : Handle d) : Prop :=
  y.id ∈ x.entry.geometry.children

/-- A primitive can be reached from another one through what is listed. -/
abbrev Reaches (x y : Handle d) : Prop :=
  ReflTransGen Lists x y

/-- A primitive can be reached from what it lists. -/
abbrev IsInCircle (x : Handle d) : Prop :=
  TransGen Lists x x

/-- The place of a node is known, and in the rectangle. -/
def IsPointIn (rectangle : Option Bounds) (x : Handle d) : Prop :=
  ∃ c b, x.entry.geometry = .point (some c) ∧ rectangle = some b ∧ b.contains c

/-- Some or every primitive that is listed has a property. -/
def AmongListed (all : Bool) (x : Handle d) (S : Handle d → Prop) : Prop :=
  if all then ∀ y, x.Lists y → S y else ∃ y, x.Lists y ∧ S y

/-- The equation for what is inside. -/
def IsSolution (rectangle : Option Bounds) (all : Bool) (S : Handle d → Prop) : Prop :=
  ∀ x, S x ↔
    x.profile.isUsable ∧
      match x.id.kind with
      | .node => x.IsPointIn rectangle
      | .way | .relation => x.AmongListed all S

/-- What is inside, where the relations of a list are not to be entered. -/
inductive Inside (rectangle : Option Bounds) (all : Bool) (avoid : List Id) : Handle d → Prop where
  | point {x : Handle d} (usable : x.profile.isUsable) (hkind : x.id.kind = .node)
    (h : x.IsPointIn rectangle) : Inside rectangle all avoid x
  | some {x y : Handle d} (hall : all = false) (usable : x.profile.isUsable)
    (hkind : x.id.kind ≠ .node) (havoid : x.id.kind = .relation → x.id ∉ avoid) (hxy : x.Lists y)
    (h : Inside rectangle all avoid y) : Inside rectangle all avoid x
  | every {x : Handle d} (hall : all = true) (usable : x.profile.isUsable)
    (hkind : x.id.kind ≠ .node) (havoid : x.id.kind = .relation → x.id ∉ avoid)
    (h : ∀ y, x.Lists y → Inside rectangle all avoid y) : Inside rectangle all avoid x

theorem isPointIn_iff (x : Handle d) :
    (match x.profile.coordinate, rectangle with
      | some c, some b => b.contains c
      | _, _ => false) = true ↔ x.IsPointIn rectangle := by
  unfold IsPointIn profile
  dsimp only
  cases x.entry.geometry with
  | point c => cases c <;> cases rectangle <;> simp
  | line nodes => simp
  | group members => simp

theorem IsPointIn.not_lists {x y : Handle d} (h : x.IsPointIn rectangle) : ¬ x.Lists y := by
  obtain ⟨c, b, hgeometry, _⟩ := h
  unfold Lists
  rw [hgeometry]
  exact List.not_mem_nil

namespace Inside

variable {x y : Handle d}

theorem usable (h : Inside rectangle all avoid x) : x.profile.isUsable := by
  cases h <;> assumption

theorem not_mem (h : Inside rectangle all avoid x) (hkind : x.id.kind = .relation) : x.id ∉ avoid := by
  cases h with
  | point _ hnode => rw [hkind] at hnode; cases hnode
  | some _ _ _ havoid => exact havoid hkind
  | every _ _ _ havoid => exact havoid hkind

/-- With fewer relations to avoid no less is inside. -/
theorem mono {avoid' : List Id} (h : Inside rectangle all avoid' x) (hsub : avoid ⊆ avoid') :
    Inside rectangle all avoid x := by
  induction h with
  | point usable hkind h => exact .point usable hkind h
  | some hall usable hkind havoid hxy _ ih =>
    exact .some hall usable hkind (fun hr hmem => havoid hr (hsub hmem)) hxy ih
  | every hall usable hkind havoid _ ih =>
    exact .every hall usable hkind (fun hr hmem => havoid hr (hsub hmem)) ih

/-- What some listed primitive is asked for is found without a relation, or else behind it: after the last
time that the relation comes it is avoided. -/
theorem avoid_or_behind (h : Inside rectangle false avoid y) (x : Handle d) :
    Inside rectangle false (x.id :: avoid) y ∨
      ∃ z, x.Lists z ∧ Inside rectangle false (x.id :: avoid) z := by
  induction h with
  | point usable hkind h => exact .inl (.point usable hkind h)
  | @some y z hall usable hkind havoid hyz _ ih =>
    rcases ih with ih | ih
    · by_cases hy : y.id = x.id
      · rw [eq_of_id_eq hy] at hyz
        exact .inr ⟨z, hyz, ih⟩
      · refine .inl (.some hall usable hkind (fun hr hmem => ?_) hyz ih)
        rcases List.mem_cons.mp hmem with hx | hmem
        · exact hy hx
        · exact havoid hr hmem
    · exact .inr ih
  | every hall => cases hall

/-- A relation need not be entered again to find something inside. -/
theorem enter_some (h : Inside rectangle false avoid x) (hkind : x.id.kind = .relation) :
    ∃ y, x.Lists y ∧ Inside rectangle false (x.id :: avoid) y := by
  cases h with
  | point _ hnode => rw [hkind] at hnode; cases hnode
  | @some _ y _ _ _ _ hxy h =>
    rcases h.avoid_or_behind x with h | h
    · exact ⟨y, hxy, h⟩
    · exact h
  | every hall => cases hall

/-- Where all that is listed is inside, there is no circle. -/
theorem not_isInCircle (h : Inside rectangle true avoid x) : ¬ x.IsInCircle := by
  induction h with
  | point _ _ h =>
    intro hcircle
    obtain ⟨z, hxz, _⟩ := TransGen.head'_iff.mp hcircle
    exact h.not_lists hxz
  | some hall => cases hall
  | every _ _ _ _ _ ih =>
    intro hcircle
    obtain ⟨z, hxz, hzx⟩ := TransGen.head'_iff.mp hcircle
    exact ih z hxz (TransGen.tail' hzx hxz)

/-- What does not lead to a relation is inside without entering it. -/
theorem avoid_of_not_reaches (h : Inside rectangle true avoid y) (hx : ¬ y.Reaches x) :
    Inside rectangle true (x.id :: avoid) y := by
  induction h with
  | point usable hkind h => exact .point usable hkind h
  | some hall => cases hall
  | @every y hall usable hkind havoid _ ih =>
    refine .every hall usable hkind (fun hr hmem => ?_) fun z hyz => ?_
    · rcases List.mem_cons.mp hmem with hy | hmem
      · exact hx (eq_of_id_eq hy ▸ .refl)
      · exact havoid hr hmem
    · exact ih z hyz fun hzx => hx (.head hyz hzx)

/-- A relation need not be entered again to find everything inside. -/
theorem enter_every (h : Inside rectangle true avoid x) (hkind : x.id.kind = .relation)
    (hxy : x.Lists y) : Inside rectangle true (x.id :: avoid) y := by
  have hcircle := h.not_isInCircle
  cases h with
  | point _ hnode => rw [hkind] at hnode; cases hnode
  | some hall => cases hall
  | every _ _ _ _ h => exact (h y hxy).avoid_of_not_reaches fun hyx => hcircle (TransGen.head' hxy hyx)

end Inside

/-! ### The equation, kind by kind -/

variable {x : Handle d}

theorem inside_node (hkind : x.id.kind = .node) :
    Inside rectangle all avoid x ↔ x.profile.isUsable ∧ x.IsPointIn rectangle := by
  constructor
  · intro h
    cases h with
    | point usable _ h => exact ⟨usable, h⟩
    | some _ _ hne => exact absurd hkind hne
    | every _ _ hne => exact absurd hkind hne
  · rintro ⟨usable, h⟩
    exact .point usable hkind h

theorem inside_of_amongListed (usable : x.profile.isUsable) (hkind : x.id.kind ≠ .node)
    (havoid : x.id.kind = .relation → x.id ∉ avoid)
    (h : x.AmongListed all (Inside rectangle all avoid)) :
    Inside rectangle all avoid x := by
  cases all with
  | true => exact .every rfl usable hkind havoid h
  | false =>
    obtain ⟨y, hxy, h⟩ := h
    exact .some rfl usable hkind havoid hxy h

theorem Inside.amongListed (h : Inside rectangle all avoid x) (hkind : x.id.kind ≠ .node) :
    x.AmongListed all (Inside rectangle all avoid) := by
  cases h with
  | point _ hnode => exact absurd hnode hkind
  | some hall _ _ _ hxy h =>
    subst hall
    exact ⟨_, hxy, h⟩
  | every hall _ _ _ h =>
    subst hall
    exact h

theorem inside_way (hkind : x.id.kind = .way) :
    Inside rectangle all avoid x ↔
      x.profile.isUsable ∧ x.AmongListed all (Inside rectangle all avoid) := by
  have hne : x.id.kind ≠ .node := by rw [hkind]; decide
  constructor
  · intro h
    exact ⟨h.usable, h.amongListed hne⟩
  · rintro ⟨usable, h⟩
    exact inside_of_amongListed usable hne (fun hr => by rw [hkind] at hr; cases hr) h

/-- A relation is entered once. -/
theorem inside_relation (hkind : x.id.kind = .relation) :
    Inside rectangle all avoid x ↔
      x.profile.isUsable ∧ x.id ∉ avoid ∧
        x.AmongListed all (Inside rectangle all (x.id :: avoid)) := by
  have hne : x.id.kind ≠ .node := by rw [hkind]; decide
  have hsub : avoid ⊆ x.id :: avoid := fun _ => List.mem_cons_of_mem _
  constructor
  · intro h
    refine ⟨h.usable, h.not_mem hkind, ?_⟩
    cases all with
    | true => exact fun y => h.enter_every hkind
    | false => exact h.enter_some hkind
  · rintro ⟨usable, havoid, h⟩
    refine inside_of_amongListed usable hne (fun _ => havoid) ?_
    cases all with
    | true => exact fun y hxy => (h y hxy).mono hsub
    | false =>
      obtain ⟨y, hxy, h⟩ := h
      exact ⟨y, hxy, h.mono hsub⟩

end Handle

/-! ### The search -/

open Handle (Inside AmongListed)

/-- The number of primitives that are not in a list of ids. -/
def absent (d : DataSet) (path : List Id) : Nat :=
  (d.ids.toFinset \ path.toFinset).card

theorem mem_ids {id : Id} : id ∈ d.ids ↔ d.contains id = true := by
  rw [ids, contains, Std.TreeMap.mem_keys, Std.TreeMap.mem_iff_contains]

theorem absent_cons_lt {path : List Id} (x : Handle d) (hx : x.id ∉ path) :
    d.absent (x.id :: path) < d.absent path := by
  have hmem : x.id ∈ d.ids.toFinset \ path.toFinset := by
    rw [Finset.mem_sdiff, List.mem_toFinset, List.mem_toFinset]
    exact ⟨mem_ids.mpr x.contains_id, hx⟩
  unfold absent
  rw [List.toFinset_cons, Finset.sdiff_insert]
  exact Finset.card_erase_lt_of_mem hmem

theorem absent_le_size (d : DataSet) (path : List Id) : d.absent path ≤ d.size :=
  calc d.absent path ≤ d.ids.toFinset.card := Finset.card_le_card Finset.sdiff_subset
    _ ≤ d.ids.length := List.toFinset_card_le d.ids
    _ = d.size := Std.TreeMap.length_keys

namespace Consistent

variable {x : Handle d}

theorem map_id_children (hd : d.Consistent) (x : Handle d) :
    (Primitive.children x).map Handle.id = x.entry.geometry.children := by
  have hkind := hd.kind_eq x
  show (match x.id.kind with
    | .node => []
    | .way => x.wayNodes
    | .relation => x.members.map Prod.snd).map Handle.id = _
  rw [← hkind]
  cases hgeometry : x.entry.geometry with
  | point c => rfl
  | line nodes => exact hd.map_id_wayNodes x hgeometry
  | group members =>
    have hmembers := hd.map_memberOf_members x hgeometry
    show (x.members.map Prod.snd).map Handle.id = members.map Member.target
    rw [← hmembers, List.map_map, List.map_map]
    rfl

/-- The children of a primitive are the handles of what it lists. -/
theorem mem_children (hd : d.Consistent) (x y : Handle d) : y ∈ Primitive.children x ↔ x.Lists y := by
  unfold Handle.Lists
  rw [← hd.map_id_children x, List.mem_map]
  constructor
  · intro hy
    exact ⟨y, hy, rfl⟩
  · rintro ⟨z, hz, hid⟩
    rwa [Handle.eq_of_id_eq hid] at hz

theorem among_children (hd : d.Consistent) (x : Handle d) (S : Handle d → Prop) :
    Among all (Primitive.children x) S ↔ x.AmongListed all S := by
  unfold Among AmongListed
  simp only [hd.mem_children]

/-- A way lists nodes, and a relation lists anything. -/
theorem lists_cases (hd : d.Consistent) {y : Handle d} (hxy : x.Lists y) :
    x.id.kind = .way ∧ y.id.kind = .node ∨ x.id.kind = .relation := by
  unfold Handle.Lists at hxy
  rw [← hd.kind_eq x]
  cases hgeometry : x.entry.geometry with
  | point c =>
    rw [hgeometry] at hxy
    exact absurd hxy List.not_mem_nil
  | line nodes =>
    rw [hgeometry] at hxy
    obtain ⟨n, _, hn⟩ := List.mem_map.mp hxy
    rw [← hn]
    exact .inl ⟨rfl, rfl⟩
  | group members => exact .inr rfl

theorem run_isInside_unusable {path : List Id} (fuel : Nat) (h : ¬ x.profile.isUsable) :
    ∃ b, (isInside rectangle all (fuel + 1) x).run path = some (b, path) ∧
      (b = true ↔ Inside rectangle all path x) := by
  refine ⟨false, ?_, ?_⟩
  · rw [run_isInside_succ]
    exact if_neg h
  · constructor
    · intro hfalse
      cases hfalse
    · intro hinside
      exact absurd hinside.usable h

theorem run_isInside_node {path : List Id} (fuel : Nat) (hkind : x.id.kind = .node) :
    ∃ b, (isInside rectangle all (fuel + 1) x).run path = some (b, path) ∧
      (b = true ↔ Inside rectangle all path x) := by
  by_cases husable : x.profile.isUsable
  · have hkind' : Primitive.kind x = .node := hkind
    rw [run_isInside_succ, hkind']
    refine ⟨_, if_pos husable, ?_⟩
    rw [Handle.inside_node hkind, and_iff_right husable]
    exact x.isPointIn_iff
  · exact run_isInside_unusable fuel husable

/-- A way comes down to its nodes. -/
theorem run_isInside_way (hd : d.Consistent) {path : List Id} (fuel : Nat) (hkind : x.id.kind = .way) :
    ∃ b, (isInside rectangle all (fuel + 2) x).run path = some (b, path) ∧
      (b = true ↔ Inside rectangle all path x) := by
  by_cases husable : x.profile.isUsable
  · have hkind' : Primitive.kind x = .way := hkind
    have hnodes : ∀ y ∈ Primitive.wayNodes x, ∃ b,
        (isInside rectangle all (fuel + 1) y).run path = some (b, path) ∧
          (b = true ↔ Inside rectangle all path y) := by
      intro y hy
      have hlists : x.Lists y := by
        rw [← hd.mem_children, Primitive.children, hkind']
        exact hy
      rcases hd.lists_cases hlists with ⟨_, hnode⟩ | hrelation
      · exact run_isInside_node fuel hnode
      · rw [hkind] at hrelation
        cases hrelation
    obtain ⟨b, hrun, hb⟩ := run_quantified all hnodes
    refine ⟨b, ?_, ?_⟩
    · rw [run_isInside_succ, hkind']
      exact (if_pos husable).trans hrun
    · rw [hb, Handle.inside_way hkind, and_iff_right husable, ← hd.among_children,
        Primitive.children, hkind']
  · exact run_isInside_unusable (fuel + 1) husable

/-- A relation that is not on the path comes down to its members, with the relation on the path. -/
theorem run_isInside_relation (hd : d.Consistent) {path : List Id} (fuel : Nat)
    (hkind : x.id.kind = .relation)
    (hmember : x.id ∉ path → ∀ y : Handle d, ∃ b,
      (isInside rectangle all fuel y).run (x.id :: path) = some (b, x.id :: path) ∧
        (b = true ↔ Inside rectangle all (x.id :: path) y)) :
    ∃ b, (isInside rectangle all (fuel + 1) x).run path = some (b, path) ∧
      (b = true ↔ Inside rectangle all path x) := by
  by_cases husable : x.profile.isUsable
  · have hkind' : Primitive.kind x = .relation := hkind
    have husable' : (Primitive.profile x).isUsable := husable
    rw [run_isInside_succ, hkind', if_pos husable']
    by_cases hpath : x.id ∈ path
    · refine ⟨false, if_pos (List.contains_iff_mem.mpr hpath), ?_⟩
      constructor
      · intro hfalse
        cases hfalse
      · intro hinside
        exact absurd hpath (hinside.not_mem hkind)
    · obtain ⟨b, hrun, hb⟩ := run_quantified all
        fun (m : String × Handle d) (_ : m ∈ Primitive.members x) => hmember hpath m.2
      refine ⟨b, ?_, ?_⟩
      · refine (if_neg (mt List.contains_iff_mem.mp hpath)).trans ?_
        exact (congrArg (Option.map fun r => (r.1, r.2.tail)) hrun).trans rfl
      · rw [hb, Handle.inside_relation hkind, and_iff_right husable, and_iff_right hpath,
          ← hd.among_children, Primitive.children, hkind', among_map]
  · exact run_isInside_unusable fuel husable

/-- The search for what is inside comes to an end on every path, leaves the path as it is, and finds what
is inside without entering the relations on the path. The induction is on the fuel; a relation that is
entered is one less of those that are not on the path. -/
theorem run_isInside (hd : d.Consistent) (rectangle : Option Bounds) (all : Bool) (fuel : Nat)
    (path : List Id) (x : Handle d) (hfuel : d.absent path + 2 ≤ fuel) :
    ∃ b, (isInside rectangle all fuel x).run path = some (b, path) ∧
      (b = true ↔ Inside rectangle all path x) := by
  induction fuel generalizing path x with
  | zero => omega
  | succ fuel ih =>
    cases hkind : x.id.kind with
    | node => exact run_isInside_node fuel hkind
    | way =>
      obtain ⟨n, rfl⟩ : ∃ n, fuel = n + 1 := ⟨fuel - 1, by omega⟩
      exact hd.run_isInside_way n hkind
    | relation =>
      refine hd.run_isInside_relation fuel hkind fun hpath y => ?_
      have habsent := absent_cons_lt x hpath
      exact ih (x.id :: path) y (by omega)

end Consistent

end DataSet

end MapQuery

import MapQuery.Proofs.DataSet.Scanned

/-!
# Places in what a way or a relation lists

A query for a position looks at the first place of the primitive in what each of its referrers lists. Places count
from one, and from the end where the position is negative.

* `IsFirstPlace` — the first place of an id in a list.
* `isAt_iff`, `isAt_modulo_iff` — the positions of a place, and the numbers it is a multiple of.
* `Narrow.isAt?` — the same with numbers of 64 bits; `Narrow.isAt?_eq` says that nothing leaves their range.
* `isNthIn` — a position in one way or relation.
* `Query.nth_by_place` — what a query for a position says of a primitive.
-/

namespace MapQuery

variable {position : Int} {modulo : Bool} {index count place : Nat}

/-! ### Positions of a place -/

/-- An id stands at a place of a list, counted from one, and at none before it. -/
structure IsFirstPlace (l : List Id) (x : Id) (place : Nat) : Prop where
  pos : 1 ≤ place
  here : l[place - 1]? = some x
  notBefore : x ∉ l.take (place - 1)

namespace IsFirstPlace

variable {l : List Id} {x : Id}

theorem iff_idxOf? : IsFirstPlace l x (index + 1) ↔ l.idxOf? x = some index := by
  rw [DataSet.idxOf?_eq_some_iff_take]
  constructor
  · intro h
    exact ⟨h.here, h.notBefore⟩
  · intro h
    exact ⟨Nat.le_add_left 1 index, h.1, h.2⟩

theorem le_length (h : IsFirstPlace l x place) : place ≤ l.length := by
  obtain ⟨hlt, -⟩ := List.getElem?_eq_some_iff.mp h.here
  have hpos := h.pos
  omega

/-- Whatever is in a list has a first place there. -/
theorem exists_of_mem (h : x ∈ l) : ∃ place, IsFirstPlace l x place := by
  obtain ⟨index, hindex⟩ := Option.isSome_iff_exists.mp (List.isSome_idxOf?.mpr h)
  exact ⟨index + 1, iff_idxOf?.mpr hindex⟩

end IsFirstPlace

/-- The place before which `index` elements stand has its own number as a position, and as a negative one how far it
is from the end, the last place being `-1`. -/
theorem isAt_iff (h : index < count) :
    isAt position false index count = true ↔
      position = (index + 1 : Nat) ∨ position = (index + 1 : Nat) - count - 1 := by
  unfold isAt
  rw [if_neg Bool.false_ne_true]
  split
  · next hneg =>
    rw [decide_eq_true_iff]
    constructor
    · intro hat
      right
      omega
    · rintro (heq | heq) <;> omega
  · next hpos =>
    rw [decide_eq_true_iff]
    constructor
    · intro hat
      left
      omega
    · rintro (heq | heq) <;> omega

/-- With `modulo`, it is asked whether the place is a multiple of the position. -/
theorem isAt_modulo_iff :
    isAt position true index count = true ↔ 1 ≤ position ∧ position ∣ (index + 1 : Nat) := by
  unfold isAt
  rw [if_pos rfl, Bool.and_eq_true, decide_eq_true_iff, decide_eq_true_iff, Int.dvd_iff_emod_eq_zero]
  constructor
  · rintro ⟨hpos, hmod⟩
    exact ⟨by omega, by simpa using hmod⟩
  · rintro ⟨hpos, hmod⟩
    exact ⟨by omega, by simpa using hmod⟩

/-! ### Numbers of 64 bits -/

namespace Narrow

/-- The sum of two numbers, if it fits. -/
def sum? (a b : Int) : Option Int :=
  Whole.checked (a + b)

/-- What is left after division toward zero, if the divisor is not zero and the quotient fits. -/
def rest? (a b : Int) : Option Int :=
  if b = 0 then none else (Whole.checked (a.tdiv b)).map fun _ => a.tmod b

/-- Whether the element at `index` of `count` elements is the one asked for, with every number in 64 bits: there is
no answer where one of them does not fit, or where it is divided by zero. -/
def isAt? (position : Int) (modulo : Bool) (index count : Nat) : Option Bool := do
  let index ← Whole.checked index
  let count ← Whole.checked count
  if modulo then
    if 0 < position then
      let place ← sum? index 1
      let rest ← rest? place position
      return rest = 0
    else return false
  else if position < 0 then
    let asked ← sum? count position
    return index = asked
  else
    let place ← sum? index 1
    return place = position

theorem checked_of_fits {n : Int} (h : Whole.Fits n) : Whole.checked n = some n :=
  if_pos h

/-- The division of a number that is not negative by a positive one leaves the range nowhere. -/
theorem rest?_eq {a b : Int} (ha : 0 ≤ a) (hfits : Whole.Fits a) (hb : 0 < b) : rest? a b = some (a % b) := by
  have hnonneg : 0 ≤ a / b := Int.ediv_nonneg ha (by omega)
  have hle : a / b ≤ a := Int.ediv_le_self b ha
  have hquotient : Whole.Fits (a / b) := by
    unfold Whole.Fits Whole.least at *
    omega
  rw [rest?, if_neg (by omega), Int.tdiv_eq_ediv_of_nonneg ha, Int.tmod_eq_emod_of_nonneg ha,
    checked_of_fits hquotient]
  rfl

/-- Where the list is no longer than 64 bits can say, every position has its answer: nothing leaves the range, and
nothing is divided by zero. -/
theorem isAt?_eq (hposition : Whole.Fits position) (hindex : index < count) (hcount : (count : Int) ≤ Whole.greatest)
    (modulo : Bool) : isAt? position modulo index count = some (isAt position modulo index count) := by
  have hleast : Whole.least ≤ 0 := by decide
  have hfits {n : Int} (hlow : Whole.least ≤ n) (hle : n ≤ count) : Whole.Fits n :=
    ⟨hlow, Int.le_trans hle hcount⟩
  have hindexFits : Whole.checked index = some (index : Int) := checked_of_fits (hfits (by omega) (by omega))
  have hcountFits : Whole.checked count = some (count : Int) := checked_of_fits (hfits (by omega) (by omega))
  have hplace : Whole.Fits ((index : Int) + 1) := hfits (by omega) (by omega)
  have hsum : sum? index 1 = some ((index : Int) + 1) := checked_of_fits hplace
  unfold isAt? isAt
  rw [hindexFits, hcountFits]
  simp only [Option.bind_eq_bind, Option.bind_some, hsum]
  cases modulo with
  | true =>
    by_cases hpos : 0 < position
    · simp [hpos, rest?_eq (show 0 ≤ (index : Int) + 1 by omega) hplace hpos]
    · simp [hpos]
  | false =>
    by_cases hneg : position < 0
    · have hasked : sum? count position = some (count + position) := by
        obtain ⟨hlow, -⟩ := hposition
        exact checked_of_fits (hfits (by omega) (by omega))
      simp [hneg, hasked]
    · simp [hneg]

end Narrow

/-! ### Positions in one way or relation -/

section

variable {P : Type} [Primitive P]

open Primitive

/-- Whether a primitive first stands at a position in what one way or relation lists. -/
def isNthIn (position : Int) (modulo : Bool) (p r : P) : Bool :=
  let ids := (children r).map Primitive.id
  match ids.idxOf? (Primitive.id p) with
  | some index => isAt position modulo index ids.length
  | none => false

theorem isNth_eq_any (position : Int) (modulo : Bool) (p : P) :
    isNth position modulo p = (referrers p).any (isNthIn position modulo p) := rfl

theorem isNthIn_of_isFirstPlace {p r : P}
    (h : IsFirstPlace ((children r).map Primitive.id) (Primitive.id p) (index + 1)) :
    isNthIn position modulo p r = isAt position modulo index (children r).length := by
  unfold isNthIn
  dsimp only
  rw [IsFirstPlace.iff_idxOf?.mp h, List.length_map]

end

namespace Query

open Primitive

/-- A query for a position holds if it does in one of the referrers. In a referrer, where the primitive has its first
place, the position is the number of the place, or how far it is from the end as a negative number; with `modulo`, it
is a positive number that divides that of the place. All this can be computed with numbers of 64 bits, for every
position among them, and for lists of which they can say the length. In the data sets that come of the changes, every
referrer has such a place. -/
theorem nth_by_place {P : Type} [Primitive P] (p : P) (position : Int) :
    (∀ modulo, (Query.nth position modulo).holds p = true ↔
      ∃ r ∈ referrers p, isNthIn position modulo p r = true) ∧
    (∀ r ∈ referrers p, ∀ place, IsFirstPlace ((children r).map Primitive.id) (Primitive.id p) place →
      (isNthIn position false p r = true ↔
        position = place ∨ position = place - (children r).length - 1) ∧
      (isNthIn position true p r = true ↔ 1 ≤ position ∧ position ∣ place) ∧
      (Whole.Fits position → ((children r).length : Int) ≤ Whole.greatest → ∀ modulo,
        Narrow.isAt? position modulo (place - 1) (children r).length = some (isNthIn position modulo p r))) ∧
    ∀ d : DataSet, d.Reachable → ∀ x : DataSet.Handle d, ∀ y ∈ referrers x,
      ∃ place, IsFirstPlace ((children y).map Primitive.id) (Primitive.id x) place := by
  refine ⟨fun modulo => ?_, fun r _ place hplace => ?_, ?_⟩
  · rw [holds_eq]
    show isNth position modulo p = true ↔ _
    rw [isNth_eq_any, List.any_eq_true]
  · obtain ⟨index, rfl⟩ : ∃ index, place = index + 1 := ⟨place - 1, by have := hplace.pos; omega⟩
    have hlt : index < (children r).length := by
      have hle := hplace.le_length
      rw [List.length_map] at hle
      omega
    rw [isNthIn_of_isFirstPlace hplace, isNthIn_of_isFirstPlace hplace]
    refine ⟨isAt_iff hlt, isAt_modulo_iff, fun hfits hlength modulo => ?_⟩
    rw [isNthIn_of_isFirstPlace hplace, Nat.add_sub_cancel]
    exact Narrow.isAt?_eq hfits hlt hlength modulo
  · intro d hd x y hy
    refine IsFirstPlace.exists_of_mem ?_
    have hids : (children y).map Primitive.id = y.entry.geometry.children := hd.consistent.map_id_children y
    rw [hids]
    exact (hd.consistent.mem_referrers x y).mp hy

/-- The first place of a node that a way lists twice: the second one, and the last but two. The second occurrence,
at the end, does not count. -/
theorem nth_by_place_repeated :
    let d := DataSet.empty.addWay 1 [7, 5, 9, 5]
    d.Reachable ∧ ∃ p r : DataSet.Handle d, r ∈ referrers p ∧
      IsFirstPlace ((children r).map Primitive.id) (Primitive.id p) 2 ∧
      Whole.Fits Whole.least ∧ ((children r).length : Int) ≤ Whole.greatest ∧
      (Query.nth (-3) false).holds p = true ∧ isNthIn 2 false p r = true ∧ isNthIn 4 false p r = false ∧
      isNthIn 1 true p r = true ∧ isNthIn 0 true p r = false ∧
      Narrow.isAt? Whole.least false 1 (children r).length = some (isNthIn Whole.least false p r) := by
  intro d
  have hd : d.Reachable := .addWay .empty 1 _
  obtain ⟨p, -, hp⟩ := DataSet.handle?_of_contains (d := d) (x := ⟨.node, 5⟩) (by decide +kernel)
  obtain ⟨r, -, hr⟩ := DataSet.handle?_of_contains (d := d) (x := ⟨.way, 1⟩) (by decide +kernel)
  have hids : (children r).map Primitive.id = [⟨.node, 7⟩, ⟨.node, 5⟩, ⟨.node, 9⟩, ⟨.node, 5⟩] := by
    have hchildren : r.entry.geometry.children = d.childrenOf ⟨.way, 1⟩ := by
      rw [← r.entryOf_id, hr]
      rfl
    rw [show (children r).map Primitive.id = _ from hd.consistent.map_id_children r, hchildren]
    decide +kernel
  have hlength : (children r).length = 4 := by
    rw [← List.length_map (f := Primitive.id), hids]
    rfl
  have hplace : IsFirstPlace ((children r).map Primitive.id) (Primitive.id p) 2 := by
    rw [hids, show Primitive.id p = _ from hp]
    exact ⟨by decide, by decide, by decide⟩
  have hlists : r ∈ referrers p := by
    rw [hd.consistent.mem_referrers]
    show Primitive.id p ∈ r.entry.geometry.children
    rw [← show (children r).map Primitive.id = _ from hd.consistent.map_id_children r]
    exact List.mem_of_getElem? hplace.here
  have hfits : Whole.Fits Whole.least := by decide
  have hcount : ((children r).length : Int) ≤ Whole.greatest := by
    rw [hlength]
    decide
  have hat (position : Int) := (nth_by_place p position).2.1 r hlists 2 hplace
  rw [hlength] at hat
  refine ⟨hd, p, r, hlists, hplace, hfits, hcount, ?_, ?_, ?_, ?_, ?_, ?_⟩
  · exact ((nth_by_place p (-3)).1 false).mpr ⟨r, hlists, (hat (-3)).1.mpr (by decide)⟩
  · exact (hat 2).1.mpr (by decide)
  · rw [← Bool.not_eq_true, (hat 4).1]
    decide
  · exact (hat 1).2.1.mpr (by decide)
  · rw [← Bool.not_eq_true, (hat 0).2.1]
    decide
  · exact ((nth_by_place p Whole.least).2.1 r hlists 2 hplace).2.2 hfits hcount false

end Query

end MapQuery

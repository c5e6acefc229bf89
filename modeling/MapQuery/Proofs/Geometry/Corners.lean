import MapQuery.Geometry.Coordinate
import MapQuery.Proofs.Number.Value

/-!
# Corners of a rectangle

A rectangle between two finite corners is in order, and what it contains depends on the numbers of the corners alone: not
on which of them is given first, nor on which diagonal they stand at the ends of. A rectangle that is not in order
contains nothing.

* `Bounds.IsOrdered` — the least numbers of a rectangle are not above the greatest ones.
* `Bounds.isOrdered_iff_contains` — a rectangle is in order if it contains its own corners.
* `Bounds.contains_between_iff` — what the rectangle between two corners contains.
* `Bounds.SameCorners`, `Bounds.contains_between_congr` — the corners in another order.
-/

namespace MapQuery

/-! ### The smaller and the greater of two doubles -/

namespace Double

variable {a b : Float}

theorem least_cases (ha : isFinite a = true) (hb : isFinite b = true) :
    least a b = a ∧ value a ≤ value b ∨ least a b = b ∧ value b ≤ value a := by
  unfold least
  rw [isNaN_eq_false ha, if_neg Bool.false_ne_true]
  split
  · next h => exact .inr ⟨rfl, ((lt_iff hb ha).mp h).le⟩
  · next h => exact .inl ⟨rfl, not_lt.mp (mt (lt_iff hb ha).mpr h)⟩

theorem greatest_cases (ha : isFinite a = true) (hb : isFinite b = true) :
    greatest a b = a ∧ value b ≤ value a ∨ greatest a b = b ∧ value a ≤ value b := by
  unfold greatest
  rw [isNaN_eq_false ha, if_neg Bool.false_ne_true]
  split
  · next h => exact .inr ⟨rfl, ((lt_iff ha hb).mp h).le⟩
  · next h => exact .inl ⟨rfl, not_lt.mp (mt (lt_iff ha hb).mpr h)⟩

theorem isFinite_least (ha : isFinite a = true) (hb : isFinite b = true) : isFinite (least a b) = true := by
  rcases least_cases ha hb with ⟨h, -⟩ | ⟨h, -⟩ <;> rw [h] <;> assumption

theorem isFinite_greatest (ha : isFinite a = true) (hb : isFinite b = true) : isFinite (greatest a b) = true := by
  rcases greatest_cases ha hb with ⟨h, -⟩ | ⟨h, -⟩ <;> rw [h] <;> assumption

theorem value_least (ha : isFinite a = true) (hb : isFinite b = true) :
    value (least a b) = min (value a) (value b) := by
  rcases least_cases ha hb with ⟨h, hle⟩ | ⟨h, hle⟩
  · rw [h, min_eq_left hle]
  · rw [h, min_eq_right hle]

theorem value_greatest (ha : isFinite a = true) (hb : isFinite b = true) :
    value (greatest a b) = max (value a) (value b) := by
  rcases greatest_cases ha hb with ⟨h, hle⟩ | ⟨h, hle⟩
  · rw [h, max_eq_left hle]
  · rw [h, max_eq_right hle]

/-- What lies between the smaller and the greater of two finite doubles. -/
theorem between_iff (ha : isFinite a = true) (hb : isFinite b = true) (c : Float) :
    least a b ≤ c ∧ c ≤ greatest a b ↔ isFinite c = true ∧ value c ∈ Set.uIcc (value a) (value b) := by
  have hleast := isFinite_least ha hb
  have hgreatest := isFinite_greatest ha hb
  show _ ↔ _ ∧ min (value a) (value b) ≤ value c ∧ value c ≤ max (value a) (value b)
  rw [← value_least ha hb, ← value_greatest ha hb]
  constructor
  · rintro ⟨hlow, hhigh⟩
    have hc := isFinite_of_between hleast hgreatest hlow hhigh
    exact ⟨hc, (le_iff hleast hc).mp hlow, (le_iff hc hgreatest).mp hhigh⟩
  · rintro ⟨hc, hlow, hhigh⟩
    exact ⟨(le_iff hleast hc).mpr hlow, (le_iff hc hgreatest).mpr hhigh⟩

/-- What is below something or above it is a number, and so not below itself. -/
theorem le_self_of_le (h : a ≤ b) : a ≤ a ∧ b ≤ b := by
  obtain ⟨ha, hb, -⟩ := le_iff_signedUnits.mp h
  exact ⟨le_iff_signedUnits.mpr ⟨ha, ha, le_rfl⟩, le_iff_signedUnits.mpr ⟨hb, hb, le_rfl⟩⟩

theorem le_trans {c : Float} (hab : a ≤ b) (hbc : b ≤ c) : a ≤ c := by
  obtain ⟨ha, -, hlow⟩ := le_iff_signedUnits.mp hab
  obtain ⟨-, hc, hhigh⟩ := le_iff_signedUnits.mp hbc
  exact le_iff_signedUnits.mpr ⟨ha, hc, hlow.trans hhigh⟩

end Double

/-! ### Rectangles -/

/-- A point of finite numbers. -/
def Coordinate.IsFinite (c : Coordinate) : Prop :=
  Double.isFinite c.lat = true ∧ Double.isFinite c.lon = true

deriving instance DecidableEq for Bounds

namespace Bounds

variable {a b : Coordinate} {r : Bounds} {p : Coordinate}

/-- The least numbers of a rectangle are not above the greatest ones. -/
def IsOrdered (r : Bounds) : Prop :=
  r.minLat ≤ r.maxLat ∧ r.minLon ≤ r.maxLon

instance (r : Bounds) : Decidable r.IsOrdered :=
  inferInstanceAs (Decidable (_ ∧ _))

/-- The corner of the least numbers. -/
def low (r : Bounds) : Coordinate :=
  ⟨r.minLat, r.minLon⟩

/-- The corner of the greatest numbers. -/
def high (r : Bounds) : Coordinate :=
  ⟨r.maxLat, r.maxLon⟩

theorem contains_iff :
    r.contains p = true ↔
      (r.minLat ≤ p.lat ∧ p.lat ≤ r.maxLat) ∧ r.minLon ≤ p.lon ∧ p.lon ≤ r.maxLon := by
  unfold contains
  simp only [Bool.and_eq_true, decide_eq_true_eq, and_assoc]

/-- A rectangle that contains something is in order. -/
theorem isOrdered_of_contains (h : r.contains p = true) : r.IsOrdered := by
  obtain ⟨⟨hsouth, hnorth⟩, hwest, heast⟩ := contains_iff.mp h
  exact ⟨Double.le_trans hsouth hnorth, Double.le_trans hwest heast⟩

/-- A rectangle is in order if it contains its own corners. -/
theorem isOrdered_iff_contains : r.IsOrdered ↔ r.contains r.low = true ∧ r.contains r.high = true := by
  refine ⟨fun h => ?_, fun h => isOrdered_of_contains h.1⟩
  obtain ⟨hlat, hlon⟩ := h
  obtain ⟨hsouth, hnorth⟩ := Double.le_self_of_le hlat
  obtain ⟨hwest, heast⟩ := Double.le_self_of_le hlon
  exact ⟨contains_iff.mpr ⟨⟨hsouth, hlat⟩, hwest, hlon⟩, contains_iff.mpr ⟨⟨hlat, hnorth⟩, hlon, heast⟩⟩

/-! ### Between two corners -/

/-- The rectangle between two finite corners contains what lies between their latitudes and between their longitudes. -/
theorem contains_between_iff (ha : a.IsFinite) (hb : b.IsFinite) :
    (between a b).contains p = true ↔
      (Double.isFinite p.lat = true ∧ Double.value p.lat ∈ Set.uIcc (Double.value a.lat) (Double.value b.lat)) ∧
        Double.isFinite p.lon = true ∧ Double.value p.lon ∈ Set.uIcc (Double.value a.lon) (Double.value b.lon) := by
  rw [contains_iff, ← Double.between_iff ha.1 hb.1, ← Double.between_iff ha.2 hb.2]
  rfl

theorem contains_corners (ha : a.IsFinite) (hb : b.IsFinite) :
    (between a b).contains a = true ∧ (between a b).contains b = true :=
  ⟨(contains_between_iff ha hb).mpr ⟨⟨ha.1, Set.left_mem_uIcc⟩, ha.2, Set.left_mem_uIcc⟩,
    (contains_between_iff ha hb).mpr ⟨⟨hb.1, Set.right_mem_uIcc⟩, hb.2, Set.right_mem_uIcc⟩⟩

theorem isOrdered_between (ha : a.IsFinite) (hb : b.IsFinite) : (between a b).IsOrdered :=
  isOrdered_of_contains (contains_corners ha hb).1

/-- Two numbers in one order or the other. -/
def SamePair (x y x' y' : Float) : Prop :=
  x' = x ∧ y' = y ∨ x' = y ∧ y' = x

/-- Opposite corners of one rectangle: the latitudes in one order or the other, and the longitudes too. -/
def SameCorners (c c' : Coordinate × Coordinate) : Prop :=
  SamePair c.1.lat c.2.lat c'.1.lat c'.2.lat ∧ SamePair c.1.lon c.2.lon c'.1.lon c'.2.lon

theorem SamePair.isFinite {x y x' y' : Float} (h : SamePair x y x' y') (hx : Double.isFinite x = true)
    (hy : Double.isFinite y = true) : Double.isFinite x' = true ∧ Double.isFinite y' = true := by
  rcases h with ⟨rfl, rfl⟩ | ⟨rfl, rfl⟩
  · exact ⟨hx, hy⟩
  · exact ⟨hy, hx⟩

theorem SamePair.uIcc_eq {x y x' y' : Float} (h : SamePair x y x' y') :
    Set.uIcc (Double.value x') (Double.value y') = Set.uIcc (Double.value x) (Double.value y) := by
  rcases h with ⟨rfl, rfl⟩ | ⟨rfl, rfl⟩
  · rfl
  · exact Set.uIcc_comm _ _

/-- In whatever order the corners are given, the rectangle between them contains the same. -/
theorem contains_between_congr {c c' : Coordinate × Coordinate} (h : SameCorners c c') (h₁ : c.1.IsFinite)
    (h₂ : c.2.IsFinite) (p : Coordinate) : (between c.1 c.2).contains p = (between c'.1 c'.2).contains p := by
  obtain ⟨hlat, hlon⟩ := h
  have hlats := hlat.isFinite h₁.1 h₂.1
  have hlons := hlon.isFinite h₁.2 h₂.2
  rw [Bool.eq_iff_iff, contains_between_iff h₁ h₂, contains_between_iff ⟨hlats.1, hlons.1⟩ ⟨hlats.2, hlons.2⟩,
    hlat.uIcc_eq, hlon.uIcc_eq]

end Bounds

end MapQuery

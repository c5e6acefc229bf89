import MapQuery.Proofs.Query.Evaluation

/-!
# Conditions on a key and a value

Where neither the key nor the value of a condition is a pattern, `*` stands for any of them, and every other
text for itself.

* `Tags.mem_values` — the values of tags.
* `TagMatch.compile_plain` — a condition without patterns is always built.
* `TagMatch.holds_of_exact`, `holds_of_anyValue`, `holds_of_anyKey`, `holds_of_any` — the modes with a value.
* `TagMatch.holds_plain_iff` — when such a condition holds, whether or not there are stars.
-/

namespace MapQuery

namespace Tags

variable {t : Tags} {key value : String}

theorem values_eq (t : Tags) : t.values = t.toList.map Prod.snd := by
  have hvalues : t.values = t.entries.foldr (fun _ value values => value :: values) [] := rfl
  rw [hvalues, Std.TreeMap.foldr_eq_foldr_toList]
  exact List.map_eq_foldr.symm

/-- A value is listed exactly when some key has it. -/
theorem mem_values : value ∈ t.values ↔ ∃ key, t.get? key = some value := by
  rw [values_eq, List.mem_map]
  constructor
  · rintro ⟨⟨key, _⟩, hmem, rfl⟩
    exact ⟨key, mem_toList.mp hmem⟩
  · rintro ⟨key, hkey⟩
    exact ⟨(key, value), mem_toList.mpr hkey, rfl⟩

/-- Where there are no tags no key has a value. -/
theorem get?_of_isEmpty (h : t.isEmpty = true) (key : String) : t.get? key = none :=
  Std.TreeMap.getElem?_of_isEmpty h

end Tags

namespace TagMatch

variable {m : TagMatch} {tags : Tags} {key value : String}

/-! ### Modes -/

theorem holds_of_exact (h : m.mode = .exact) : m.holds tags = true ↔ tags.get? m.key = some m.value := by
  unfold holds
  rw [h]
  split
  · next hempty =>
    rw [Tags.get?_of_isEmpty hempty]
    exact ⟨nofun, nofun⟩
  · exact decide_eq_true_iff

theorem holds_of_anyValue (h : m.mode = .anyValue) : m.holds tags = true ↔ (tags.get? m.key).isSome := by
  unfold holds
  rw [h]
  split
  · next hempty =>
    rw [Tags.get?_of_isEmpty hempty]
    exact ⟨nofun, nofun⟩
  · exact Iff.rfl

theorem holds_of_anyKey (h : m.mode = .anyKey) :
    m.holds tags = true ↔ ∃ key, tags.get? key = some m.value := by
  unfold holds
  rw [h]
  split
  · next hempty =>
    simp only [Tags.get?_of_isEmpty hempty]
    exact ⟨nofun, nofun⟩
  · rw [← Tags.mem_values, List.any_eq_true]
    simp only [decide_eq_true_eq, exists_eq_right]

theorem holds_of_any (h : m.mode = .any) : m.holds tags = true := by
  unfold holds
  rw [h]
  split <;> rfl

/-! ### Without patterns -/

/-- The condition that a key has a value, neither of them a pattern. -/
def plain (key value : String) : TagMatch :=
  ⟨key, value, .of key value false, none, none⟩

theorem compile_plain (h : key ≠ "") (value : String) (caseSensitive : Bool)
    (builder : Pattern.Builder := .standard) :
    compile key (some value) false caseSensitive builder = .ok (plain key value) := by
  unfold compile
  rw [if_neg h]
  rfl

/-- A star stands for any key or any value, and any other text for itself. -/
theorem holds_plain_iff (hvalue : value ≠ "") :
    (plain key value).holds tags = true ↔
      if key = "*" then value = "*" ∨ ∃ other, tags.get? other = some value
      else if value = "*" then (tags.get? key).isSome = true
      else tags.get? key = some value := by
  have hmode : (plain key value).mode = .of key value false := rfl
  unfold TagMode.of at hmode
  rw [if_neg hvalue] at hmode
  split
  · next hkey =>
    rw [if_pos hkey] at hmode
    by_cases hstar : value = "*"
    · rw [if_pos hstar] at hmode
      exact ⟨fun _ => .inl hstar, fun _ => holds_of_any hmode⟩
    · rw [if_neg hstar] at hmode
      rw [holds_of_anyKey hmode, or_iff_right hstar]
      rfl
  · next hkey =>
    rw [if_neg hkey] at hmode
    split
    · next hstar =>
      rw [if_pos hstar] at hmode
      exact holds_of_anyValue hmode
    · next hstar =>
      rw [if_neg hstar] at hmode
      exact holds_of_exact hmode

end TagMatch

theorem Query.holds_tag {P : Type} [Primitive P] (m : TagMatch) (p : P) :
    (Query.tag m).holds p = m.holds (Primitive.profile p).tags :=
  holds_eq_satisfied (.tag m) p

end MapQuery

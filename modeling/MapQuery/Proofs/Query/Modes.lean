import MapQuery.Proofs.Query.Tag

/-!
# What conditions on a key and a value ask for

The mode of a condition is chosen from its key and its value, and its patterns are made where the mode asks for
them. So in every mode the condition says of tags what its key and its value say.

* `Tags.Has`, `Tags.HasMatching` — what a key and a value say of tags, as texts and as patterns.
* `TagMatch.Prepared` — a condition has the mode for its key and value, and the patterns for the mode.
* `Prepared.holds_iff` — what such a condition says of tags, whatever its patterns are.
* `TagMatch.compile_eq_ok_iff` — conditions are built like this.
* `TagMatch.compile_means` — what a condition on a key and a value says of a primitive.
-/

namespace MapQuery

namespace Tags

variable {t : Tags} {key value : String}

/-! ### Tags -/

theorem isEmpty_iff : t.isEmpty = true ↔ ∀ key, t.get? key = none := by
  unfold isEmpty
  rw [Std.TreeMap.isEmpty_iff_forall_not_mem]
  refine forall_congr' fun key => ?_
  rw [Std.TreeMap.mem_iff_isSome_getElem?, Option.not_isSome_iff_eq_none]
  rfl

/-- Where there are no tags, none has a property. -/
theorem not_exists_of_isEmpty {f : String → String → Prop} (h : t.isEmpty = true) :
    ¬ ∃ key value, t.get? key = some value ∧ f key value := by
  rintro ⟨key, value, hkey, -⟩
  rw [get?_of_isEmpty h] at hkey
  cases hkey

/-- Some value has a property. -/
theorem any_values {f : String → Bool} :
    t.values.any f = true ↔ ∃ key value, t.get? key = some value ∧ f value = true := by
  rw [List.any_eq_true]
  constructor
  · rintro ⟨value, hvalue, hf⟩
    obtain ⟨key, hkey⟩ := mem_values.mp hvalue
    exact ⟨key, value, hkey, hf⟩
  · rintro ⟨key, value, hkey, hf⟩
    exact ⟨value, mem_values.mpr ⟨key, hkey⟩, hf⟩

/-- Some key has a property. -/
theorem any_keys {f : String → Bool} :
    t.keys.any f = true ↔ ∃ key value, t.get? key = some value ∧ f key = true := by
  rw [List.any_eq_true]
  constructor
  · rintro ⟨key, hkey, hf⟩
    obtain ⟨value, hvalue⟩ := Option.isSome_iff_exists.mp (mem_keys.mp hkey)
    exact ⟨key, value, hvalue, hf⟩
  · rintro ⟨key, value, hkey, hf⟩
    exact ⟨key, mem_keys.mpr (Option.isSome_iff_exists.mpr ⟨value, hkey⟩), hf⟩

/-- Some tag has a property. -/
theorem any_toList {f : String → String → Bool} :
    t.toList.any (fun (key, value) => f key value) = true ↔
      ∃ key value, t.get? key = some value ∧ f key value = true := by
  rw [List.any_eq_true]
  constructor
  · rintro ⟨⟨key, value⟩, hmem, hf⟩
    exact ⟨key, value, mem_toList.mp hmem, hf⟩
  · rintro ⟨key, value, hkey, hf⟩
    exact ⟨(key, value), mem_toList.mpr hkey, hf⟩

/-- What a key and a value say of tags, where they stand for themselves unless they are stars. Without a value
the key must have none, or an empty one; without a value to any key there must be no tags. -/
def Has (t : Tags) (key value : String) : Prop :=
  if key = "*" then
    if value = "*" then True
    else if value = "" then ∀ other, t.get? other = none
    else ∃ other, t.get? other = some value
  else if value = "*" then (t.get? key).isSome = true
  else if value = "" then t.get? key = none ∨ t.get? key = some ""
  else t.get? key = some value

/-- What a key and a value say of tags, where whatever fits them counts unless they are stars. Without a value
no key must fit; without a value to any key there must be no tags. -/
def HasMatching (t : Tags) (key value : String) (fitsKey fitsValue : String → Bool) : Prop :=
  if key = "*" then
    if value = "*" then True
    else if value = "" then ∀ k, t.get? k = none
    else ∃ k v, t.get? k = some v ∧ fitsValue v = true
  else if value = "*" then ∃ k v, t.get? k = some v ∧ fitsKey k = true
  else if value = "" then ∀ k v, t.get? k = some v → fitsKey k = false
  else ∃ k v, t.get? k = some v ∧ fitsKey k = true ∧ fitsValue v = true

end Tags

namespace TagMatch

variable {m : TagMatch} {tags : Tags} {key value : String} {p q : Pattern}

/-! ### Modes -/

theorem holds_of_noTags (h : m.mode = .noTags) : m.holds tags = true ↔ ∀ key, tags.get? key = none := by
  unfold holds
  rw [h, ← Tags.isEmpty_iff]
  split
  · next hempty => exact ⟨fun _ => hempty, fun _ => rfl⟩
  · next hempty => exact ⟨nofun, fun h => absurd h hempty⟩

theorem holds_of_missingKey (h : m.mode = .missingKey) :
    m.holds tags = true ↔ tags.get? m.key = none ∨ tags.get? m.key = some "" := by
  unfold holds
  rw [h]
  split
  · next hempty => exact ⟨fun _ => .inl (Tags.get?_of_isEmpty hempty m.key), fun _ => rfl⟩
  · cases tags.get? m.key with
    | none => exact ⟨fun _ => .inl rfl, fun _ => rfl⟩
    | some value =>
      show decide (value = "") = true ↔ _
      rw [decide_eq_true_iff]
      exact ⟨fun h => .inr (congrArg some h), fun h => h.elim nofun Option.some.inj⟩

theorem holds_of_anyKeyRegex (h : m.mode = .anyKeyRegex) (hq : m.valuePattern = some q) :
    m.holds tags = true ↔ ∃ k v, tags.get? k = some v ∧ q.holds v = true := by
  unfold holds
  rw [h, hq]
  split
  · next hempty => exact iff_of_false (by decide) (Tags.not_exists_of_isEmpty hempty)
  · exact Tags.any_values

theorem holds_of_anyValueRegex (h : m.mode = .anyValueRegex) (hp : m.keyPattern = some p) :
    m.holds tags = true ↔ ∃ k v, tags.get? k = some v ∧ p.holds k = true := by
  unfold holds
  rw [h, hp]
  split
  · next hempty => exact iff_of_false (by decide) (Tags.not_exists_of_isEmpty hempty)
  · exact Tags.any_keys

theorem holds_of_exactRegex (h : m.mode = .exactRegex) (hp : m.keyPattern = some p)
    (hq : m.valuePattern = some q) :
    m.holds tags = true ↔ ∃ k v, tags.get? k = some v ∧ p.holds k = true ∧ q.holds v = true := by
  unfold holds
  rw [h, hp, hq]
  split
  · next hempty => exact iff_of_false (by decide) (Tags.not_exists_of_isEmpty hempty)
  · simp only [← Bool.and_eq_true]
    exact Tags.any_toList (f := fun k v => p.holds k && q.holds v)

theorem holds_of_missingKeyRegex (h : m.mode = .missingKeyRegex) (hp : m.keyPattern = some p) :
    m.holds tags = true ↔ ∀ k v, tags.get? k = some v → p.holds k = false := by
  unfold holds
  rw [h, hp]
  split
  · next hempty =>
    simp only [Tags.get?_of_isEmpty hempty]
    exact ⟨fun _ => nofun, fun _ => rfl⟩
  · show (!tags.keys.any p.holds) = true ↔ _
    rw [Bool.not_eq_true', ← Bool.not_eq_true, Tags.any_keys]
    simp only [not_exists, not_and, Bool.not_eq_true]

/-! ### Conditions with their patterns -/

/-- The pattern for the key fits a key. -/
def fitsKey (m : TagMatch) (key : String) : Bool :=
  m.keyPattern.any (·.holds key)

/-- The pattern for the value fits a value. -/
def fitsValue (m : TagMatch) (value : String) : Bool :=
  m.valuePattern.any (·.holds value)

theorem fitsKey_eq (h : m.keyPattern = some p) : m.fitsKey = p.holds := by
  funext key
  rw [fitsKey, h, Option.any_some]

theorem fitsValue_eq (h : m.valuePattern = some p) : m.fitsValue = p.holds := by
  funext value
  rw [fitsValue, h, Option.any_some]

/-- What a condition asks for, by its key and its value. -/
def Asks (m : TagMatch) (key value : String) (regex : Bool) (tags : Tags) : Prop :=
  if regex = true then tags.HasMatching key value m.fitsKey m.fitsValue else tags.Has key value

/-- A condition has the mode for a key and a value, and a pattern for each of them that is to be one. -/
structure Prepared (m : TagMatch) (key value : String) (regex : Bool) : Prop where
  key_eq : m.key = key
  value_eq : m.value = value
  mode_eq : m.mode = .of key value regex
  keyPattern : m.keyPattern.isSome = (regex && key != "*")
  valuePattern : m.valuePattern.isSome = (regex && value != "" && value != "*")

namespace Prepared

variable {regex : Bool}

theorem exists_keyPattern (h : m.Prepared key value true) (hkey : key ≠ "*") : ∃ p, m.keyPattern = some p := by
  have hsome : m.keyPattern.isSome = true := by
    rw [h.keyPattern, Bool.true_and, bne_iff_ne]
    exact hkey
  exact Option.isSome_iff_exists.mp hsome

theorem exists_valuePattern (h : m.Prepared key value true) (hempty : value ≠ "") (hstar : value ≠ "*") :
    ∃ p, m.valuePattern = some p := by
  have hsome : m.valuePattern.isSome = true := by
    rw [h.valuePattern, Bool.true_and, Bool.and_eq_true, bne_iff_ne, bne_iff_ne]
    exact ⟨hempty, hstar⟩
  exact Option.isSome_iff_exists.mp hsome

/-- Where the mode looks at the pattern for the key, there is one. -/
theorem keyPattern_of_mode (h : m.Prepared key value regex)
    (hmode : m.mode ∈ [.anyValueRegex, .exactRegex, .missingKeyRegex]) : ∃ p, m.keyPattern = some p := by
  have hregex : regex = true ∧ key ≠ "*" := by
    rw [h.mode_eq] at hmode
    grind [TagMode.of]
  obtain ⟨rfl, hkey⟩ := hregex
  exact h.exists_keyPattern hkey

/-- Where the mode looks at the pattern for the value, there is one. -/
theorem valuePattern_of_mode (h : m.Prepared key value regex) (hmode : m.mode ∈ [.anyKeyRegex, .exactRegex]) :
    ∃ p, m.valuePattern = some p := by
  have hregex : regex = true ∧ value ≠ "" ∧ value ≠ "*" := by
    rw [h.mode_eq] at hmode
    grind [TagMode.of]
  obtain ⟨rfl, hempty, hstar⟩ := hregex
  exact h.exists_valuePattern hempty hstar

/-! ### What is asked for -/

theorem eq_plain (h : m.Prepared key value false) : m = plain key value := by
  obtain ⟨hkey, hvalue, hmode, hp, hq⟩ := h
  obtain ⟨key', value', mode, keyPattern, valuePattern⟩ := m
  dsimp only at hkey hvalue hmode hp hq
  subst hkey hvalue hmode
  cases keyPattern with
  | some p => cases hp
  | none =>
    cases valuePattern with
    | some q => cases hq
    | none => rfl

/-- Without patterns a condition says what its key and its value say as texts. -/
theorem holds_iff_has (h : m.Prepared key value false) : m.holds tags = true ↔ tags.Has key value := by
  have hplain := h.eq_plain
  subst hplain
  unfold Tags.Has
  by_cases hempty : value = ""
  · subst hempty
    have hstar : "" ≠ "*" := by decide
    rw [if_neg hstar, if_pos rfl, if_neg hstar, if_pos rfl]
    split
    · next hkey =>
      have hmode : (plain key "").mode = .noTags := if_pos hkey
      exact holds_of_noTags hmode
    · next hkey =>
      have hmode : (plain key "").mode = .missingKey := if_neg hkey
      exact holds_of_missingKey hmode
  · rw [holds_plain_iff hempty, if_neg hempty, if_neg hempty]
    by_cases hstar : value = "*"
    · simp only [hstar, true_or, if_true]
    · simp only [hstar, false_or, if_false]

/-- With patterns a condition says what its key and its value say of whatever the patterns fit. -/
theorem holds_iff_hasMatching (h : m.Prepared key value true) :
    m.holds tags = true ↔ tags.HasMatching key value m.fitsKey m.fitsValue := by
  have hmode := h.mode_eq
  have hstar_ne : "*" ≠ "" := by decide
  unfold TagMode.of at hmode
  unfold Tags.HasMatching
  by_cases hkey : key = "*"
  · rw [if_pos hkey] at hmode ⊢
    by_cases hstar : value = "*"
    · subst hstar
      rw [if_neg hstar_ne, if_pos hkey, if_pos rfl] at hmode
      exact iff_of_true (holds_of_any hmode) trivial
    · rw [if_neg hstar]
      by_cases hempty : value = ""
      · rw [if_pos hempty] at hmode ⊢
        exact holds_of_noTags hmode
      · rw [if_neg hempty] at hmode ⊢
        rw [if_pos hkey, if_neg hstar, if_pos rfl] at hmode
        obtain ⟨q, hq⟩ := h.exists_valuePattern hempty hstar
        rw [fitsValue_eq hq]
        exact holds_of_anyKeyRegex hmode hq
  · obtain ⟨p, hp⟩ := h.exists_keyPattern hkey
    rw [if_neg hkey] at hmode ⊢
    rw [fitsKey_eq hp]
    by_cases hstar : value = "*"
    · subst hstar
      rw [if_neg hstar_ne, if_neg hkey, if_pos rfl, if_pos rfl] at hmode
      exact holds_of_anyValueRegex hmode hp
    · rw [if_neg hstar]
      by_cases hempty : value = ""
      · rw [if_pos hempty] at hmode ⊢
        rw [if_pos rfl] at hmode
        exact holds_of_missingKeyRegex hmode hp
      · rw [if_neg hempty] at hmode ⊢
        rw [if_neg hkey, if_neg hstar, if_pos rfl] at hmode
        obtain ⟨q, hq⟩ := h.exists_valuePattern hempty hstar
        rw [fitsValue_eq hq]
        exact holds_of_exactRegex hmode hp hq

theorem holds_iff (h : m.Prepared key value regex) (tags : Tags) :
    m.holds tags = true ↔ m.Asks key value regex tags := by
  unfold Asks
  cases regex with
  | false =>
    rw [if_neg Bool.false_ne_true]
    exact h.holds_iff_has
  | true =>
    rw [if_pos rfl]
    exact h.holds_iff_hasMatching

/-- No key fits a pattern exactly where it is not so that some key fits it. -/
theorem holds_eq_not {m' : TagMatch} (h : m.Prepared key "" true) (h' : m'.Prepared key "*" true)
    (hkey : key ≠ "*") (hpattern : m.keyPattern = m'.keyPattern) (tags : Tags) :
    m.holds tags = !m'.holds tags := by
  have hfits : m.fitsKey = m'.fitsKey := by
    funext k
    rw [fitsKey, fitsKey, hpattern]
  have hmissing : m.holds tags = true ↔ ∀ k v, tags.get? k = some v → m'.fitsKey k = false := by
    rw [h.holds_iff_hasMatching, Tags.HasMatching, if_neg hkey, if_neg (by decide), if_pos rfl, hfits]
  have hpresent : m'.holds tags = true ↔ ∃ k v, tags.get? k = some v ∧ m'.fitsKey k = true := by
    rw [h'.holds_iff_hasMatching, Tags.HasMatching, if_neg hkey, if_pos rfl]
  rw [Bool.eq_iff_iff, Bool.not_eq_true', ← Bool.not_eq_true, hmissing, hpresent]
  simp only [not_exists, not_and, Bool.not_eq_true]

end Prepared

/-! ### Building a condition -/

/-- The pattern that has been made of a text, if one was wanted. -/
def IsPatternIf (wanted caseSensitive : Bool) (text : String) (r : Option Pattern) : Prop :=
  r.isSome = wanted ∧ ∀ p, r = some p → compilePattern .full caseSensitive text = .ok p

theorem exists_isPatternIf {wanted caseSensitive : Bool} {text : String}
    (h : wanted = true → ∃ p, compilePattern .full caseSensitive text = .ok p) :
    ∃ r, IsPatternIf wanted caseSensitive text r := by
  cases wanted with
  | false => exact ⟨none, rfl, nofun⟩
  | true =>
    obtain ⟨p, hp⟩ := h rfl
    refine ⟨some p, rfl, fun p' hp' => ?_⟩
    rw [hp, Option.some.inj hp']

/-- A pattern is made if one is wanted, and the condition is built with what has been made. -/
theorem choice_bind_eq_ok_iff {wanted caseSensitive : Bool} {text : String}
    {f : Option Pattern → Except Failure TagMatch} :
    (if wanted = true then some <$> compilePattern .full caseSensitive text >>= f else pure none >>= f) =
        .ok m ↔
      ∃ r, IsPatternIf wanted caseSensitive text r ∧ f r = .ok m := by
  cases wanted with
  | false =>
    rw [if_neg Bool.false_ne_true]
    constructor
    · exact fun h => ⟨none, ⟨rfl, nofun⟩, h⟩
    · rintro ⟨r, ⟨hr, -⟩, h⟩
      rw [Option.isSome_eq_false_iff, Option.isNone_iff_eq_none] at hr
      subst hr
      exact h
  | true =>
    rw [if_pos rfl]
    constructor
    · intro h
      cases hp : compilePattern .full caseSensitive text with
      | error e =>
        rw [hp] at h
        cases h
      | ok p =>
        rw [hp] at h
        exact ⟨some p, ⟨rfl, fun p' hp' => hp.trans (congrArg _ (Option.some.inj hp'))⟩, h⟩
    · rintro ⟨r, ⟨hsome, hr⟩, h⟩
      obtain ⟨p, rfl⟩ := Option.isSome_iff_exists.mp hsome
      rw [hr p rfl]
      exact h

/-- A condition is built from the patterns that are wanted, and its mode is chosen without them. -/
theorem compile_eq_ok_iff (hkey : key ≠ "") {value : Option String} {regex caseSensitive : Bool} :
    compile key value regex caseSensitive = .ok m ↔
      ∃ r, IsPatternIf (regex && key != "*") caseSensitive key r ∧
        ∃ r', IsPatternIf (regex && value.getD "" != "" && value.getD "" != "*") caseSensitive
            (value.getD "") r' ∧
          ⟨key, value.getD "", .of key (value.getD "") regex, r, r'⟩ = m := by
  unfold compile
  rw [if_neg hkey]
  refine choice_bind_eq_ok_iff.trans (exists_congr fun r => and_congr_right fun _ => ?_)
  refine choice_bind_eq_ok_iff.trans (exists_congr fun r' => and_congr_right fun _ => ?_)
  exact ⟨Except.ok.inj, congrArg _⟩

/-- Whatever is built has the mode for its key and its value, and their patterns where it needs them. -/
theorem prepared_of_compile (hkey : key ≠ "") {value : Option String} {regex caseSensitive : Bool}
    (h : compile key value regex caseSensitive = .ok m) :
    m.Prepared key (value.getD "") regex ∧
      (∀ p, m.keyPattern = some p → compilePattern .full caseSensitive key = .ok p) ∧
      ∀ p, m.valuePattern = some p → compilePattern .full caseSensitive (value.getD "") = .ok p := by
  obtain ⟨r, ⟨hr, hpattern⟩, r', ⟨hr', hpattern'⟩, rfl⟩ := (compile_eq_ok_iff hkey).mp h
  exact ⟨⟨rfl, rfl, rfl, hr, hr'⟩, hpattern, hpattern'⟩

/-- A condition is built unless a text that has to be a pattern is none. -/
theorem exists_compile_iff (hkey : key ≠ "") {value : Option String} {regex caseSensitive : Bool} :
    (∃ m, compile key value regex caseSensitive = .ok m) ↔
      (regex = true →
        (key ≠ "*" → ∃ p, compilePattern .full caseSensitive key = .ok p) ∧
          (value.getD "" ≠ "" → value.getD "" ≠ "*" →
            ∃ p, compilePattern .full caseSensitive (value.getD "") = .ok p)) := by
  constructor
  · rintro ⟨m, hm⟩ rfl
    obtain ⟨h, hpattern, hpattern'⟩ := prepared_of_compile hkey hm
    refine ⟨fun hkey => ?_, fun hempty hstar => ?_⟩
    · obtain ⟨p, hp⟩ := h.exists_keyPattern hkey
      exact ⟨p, hpattern p hp⟩
    · obtain ⟨p, hp⟩ := h.exists_valuePattern hempty hstar
      exact ⟨p, hpattern' p hp⟩
  · intro h
    have hwanted : ∃ r, IsPatternIf (regex && key != "*") caseSensitive key r := by
      refine exists_isPatternIf fun hwanted => ?_
      rw [Bool.and_eq_true, bne_iff_ne] at hwanted
      exact (h hwanted.1).1 hwanted.2
    have hwanted' : ∃ r, IsPatternIf (regex && value.getD "" != "" && value.getD "" != "*") caseSensitive
        (value.getD "") r := by
      refine exists_isPatternIf fun hwanted => ?_
      rw [Bool.and_eq_true, Bool.and_eq_true, bne_iff_ne, bne_iff_ne] at hwanted
      exact (h hwanted.1.1).2 hwanted.1.2 hwanted.2
    obtain ⟨r, hr⟩ := hwanted
    obtain ⟨r', hr'⟩ := hwanted'
    exact ⟨_, (compile_eq_ok_iff hkey).mpr ⟨r, hr, r', hr', rfl⟩⟩

/-- A condition on a key and a value is built unless one of them has to be a pattern and is none. On every
primitive it says what its key and its value ask for: as texts or, if they are patterns, of whatever these fit.
Its mode looks at no pattern that is missing, and where there are no tags the answer that is given by the mode
alone is the right one. If the key is a pattern, no value is the opposite of any value. What is said of
primitives does not depend on what the patterns fit: it is so for any in their places. -/
theorem compile_means (hkey : key ≠ "") (value : Option String) (regex caseSensitive : Bool) :
    let text := value.getD ""
    let isPattern (s : String) := ∃ p, compilePattern .full caseSensitive s = .ok p
    ((∃ m, compile key value regex caseSensitive = .ok m) ↔
        (regex = true → (key ≠ "*" → isPattern key) ∧ (text ≠ "" → text ≠ "*" → isPattern text))) ∧
      (∀ m, compile key value regex caseSensitive = .ok m →
        m.Prepared key text regex ∧
          (∀ p, m.keyPattern = some p → compilePattern .full caseSensitive key = .ok p) ∧
          (∀ p, m.valuePattern = some p → compilePattern .full caseSensitive text = .ok p) ∧
          (regex = true → key ≠ "*" → text = "" →
            ∃ m', compile key (some "*") true caseSensitive = .ok m' ∧
              ∀ {P : Type} [Primitive P] (p : P), (Query.tag m).holds p = !(Query.tag m').holds p)) ∧
      ∀ m : TagMatch, m.Prepared key text regex →
        (∀ {P : Type} [Primitive P] (p : P),
          (Query.tag m).holds p = true ↔ m.Asks key text regex (Primitive.profile p).tags) ∧
          (m.mode ∈ [.anyValueRegex, .exactRegex, .missingKeyRegex] → ∃ p, m.keyPattern = some p) ∧
          (m.mode ∈ [.anyKeyRegex, .exactRegex] → ∃ p, m.valuePattern = some p) ∧
          ∀ tags : Tags, tags.isEmpty = true →
            (m.mode ∈ [.noTags, .any, .missingKey, .missingKeyRegex] ↔ m.Asks key text regex tags) := by
  intro text isPattern
  refine ⟨exists_compile_iff hkey, fun m hm => ?_, fun m h => ?_⟩
  · obtain ⟨h, hpattern, hpattern'⟩ := prepared_of_compile hkey hm
    refine ⟨h, hpattern, hpattern', ?_⟩
    rintro rfl hstar hempty
    obtain ⟨p, hp⟩ := h.exists_keyPattern hstar
    -- The other condition is built with the same pattern for the key, and with none for the value.
    have hbuilt : compile key (some "*") true caseSensitive = .ok ⟨key, "*", .of key "*" true, some p, none⟩ :=
      (compile_eq_ok_iff hkey).mpr ⟨some p, ⟨by simp [hstar], fun p' hp' => hpattern p' (hp.trans hp')⟩,
        none, ⟨rfl, nofun⟩, rfl⟩
    refine ⟨_, hbuilt, fun {P} _ x => ?_⟩
    rw [Query.holds_tag, Query.holds_tag]
    exact Prepared.holds_eq_not (hempty ▸ h) (prepared_of_compile hkey hbuilt).1 hstar hp _
  · refine ⟨fun {P} _ p => ?_, h.keyPattern_of_mode, h.valuePattern_of_mode, fun tags hempty => ?_⟩
    · rw [Query.holds_tag]
      exact h.holds_iff (Primitive.profile p).tags
    have hholds : m.holds tags = decide (m.mode ∈ [.noTags, .any, .missingKey, .missingKeyRegex]) := by
      unfold holds
      rw [if_pos hempty]
    rw [← h.holds_iff tags, hholds, decide_eq_true_iff]

/-- A key that is a pattern, without a value: no key of a primitive must be one of two, which is the opposite
of some key being one of them. -/
theorem compile_means_missing :
    let key := "na(me|mo)"
    key ≠ "" ∧ ∃ m m', compile key none true true = .ok m ∧ compile key (some "*") true true = .ok m' ∧
      m.fitsKey "name" = true ∧ m.fitsKey "names" = false ∧
      ∀ {P : Type} [Primitive P] (p : P),
        ((Query.tag m).holds p = true ↔
          ∀ k v, (Primitive.profile p).tags.get? k = some v → m.fitsKey k = false) ∧
          (Query.tag m).holds p = !(Query.tag m').holds p := by
  intro key
  have hkey : key ≠ "" := by decide
  have hstar : key ≠ "*" := by decide
  obtain ⟨hbuilt, hcompiled, hprepared⟩ := compile_means hkey none true true
  have hread : ∃ p, compilePattern .full true key = .ok p := by
    have hok : (compilePattern .full true key).isOk = true := by decide +kernel
    cases hp : compilePattern .full true key with
    | ok p => exact ⟨p, rfl⟩
    | error e =>
      rw [hp] at hok
      cases hok
  obtain ⟨m, hm⟩ := hbuilt.mpr fun _ => ⟨fun _ => hread, fun h => absurd rfl h⟩
  obtain ⟨h, hpattern, -, hopposite⟩ := hcompiled m hm
  obtain ⟨m', hm', hnot⟩ := hopposite rfl hstar rfl
  obtain ⟨p, hp⟩ := h.exists_keyPattern hstar
  have hfits : (compilePattern .full true key).toOption.map (fun p => (p.holds "name", p.holds "names")) =
      some (true, false) := by
    decide +kernel
  rw [hpattern p hp] at hfits
  obtain ⟨hname, hnames⟩ := Prod.mk.inj (Option.some.inj hfits)
  refine ⟨hkey, m, m', hm, hm', ?_, ?_, fun {P} _ x => ⟨?_, hnot x⟩⟩
  · rw [fitsKey_eq hp, hname]
  · rw [fitsKey_eq hp, hnames]
  · exact (hprepared m h).1 x

end TagMatch

end MapQuery

import MapQuery.Proofs.DataSet.Consistent
import MapQuery.Proofs.Query.Search

/-!
# The case of the letters of a key

A search for a text in the value of a key takes the key as it is written, where there is one. Where there is none and
letters match in any case, it takes the first key, in the order of keys, that differs in the case of its letters only,
and looks at no other.

* `Tags.IsFirstLike` — the tag that stands for a key which is not there.
* `Tags.find?_of_get?_eq_none` — this tag is the one that is found.
* `Query.holds_plain_of_get?`, `Query.holds_plain_of_get?_eq_none` — what a search says of a primitive that has the
  key, and of one that does not.
* `Query.search_asks_first_key` — both for every key and every text.
-/

namespace MapQuery

namespace Tags

variable {t : Tags} {key k value : String}

/-- Of the keys that differ from a text in the case of their letters only, the first one, with its value. -/
structure IsFirstLike (t : Tags) (key k value : String) : Prop where
  get?_eq : t.get? k = some value
  same : Ascii.same k key = true
  least : ∀ k' value', t.get? k' = some value' → Ascii.same k' key = true → k ≤ k'

/-- Tags are listed in the order of their keys. -/
theorem pairwise_toList (t : Tags) : t.toList.Pairwise fun a b => a.1 < b.1 := by
  refine (Std.TreeMap.ordered_keys_toList (t := t.entries)).imp fun {a b} h => ?_
  exact compareOfLessAndEq_eq_lt.mp h

/-- There is one first key. -/
theorem IsFirstLike.unique {k' value' : String} (h : t.IsFirstLike key k value) (h' : t.IsFirstLike key k' value') :
    value = value' := by
  have hkey : k = k' :=
    String.le_antisymm (h.least k' value' h'.get?_eq h'.same) (h'.least k value h.get?_eq h.same)
  subst hkey
  exact Option.some.inj (h.get?_eq.symm.trans h'.get?_eq)

/-- What the list of all tags is searched for is the first key. -/
theorem isFirstLike_of_find? (h : (t.toList.find? fun (other, _) => Ascii.same other key) = some (k, value)) :
    t.IsFirstLike key k value := by
  obtain ⟨hsame, before, after, hlist, hbefore⟩ := List.find?_eq_some_iff_append.mp h
  have hsorted := t.pairwise_toList
  rw [hlist, List.pairwise_append, List.pairwise_cons] at hsorted
  obtain ⟨-, ⟨hafter, -⟩, -⟩ := hsorted
  refine ⟨?_, hsame, ?_⟩
  · rw [← mem_toList, hlist]
    simp
  · intro k' value' hget hlike
    have hmem := mem_toList.mpr hget
    rw [hlist, List.mem_append, List.mem_cons] at hmem
    rcases hmem with hmem | heq | hmem
    · -- What stands before the tag that was found differs in more than the case of letters.
      have hnot := hbefore _ hmem
      simp [hlike] at hnot
    · cases heq
      exact String.le_refl k
    · exact String.not_lt.mp (String.lt_asymm (hafter _ hmem))

/-- Where the key is not there, the first one like it stands for it. -/
theorem find?_of_get?_eq_none (h : t.get? key = none) :
    t.find? key false = some value ↔ ∃ k, t.IsFirstLike key k value := by
  unfold find?
  rw [h]
  show Option.map Prod.snd _ = some value ↔ _
  rw [Option.map_eq_some_iff]
  constructor
  · rintro ⟨⟨k, value'⟩, hfound, rfl⟩
    exact ⟨k, isFirstLike_of_find? hfound⟩
  · rintro ⟨k, hfirst⟩
    -- Something is found, as the first key would be; so what is found is the first key.
    have hsome : (t.toList.find? fun (other, _) => Ascii.same other key).isSome = true := by
      rw [List.find?_isSome]
      exact ⟨(k, value), mem_toList.mpr hfirst.get?_eq, hfirst.same⟩
    obtain ⟨⟨k', value'⟩, hfound⟩ := Option.isSome_iff_exists.mp hsome
    refine ⟨(k', value'), hfound, ?_⟩
    exact (isFirstLike_of_find? hfound).unique hfirst

end Tags

namespace Query

open Primitive

variable {P : Type} [Primitive P] {key text value : String} {p : P}

/-- The normal form of a text occurs in that of a value, in any case of the letters. -/
def InAnyCase (text value : String) : Prop :=
  Text.occursIn (Text.normalize false text.toList) (Text.normalize false value.toList) = true

/-- What is looked for in any case is looked for in the value that the key stands for. -/
theorem holds_plain_iff_find? (hkey : key ≠ "timestamp") :
    (Query.value (.plain key text false)).holds p = true ↔
      ∃ value, (profile p).tags.find? key false = some value ∧ InAnyCase text value := by
  rw [holds_value, ValueSearch.holds_plain, Profile.asked?, if_neg hkey, Option.any_eq_true]
  refine exists_congr fun value => and_congr_right fun _ => ?_
  rw [holdsNeedle_normal]
  rfl

/-- Where the key is there as it is written, its value counts. -/
theorem holds_plain_of_get? (hkey : key ≠ "timestamp") (h : (profile p).tags.get? key = some value) :
    (Query.value (.plain key text false)).holds p = true ↔ InAnyCase text value := by
  rw [holds_plain_iff_find? hkey, Tags.find?_of_get? h]
  simp

/-- Where it is not there, the value of the first key like it counts. -/
theorem holds_plain_of_get?_eq_none (hkey : key ≠ "timestamp") (h : (profile p).tags.get? key = none) :
    (Query.value (.plain key text false)).holds p = true ↔
      ∃ k value, (profile p).tags.IsFirstLike key k value ∧ InAnyCase text value := by
  rw [holds_plain_iff_find? hkey]
  constructor
  · rintro ⟨value, hfound, hin⟩
    obtain ⟨k, hfirst⟩ := (Tags.find?_of_get?_eq_none h).mp hfound
    exact ⟨k, value, hfirst, hin⟩
  · rintro ⟨k, value, hfirst, hin⟩
    exact ⟨value, (Tags.find?_of_get?_eq_none h).mpr ⟨k, hfirst⟩, hin⟩

/-- A search for a text in the value of a key, neither of them a pattern and letters in any case, can always be
built. Of a primitive that has the key as it is written it says whether the value of this key holds the text. Of one
that does not it says whether the value of the first key like it holds the text, which need not be so where the value
of another key like it does; where no two keys are like it, it says whether the value of some key like it does. -/
theorem search_asks_first_key (key text : String) (hkey : key ≠ "timestamp") :
    ∃ m, ValueSearch.compile key text ⟨false, false⟩ = .ok m ∧
      ∀ {P : Type} [Primitive P] (p : P),
        (∀ value, (profile p).tags.get? key = some value →
          ((Query.value m).holds p = true ↔ InAnyCase text value)) ∧
        ((profile p).tags.get? key = none →
          ((Query.value m).holds p = true ↔
            ∃ k value, (profile p).tags.IsFirstLike key k value ∧ InAnyCase text value) ∧
          ((∀ k k' value value', (profile p).tags.get? k = some value → Ascii.same k key = true →
              (profile p).tags.get? k' = some value' → Ascii.same k' key = true → k = k') →
            ((Query.value m).holds p = true ↔
              ∃ k value, (profile p).tags.get? k = some value ∧ Ascii.same k key = true ∧
                InAnyCase text value))) := by
  refine ⟨_, ValueSearch.compile_plain key text false, fun {P} _ p => ⟨fun value h => ?_, fun h => ⟨?_, ?_⟩⟩⟩
  · exact holds_plain_of_get? hkey h
  · exact holds_plain_of_get?_eq_none hkey h
  · intro hone
    rw [holds_plain_of_get?_eq_none hkey h]
    refine exists_congr fun k => exists_congr fun value => ?_
    constructor
    · rintro ⟨hfirst, hin⟩
      exact ⟨hfirst.get?_eq, hfirst.same, hin⟩
    · rintro ⟨hget, hsame, hin⟩
      refine ⟨⟨hget, hsame, fun k' value' hget' hsame' => ?_⟩, hin⟩
      obtain rfl := hone k k' value value' hget hsame hget' hsame'
      exact String.le_refl k

/-- Of two keys like the one searched for, the one in capital letters is the first. Where the key is there itself,
no other one counts; where only one key is like it, this one does. -/
theorem search_asks_first_key_capitals :
    "name" ≠ "timestamp" ∧
      ∃ m, ValueSearch.compile "name" "main" ⟨false, false⟩ = .ok m ∧
        (∃ d : DataSet, d.Reachable ∧ ∃ p : DataSet.Handle d,
          p.profile.tags = Tags.ofList [("Name", "Oak"), ("NAME", "Main Street")] ∧
            (Query.value m).holds p = true) ∧
        (∃ d : DataSet, d.Reachable ∧ ∃ p : DataSet.Handle d,
          p.profile.tags = Tags.ofList [("name", "Oak"), ("NAME", "Main Street")] ∧
            (Query.value m).holds p = false) ∧
        ∃ d : DataSet, d.Reachable ∧ ∃ p : DataSet.Handle d,
          p.profile.tags = Tags.ofList [("Name", "Main Street")] ∧ (Query.value m).holds p = true := by
  have hkey : "name" ≠ "timestamp" := by decide
  have hmain : InAnyCase "main" "Main Street" := by
    show Text.occursIn _ _ = true
    decide +kernel
  obtain ⟨m, hm, hholds⟩ := search_asks_first_key "name" "main" hkey
  refine ⟨hkey, m, hm, ?_, ?_, ?_⟩
  · obtain ⟨d, hd, p, htags, -, -⟩ := DataSet.exists_tagged_with [("Name", "Oak"), ("NAME", "Main Street")]
    have hnone : p.profile.tags.get? "name" = none := by
      rw [htags]
      decide +kernel
    refine ⟨d, hd, p, htags, ((hholds p).2 hnone).1.mpr ⟨"NAME", "Main Street", ?_, hmain⟩⟩
    show p.profile.tags.IsFirstLike "name" "NAME" "Main Street"
    rw [htags]
    exact Tags.isFirstLike_of_find? (by decide +kernel)
  · obtain ⟨d, hd, p, htags, -, -⟩ := DataSet.exists_tagged_with [("name", "Oak"), ("NAME", "Main Street")]
    have hget : p.profile.tags.get? "name" = some "Oak" := by
      rw [htags]
      decide +kernel
    have hoak : ¬ InAnyCase "main" "Oak" := by
      show ¬ Text.occursIn _ _ = true
      decide +kernel
    refine ⟨d, hd, p, htags, ?_⟩
    rw [← Bool.not_eq_true, (hholds p).1 "Oak" hget]
    exact hoak
  · obtain ⟨d, hd, p, htags, -, -⟩ := DataSet.exists_tagged_with [("Name", "Main Street")]
    have hget : ∀ k, p.profile.tags.get? k = if "Name" = k then some "Main Street" else none := by
      intro k
      rw [htags]
      exact (Tags.get?_insert _ _ _ _).trans (by rw [Tags.get?_empty])
    have honly : ∀ k value, p.profile.tags.get? k = some value → k = "Name" := by
      intro k value hk
      rw [hget] at hk
      split at hk
      · next hname => exact hname.symm
      · cases hk
    have hnone : p.profile.tags.get? "name" = none := by
      rw [hget, if_neg (by decide)]
    refine ⟨d, hd, p, htags, (((hholds p).2 hnone).2 ?_).mpr ⟨"Name", "Main Street", ?_, by decide, hmain⟩⟩
    · intro k k' value value' hk _ hk' _
      rw [honly k value hk, honly k' value' hk']
    · exact (hget "Name").trans (if_pos rfl)

/-- A key like the one searched for has the text in its value, but the first key like it does not. -/
theorem search_misses_second_key :
    ∃ m, ValueSearch.compile "name" "main" ⟨false, false⟩ = .ok m ∧
      ∃ d : DataSet, d.Reachable ∧ ∃ p : DataSet.Handle d,
        p.profile.tags.get? "name" = none ∧
          (∃ k value, p.profile.tags.get? k = some value ∧ Ascii.same k "name" = true ∧
            InAnyCase "main" value) ∧
          (Query.value m).holds p = false := by
  obtain ⟨d, hd, p, htags, -, -⟩ := DataSet.exists_tagged_with [("NAME", "Oak"), ("Name", "Main Street")]
  have hnone : p.profile.tags.get? "name" = none := by
    rw [htags]
    decide +kernel
  refine ⟨_, ValueSearch.compile_plain "name" "main" false, d, hd, p, hnone, ⟨"Name", "Main Street", ?_, rfl, ?_⟩, ?_⟩
  · rw [htags]
    decide +kernel
  · show Text.occursIn _ _ = true
    decide +kernel
  · rw [← Bool.not_eq_true, holds_plain_iff_find? (by decide)]
    rintro ⟨value, hfound, hin⟩
    have hfirst : (Tags.ofList [("NAME", "Oak"), ("Name", "Main Street")]).find? "name" false = some "Oak" := by
      decide +kernel
    have hfound : p.profile.tags.find? "name" false = some value := hfound
    rw [htags, hfirst] at hfound
    cases hfound
    have hnot : ¬ InAnyCase "main" "Oak" := by
      show ¬ Text.occursIn _ _ = true
      decide +kernel
    exact hnot hin

end Query

end MapQuery

import Mathlib.Data.List.Induction
import MapQuery.Saved.Searches

/-!
# Saved searches stand in the order of their last use

Remembering a search puts it first and takes its other copies out. So after any number of searches the list is
known from when each of them was remembered last.

* `SavedSearches.rememberAll` — several searches are remembered, one after the other.
* `SavedSearches.age` — how many searches have been remembered since a search was.
* `count_remember`, `filter_remember` — one search is remembered.
* `SavedSearches.remembered_once` — the list after several searches, and what one more does to any list.
-/

namespace MapQuery.SavedSearches

variable {history : List SavedSearch} {s t : SavedSearch}

/-! ### One search -/

/-- The search that has been remembered is there once, and of every other one there are as many copies as
before. -/
theorem count_remember (l : SavedSearches) (s t : SavedSearch) :
    (l.remember s).searches.count t = if t = s then 1 else l.searches.count t := by
  unfold remember
  rw [List.count_cons]
  by_cases h : t = s
  · subst h
    have hnone : (l.searches.filter (· ≠ t)).count t = 0 :=
      List.count_eq_zero.mpr fun hmem => by simp at hmem
    rw [hnone, beq_self_eq_true, if_pos rfl, if_pos rfl]
  · have hne : (s == t) = false := beq_false_of_ne (Ne.symm h)
    have hkept : (l.searches.filter (· ≠ s)).count t = l.searches.count t :=
      List.count_filter (decide_eq_true h)
    rw [hkept, hne, if_neg Bool.false_ne_true, if_neg h, Nat.add_zero]

/-- The other searches keep their order. -/
theorem filter_remember (l : SavedSearches) (s : SavedSearch) :
    (l.remember s).searches.filter (· ≠ s) = l.searches.filter (· ≠ s) := by
  unfold remember
  rw [List.filter_cons_of_neg (by simp), List.filter_filter]
  simp

/-! ### Several searches -/

/-- The searches after several more have been remembered, the last one of them last. -/
def rememberAll (l : SavedSearches) (history : List SavedSearch) : SavedSearches :=
  history.foldl remember l

theorem rememberAll_append (l : SavedSearches) (history : List SavedSearch) (s : SavedSearch) :
    l.rememberAll (history ++ [s]) = (l.rememberAll history).remember s := by
  rw [rememberAll, List.foldl_append]
  rfl

/-- The number of searches that have been remembered since a search was, and of all of them if it never was. -/
def age (history : List SavedSearch) (s : SavedSearch) : Nat :=
  history.reverse.idxOf s

theorem age_append_self (history : List SavedSearch) (s : SavedSearch) : age (history ++ [s]) s = 0 := by
  rw [age, List.reverse_append]
  exact List.idxOf_cons_self

/-- Every other search grows older by one. -/
theorem age_append_of_ne (h : t ≠ s) : age (history ++ [s]) t = age history t + 1 := by
  rw [age, List.reverse_append, List.reverse_singleton, List.singleton_append, List.idxOf_cons,
    beq_false_of_ne (Ne.symm h), cond_false]
  rfl

/-- The searches are those that have been remembered. -/
theorem count_rememberAll (history : List SavedSearch) (s : SavedSearch) :
    (empty.rememberAll history).searches.count s = if s ∈ history then 1 else 0 := by
  induction history using List.reverseRecOn with
  | nil => rfl
  | append_singleton history t ih =>
    rw [rememberAll_append, count_remember, ih]
    by_cases h : s = t <;> simp [h]

/-- They stand in the order in which they were remembered last. The one that is added is younger than all others,
and their ages grow alike. -/
theorem pairwise_rememberAll (history : List SavedSearch) :
    (empty.rememberAll history).searches.Pairwise fun s t => age history s < age history t := by
  induction history using List.reverseRecOn with
  | nil => exact List.Pairwise.nil
  | append_singleton history s ih =>
    rw [rememberAll_append]
    refine List.Pairwise.cons (fun t ht => ?_) ?_
    · have hne : t ≠ s := of_decide_eq_true (List.mem_filter.mp ht).2
      rw [age_append_self, age_append_of_ne hne]
      exact Nat.succ_pos _
    · refine (ih.filter (· ≠ s)).imp_of_mem fun ht hu hlt => ?_
      rw [age_append_of_ne (of_decide_eq_true (List.mem_filter.mp ht).2),
        age_append_of_ne (of_decide_eq_true (List.mem_filter.mp hu).2)]
      exact Nat.succ_lt_succ hlt

/-- Whatever has been remembered one after the other, the list holds each of these searches once and nothing else,
text and flags being what makes a search, and a search stands before those that were remembered last before it
was. And in any list at all, one search that is remembered comes to stand first as its only copy, while the
others stay as they are, in their order and with all their copies. -/
theorem remembered_once (history : List SavedSearch) :
    (∀ s, (empty.rememberAll history).searches.count s = if s ∈ history then 1 else 0) ∧
      (empty.rememberAll history).searches.Pairwise (fun s t => age history s < age history t) ∧
      ∀ (l : SavedSearches) (s : SavedSearch),
        (l.remember s).searches.head? = some s ∧ (l.remember s).searches.count s = 1 ∧
          (l.remember s).searches.filter (· ≠ s) = l.searches.filter (· ≠ s) := by
  refine ⟨count_rememberAll history, pairwise_rememberAll history, fun l s => ⟨rfl, ?_, filter_remember l s⟩⟩
  rw [count_remember, if_pos rfl]

/-- The same text with another flag is another search. -/
example :
    let plain : SavedSearch := ⟨"name:main", ⟨false, false⟩⟩
    let sensitive : SavedSearch := ⟨"name:main", ⟨true, false⟩⟩
    (empty.rememberAll [plain, sensitive, plain]).searches = [plain, sensitive] := by
  decide

end MapQuery.SavedSearches

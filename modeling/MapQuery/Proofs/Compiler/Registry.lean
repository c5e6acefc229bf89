import Mathlib.Data.List.Perm.Basic
import MapQuery.Compiler.Registry

/-!
# What registering changes

Keywords are registered all together or not at all. Those that are registered get the one factory, and every
other keyword keeps the one that it has. A call is refused for the first of its keywords that cannot be
registered, and then it has changed nothing.

* `Registry.Offends` — why a keyword cannot be registered behind others of the same call.
* `Registry.refusal?_eq_none_iff`, `Registry.refusal?_eq_some_iff` — when a call is refused, and for what.
* `Registry.get?_register` — the factories afterwards.
* `Registry.get?_of_mem_register` — no keyword is given a new meaning.
* `Registry.registering`, `Registry.run_registering` — a call to a registry that is kept: it looks at the
  keywords one after the other, and then inserts them one after the other.
* `Registry.Extends`, `Registry.extends_keptAfter` — what a registry keeps from call to call.
* `Registry.register_all_or_none` — calls, and what they leave.
-/

namespace MapQuery

namespace Registry

variable {r r' : Registry} {f : Factory} {keywords earlier : List String} {keyword : String} {e : Refusal}

/-! ### Keywords that are refused -/

/-- A keyword cannot be registered behind others of the same call: it is empty, or has a factory already, or is one
of the others. -/
inductive Offends (r : Registry) (earlier : List String) : String → Refusal → Prop
  | empty : Offends r earlier "" .empty
  | duplicate {keyword : String} (hne : keyword ≠ "")
    (htaken : (∃ f, r.get? keyword = some f) ∨ keyword ∈ earlier) :
    Offends r earlier keyword (.duplicate keyword)

/-- The order of the others does not count. -/
theorem Offends.congr {others : List String} (h : r.Offends earlier keyword e)
    (hmem : keyword ∈ earlier ↔ keyword ∈ others) : r.Offends others keyword e := by
  cases h with
  | empty => exact .empty
  | duplicate hne htaken => exact .duplicate hne (htaken.imp_right hmem.mp)

/-- A keyword that does not offend is not empty, has no factory, and is none of the others. -/
theorem not_offends_iff :
    (∀ e, ¬ r.Offends earlier keyword e) ↔ keyword ≠ "" ∧ r.get? keyword = none ∧ keyword ∉ earlier := by
  constructor
  · intro h
    have hne : keyword ≠ "" := by
      rintro rfl
      exact h _ .empty
    refine ⟨hne, ?_, fun hmem => h _ (.duplicate hne (.inr hmem))⟩
    cases hget : r.get? keyword with
    | none => rfl
    | some f => exact absurd (.duplicate hne (.inl ⟨f, hget⟩)) (h _)
  · rintro ⟨hne, hnone, hnew⟩ e hoffends
    cases hoffends with
    | empty => exact hne rfl
    | duplicate _ htaken =>
      rcases htaken with ⟨f, hget⟩ | hmem
      · cases hnone.symm.trans hget
      · exact hnew hmem

/-- A keyword that is taken has a factory or is one of the others. -/
theorem taken_iff : ((r.get? keyword).isSome || earlier.contains keyword) = true ↔
    (∃ f, r.get? keyword = some f) ∨ keyword ∈ earlier := by
  rw [Bool.or_eq_true_iff, Option.isSome_iff_exists, List.contains_iff_mem]

/-- The first keyword is what is refused, if it offends. -/
theorem refusal?_cons_of_offends (h : r.Offends earlier keyword e) (rest : List String) :
    r.refusal? earlier (keyword :: rest) = some e := by
  rw [refusal?]
  cases h with
  | empty => rfl
  | duplicate hne htaken => rw [if_neg hne, if_pos (taken_iff.mpr htaken)]

/-- The first keyword is passed over, if it does not offend. -/
theorem refusal?_cons_of_not_offends (h : ∀ e, ¬ r.Offends earlier keyword e) (rest : List String) :
    r.refusal? earlier (keyword :: rest) = r.refusal? (keyword :: earlier) rest := by
  obtain ⟨hne, hnone, hnew⟩ := not_offends_iff.mp h
  have hfree : ¬ ((r.get? keyword).isSome || earlier.contains keyword) = true := by
    rw [taken_iff]
    rintro (⟨f, hget⟩ | hmem)
    · cases hnone.symm.trans hget
    · exact hnew hmem
  rw [refusal?, if_neg hne, if_neg hfree]

/-- Keywords are not refused exactly if none is empty, none has a factory, and all are different. The induction is
on the keywords, for all that have been looked at before them. -/
theorem refusal?_eq_none_iff :
    r.refusal? earlier keywords = none ↔
      (∀ keyword ∈ keywords, keyword ≠ "" ∧ r.get? keyword = none ∧ keyword ∉ earlier) ∧ keywords.Nodup := by
  induction keywords generalizing earlier with
  | nil => exact iff_of_true rfl ⟨nofun, List.nodup_nil⟩
  | cons first rest ih =>
    by_cases hoffends : ∃ e, r.Offends earlier first e
    · obtain ⟨e, he⟩ := hoffends
      rw [refusal?_cons_of_offends he]
      refine iff_of_false nofun fun h => ?_
      exact not_offends_iff.mpr (h.1 first List.mem_cons_self) e he
    · have hfirst := not_exists.mp hoffends
      rw [refusal?_cons_of_not_offends hfirst, ih, List.nodup_cons, List.forall_mem_cons]
      constructor
      · rintro ⟨hrest, hnodup⟩
        refine ⟨⟨not_offends_iff.mp hfirst, fun k hk => ?_⟩, fun hmem => ?_, hnodup⟩
        · obtain ⟨hne, hnone, hnew⟩ := hrest k hk
          exact ⟨hne, hnone, fun hmem => hnew (List.mem_cons_of_mem first hmem)⟩
        · exact (hrest first hmem).2.2 List.mem_cons_self
      · rintro ⟨⟨_, hrest⟩, hnotin, hnodup⟩
        refine ⟨fun k hk => ?_, hnodup⟩
        obtain ⟨hne, hnone, hnew⟩ := hrest k hk
        refine ⟨hne, hnone, List.not_mem_cons_of_ne_of_not_mem ?_ hnew⟩
        rintro rfl
        exact hnotin hk

/-- The first keyword that offends is the one at a place: it does so behind `earlier` and the keywords before its
place, and none of these does behind those before it. -/
def OffendsFirstAt (r : Registry) (earlier keywords : List String) (i : Nat) (e : Refusal) : Prop :=
  (∃ keyword, keywords[i]? = some keyword ∧ r.Offends (earlier ++ keywords.take i) keyword e) ∧
    ∀ j < i, ∀ keyword, keywords[j]? = some keyword → ∀ e', ¬ r.Offends (earlier ++ keywords.take j) keyword e'

theorem offends_middle_iff {first : String} {more : List String} :
    r.Offends (earlier ++ first :: more) keyword e ↔ r.Offends (first :: earlier ++ more) keyword e :=
  ⟨fun h => h.congr List.perm_middle.mem_iff, fun h => h.congr List.perm_middle.symm.mem_iff⟩

theorem offendsFirstAt_zero_iff {first : String} {rest : List String} :
    r.OffendsFirstAt earlier (first :: rest) 0 e ↔ r.Offends earlier first e := by
  unfold OffendsFirstAt
  rw [List.take_zero, List.append_nil, List.getElem?_cons_zero]
  constructor
  · rintro ⟨⟨keyword, hkeyword, hoffends⟩, _⟩
    cases hkeyword
    exact hoffends
  · exact fun hoffends => ⟨⟨first, rfl, hoffends⟩, nofun⟩

theorem offendsFirstAt_succ_iff {first : String} {rest : List String} {i : Nat} :
    r.OffendsFirstAt earlier (first :: rest) (i + 1) e ↔
      (∀ e', ¬ r.Offends earlier first e') ∧ r.OffendsFirstAt (first :: earlier) rest i e := by
  unfold OffendsFirstAt
  simp only [List.getElem?_cons_succ, List.take_succ_cons, offends_middle_iff]
  constructor
  · rintro ⟨hhere, hbefore⟩
    refine ⟨fun e' => ?_, hhere, fun j hj keyword hkeyword => ?_⟩
    · have hfirst := hbefore 0 (Nat.succ_pos i) first List.getElem?_cons_zero e'
      rwa [List.take_zero, List.append_nil] at hfirst
    · have hlater := hbefore (j + 1) (Nat.succ_lt_succ hj) keyword hkeyword
      simpa only [List.take_succ_cons, offends_middle_iff] using hlater
  · rintro ⟨hfirst, hhere, hbefore⟩
    refine ⟨hhere, fun j hj keyword hkeyword e' => ?_⟩
    cases j with
    | zero =>
      rw [List.getElem?_cons_zero] at hkeyword
      cases hkeyword
      rw [List.take_zero, List.append_nil]
      exact hfirst e'
    | succ j =>
      rw [List.take_succ_cons, offends_middle_iff]
      exact hbefore j (Nat.lt_of_succ_lt_succ hj) keyword hkeyword e'

/-- Keywords are refused for the first one that offends. -/
theorem refusal?_eq_some_iff :
    r.refusal? earlier keywords = some e ↔ ∃ i, r.OffendsFirstAt earlier keywords i e := by
  induction keywords generalizing earlier with
  | nil =>
    refine iff_of_false nofun ?_
    rintro ⟨i, ⟨keyword, hkeyword, _⟩, _⟩
    rw [List.getElem?_nil] at hkeyword
    cases hkeyword
  | cons first rest ih =>
    by_cases hoffends : ∃ e, r.Offends earlier first e
    · obtain ⟨e', he'⟩ := hoffends
      rw [refusal?_cons_of_offends he']
      constructor
      · intro h
        cases h
        exact ⟨0, offendsFirstAt_zero_iff.mpr he'⟩
      · rintro ⟨i, hi⟩
        cases i with
        | zero =>
          have he := refusal?_cons_of_offends (offendsFirstAt_zero_iff.mp hi) rest
          exact (refusal?_cons_of_offends he' rest).symm.trans he
        | succ i => exact absurd he' ((offendsFirstAt_succ_iff.mp hi).1 e')
    · have hfirst := not_exists.mp hoffends
      rw [refusal?_cons_of_not_offends hfirst, ih]
      constructor
      · rintro ⟨i, hi⟩
        exact ⟨i + 1, offendsFirstAt_succ_iff.mpr ⟨hfirst, hi⟩⟩
      · rintro ⟨i, hi⟩
        cases i with
        | zero => exact absurd (offendsFirstAt_zero_iff.mp hi) (hfirst e)
        | succ i => exact ⟨i, (offendsFirstAt_succ_iff.mp hi).2⟩

/-! ### Keywords that are registered -/

/-- Keywords that are not refused are all inserted. -/
theorem register_eq_ok :
    r.register keywords f = .ok r' ↔ r.refusal? [] keywords = none ∧ r' = r.insertAll keywords f := by
  unfold register
  cases r.refusal? [] keywords with
  | some e => exact ⟨nofun, nofun⟩
  | none =>
    constructor
    · intro h
      cases h
      exact ⟨rfl, rfl⟩
    · rintro ⟨_, rfl⟩
      rfl

theorem register_eq_error : r.register keywords f = .error e ↔ r.refusal? [] keywords = some e := by
  unfold register
  cases r.refusal? [] keywords with
  | some e' => simp
  | none => exact ⟨nofun, nofun⟩

theorem get?_insertAll (r : Registry) (keywords : List String) (f : Factory) (keyword : String) :
    (r.insertAll keywords f).get? keyword = if keyword ∈ keywords then some f else r.get? keyword := by
  unfold insertAll
  induction keywords generalizing r with
  | nil => simp
  | cons first rest ih =>
    rw [List.foldl_cons, ih, get?_insert]
    by_cases hfirst : first = keyword
    · simp [hfirst]
    · simp [hfirst, Ne.symm hfirst]

/-- Registering gives the keywords the factory, and changes no other one. -/
theorem get?_register (h : r.register keywords f = .ok r') (keyword : String) :
    r'.get? keyword = if keyword ∈ keywords then some f else r.get? keyword := by
  obtain ⟨_, rfl⟩ := register_eq_ok.mp h
  exact get?_insertAll r keywords f keyword

/-- No keyword is given a new meaning. -/
theorem get?_of_mem_register (h : r.register keywords f = .ok r') (hmem : keyword ∈ keywords) :
    r.get? keyword = none :=
  ((refusal?_eq_none_iff.mp (register_eq_ok.mp h).1).1 keyword hmem).2.1

/-- A keyword is listed exactly when it has a factory. -/
theorem mem_keywords : keyword ∈ r.keywords ↔ (r.get? keyword).isSome = true := by
  rw [keywords, get?, Std.TreeMap.mem_keys, Std.TreeMap.isSome_getElem?_iff_mem]

theorem nodup_keywords (r : Registry) : r.keywords.Nodup :=
  Std.TreeMap.nodup_keys

/-- Keywords that are registered are listed with those that have been there, and no other ones are. -/
theorem perm_keywords_register (h : r.register keywords f = .ok r') :
    r'.keywords.Perm (keywords ++ r.keywords) := by
  obtain ⟨hfree, hnodup⟩ := refusal?_eq_none_iff.mp (register_eq_ok.mp h).1
  have hdisjoint : ∀ keyword ∈ keywords, ∀ other ∈ r.keywords, keyword ≠ other := by
    rintro keyword hkeyword other hother rfl
    rw [mem_keywords, (hfree keyword hkeyword).2.1] at hother
    cases hother
  have hall : (keywords ++ r.keywords).Nodup :=
    List.nodup_append.mpr ⟨hnodup, r.nodup_keywords, hdisjoint⟩
  refine (List.perm_ext_iff_of_nodup r'.nodup_keywords hall).mpr fun keyword => ?_
  rw [List.mem_append, mem_keywords, mem_keywords, get?_register h]
  by_cases hmem : keyword ∈ keywords
  · rw [if_pos hmem]
    exact iff_of_true rfl (.inl hmem)
  · rw [if_neg hmem, or_iff_right hmem]

/-! ### A registry that is kept -/

/-- Looks at keywords one after the other in a registry that is kept, behind those that it has looked at before. -/
def lookThrough (earlier : List String) : List String → ExceptT Refusal (StateM Registry) Unit
  | [] => pure ()
  | keyword :: rest => do
    if keyword = "" then throw .empty
    else if ((← get).get? keyword).isSome || earlier.contains keyword then throw (.duplicate keyword)
    else lookThrough (keyword :: earlier) rest

/-- Inserts keywords one after the other into a registry that is kept. -/
def enter (f : Factory) : List String → ExceptT Refusal (StateM Registry) Unit
  | [] => pure ()
  | keyword :: rest => do
    modify (·.insert keyword f)
    enter f rest

/-- Registers keywords in a registry that is kept: looks at all of them, and then inserts them. -/
def registering (keywords : List String) (f : Factory) : ExceptT Refusal (StateM Registry) Unit := do
  lookThrough [] keywords
  enter f keywords

/-- Looking at keywords ends with the first one that is refused, and leaves the registry as it is. -/
theorem run_lookThrough (r : Registry) (earlier keywords : List String) :
    (lookThrough earlier keywords).run r =
      ((match r.refusal? earlier keywords with
        | some e => .error e
        | none => .ok ()), r) := by
  induction keywords generalizing earlier with
  | nil => rfl
  | cons keyword rest ih =>
    rw [lookThrough, refusal?]
    by_cases hempty : keyword = ""
    · rw [if_pos hempty, if_pos hempty]
      rfl
    rw [if_neg hempty, if_neg hempty]
    show (if (r.get? keyword).isSome || earlier.contains keyword then throw (.duplicate keyword)
      else lookThrough (keyword :: earlier) rest : ExceptT Refusal (StateM Registry) Unit).run r = _
    by_cases htaken : ((r.get? keyword).isSome || earlier.contains keyword) = true
    · rw [if_pos htaken, if_pos htaken]
      rfl
    · rw [if_neg htaken, if_neg htaken, ih]

/-- Inserting keywords ends with the registry that has all of them. -/
theorem run_enter (r : Registry) (f : Factory) (keywords : List String) :
    (enter f keywords).run r = (.ok (), r.insertAll keywords f) := by
  induction keywords generalizing r with
  | nil => rfl
  | cons keyword rest ih =>
    show (enter f rest).run (r.insert keyword f) = _
    rw [ih]
    rfl

/-- A call to a registry that is kept gives the registry with the keywords, or refuses them and leaves the
registry as it is. -/
theorem run_registering (r : Registry) (keywords : List String) (f : Factory) :
    (registering keywords f).run r =
      match r.register keywords f with
      | .ok r' => (.ok (), r')
      | .error e => (.error e, r) := by
  have hlook := run_lookThrough r [] keywords
  rw [registering, ExceptT.run_bind, register]
  cases hrefusal : r.refusal? [] keywords with
  | some e =>
    rw [hrefusal] at hlook
    simp only [bind, StateT.bind, hlook]
    rfl
  | none =>
    rw [hrefusal] at hlook
    simp only [bind, StateT.bind, hlook]
    exact run_enter r f keywords

/-- Every keyword with a factory keeps it. -/
def Extends (r r' : Registry) : Prop :=
  ∀ keyword f, r.get? keyword = some f → r'.get? keyword = some f

theorem Extends.refl (r : Registry) : r.Extends r :=
  fun _ _ h => h

theorem Extends.trans {r'' : Registry} (h : r.Extends r') (h' : r'.Extends r'') : r.Extends r'' :=
  fun keyword f hget => h' keyword f (h keyword f hget)

/-- Registering keywords leaves those that have a factory with it. -/
theorem extends_register (h : r.register keywords f = .ok r') : r.Extends r' := by
  intro keyword g hget
  rw [get?_register h]
  by_cases hmem : keyword ∈ keywords
  · cases (get?_of_mem_register h hmem).symm.trans hget
  · rw [if_neg hmem, hget]

/-- A call leaves keywords that have a factory with it, whether it is refused or not. -/
theorem extends_run_registering (r : Registry) (keywords : List String) (f : Factory) :
    r.Extends ((registering keywords f).run r).2 := by
  rw [run_registering]
  cases h : r.register keywords f with
  | ok r' => exact extends_register h
  | error e => exact .refl r

/-- What is left of a registry that is kept, after several calls. -/
def keptAfter (r : Registry) (calls : List (List String × Factory)) : Registry :=
  calls.foldl (fun kept (keywords, f) => ((registering keywords f).run kept).2) r

/-- No call ever gives a keyword another factory. -/
theorem extends_keptAfter (r : Registry) (calls : List (List String × Factory)) :
    r.Extends (r.keptAfter calls) := by
  induction calls generalizing r with
  | nil => exact .refl r
  | cons call calls ih => exact (extends_run_registering r call.1 call.2).trans (ih _)

/-- Keywords are registered all together or not at all. A call succeeds exactly if none of them is empty, all are
different, and none has a factory. Then they are listed with those that have been there, all of them have the
given factory, and every other keyword has the one that it had. A call that does not succeed is refused for the
first keyword that offends, and leaves the registry as it is. So a keyword with a factory keeps it through any calls.
A registry that is kept does what is said of a new one. -/
theorem register_all_or_none (r : Registry) (keywords : List String) (f : Factory) :
    let outcome := ((registering keywords f).run r).1
    let kept := ((registering keywords f).run r).2
    r.register keywords f = outcome.map (fun _ => kept) ∧
      (outcome = .ok () ↔
        (∀ keyword ∈ keywords, keyword ≠ "" ∧ r.get? keyword = none) ∧ keywords.Nodup) ∧
      (outcome = .ok () → kept.keywords.Perm (keywords ++ r.keywords) ∧
        ∀ keyword, kept.get? keyword = if keyword ∈ keywords then some f else r.get? keyword) ∧
      (∀ e, outcome = .error e → kept = r) ∧
      (∀ e, outcome = .error e ↔ ∃ i, r.OffendsFirstAt [] keywords i e) ∧
      ∀ calls keyword g, r.get? keyword = some g → (r.keptAfter calls).get? keyword = some g := by
  intro outcome kept
  have hrun := run_registering r keywords f
  have hstable : ∀ calls keyword g, r.get? keyword = some g → (r.keptAfter calls).get? keyword = some g :=
    fun calls => extends_keptAfter r calls
  have hnone : r.refusal? [] keywords = none ↔
      (∀ keyword ∈ keywords, keyword ≠ "" ∧ r.get? keyword = none) ∧ keywords.Nodup := by
    simp only [refusal?_eq_none_iff, List.not_mem_nil, not_false_eq_true, and_true]
  cases hregister : r.register keywords f with
  | ok r' =>
    rw [hregister] at hrun
    have houtcome : outcome = .ok () := congrArg Prod.fst hrun
    have hkept : kept = r' := congrArg Prod.snd hrun
    have hfree := (register_eq_ok.mp hregister).1
    rw [houtcome, hkept]
    refine ⟨rfl, iff_of_true rfl (hnone.mp hfree), fun _ => ⟨perm_keywords_register hregister, ?_⟩, nofun, ?_,
      hstable⟩
    · exact get?_register hregister
    · refine fun e => iff_of_false nofun fun hoffends => ?_
      cases hfree.symm.trans (refusal?_eq_some_iff.mpr hoffends)
  | error e =>
    rw [hregister] at hrun
    have houtcome : outcome = .error e := congrArg Prod.fst hrun
    have hkept : kept = r := congrArg Prod.snd hrun
    have hrefusal := register_eq_error.mp hregister
    rw [houtcome, hkept]
    refine ⟨rfl, iff_of_false nofun fun h => ?_, nofun, fun _ _ => rfl, fun e' => ?_, hstable⟩
    · cases hrefusal.symm.trans (hnone.mpr h)
    · rw [← refusal?_eq_some_iff, hrefusal, Except.error.injEq, Option.some.injEq]

/-- Two keywords, the second of which joins queries already: neither is registered, and the one that has a factory
keeps it. -/
theorem register_all_or_none_taken :
    let join := Factory.binary fun _ left right => .ok (.join .and left right)
    let wrap := Factory.unary (fun _ q => .ok (.not q)) (fun _ q => .done (.not q))
    let r := Registry.empty.insert "near" join
    (registering ["without", "near"] wrap).run r = (.error (.duplicate "near"), r) ∧
      (r.keptAfter [(["without", "near"], wrap), (["without"], wrap)]).get? "near" = some join := by
  intro join wrap r
  obtain ⟨_, _, _, hkept, hoffends, hstable⟩ := register_all_or_none r ["without", "near"] wrap
  have hnear : r.get? "near" = some join := by rw [get?_insert, if_pos rfl]
  have hwithout : r.get? "without" = none := by rw [get?_insert, if_neg (by decide), get?_empty]
  have hfirst : r.OffendsFirstAt [] ["without", "near"] 1 (.duplicate "near") := by
    refine offendsFirstAt_succ_iff.mpr ⟨not_offends_iff.mpr ⟨by decide, hwithout, by decide⟩, ?_⟩
    exact offendsFirstAt_zero_iff.mpr (.duplicate (by decide) (.inl ⟨join, hnear⟩))
  have houtcome := (hoffends (.duplicate "near")).mpr ⟨1, hfirst⟩
  exact ⟨Prod.ext houtcome (hkept _ houtcome), hstable _ _ _ hnear⟩

end Registry

end MapQuery

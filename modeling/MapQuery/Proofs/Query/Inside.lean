import MapQuery.Query.Evaluate

/-!
# The search for what is inside a rectangle

The search goes from a primitive to what it lists, and keeps the relations that have been entered as its
state. Here is what one step of it does, and that a search which comes to an end leaves the state as it
found it.

* `Among` — some or every element has a property; `run_quantified` finds out which.
* `run_isInside_succ` — one step of the search.
* `restores_isInside` — the state after a search is the state before it.
-/

namespace MapQuery

/-! ### Some or every element -/

/-- Some or every element of a list has a property. -/
def Among {A : Type} (all : Bool) (l : List A) (S : A → Prop) : Prop :=
  if all then ∀ a ∈ l, S a else ∃ a ∈ l, S a

section

variable {A B T : Type} {all : Bool} {l : List A} {S : A → Prop} {f : A → StateT T Option Bool}

theorem among_map {g : B → A} {l : List B} : Among all (l.map g) S ↔ Among all l fun b => S (g b) := by
  cases all with
  | true => exact List.forall_mem_map
  | false =>
    constructor
    · rintro ⟨_, ha, hS⟩
      obtain ⟨b, hb, rfl⟩ := List.mem_map.mp ha
      exact ⟨b, hb, hS⟩
    · rintro ⟨b, hb, hS⟩
      exact ⟨g b, List.mem_map_of_mem hb, hS⟩

theorem run_quantified_nil (s : T) : (quantified all [] f).run s = some (all, s) := by
  cases all <;> rfl

/-- The elements are asked as long as the answer is the one that leaves the question open. -/
theorem run_quantified_cons (a : A) (l : List A) (s : T) :
    (quantified all (a :: l) f).run s =
      (f a).run s >>= fun r => if r.1 = all then (quantified all l f).run r.2 else some r := by
  cases all with
  | true =>
    show ((f a).run s >>= fun r => StateT.run (match r.1 with | true => _ | false => _) r.2) = _
    refine congrArg _ (funext fun (b, s') => ?_)
    cases b <;> rfl
  | false =>
    show ((f a).run s >>= fun r => StateT.run (match r.1 with | true => _ | false => _) r.2) = _
    refine congrArg _ (funext fun (b, s') => ?_)
    cases b <;> rfl

/-- Where each element is decided and leaves the state as it is, so it is with some or all of them. -/
theorem run_quantified (all : Bool) {s : T}
    (h : ∀ a ∈ l, ∃ b, (f a).run s = some (b, s) ∧ (b = true ↔ S a)) :
    ∃ b, (quantified all l f).run s = some (b, s) ∧ (b = true ↔ Among all l S) := by
  induction l with
  | nil =>
    refine ⟨all, run_quantified_nil s, ?_⟩
    cases all <;> simp [Among]
  | cons a l ih =>
    obtain ⟨b, hrun, hb⟩ := h a List.mem_cons_self
    obtain ⟨c, hrest, hc⟩ := ih fun a' ha' => h a' (List.mem_cons_of_mem _ ha')
    rw [run_quantified_cons, hrun]
    show ∃ b', (if b = all then _ else _) = _ ∧ _
    by_cases hall : b = all
    · refine ⟨c, by rw [if_pos hall, hrest], ?_⟩
      subst hall
      cases b <;> simp_all [Among]
    · refine ⟨b, by rw [if_neg hall], ?_⟩
      cases all <;> cases b <;> simp_all [Among]

theorem restores_quantified (h : ∀ a s b s', (f a).run s = some (b, s') → s' = s) {s s' : T} {b : Bool}
    (hrun : (quantified all l f).run s = some (b, s')) : s' = s := by
  induction l generalizing s with
  | nil =>
    rw [run_quantified_nil] at hrun
    cases hrun
    rfl
  | cons a l ih =>
    rw [run_quantified_cons] at hrun
    obtain ⟨⟨c, s₁⟩, hfirst, hrest⟩ := Option.bind_eq_some_iff.mp hrun
    have hs₁ := h a s c s₁ hfirst
    dsimp only at hrest
    split at hrest
    · rw [ih hrest, hs₁]
    · cases hrest
      exact hs₁

end

/-! ### The search -/

section

variable {P : Type} [Primitive P]

open Primitive

/-- One step of the search. -/
theorem run_isInside_succ (rectangle : Option Bounds) (all : Bool) (fuel : Nat) (p : P)
    (path : List Id) :
    (isInside rectangle all (fuel + 1) p).run path =
      if (profile p).isUsable then
        match kind p with
        | .node =>
          some (match (profile p).coordinate, rectangle with
            | some c, some b => b.contains c
            | _, _ => false, path)
        | .way => (quantified all (wayNodes p) (isInside rectangle all fuel)).run path
        | .relation =>
          if path.contains (Primitive.id p) then some (false, path)
          else
            ((quantified all (members p) fun m => isInside rectangle all fuel m.2).run
              (Primitive.id p :: path)).map fun r => (r.1, r.2.tail)
      else some (false, path) := by
  rw [isInside.eq_def]
  dsimp only
  cases (profile p).isUsable with
  | false => rfl
  | true =>
    generalize kind p = k
    cases k with
    | node =>
      generalize (profile p).coordinate = coordinate
      cases coordinate <;> cases rectangle <;> rfl
    | way => rfl
    | relation =>
      show StateT.run (ite (path.contains (Primitive.id p) = true) _ _) path = ite _ _ _
      split
      · rfl
      · show Option.bind ((quantified all (members p) fun m => isInside rectangle all fuel m.2).run
          (Primitive.id p :: path)) (fun r => some (r.1, r.2.tail)) = _
        cases (quantified all (members p) fun m => isInside rectangle all fuel m.2).run
          (Primitive.id p :: path) <;> rfl

/-- A search that comes to an end leaves its state as it found it, whatever has been entered before, and
however far it has gone. -/
theorem restores_isInside (rectangle : Option Bounds) (all : Bool) (fuel : Nat) (p : P)
    (path : List Id) (b : Bool) (path' : List Id)
    (h : (isInside rectangle all fuel p).run path = some (b, path')) : path' = path := by
  induction fuel generalizing p path b path' with
  | zero => cases h
  | succ fuel ih =>
    rw [run_isInside_succ] at h
    split at h
    · split at h
      · cases h
        rfl
      · exact restores_quantified ih h
      · split at h
        · cases h
          rfl
        · obtain ⟨⟨c, s⟩, hrun, hs⟩ := Option.map_eq_some_iff.mp h
          cases hs
          have htail := restores_quantified (fun (m : String × P) => ih m.2) hrun
          rw [htail, List.tail_cons]
    · cases h
      rfl

end

end MapQuery

import MapQuery.Pattern.Basic

/-!
# Syntax trees without their places

The places in a tree are for the reports on faults only. Trees that are the same without their places nest equally
deep and mean the same.

* `Node.bare`, `ClassSet.bare` — a tree without the places of its parts.
* `Node.isSome_tooDeep?_bare` — whether a tree is nested too deep does not depend on them.
* `SameValue` — results that agree but for the places of faults.
* `Node.sameValue_meaning` — the meaning of a tree does not depend on the places of its parts.
-/

namespace MapQuery.Pattern

/-! ### Trees -/

/-- A literal without its place. -/
def Literal.bare (l : Literal) : Literal :=
  { l with extent := default }

/-- A set named by a letter, without its place. -/
def LetterClass.bare (c : LetterClass) : LetterClass :=
  { c with extent := default }

/-- A set named by a property, without its place. -/
def PropertyClass.bare (c : PropertyClass) : PropertyClass :=
  { c with extent := default }

/-- A set of ASCII characters, without its place. -/
def AsciiClass.bare (c : AsciiClass) : AsciiClass :=
  { c with extent := default }

namespace ClassSet

mutual

/-- A set without the places of its parts. -/
def bare : ClassSet → ClassSet
  | empty _ => empty default
  | literal l => literal l.bare
  | range first last => range first.bare last.bare
  | ascii c => ascii c.bare
  | property c => property c.bare
  | letter c => letter c.bare
  | bracketed _ negated set => bracketed default negated (bare set)
  | union _ items => union default (allBare items)
  | operation _ o left right => operation default o (bare left) (bare right)

/-- Several sets without the places of their parts. -/
def allBare : List ClassSet → List ClassSet
  | [] => []
  | s :: ss => bare s :: allBare ss

end

theorem allBare_eq (l : List ClassSet) : allBare l = l.map bare := by
  induction l with
  | nil => rfl
  | cons s ss ih => rw [allBare, ih, List.map_cons]

end ClassSet

namespace Node

mutual

/-- A tree without the places of its parts. -/
def bare : Node → Node
  | empty _ => empty default
  | flags _ items => flags default items
  | literal l => literal l.bare
  | dot _ => dot default
  | assertion _ a => assertion default a
  | property c => property c.bare
  | letter c => letter c.bare
  | bracketed _ negated set => bracketed default negated set.bare
  | repetition _ least most body => repetition default least most (bare body)
  | group _ own body => group default own (bare body)
  | alternation _ branches => alternation default (allBare branches)
  | concat _ parts => concat default (allBare parts)

/-- Several trees without the places of their parts. -/
def allBare : List Node → List Node
  | [] => []
  | n :: ns => bare n :: allBare ns

end

theorem allBare_eq (l : List Node) : allBare l = l.map bare := by
  induction l with
  | nil => rfl
  | cons n ns ih => rw [allBare, ih, List.map_cons]

end Node

/-! ### Nesting -/

theorem isSome_orElse {A : Type} (o : Option A) (other : Unit → Option A) :
    (o.orElse other).isSome = (o.isSome || (other ()).isSome) := by
  cases o <;> rfl

namespace ClassSet

mutual

/-- Whether a set is nested too deep does not depend on the places of its parts. -/
theorem isSome_tooDeep?_bare (depth : Nat) : ∀ s : ClassSet,
    (tooDeep? depth s.bare).isSome = (tooDeep? depth s).isSome
  | empty _ => rfl
  | literal _ => rfl
  | range _ _ => rfl
  | ascii _ => rfl
  | property _ => rfl
  | letter _ => rfl
  | bracketed _ _ set => by
    unfold bare tooDeep?
    split
    · exact isSome_tooDeep?_bare (depth + 1) set
    · rfl
  | union _ items => by
    unfold bare tooDeep?
    split
    · exact isSome_anyTooDeep?_allBare (depth + 1) items
    · rfl
  | operation _ _ left right => by
    unfold bare tooDeep?
    split
    · rw [isSome_orElse, isSome_orElse, isSome_tooDeep?_bare (depth + 1) left,
        isSome_tooDeep?_bare (depth + 1) right]
    · rfl

theorem isSome_anyTooDeep?_allBare (depth : Nat) : ∀ l : List ClassSet,
    (anyTooDeep? depth (allBare l)).isSome = (anyTooDeep? depth l).isSome
  | [] => rfl
  | s :: ss => by
    unfold allBare anyTooDeep?
    rw [isSome_orElse, isSome_orElse, isSome_tooDeep?_bare depth s, isSome_anyTooDeep?_allBare depth ss]

end

end ClassSet

namespace Node

mutual

/-- Whether a tree is nested too deep does not depend on the places of its parts. -/
theorem isSome_tooDeep?_bare (depth : Nat) : ∀ n : Node, (tooDeep? depth n.bare).isSome = (tooDeep? depth n).isSome
  | empty _ => rfl
  | flags _ _ => rfl
  | literal _ => rfl
  | dot _ => rfl
  | assertion _ _ => rfl
  | property _ => rfl
  | letter _ => rfl
  | bracketed _ _ set => by
    unfold bare tooDeep?
    split
    · exact set.isSome_tooDeep?_bare (depth + 1)
    · rfl
  | repetition _ _ _ body => by
    unfold bare tooDeep?
    split
    · exact isSome_tooDeep?_bare (depth + 1) body
    · rfl
  | group _ _ body => by
    unfold bare tooDeep?
    split
    · exact isSome_tooDeep?_bare (depth + 1) body
    · rfl
  | alternation _ branches => by
    unfold bare tooDeep?
    split
    · exact isSome_anyTooDeep?_allBare (depth + 1) branches
    · rfl
  | concat _ parts => by
    unfold bare tooDeep?
    split
    · exact isSome_anyTooDeep?_allBare (depth + 1) parts
    · rfl

theorem isSome_anyTooDeep?_allBare (depth : Nat) : ∀ l : List Node,
    (anyTooDeep? depth (allBare l)).isSome = (anyTooDeep? depth l).isSome
  | [] => rfl
  | n :: ns => by
    unfold allBare anyTooDeep?
    rw [isSome_orElse, isSome_orElse, isSome_tooDeep?_bare depth n, isSome_anyTooDeep?_allBare depth ns]

end

end Node

/-! ### Meaning -/

section

variable {A B : Type} {x y : Except Located A} {f g : A → Except Located B}

/-- The same value comes out, or something is wrong in both. -/
def SameValue (x y : Except Located A) : Prop :=
  x.toOption = y.toOption

theorem SameValue.bind (h : SameValue x y) (hf : ∀ a, SameValue (f a) (g a)) : SameValue (x >>= f) (y >>= g) := by
  unfold SameValue at h
  cases x with
  | error e =>
    cases y with
    | error e' => rfl
    | ok a => cases h
  | ok a =>
    cases y with
    | error e' => cases h
    | ok b =>
      cases h
      exact hf a

theorem SameValue.refl (x : Except Located A) : SameValue x x := rfl

end

namespace Settings

/-- Only what is wrong with a set has a place. -/
theorem sameValue_finish (s : Settings) (e e' : Extent) (negated : Bool) (r : Character.Ranges) :
    SameValue (s.finish e negated r) (s.finish e' negated r) := by
  unfold finish
  dsimp only
  split
  · rfl
  · split <;> rfl

end Settings

theorem LetterClass.sameValue_members (c : LetterClass) (s : Settings) :
    SameValue (c.bare.members s) (c.members s) := by
  unfold members bare
  split
  · rfl
  · split <;> rfl

theorem PropertyClass.sameValue_members (c : PropertyClass) (s : Settings) :
    SameValue (c.bare.members s) (c.members s) := by
  obtain ⟨extent, negated, name⟩ := c
  unfold members bare
  dsimp only
  split
  · rfl
  · split
    · exact s.sameValue_finish _ _ _ _
    · rfl
    · rfl

theorem sameValue_dotMembers (s : Settings) (e e' : Extent) : SameValue (dotMembers s e) (dotMembers s e') := by
  unfold dotMembers
  split <;> rfl

theorem Literal.sameValue_number (l : Literal) (s : Settings) : SameValue (l.bare.number s) (l.number s) := by
  unfold number bare
  dsimp only
  split
  · rfl
  · split <;> rfl

theorem Literal.sameValue_members (l : Literal) (s : Settings) : SameValue (l.bare.members s) (l.members s) := by
  unfold members bare
  dsimp only
  split <;> rfl

namespace ClassSet

mutual

/-- The characters of a set do not depend on the places of its parts. -/
theorem sameValue_members (s : Settings) : ∀ set : ClassSet, SameValue (members s set.bare) (members s set)
  | empty _ => rfl
  | literal l => (l.sameValue_number s).bind fun _ => rfl
  | range first last => (first.sameValue_number s).bind fun _ => (last.sameValue_number s).bind fun _ => rfl
  | ascii _ => s.sameValue_finish _ _ _ _
  | property c => c.sameValue_members s
  | letter c => c.sameValue_members s
  | bracketed _ _ set => (sameValue_members s set).bind fun _ => s.sameValue_finish _ _ _ _
  | union _ items => (sameValue_allMembers s items).bind fun _ => rfl
  | operation _ _ left right => (sameValue_members s left).bind fun _ => (sameValue_members s right).bind fun _ => rfl

theorem sameValue_allMembers (s : Settings) : ∀ l : List ClassSet,
    SameValue (allMembers s (allBare l)) (allMembers s l)
  | [] => rfl
  | set :: sets => (sameValue_members s set).bind fun _ => (sameValue_allMembers s sets).bind fun _ => rfl

end

end ClassSet

namespace Node

mutual

/-- The meaning of a tree does not depend on the places of its parts. -/
theorem sameValue_meaning : ∀ (n : Node) (s : Settings), SameValue (meaning n.bare s) (meaning n s)
  | empty _, _ => rfl
  | flags _ _, _ => rfl
  | literal l, s => (l.sameValue_members s).bind fun _ => rfl
  | dot _, s => (sameValue_dotMembers s _ _).bind fun _ => rfl
  | assertion _ _, _ => rfl
  | property c, s => (c.sameValue_members s).bind fun _ => rfl
  | letter c, s => (c.sameValue_members s).bind fun _ => rfl
  | bracketed _ _ set, s =>
    (set.sameValue_members s).bind fun _ => (s.sameValue_finish _ _ _ _).bind fun _ => rfl
  | repetition _ _ _ body, s => (sameValue_meaning body s).bind fun _ => rfl
  | group _ none body, s => (sameValue_meaning body s).bind fun _ => rfl
  | group _ (some items) body, s => (sameValue_meaning body (s.apply items)).bind fun _ => rfl
  | alternation _ branches, s => (sameValue_meanings branches s).bind fun _ => rfl
  | concat _ parts, s => (sameValue_meanings parts s).bind fun _ => rfl

theorem sameValue_meanings : ∀ (l : List Node) (s : Settings), SameValue (meanings (allBare l) s) (meanings l s)
  | [], _ => rfl
  | n :: ns, s => (sameValue_meaning n s).bind fun first => (sameValue_meanings ns first.2).bind fun _ => rfl

end

end Node

end MapQuery.Pattern

import MapQuery.Query.Basic

/-!
# Evaluating queries

Whether a primitive matches a query. Every query has an answer on every primitive: a condition that
does not apply to a primitive does not hold of it.

* `TagMatch.holds`, `ValueSearch.holds`, `ValueComparison.holds`, `TextSearch.holds` — conditions on
  tags and text.
* `hasRoleIn`, `measure`, `isNth`, `State.holds`, `isInArea` — the other conditions.
* `Query.satisfied` — the meaning of a query, operand by operand.
* `Query.walk` — the same answer along the right operands, with the negations met so far carried
  along.
* `Query.holds` — whether a primitive matches, by `walk`.
-/

namespace MapQuery

/-! ### Tags and text -/

/-- Whether tags meet a condition on a key and a value. -/
def TagMatch.holds (m : TagMatch) (tags : Tags) : Bool :=
  if tags.isEmpty then m.mode ∈ [.noTags, .any, .missingKey, .missingKeyRegex]
  else
    match m.mode with
    | .noTags => false
    | .any => true
    | .missingKey => (tags.get? m.key).all (· = "")
    | .anyValue => (tags.get? m.key).isSome
    | .anyKey => tags.values.any (· = m.value)
    | .exact => tags.get? m.key = some m.value
    | .anyKeyRegex => m.valuePattern.any fun p => tags.values.any p.holds
    | .anyValueRegex => m.keyPattern.any fun p => tags.keys.any p.holds
    | .exactRegex =>
      m.keyPattern.any fun p => m.valuePattern.any fun q =>
        tags.toList.any fun (key, value) => p.holds key && q.holds value
    | .missingKeyRegex => m.keyPattern.any fun p => !tags.keys.any p.holds

/-- The value of a key. Without such a key, and if letters match in any case, the value of the first
key that differs in the case of its letters only. -/
def Tags.find? (tags : Tags) (key : String) (caseSensitive : Bool) : Option String :=
  match tags.get? key with
  | some value => some value
  | none =>
    if caseSensitive then none
    else (tags.toList.find? fun (other, _) => Ascii.same other key).map Prod.snd

/-- A text holds another one that is in its normal form. -/
def holdsNeedle (caseSensitive : Bool) (needle text : String) : Bool :=
  Text.occursIn needle.toList (Text.normalize caseSensitive text.toList)

/-- Whether a primitive has a key whose value holds a text. The key `timestamp` stands for the time of
the last change, not for a tag, unless key and value are patterns. -/
def ValueSearch.holds (m : ValueSearch) (p : Profile) : Bool :=
  match m.patterns with
  | some (keyPattern, valuePattern) =>
    p.tags.toList.any fun (key, value) => keyPattern.holds key && valuePattern.holds value
  | none =>
    let value :=
      if m.key = "timestamp" then p.timestamp.map Instant.shown
      else p.tags.find? m.key m.caseSensitive
    value.any (holdsNeedle m.caseSensitive m.needle)

/-- Whether a key has a value below or above another one. -/
def ValueComparison.holds (m : ValueComparison) (tags : Tags) : Bool :=
  match tags.get? m.key with
  | none => false
  | some value =>
    let order := Double.compareTexts value m.reference m.number
    match m.comparison with
    | .less => order.isLT
    | .greater => order.isGT

/-- Whether one text holds what is searched for. -/
def TextSearch.found (m : TextSearch) (candidate : String) : Bool :=
  match m.pattern with
  | some pattern => pattern.holds (Text.normal true candidate)
  | none => holdsNeedle m.caseSensitive m.search candidate

/-- Whether a text occurs in a key, in a value or in the name of the user. Where there is no such text,
only the empty one occurs. -/
def TextSearch.holds (m : TextSearch) (p : Profile) : Bool :=
  if p.tags.isEmpty && p.user.isNone then m.search = ""
  else p.tags.toList.any (fun (key, value) => m.found key || m.found value) || p.user.any m.found

/-! ### Neighbours, numbers and states -/

section

variable {P : Type} [Primitive P]

open Primitive

/-- Some relation, neither deleted nor incomplete, lists the primitive in a role. -/
def hasRoleIn (role : String) (p : P) : Bool :=
  (referrers p).any fun r =>
    kind r = .relation && !(profile r).isIncomplete && !(profile r).isDeleted &&
      (members r).any fun m => Primitive.id m.2 = Primitive.id p && m.1 = role

/-- The number of members of a kind. -/
def countMembers (k : Kind) (p : P) : Int :=
  (members p).countP fun m => kind m.2 = k

/-- The number of nodes of a way. The node at which a way closes counts once. -/
def countNodes (p : P) : Int :=
  let count := (wayNodes p).length
  if 1 < count && isClosed p then count - 1 else count

/-- A number of a primitive, if it has one. -/
def measure (property : Property) (p : P) : Option Int :=
  match property with
  | .id => some (if (profile p).isNew then 0 else (Primitive.id p).number)
  | .version => some (profile p).version
  | .changeset => some (profile p).changeset
  | .nodes =>
    match kind p with
    | .node => none
    | .way => some (countNodes p)
    | .relation => some (countMembers .node p)
  | .ways =>
    match kind p with
    | .node => some ((referrers p).countP fun r => kind r = .way)
    | .way => none
    | .relation => some (countMembers .way p)
  | .members => if kind p = .relation then some (members p).length else none
  | .tags => some (profile p).tags.size
  | .areaSize => (area p).map fun a => Double.toWhole a.abs
  | .wayLength => if kind p = .way then (length p).map Double.toWhole else none
  | .timestamp => (profile p).timestamp.map Instant.millis

/-- Whether the element at `index`, counted from zero, of `count` elements is the one asked for. -/
def isAt (position : Int) (modulo : Bool) (index count : Nat) : Bool :=
  if modulo then 0 < position && (index + 1) % position = 0
  else if position < 0 then (index : Int) = count + position
  else (index + 1 : Int) = position

/-- Whether the primitive first stands at a position in what some way or relation lists. -/
def isNth (position : Int) (modulo : Bool) (p : P) : Bool :=
  (referrers p).any fun r =>
    let ids := (children r).map Primitive.id
    match ids.idxOf? (Primitive.id p) with
    | some index => isAt position modulo index ids.length
    | none => false

/-- Whether a primitive is in a state. -/
def State.holds (s : State) (p : P) : Bool :=
  match s with
  | .new => (profile p).isNew
  | .modified => (profile p).isModified || (profile p).isNewOrUndeleted
  | .deleted => (profile p).isDeleted
  | .selected => (profile p).isSelected
  | .incomplete => (profile p).isIncomplete || (kind p = .relation && hasIncompleteMembers p)
  | .untagged => !isTagged p && !(profile p).isIncomplete
  | .closed => kind p = .way && isClosed p

/-- Some or all elements of a list have a property. The elements are asked one after the other, as long
as the answer is open. -/
def quantified {A : Type} {m : Type → Type} [Monad m] (all : Bool) (l : List A) (f : A → m Bool) :
    m Bool :=
  if all then l.allM f else l.anyM f

/-- Whether a primitive, or some or all of what it lists, is in a rectangle. The state holds the relations
that have been entered and not left, the last one first; a relation that lists itself in the end is not
inside. Every step that is not the last one leads to the nodes of a way or enters a relation, so that
`fuel` need not exceed the number of primitives by more than three. -/
def isInside (rectangle : Option Bounds) (all : Bool) : (fuel : Nat) → P → StateT (List Id) Option Bool
  | 0, _ => failure
  | fuel + 1, p => do
    if !(profile p).isUsable then return false
    match kind p with
    | .node =>
      match (profile p).coordinate, rectangle with
      | some c, some b => return b.contains c
      | _, _ => return false
    | .way => quantified all (wayNodes p) (isInside rectangle all fuel)
    | .relation =>
      if (← get).contains (Primitive.id p) then return false
      modify (Primitive.id p :: ·)
      let answer ← quantified all (members p) fun m => isInside rectangle all fuel m.2
      modify List.tail
      return answer

/-- Whether a primitive, or some or all of what it lists, is in one of the rectangles. -/
def isInArea (area : Area) (all : Bool) (areas : Areas) (p : P) : Bool :=
  ((isInside (areas.get? area) all (population p + 3) p).run []).any Prod.fst

/-- The answer of a key with a spelling of true or false. -/
def truth (dflt : Bool) : Option String → Bool
  | some value => if Text.isTrue value then true else if Text.isFalse value then false else dflt
  | none => dflt

/-! ### Queries -/

namespace Query

/-- Whether a query without queries inside holds. -/
def leafHolds (q : Query) (p : P) : Bool :=
  match q with
  | always => true
  | never => false
  | booleanTag key dflt => truth dflt ((profile p).tags.get? key)
  | tag m => m.holds (profile p).tags
  | value m => m.holds (profile p)
  | comparison m => m.holds (profile p).tags
  | text m => m.holds (profile p)
  | kind k => Primitive.kind p = k
  | user name => (profile p).user = name
  | role r => hasRoleIn r p
  | hasRole r => Primitive.kind p = .relation && (members p).any fun m => m.1 = r
  | range property r => (measure property p).any r.contains
  | nth position modulo => isNth position modulo p
  | state s => s.holds p
  | inArea area all areas => isInArea area all areas p
  | custom c => c.holds (.of p)
  | not _ | join _ _ _ | parent _ | child _ => false

/-- The meaning of a query. -/
def satisfied : Query → P → Bool
  | not q, p => !q.satisfied p
  | join o left right, p => o.apply (left.satisfied p) (right.satisfied p)
  | parent q, p => (children p).any q.satisfied
  | child q, p => (referrers p).any q.satisfied
  | q, p => q.leafHolds p

/-- Whether a primitive matches, or does not match if `flip` is set. The left operand decides whether
the right one has to be looked at. -/
def walk : Query → (flip : Bool) → P → Bool
  | not q, flip, p => q.walk (!flip) p
  | join .and left right, flip, p => if left.walk false p then right.walk flip p else flip
  | join .or left right, flip, p => if left.walk false p then !flip else right.walk flip p
  | join .xor left right, flip, p => right.walk (flip ^^ left.walk false p) p
  | parent q, flip, p => flip ^^ (children p).any (q.walk false)
  | child q, flip, p => flip ^^ (referrers p).any (q.walk false)
  | q, flip, p => flip ^^ q.leafHolds p

/-- Whether a primitive matches a query. -/
def holds (q : Query) (p : P) : Bool :=
  q.walk false p

end Query

end

end MapQuery

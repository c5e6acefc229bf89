import MapQuery.Proofs.Pattern.Parts

/-!
# Sets inside of a group

Brackets close on their own: what stands behind the pattern is never read as part of a set, for a set that
is not closed before the end is refused.

* `Members.Alike` — the same members, at other places.
* `asciiClass?_around` — a named set of ASCII characters is found in both or in neither.
* `Follows.members_cons` — what the next sign begins in a set.
* `Follows.members`, `Follows.bracketed` — a set up to its closing bracket, and the whole of it.
-/

namespace MapQuery.Pattern

variable {pattern : List Char} {s s' : Source} {c : Char} {cs : List Char} {n n' k : Nat} {m m' : Members}

/-! ### Members -/

namespace Members

/-- The same has been read of a set, at other places. -/
structure Alike (m m' : Members) : Prop where
  pending : (m.pending.map fun p => (p.1, p.2.bare)) = m'.pending.map fun p => (p.1, p.2.bare)
  items : m.items.map ClassSet.bare = m'.items.map ClassSet.bare

theorem alike_none (p p' : Place) : Alike (none .none p) (none .none p') :=
  ⟨rfl, rfl⟩

namespace Alike

theorem push (h : Alike m m') {item item' : ClassSet} (hitem : item.bare = item'.bare) :
    Alike (m.push item) (m'.push item') := by
  refine ⟨h.pending, ?_⟩
  show item.bare :: m.items.map ClassSet.bare = item'.bare :: m'.items.map ClassSet.bare
  rw [hitem, h.items]

theorem isEmpty_eq (h : Alike m m') : m'.items.isEmpty = m.items.isEmpty := by
  have hitems := congrArg List.isEmpty h.items
  rwa [List.isEmpty_map, List.isEmpty_map, eq_comm] at hitems

theorem last (h : Alike m m') : m.last.bare = m'.last.bare := by
  obtain ⟨pending, extent, items⟩ := m
  obtain ⟨pending', extent', items'⟩ := m'
  have hitems : items.map ClassSet.bare = items'.map ClassSet.bare := h.items
  have hlength : items.length = items'.length := by
    rw [← List.length_map ClassSet.bare, hitems, List.length_map]
  unfold Members.last
  match items, items', hitems, hlength with
  | [], [], _, _ => rfl
  | [item], [item'], hitems, _ => exact (List.cons.inj hitems).1
  | a :: b :: rest, a' :: b' :: rest', hitems, _ =>
    show ClassSet.union _ (ClassSet.allBare _) = ClassSet.union _ (ClassSet.allBare _)
    rw [ClassSet.allBare_eq, ClassSet.allBare_eq, List.map_reverse, List.map_reverse, hitems]

theorem value (h : Alike m m') : m.value.bare = m'.value.bare := by
  have hlast := h.last
  have hpending := h.pending
  unfold Members.value
  match m.pending, m'.pending, hpending with
  | .none, .none, _ => exact hlast
  | some (o, left), some (o', left'), hpending =>
    obtain ⟨ho, hleft⟩ : o = o' ∧ left.bare = left'.bare := Prod.mk.inj (Option.some.inj hpending)
    show ClassSet.operation _ o left.bare m.last.bare = ClassSet.operation _ o' left'.bare m'.last.bare
    rw [ho, hleft, hlast]

/-- The members so far become the first operand of an operation. -/
theorem operated (h : Alike m m') (o : SetOperation) (p p' : Place) :
    Alike (none (some (o, m.value)) p) (none (some (o, m'.value)) p') := by
  refine ⟨?_, rfl⟩
  show some (o, m.value.bare) = some (o, m'.value.bare)
  rw [h.value]

end Alike

end Members

/-! ### Named sets of ASCII characters -/

theorem length_foldl_bump_take (hs : s.rest = c :: cs) (width : Nat) (hwidth : width ≠ 0) :
    ((s.rest.take width).foldl (fun s _ => s.bump) s).rest.length ≤ cs.length := by
  obtain ⟨width, rfl⟩ := Nat.exists_eq_succ_of_ne_zero hwidth
  rw [hs, List.take_succ_cons, List.foldl_cons]
  have hle := s.bump.length_foldl_bump (cs.take width)
  rwa [Source.rest_bump hs] at hle

/-- The name before a colon and a closing bracket. -/
def asciiName? (cs : List Char) : Option (List Char) :=
  let name := cs.takeWhile (· != ':')
  if [':', ']'].isPrefixOf (cs.drop name.length) then some name else none

/-- The name of a set of ASCII characters that a text begins with, and whether its complement is meant. -/
def asciiHead? (cs : List Char) : Option (Bool × List Char) :=
  if ['[', ':', '^'].isPrefixOf cs then (asciiName? (cs.drop 3)).map (true, ·)
  else if ['[', ':'].isPrefixOf cs then (asciiName? (cs.drop 2)).map (false, ·)
  else none

/-- The number of characters of a named set with its brackets. -/
def asciiWidth (negated : Bool) (name : List Char) : Nat :=
  name.length + if negated then 5 else 4

/-- A named set, and what is left after it. -/
def asciiItem (s : Source) (negated : Bool) (width : Nat) (ranges : List (Nat × Nat)) : ClassSet × Source :=
  let after := (s.rest.take width).foldl (fun s _ => s.bump) s
  (.ascii ⟨⟨s.place, after.place⟩, negated, ranges⟩, after)

theorem asciiName?_cons (hc : c ≠ ':') (cs : List Char) : asciiName? (c :: cs) = (asciiName? cs).map (c :: ·) := by
  have htake : (c :: cs).takeWhile (· != ':') = c :: cs.takeWhile (· != ':') := by
    rw [List.takeWhile_cons, if_pos (bne_iff_ne.mpr hc)]
  unfold asciiName?
  rw [htake]
  dsimp only
  rw [List.length_cons, List.drop_succ_cons]
  split <;> rfl

theorem asciiName?_append (cs : List Char) : asciiName? (cs ++ ending) = asciiName? cs := by
  induction cs with
  | nil => rfl
  | cons c cs ih =>
    by_cases hc : c = ':'
    · subst hc
      cases cs <;> rfl
    · rw [List.cons_append, asciiName?_cons hc, asciiName?_cons hc, ih]

theorem length_of_asciiName? {name : List Char} (h : asciiName? cs = some name) : name.length + 2 ≤ cs.length := by
  unfold asciiName? at h
  dsimp only at h
  split at h
  · next hbegins =>
    cases h
    have hle := (List.isPrefixOf_iff_prefix.mp hbegins).length_le
    have hnameLe := (List.takeWhile_prefix (l := cs) (· != ':')).length_le
    rw [List.length_drop] at hle
    show _ + [':', ']'].length ≤ _
    omega
  · cases h

theorem asciiHead?_append (cs : List Char) : asciiHead? (cs ++ ending) = asciiHead? cs := by
  unfold asciiHead?
  rw [isPrefixOf_append_ending (by decide), isPrefixOf_append_ending (by decide)]
  split
  · next hbegins =>
    have hle : 3 ≤ cs.length := (List.isPrefixOf_iff_prefix.mp hbegins).length_le
    rw [List.drop_append_of_le_length hle, asciiName?_append]
  · split
    · next hbegins =>
      have hle : 2 ≤ cs.length := (List.isPrefixOf_iff_prefix.mp hbegins).length_le
      rw [List.drop_append_of_le_length hle, asciiName?_append]
    · rfl

theorem length_of_asciiHead? {negated : Bool} {name : List Char} (h : asciiHead? cs = some (negated, name)) :
    asciiWidth negated name ≤ cs.length := by
  unfold asciiHead? at h
  split at h
  · obtain ⟨_, hname, heq⟩ := Option.map_eq_some_iff.mp h
    cases heq
    have hle := length_of_asciiName? hname
    rw [List.length_drop] at hle
    show _ + 5 ≤ _
    omega
  · split at h
    · obtain ⟨_, hname, heq⟩ := Option.map_eq_some_iff.mp h
      cases heq
      have hle := length_of_asciiName? hname
      rw [List.length_drop] at hle
      show _ + 4 ≤ _
      omega
    · cases h

/-- The named set at the start of a source, after its opening signs. -/
def asciiBehind? (s : Source) (negated : Bool) (cs : List Char) : Option (ClassSet × Source) :=
  let name := cs.takeWhile (· != ':')
  if [':', ']'].isPrefixOf (cs.drop name.length) then
    match asciiSets.lookup (String.ofList name) with
    | some ranges =>
      let width := name.length + (if negated then 5 else 4)
      let after := (s.rest.take width).foldl (fun s _ => s.bump) s
      some (.ascii ⟨⟨s.place, after.place⟩, negated, ranges⟩, after)
    | none => none
  else none

theorem asciiBehind?_eq (s : Source) (negated : Bool) (cs : List Char) :
    asciiBehind? s negated cs = (asciiName? cs).bind fun name =>
      (asciiSets.lookup (String.ofList name)).map fun ranges =>
        asciiItem s negated (asciiWidth negated name) ranges := by
  unfold asciiBehind? asciiName?
  dsimp only
  split
  · show _ = Option.map _ (asciiSets.lookup (String.ofList (cs.takeWhile (· != ':'))))
    split
    · next ranges hlookup =>
      rw [hlookup]
      rfl
    · next hlookup =>
      rw [hlookup]
      rfl
  · rfl

theorem asciiClass?_eq (s : Source) : Read.asciiClass? s = (asciiHead? s.rest).bind fun head =>
    (asciiSets.lookup (String.ofList head.2)).map fun ranges =>
      asciiItem s head.1 (asciiWidth head.1 head.2) ranges := by
  have hname (negated : Bool) (cs : List Char) : asciiBehind? s negated cs =
      ((asciiName? cs).map (negated, ·)).bind fun head =>
        (asciiSets.lookup (String.ofList head.2)).map fun ranges =>
          asciiItem s head.1 (asciiWidth head.1 head.2) ranges := by
    rw [asciiBehind?_eq, Option.bind_map]
    rfl
  unfold Read.asciiClass? asciiHead?
  split
  · next rest hrest =>
    unfold asciiBehind? at hname
    rw [hrest] at hname ⊢
    cases rest with
    | nil => exact hname false []
    | cons c cs =>
      by_cases hc : c = '^'
      · subst hc
        exact hname true cs
      · have hcaret : ((c :: cs).head? == some '^') = false :=
          beq_eq_false_iff_ne.mpr fun heq => hc (Option.some.inj heq)
        have hbegins : ['[', ':', '^'].isPrefixOf ('[' :: ':' :: c :: cs) = false := by
          show ('^' == c && true) = false
          rw [Bool.and_true, beq_eq_false_iff_ne]
          exact fun heq => hc heq.symm
        have hopen : ['[', ':'].isPrefixOf ('[' :: ':' :: c :: cs) = true := rfl
        rw [if_neg (Bool.eq_false_iff.mp hbegins), if_pos hopen, hcaret]
        exact hname false (c :: cs)
  · next hnot =>
    have hbegins (c : List Char) : ('[' :: ':' :: c).isPrefixOf s.rest = false := by
      rw [Bool.eq_false_iff]
      intro hopen
      obtain ⟨rest, hrest⟩ := List.isPrefixOf_iff_prefix.mp hopen
      exact hnot (c ++ rest) hrest.symm
    rw [hbegins, hbegins]
    rfl

/-- A named set is found in both or in neither. -/
theorem asciiClass?_around (h : Around pattern s s') (hs : s.rest = '[' :: cs) :
    (Read.asciiClass? s = none ∧ Read.asciiClass? s' = none) ∨
      ∃ item item' after after', Read.asciiClass? s = some (item, after) ∧
        Read.asciiClass? s' = some (item', after') ∧ item.bare = item'.bare ∧ Around pattern after after' ∧
          after.rest.length ≤ cs.length := by
  have hs' : s'.rest = s.rest ++ ending := by
    rw [h.cons hs, hs, List.cons_append]
  rw [asciiClass?_eq, asciiClass?_eq, hs', asciiHead?_append]
  cases hhead : asciiHead? s.rest with
  | none => exact .inl ⟨rfl, rfl⟩
  | some head =>
    obtain ⟨negated, name⟩ := head
    dsimp only [Option.bind_some]
    cases asciiSets.lookup (String.ofList name) with
    | none => exact .inl ⟨rfl, rfl⟩
    | some ranges =>
      have hwidth := length_of_asciiHead? hhead
      have htake : s'.rest.take (asciiWidth negated name) = s.rest.take (asciiWidth negated name) := by
        rw [hs', List.take_append_of_le_length hwidth]
      refine .inr ⟨_, _, _, _, rfl, rfl, rfl, ?_, ?_⟩
      · rw [htake]
        exact h.foldl_bump (List.length_take_le' _ _)
      · refine length_foldl_bump_take hs _ ?_
        unfold asciiWidth
        split <;> omega

/-! ### Sets between brackets -/

/-- What can only stand at the start of a set, after the sign of its complement. -/
def Read.firstMembers (start : Place) (negated : Bool) : Read (Extent × Bool × Members) := do
  let m ← dashes start (.none none (← here)) (← get).rest.length
  if m.items.isEmpty && (← char?) == some ']' then
    let extent ← charExtent
    step
    if ← atEnd then
      failSince .classUnclosed start
    return (← since start, negated, m.push (.literal ⟨extent, ']', false⟩))
  return (← since start, negated, m)

theorem Read.run_dashes_of_not (h : ∀ c ∈ s.rest.head?, (c == '-') = false) (start : Place) (m : Members) (n : Nat) :
    (dashes start m n).run s = .ok (m, s) :=
  run_loop_of_not (dashes start m) rfl (fun _ => rfl) (fun _ => rfl) (fun _ _ hc => if_neg (Bool.eq_false_iff.mp hc)) h n

/-- Only the first two characters say whether an operation comes next. -/
theorem operation?_append (c : Char) (cs : List Char) :
    Read.operation? (c :: (cs ++ ending)) = Read.operation? (c :: cs) := by
  cases cs with
  | nil =>
    unfold Read.operation?
    split <;> simp_all [ending]
  | cons d ds =>
    unfold Read.operation?
    rw [List.cons_append]
    split <;> split <;> simp_all

theorem exists_of_operation? {o : SetOperation} (h : Read.operation? (c :: cs) = some o) : ∃ d ds, cs = d :: ds := by
  cases cs with
  | nil =>
    unfold Read.operation? at h
    split at h <;> simp_all
  | cons d ds => exact ⟨d, ds, rfl⟩

namespace Follows

theorem dashes (h : Around pattern s s') (hm : m.Alike m') (start start' : Place) (hn : s.rest.length ≤ n)
    (hn' : s'.rest.length ≤ n') (hk : s.rest.length ≤ k) :
    Follows pattern k s s' (Read.dashes start m n) (Read.dashes start' m' n') fun a b _ => a.Alike b := by
  have hend {s s' : Source} {m m' : Members} {n n' k : Nat} (h : Around pattern s s') (hm : m.Alike m')
      (hs : s.rest = []) (hk : s.rest.length ≤ k) :
      Follows pattern k s s' (Read.dashes start m n) (Read.dashes start' m' n') fun a b _ => a.Alike b :=
    of_run h hk (Read.run_dashes_of_not (head?_of_nil hs) _ _ _)
      (Read.run_dashes_of_not (h.head?_of_nil hs rfl) _ _ _) hm
  induction n generalizing s s' m m' n' k with
  | zero => exact hend h hm (List.eq_nil_of_length_eq_zero (Nat.le_zero.mp hn)) hk
  | succ n ih =>
    cases hs : s.rest with
    | nil => exact hend h hm hs hk
    | cons c cs =>
      obtain ⟨n', rfl, hfuel'⟩ := exists_fuel (h.cons hs) hn'
      rw [Read.dashes, Read.dashes]
      refine char? h (fun hnil => by cases hs.symm.trans hnil) fun d ds hd => ?_
      split
      · have hstep := h.step hs
        have hlength := Source.length_step hs
        have hlength' := Source.length_step (h.cons hs)
        rw [hs, List.length_cons] at hn hk
        refine charExtent (step (atEnd hstep ((Fails.failAt _ _).bind _) fun e es he => ?_))
        exact ih hstep (hm.push rfl) (by omega) (Nat.le_trans hlength' hfuel') (by omega)
      · exact pure h hk hm

/-- What has been read after an opening bracket. -/
def AlikeOpening (a b : Extent × Bool × Members) (_ : Source) : Prop :=
  a.2.1 = b.2.1 ∧ a.2.2.Alike b.2.2

theorem firstMembers (h : Around pattern s s') (start start' : Place) (negated : Bool) (hk : s.rest.length ≤ k) :
    Follows pattern k s s' (Read.firstMembers start negated) (Read.firstMembers start' negated) AlikeOpening := by
  unfold Read.firstMembers
  refine here (get ?_)
  refine bind (dashes h (Members.alike_none _ _) start start' (Nat.le_refl _) (Nat.le_refl _) hk) ?_
  intro m m' t t' ht hlt hm
  have hclose : (t'.rest.head? == some ']') = (t.rest.head? == some ']') := ht.head?_beq (by decide)
  show Follows pattern k t t' (if (m.items.isEmpty && t.rest.head? == some ']') = true then _ else _)
    (if (m'.items.isEmpty && t'.rest.head? == some ']') = true then _ else _) AlikeOpening
  rw [hm.isEmpty_eq, hclose]
  split
  · next hcond =>
    obtain ⟨ds, hd⟩ := List.head?_eq_some_iff.mp (beq_iff_eq.mp ((Bool.and_eq_true _ _).mp hcond).2)
    have hlast := Source.length_step hd
    rw [hd, List.length_cons] at hlt
    refine charExtent (step (atEnd (ht.step hd) ((Fails.failSince _ _).bind _) fun e es he => ?_))
    exact since (pure (ht.step hd) (by omega) ⟨rfl, hm.push rfl⟩)
  · exact since (pure ht hlt ⟨rfl, hm⟩)

theorem openBracket (h : Around pattern s s') (hs : s.rest = c :: cs) (hk : cs.length ≤ k) :
    Follows pattern k s s' Read.openBracket Read.openBracket AlikeOpening := by
  have hstep := h.step hs
  have hlength := Nat.le_trans (Source.length_step hs) hk
  unfold Read.openBracket
  refine here (step (atEnd hstep ((Fails.failSince _ _).bind _) fun d ds hd => ?_))
  refine char? hstep (fun hnil => by cases hd.symm.trans hnil) fun e es he => ?_
  cases hd.symm.trans he
  dsimp only
  split
  · next hcaret =>
    have hlast := Source.length_step hd
    rw [hd, List.length_cons] at hlength
    rw [hcaret]
    refine step (atEnd (hstep.step hd) ((Fails.failSince _ _).bind _) fun e es he => ?_)
    exact firstMembers (hstep.step hd) _ _ true (by omega)
  · next hcaret =>
    rw [Bool.not_eq_true] at hcaret
    rw [hcaret]
    exact firstMembers hstep _ _ false hlength

/-- With `n` and `n'` turns to go, the same members are read of what is left, which is at most `k` characters. -/
def GoOnAsMembers (pattern : List Char) (n n' k : Nat) : Prop :=
  ∀ {s s' : Source} {m m' : Members} (opening opening' : Extent), Around pattern s s' → s.rest.length ≤ k →
    m.Alike m' → Follows pattern k s s' (Read.members opening m n) (Read.members opening' m' n') AlikeSet

/-- What the next sign begins in a set. -/
theorem members_cons (h : Around pattern s s') (hs : s.skip.rest = c :: cs) (hm : m.Alike m')
    (opening opening' : Extent) (hgo : GoOnAsMembers pattern n n' cs.length) :
    Follows pattern cs.length s s' (Read.members opening m (n + 1)) (Read.members opening' m' (n' + 1))
      AlikeSet := by
  have hskip := h.skip
  have hbump := hskip.bump hs
  have hrest := Source.rest_bump hs
  rw [Read.members, Read.members]
  refine skip (get ?_)
  rw [hs, hskip.cons hs]
  dsimp only [List.head?_cons]
  split
  · next heq => cases heq
  · exact bump (pure hbump (Nat.le_of_eq (congrArg List.length hrest)) hm.value)
  · next heq =>
    cases heq
    rcases asciiClass?_around hskip hs with ⟨hnone, hnone'⟩ | hfound
    · rw [hnone, hnone']
      dsimp only
      refine bind (openBracket hskip hs (Nat.le_refl _)) ?_
      rintro ⟨inner, negated, first⟩ ⟨inner', _, first'⟩ t t' ht hlt ⟨⟨⟩, hfirst⟩
      refine bind (hgo inner inner' ht hlt hfirst) ?_
      intro nested nested' u u' hu hlu hnested
      refine since (hgo _ _ hu hlu (hm.push ?_))
      show ClassSet.bracketed default negated nested.bare = ClassSet.bracketed default negated nested'.bare
      rw [hnested]
    · obtain ⟨item, item', after, after', hitem, hitem', hbare, hafter, hlafter⟩ := hfound
      rw [hitem, hitem']
      exact set (hgo _ _ hafter hlafter (hm.push hbare))
  · rw [operation?_append]
    split
    · next o ho =>
      obtain ⟨d, ds, rfl⟩ := exists_of_operation? ho
      refine bump (bump (here (hgo _ _ (hbump.bump hrest) ?_ (hm.operated o _ _))))
      rw [Source.rest_bump hrest]
      exact Nat.le_succ _
    · refine bind (member hskip hs opening opening' (Nat.le_refl _)) ?_
      intro item item' t t' ht hlt hitem
      exact hgo _ _ ht hlt (hm.push hitem)

/-- The members of a set up to its closing bracket. The induction is on the fuel, which lasts for what is left. -/
theorem members (h : Around pattern s s') (hm : m.Alike m') (opening opening' : Extent) (hn : s.rest.length < n)
    (hn' : s'.rest.length < n') (hk : s.rest.length ≤ k) :
    Follows pattern k s s' (Read.members opening m n) (Read.members opening' m' n') AlikeSet := by
  induction n generalizing opening opening' s s' m m' n' k with
  | zero => cases hn
  | succ n ih =>
    cases n' with
    | zero => cases hn'
    | succ n' =>
      have hle := s.length_skip
      have hle' := s'.length_skip
      cases hs : s.skip.rest with
      | nil =>
        rw [Read.members, Read.members]
        refine skip (get ?_)
        rw [hs]
        exact of_fails (.failAt _ _)
      | cons c cs =>
        have hlength : s.skip.rest.length = cs.length + 1 := congrArg List.length hs
        have hgo : GoOnAsMembers pattern n n' cs.length := fun opening opening' ht hlt hm => by
          have ⟨hfuel, hfuel'⟩ : _ < n ∧ _ < n' := h.skip.lasts hs (by omega) (by omega) ht hlt
          exact ih ht hm opening opening' hfuel hfuel' hlt
        exact of_le (members_cons h hs hm opening opening' hgo) (by omega)

/-- A set with its brackets. -/
theorem bracketed (h : Around pattern s s') (hs : s.rest = c :: cs) (hk : cs.length ≤ k) :
    Follows pattern k s s' Read.bracketed Read.bracketed Alike := by
  unfold Read.bracketed
  refine bind (openBracket h hs hk) ?_
  rintro ⟨opening, negated, first⟩ ⟨opening', _, first'⟩ t t' ht hlt ⟨⟨⟩, hfirst⟩
  refine get ?_
  refine bind (members ht hfirst opening opening' (Nat.lt_succ_self _) (Nat.lt_succ_self _) hlt) ?_
  intro set set' u u' hu hlu hset
  refine since (pure hu hlu ?_)
  show Node.bracketed default negated set.bare = Node.bracketed default negated set'.bare
  rw [hset]

end Follows

end MapQuery.Pattern

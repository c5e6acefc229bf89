import MapQuery.Proofs.Pattern.Sets

/-!
# Groups and repetitions inside of a group

Where the pattern alone is read up to its end, the pattern in the group is read up to the parenthesis that
closes it, and the same tree comes out.

* `Branches.Alike` — the same has been read of a list of branches, at other places.
* `Follows.opening` — what an opening parenthesis begins.
* `Follows.repetition`, `Follows.countedRepetition` — a repetition of the part before.
* `Follows.branches_cons` — what the next sign begins; `Follows.branches` — a list of branches.
-/

namespace MapQuery.Pattern

variable {pattern : List Char} {s s' : Source} {c : Char} {cs : List Char} {n n' k : Nat} {b b' : Branches}

/-! ### Branches -/

namespace Branches

/-- The same has been read of a list of branches, at other places. -/
structure Alike (b b' : Branches) : Prop where
  done : b.done.map Node.bare = b'.done.map Node.bare
  parts : b.parts.map Node.bare = b'.parts.map Node.bare

theorem alike_none (p p' : Place) : Alike (none p) (none p') :=
  ⟨rfl, rfl⟩

namespace Alike

theorem push (h : Alike b b') {part part' : Node} (hpart : part.bare = part'.bare) :
    Alike (b.push part) (b'.push part') := by
  refine ⟨h.done, ?_⟩
  show part.bare :: b.parts.map Node.bare = part'.bare :: b'.parts.map Node.bare
  rw [hpart, h.parts]

theorem pushRepetition (h : Alike b b') {part part' : Node} (hpart : part.bare = part'.bare)
    (extent extent' : Extent) (least : Nat) (most : Option Nat) :
    Alike (b.push (.repetition extent least most part)) (b'.push (.repetition extent' least most part')) := by
  refine h.push ?_
  show Node.repetition default least most part.bare = Node.repetition default least most part'.bare
  rw [hpart]

theorem last (h : Alike b b') (p p' : Place) : (b.last p).bare = (b'.last p').bare := by
  have hparts := h.parts
  have hlength : b.parts.length = b'.parts.length := by
    rw [← List.length_map Node.bare, hparts, List.length_map]
  unfold Branches.last
  match b.parts, b'.parts, hparts, hlength with
  | [], [], _, _ => rfl
  | [part], [part'], hparts, _ => exact (List.cons.inj hparts).1
  | x :: y :: rest, x' :: y' :: rest', hparts, _ =>
    show Node.concat _ (Node.allBare _) = Node.concat _ (Node.allBare _)
    rw [Node.allBare_eq, Node.allBare_eq, List.map_reverse, List.map_reverse, hparts]

theorem bar (h : Alike b b') (p p' after after' : Place) : Alike (b.bar p after) (b'.bar p' after') := by
  refine ⟨?_, rfl⟩
  show (b.last p).bare :: b.done.map Node.bare = (b'.last p').bare :: b'.done.map Node.bare
  rw [h.last p p', h.done]

theorem value (h : Alike b b') (p p' : Place) : (b.value p).bare = (b'.value p').bare := by
  have hlast := h.last p p'
  have hdone := h.done
  unfold Branches.value
  match b.done, b'.done, hdone with
  | [], [], _ => exact hlast
  | x :: rest, x' :: rest', hdone =>
    show Node.alternation _ (Node.allBare _) = Node.alternation _ (Node.allBare _)
    rw [Node.allBare_eq, Node.allBare_eq, List.map_reverse, List.map_reverse, List.map_cons, hlast, hdone]
    rfl

end Alike

end Branches

/-- A part that can be repeated. -/
def Node.isRepeatable : Node → Bool
  | empty _ | flags _ _ => false
  | _ => true

theorem Node.isRepeatable_bare (n : Node) : n.bare.isRepeatable = n.isRepeatable := by
  cases n <;> rfl

namespace Read

theorem fails_operand (h : ∀ part ∈ b.parts.head?, part.isRepeatable = false) : Fails (operand b) := by
  unfold operand
  cases hparts : b.parts with
  | nil => exact .failHere _
  | cons part parts =>
    have hpart : part.isRepeatable = false := h part (by rw [hparts]; rfl)
    cases part <;> first | exact .failHere _ | cases hpart

theorem operand_eq {part : Node} {parts : List Node} (hb : b.parts = part :: parts)
    (hpart : part.isRepeatable = true) : operand b = pure (part, { b with parts := parts }) := by
  unfold operand
  rw [hb]
  cases part <;> first | rfl | cases hpart

end Read

namespace Follows

/-! ### Groups -/

theorem newName (h : Around pattern s s') (hk : s.rest.length ≤ k) :
    Follows pattern k s s' Read.newName Read.newName Same := by
  unfold Read.newName
  refine here (get ?_)
  refine bind (groupName h true (Nat.lt_succ_self _) (Nat.lt_succ_self _) hk) ?_
  rintro name _ t t' ht hlt ⟨rfl, hinside⟩
  obtain ⟨d, ds, hd⟩ := List.exists_cons_of_ne_nil hinside
  have hbump := ht.bump hd
  have hrest := Source.rest_bump hd
  rw [hd, List.length_cons] at hlt
  refine since (bump ?_)
  refine guard ((Fails.failAt _ _).bind _) id fun _ => ?_
  refine get ?_
  rw [hbump.names]
  refine guard ((Fails.failAt _ _).bind _) id fun _ => ?_
  refine changed (hbump.withName _) ?_
  show t.bump.rest.length ≤ k
  rw [hrest]
  omega

/-- What an opening parenthesis begins. -/
theorem opening (h : Around pattern s s') (hs : s.rest = c :: cs) (hk : cs.length ≤ k) :
    Follows pattern k s s' Read.opening Read.opening Same := by
  have hstep := h.step hs
  have hlength := Nat.le_trans (Source.length_step hs) hk
  unfold Read.opening
  refine charExtent (step ?_)
  refine bind (acceptAny hstep (by decide) hlength) ?_
  rintro lookAround _ t t' ht hlt ⟨⟩
  refine guard ((Fails.failSince _ _).bind _) id fun _ => ?_
  refine here ?_
  refine bind (acceptAny ht (by decide) hlt) ?_
  rintro named _ u u' hu hlu ⟨⟩
  split
  · refine bind (newName hu hlu) fun _ _ v v' hv hlv _ => ?_
    exact pure hv hlv rfl
  · refine bind (accept hu (by decide) hlu) ?_
    rintro flagged _ v v' hv hlv ⟨⟩
    split
    · refine atEnd hv ((Fails.failAt _ _).bind _) fun d ds hd => ?_
      refine get ?_
      refine bind (flags hv [] rfl (Nat.lt_succ_self _) (Nat.lt_succ_self _) hlv) ?_
      rintro items _ w w' hw hlw ⟨rfl, hinside⟩
      refine char? hw (fun hnil => absurd hnil hinside) fun e es he => ?_
      rw [he, List.length_cons] at hlw
      have hbump := hw.bump he
      have hle : w.bump.rest.length ≤ k := by
        rw [Source.rest_bump he]
        omega
      refine bump ?_
      split
      · exact guard ((Fails.failAt _ _).bind _) id fun _ => pure hbump hle rfl
      · exact pure hbump hle rfl
    · exact pure hv hlv rfl

/-! ### Repetitions -/

/-- The part that is repeated is the same, and so are the parts before it. -/
theorem operand {A B : Type} {like : A → B → Source → Prop} {f : Node × Branches → Read A}
    {f' : Node × Branches → Read B} (hb : b.Alike b')
    (hgo : ∀ {part part' : Node} {b b' : Branches}, part.bare = part'.bare → b.Alike b' →
      Follows pattern k s s' (f (part, b)) (f' (part', b')) like) :
    Follows pattern k s s' (Read.operand b >>= f) (Read.operand b' >>= f') like := by
  have hparts := hb.parts
  cases hb₁ : b.parts with
  | nil => exact of_fails ((Read.fails_operand (by rw [hb₁]; nofun)).bind f)
  | cons part parts =>
    rw [hb₁] at hparts
    cases hpart : part.isRepeatable with
    | false => exact of_fails ((Read.fails_operand (by rw [hb₁]; rintro _ ⟨⟩; exact hpart)).bind f)
    | true =>
      obtain ⟨part', parts', hb₂, hsame, hrest⟩ := List.map_eq_cons_iff.mp hparts.symm
      have hpart' : part'.isRepeatable = true := by
        rw [← part'.isRepeatable_bare, hsame, part.isRepeatable_bare, hpart]
      rw [Read.operand_eq hb₁ hpart, Read.operand_eq hb₂ hpart', pure_bind, pure_bind]
      exact hgo hsame.symm ⟨hb.done, hrest.symm⟩

/-- A repetition that is written with one sign. -/
theorem repetition (h : Around pattern s s') (hs : s.rest = c :: cs) (hb : b.Alike b') (least : Nat)
    (most : Option Nat) (hk : cs.length ≤ k) :
    Follows pattern k s s' (Read.repetition b least most) (Read.repetition b' least most)
      fun b b' _ => b.Alike b' := by
  have hle : s.bump.rest.length ≤ k := by rwa [Source.rest_bump hs]
  unfold Read.repetition
  refine operand hb fun hpart hb => bump ?_
  refine bind (accept (h.bump hs) (by decide) hle) fun _ _ t t' ht hlt _ => ?_
  exact since (pure ht hlt (hb.pushRepetition hpart _ _ least most))

/-- The numbers of a counted repetition. -/
theorem counts (h : Around pattern s s') (start start' : Place) (hk : s.rest.length ≤ k) :
    Follows pattern k s s' (Read.counts start) (Read.counts start') Same := by
  unfold Read.counts
  refine bind (number h hk) fun least least' t t' ht hlt hleast => ?_
  refine atEnd ht ((Fails.failSince _ _).bind _) fun d ds hd => ?_
  refine char? ht (fun hnil => by cases hd.symm.trans hnil) fun e es he => ?_
  cases hd.symm.trans he
  have hlast := Source.length_step hd
  split
  · have hstep := ht.step hd
    rw [hd, List.length_cons] at hlt
    refine step (atEnd hstep ((Fails.failSince _ _).bind _) fun e es he => ?_)
    refine char? hstep (fun hnil => by cases he.symm.trans hnil) fun f fs hf => ?_
    split
    · refine bind (lifted hstep (m := k) (by omega) hleast) ?_
      rintro m _ u u' hu hlu ⟨⟩
      exact pure hu hlu rfl
    · refine bind (lifted hstep (m := k) (by omega) hleast) ?_
      rintro m _ u u' hu hlu ⟨⟩
      refine bind (number hu hlu) fun most most' v v' hv hlv hmost => ?_
      refine bind (lifted hv hlv hmost) ?_
      rintro most _ w w' hw hlw ⟨⟩
      exact pure hw hlw rfl
  · refine bind (lifted ht hlt hleast) ?_
    rintro m _ u u' hu hlu ⟨⟩
    exact pure hu hlu rfl

/-- A repetition with numbers between braces. -/
theorem countedRepetition (h : Around pattern s s') (hs : s.rest = c :: cs) (hb : b.Alike b') (hk : cs.length ≤ k) :
    Follows pattern k s s' (Read.countedRepetition b) (Read.countedRepetition b') fun b b' _ => b.Alike b' := by
  have hstep := h.step hs
  have hlength := Nat.le_trans (Source.length_step hs) hk
  unfold Read.countedRepetition
  refine here (operand hb fun hpart hb => ?_)
  refine step (atEnd hstep ((Fails.failSince _ _).bind _) fun d ds hd => ?_)
  refine bind (counts hstep _ _ hlength) ?_
  rintro ⟨least, most⟩ _ t t' ht hlt ⟨⟩
  refine char? ht (fun _ => of_fails ((Fails.failSince _ _).bind _)) fun e es he => ?_
  refine guard ((Fails.failSince _ _).bind _) id fun _ => ?_
  have hlast := Source.length_step he
  rw [he, List.length_cons] at hlt
  refine step ?_
  refine bind (accept (m := k) (ht.step he) (by decide) (by omega)) fun _ _ u u' hu hlu _ => ?_
  refine guard ((Fails.failSince _ _).bind _) id fun _ => ?_
  exact since (pure hu hlu (hb.pushRepetition hpart _ _ least most))

/-! ### Branches -/

theorem setBlanks {A B : Type} {like : A → B → Source → Prop} {f : Unit → Read A} {f' : Unit → Read B}
    (h : Around pattern s s') (items : List FlagItem)
    (hgo : ∀ {t t' : Source}, Around pattern t t' → t.rest = s.rest → Follows pattern k t t' (f ()) (f' ()) like) :
    Follows pattern k s s' (Read.setBlanks items >>= f) (Read.setBlanks items >>= f') like := by
  unfold Read.setBlanks
  split
  · next on _ => exact modified (hgo (h.withBlanks on) rfl)
  · rw [pure_bind, pure_bind]
    exact hgo h rfl

/-- The same tree is read, at another place, up to a closing parenthesis or the end. -/
def AlikeUpTo (a b : Node) (t : Source) : Prop :=
  a.bare = b.bare ∧ ∀ c ∈ t.rest.head?, c = ')'

/-- With `n` and `n'` turns to go, the same branches are read of what is left, which is at most `k` characters. -/
def GoOnAlike (pattern : List Char) (n n' k : Nat) : Prop :=
  ∀ {s s' : Source} {b b' : Branches}, Around pattern s s' → s.rest.length ≤ k → b.Alike b' →
    Follows pattern k s s' (Read.branches b n) (Read.branches b' n') AlikeUpTo

/-- A group up to the parenthesis that closes it, and what comes behind it. -/
theorem group (hgo : GoOnAlike pattern n n' k) (h : Around pattern s s') (hb : b.Alike b')
    (own : Option (List FlagItem)) (extent extent' : Extent) (hk : s.rest.length ≤ k) :
    Follows pattern k s s'
      (do
        let outer := (← MonadState.get).skipsBlanks
        Read.setBlanks (own.getD [])
        let body ← Read.branches (.none (← Read.here)) n
        if ← Read.atEnd then
          Read.failAt .groupUnclosed extent
        Read.bump
        modify fun s => { s with skipsBlanks := outer }
        Read.branches (b.push (.group (← Read.since extent.start) own body)) n)
      (do
        let outer := (← MonadState.get).skipsBlanks
        Read.setBlanks (own.getD [])
        let body ← Read.branches (.none (← Read.here)) n'
        if ← Read.atEnd then
          Read.failAt .groupUnclosed extent'
        Read.bump
        modify fun s => { s with skipsBlanks := outer }
        Read.branches (b'.push (.group (← Read.since extent'.start) own body)) n') AlikeUpTo := by
  refine get (setBlanks h (own.getD []) fun {t t'} ht hrest => here ?_)
  refine bind (hgo ht (by rwa [hrest]) (Branches.alike_none _ _)) ?_
  rintro body body' u u' hu hlu ⟨hbody, -⟩
  refine atEnd hu ((Fails.failAt _ _).bind _) fun d ds hd => bump (modified (since ?_))
  have hpassed := hu.bump hd
  rw [hd, List.length_cons] at hlu
  refine hgo ?_ ?_ (hb.push ?_)
  · rw [h.skipsBlanks]
    exact hpassed.withBlanks _
  · show u.bump.rest.length ≤ k
    rw [Source.rest_bump hd]
    omega
  · show Node.group default own body.bare = Node.group default own body'.bare
    rw [hbody]

/-- Where the pattern alone ends, the pattern in the group goes on with the parenthesis that closes it. -/
theorem branches_nil (h : Around pattern s s') (hnil : s.skip.rest = []) (hb : b.Alike b') (n n' k : Nat) :
    Follows pattern k s s' (Read.branches b (n + 1)) (Read.branches b' (n' + 1)) AlikeUpTo := by
  have hskip := h.skip
  rw [Read.branches, Read.branches]
  refine skip (char? hskip (fun _ => ?_) fun c cs hs => by cases hnil.symm.trans hs)
  have hvalue : Follows pattern k s.skip s'.skip (Read.here >>= fun p => Pure.pure (b.value p))
      (Read.here >>= fun p => Pure.pure (b'.value p)) AlikeUpTo := by
    refine here (pure hskip ?_ ⟨hb.value _ _, ?_⟩)
    · rw [hnil]
      exact Nat.zero_le k
    · rw [hnil]
      nofun
  rcases hskip.nil hnil with hrest' | hrest' <;> rw [hrest'] <;> exact hvalue

/-- What the next sign begins. -/
theorem branches_cons (h : Around pattern s s') (hs : s.skip.rest = c :: cs) (hb : b.Alike b')
    (hgo : GoOnAlike pattern n n' cs.length) :
    Follows pattern (cs.length + 1) s s' (Read.branches b (n + 1)) (Read.branches b' (n' + 1)) AlikeUpTo := by
  have hskip := h.skip
  have hgoOn {t t' : Source} (ht : Around pattern t t') (hlt : t.rest.length ≤ cs.length) {b b' : Branches}
      (hb : b.Alike b') :
      Follows pattern (cs.length + 1) t t' (Read.branches b n) (Read.branches b' n') AlikeUpTo :=
    of_le (hgo ht hlt hb) (Nat.le_succ _)
  have hpushed {r r' : Read Node} (hr : Follows pattern cs.length s.skip s'.skip r r' Alike) :
      Follows pattern (cs.length + 1) s.skip s'.skip (r >>= fun part => Read.branches (b.push part) n)
        (r' >>= fun part => Read.branches (b'.push part) n') AlikeUpTo :=
    bind hr fun part part' t t' ht hlt hpart => hgoOn ht hlt (hb.push hpart)
  have hrepeated {r r' : Read Branches} (hr : Follows pattern cs.length s.skip s'.skip r r'
      fun b b' _ => b.Alike b') :
      Follows pattern (cs.length + 1) s.skip s'.skip (r >>= fun b => Read.branches b n)
        (r' >>= fun b => Read.branches b n') AlikeUpTo :=
    bind hr fun b b' t t' ht hlt hb => hgoOn ht hlt hb
  rw [Read.branches, Read.branches]
  refine skip (char? hskip (fun hnil => by cases hs.symm.trans hnil) fun d ds hd => ?_)
  cases hs.symm.trans hd
  split
  · next heq => cases heq
  · next heq =>
    cases heq
    refine here (pure hskip (Nat.le_of_eq (congrArg List.length hs)) ⟨hb.value _ _, ?_⟩)
    rw [hs]
    rintro _ ⟨⟩
    rfl
  · have hbound := Nat.le_of_eq (congrArg List.length (Source.rest_bump hs))
    exact here (bump (here (hgoOn (hskip.bump hs) hbound (hb.bar _ _ _ _))))
  · next heq =>
    cases heq
    refine charExtent ?_
    refine bind (opening hskip hs (Nat.le_refl _)) ?_
    rintro what _ t t' ht hlt ⟨⟩
    cases what with
    | flags items =>
      refine setBlanks ht items fun hu hrest => since ?_
      exact hgoOn hu (by rwa [hrest]) (hb.push rfl)
    | group own => exact of_le (group hgo ht hb own _ _ hlt) (Nat.le_succ _)
  · next heq =>
    cases heq
    exact hpushed (bracketed hskip hs (Nat.le_refl _))
  · next heq =>
    cases heq
    exact hrepeated (repetition hskip hs hb 0 (some 1) (Nat.le_refl _))
  · next heq =>
    cases heq
    exact hrepeated (repetition hskip hs hb 0 none (Nat.le_refl _))
  · next heq =>
    cases heq
    exact hrepeated (repetition hskip hs hb 1 none (Nat.le_refl _))
  · next heq =>
    cases heq
    exact hrepeated (countedRepetition hskip hs hb (Nat.le_refl _))
  · next heq =>
    cases heq
    exact hpushed (atom hskip hs (Nat.le_refl _))

/-- A list of branches. The induction is on the fuel, which lasts for what is left. -/
theorem branches (h : Around pattern s s') (hb : b.Alike b') (hn : s.rest.length < n) (hn' : s'.rest.length < n')
    (hk : s.rest.length ≤ k) :
    Follows pattern k s s' (Read.branches b n) (Read.branches b' n') AlikeUpTo := by
  induction n generalizing s s' b b' n' k with
  | zero => cases hn
  | succ n ih =>
    cases n' with
    | zero => cases hn'
    | succ n' =>
      have hle := s.length_skip
      have hle' := s'.length_skip
      cases hs : s.skip.rest with
      | nil => exact branches_nil h hs hb n n' k
      | cons c cs =>
        have hlength : s.skip.rest.length = cs.length + 1 := congrArg List.length hs
        have hgo : GoOnAlike pattern n n' cs.length := fun ht hlt hb => by
          have ⟨hfuel, hfuel'⟩ : _ < n ∧ _ < n' := h.skip.lasts hs (by omega) (by omega) ht hlt
          exact ih ht hb hfuel hfuel' hlt
        exact of_le (branches_cons h hs hb hgo) (by omega)

end Follows

end MapQuery.Pattern

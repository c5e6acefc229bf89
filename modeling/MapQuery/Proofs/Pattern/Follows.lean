import MapQuery.Pattern.Reader

/-!
# Reading a pattern inside of a group

Where the whole text has to match, a pattern is read with a parenthesis and an anchor behind it. A reader that gets
through the pattern alone gets through it in the same way there. Only a comment in the last line makes a difference,
which goes on over what stands behind the pattern.

* `Around` — what is left of the pattern alone, and of the pattern with the ending.
* `SignInLastLine` — where a comment can go over the ending.
* `Follows` — what a reader reads of the one, another one reads of the other; `Follows.bind` for two readers in turn.
* `Fails` — a reader that is no longer followed.
-/

namespace MapQuery.Pattern

variable {pattern : List Char} {s s' t t' : Source} {c : Char} {cs : List Char} {n m : Nat}

/-- What stands behind a pattern where the whole text has to match. -/
def ending : List Char :=
  [')', '\\', 'z']

/-- The sign of a comment stands in the last line. -/
def SignInLastLine (pattern : List Char) : Prop :=
  ∃ before comment, pattern = before ++ '#' :: comment ∧ '\n' ∉ comment

theorem SignInLastLine.append (h : SignInLastLine cs) (before : List Char) : SignInLastLine (before ++ cs) := by
  obtain ⟨start, comment, rfl, hcomment⟩ := h
  exact ⟨before ++ start, comment, (List.append_assoc _ _ _).symm, hcomment⟩

theorem SignInLastLine.of_suffix (h : SignInLastLine cs) (hsuffix : cs <:+ pattern) : SignInLastLine pattern := by
  obtain ⟨before, rfl⟩ := hsuffix
  exact h.append before

/-- What is left of a pattern alone and with the ending behind it. The ending is still there, unless the pattern ends
in a comment: then it has been passed over as part of it. -/
structure Around (pattern : List Char) (s s' : Source) : Prop where
  suffix : s.rest <:+ pattern
  skipsBlanks : s'.skipsBlanks = s.skipsBlanks
  names : s'.names = s.names
  rest : s.inComment = false ∧ s'.rest = s.rest ++ ending ∨
    s.inComment = true ∧ s.rest = [] ∧ s'.rest = [] ∧ SignInLastLine pattern

/-- Blanks and comments end at the same character, but a comment that the pattern ends in goes over the ending. -/
theorem afterBlanks_append (inComment : Bool) (cs : List Char) (p p' : Place) :
    (Source.afterBlanks inComment cs p).1 <:+ cs ∧
      ((Source.afterBlanks inComment cs p).2.2 = false ∧
          (Source.afterBlanks inComment (cs ++ ending) p').1 = (Source.afterBlanks inComment cs p).1 ++ ending ∨
        (Source.afterBlanks inComment cs p).2.2 = true ∧ (Source.afterBlanks inComment cs p).1 = [] ∧
          (Source.afterBlanks inComment (cs ++ ending) p').1 = [] ∧
            (inComment = true ∧ '\n' ∉ cs ∨ SignInLastLine cs)) := by
  induction cs generalizing inComment p p' with
  | nil =>
    cases inComment with
    | true => exact ⟨List.suffix_refl _, .inr ⟨rfl, rfl, rfl, .inl ⟨rfl, List.not_mem_nil⟩⟩⟩
    | false => exact ⟨List.suffix_refl _, .inl ⟨rfl, rfl⟩⟩
  | cons c cs ih =>
    have hmore : SignInLastLine cs → SignInLastLine (c :: cs) := fun h => h.append [c]
    rw [List.cons_append]
    cases inComment with
    | true =>
      obtain ⟨hsuffix, hrest⟩ := ih (c != '\n') (p.after c) (p'.after c)
      refine ⟨hsuffix.trans (List.suffix_cons c cs), hrest.imp id ?_⟩
      rintro ⟨hopen, hnil, hnil', hsign⟩
      refine ⟨hopen, hnil, hnil', ?_⟩
      rcases hsign with ⟨hc, hcs⟩ | hsign
      · rw [bne_iff_ne] at hc
        exact .inl ⟨rfl, fun hmem => (List.mem_cons.mp hmem).elim (fun heq => hc heq.symm) hcs⟩
      · exact .inr (hmore hsign)
    | false =>
      unfold Source.afterBlanks
      split
      · obtain ⟨hsuffix, hrest⟩ := ih false (p.after c) (p'.after c)
        refine ⟨hsuffix.trans (List.suffix_cons c cs), hrest.imp id ?_⟩
        rintro ⟨hopen, hnil, hnil', hsign⟩
        exact ⟨hopen, hnil, hnil', .inr (hmore (hsign.resolve_left fun h => Bool.false_ne_true h.1))⟩
      · split
        · next hsharp =>
          obtain ⟨hsuffix, hrest⟩ := ih true (p.after c) (p'.after c)
          refine ⟨hsuffix.trans (List.suffix_cons c cs), hrest.imp id ?_⟩
          rintro ⟨hopen, hnil, hnil', hsign⟩
          refine ⟨hopen, hnil, hnil', .inr ?_⟩
          rcases hsign with ⟨-, hcs⟩ | hsign
          · rw [beq_iff_eq] at hsharp
            subst hsharp
            exact ⟨[], cs, rfl, hcs⟩
          · exact hmore hsign
        · exact ⟨List.suffix_refl _, .inl ⟨rfl, rfl⟩⟩

theorem isPrefixOf_append_ending {text : List Char} (htext : ')' ∉ text) (cs : List Char) :
    text.isPrefixOf (cs ++ ending) = text.isPrefixOf cs := by
  induction text generalizing cs with
  | nil => cases cs <;> rfl
  | cons d ds ih =>
    obtain ⟨hd, hds⟩ := not_or.mp (mt List.mem_cons.mpr htext)
    cases cs with
    | nil =>
      have hne : (d == ')') = false := beq_eq_false_iff_ne.mpr fun heq => hd heq.symm
      show (d == ')' && _) = false
      rw [hne, Bool.false_and]
    | cons c cs =>
      show (d == c && ds.isPrefixOf (cs ++ ending)) = (d == c && ds.isPrefixOf cs)
      rw [ih hds]

/-! ### Sources -/

theorem Source.length_bump (hs : s.rest = c :: cs) : s.bump.rest.length < s.rest.length := by
  unfold Source.bump
  rw [hs]
  exact Nat.lt_succ_self _

theorem Source.rest_bump (hs : s.rest = c :: cs) : s.bump.rest = cs := by
  unfold Source.bump
  rw [hs]

theorem Source.length_skip (s : Source) : s.skip.rest.length ≤ s.rest.length := by
  unfold Source.skip
  split
  · exact (afterBlanks_append false s.rest s.place s.place).1.length_le
  · exact Nat.le_refl _

namespace Around

/-- The first character is the same. -/
theorem cons (h : Around pattern s s') (hs : s.rest = c :: cs) : s'.rest = c :: (cs ++ ending) := by
  rcases h.rest with ⟨-, hrest⟩ | ⟨-, hnil, -⟩
  · rw [hrest, hs, List.cons_append]
  · rw [hs] at hnil
    cases hnil

/-- At the end of the pattern, the ending is left or nothing. -/
theorem nil (h : Around pattern s s') (hs : s.rest = []) : s'.rest = ending ∨ s'.rest = [] := by
  rcases h.rest with ⟨-, hrest⟩ | ⟨-, -, hnil, -⟩
  · rw [hs] at hrest
    exact .inl hrest
  · exact .inr hnil

/-- Whether a sign comes next does not depend on what stands behind the pattern, unless it is the parenthesis. -/
theorem head?_beq (h : Around pattern s s') (hc : c ≠ ')') :
    (s'.rest.head? == some c) = (s.rest.head? == some c) := by
  cases hs : s.rest with
  | nil =>
    rcases h.nil hs with hrest | hrest
    · rw [hrest]
      exact beq_eq_false_iff_ne.mpr fun heq => hc (Option.some.inj heq).symm
    · rw [hrest]
  | cons d ds => rw [h.cons hs, List.head?_cons, List.head?_cons]

/-- Where a character is left, no comment has gone on to the end. -/
theorem inside (h : Around pattern s s') (hs : s.rest = c :: cs) : s.inComment = false := by
  rcases h.rest with ⟨hinside, -⟩ | ⟨-, hnil, -⟩
  · exact hinside
  · rw [hs] at hnil
    cases hnil

theorem bump (h : Around pattern s s') (hs : s.rest = c :: cs) : Around pattern s.bump s'.bump := by
  have hs' := h.cons hs
  have hsuffix := h.suffix
  have hinside := h.inside hs
  rw [hs] at hsuffix
  unfold Source.bump
  rw [hs, hs']
  exact ⟨(List.suffix_cons c cs).trans hsuffix, h.skipsBlanks, h.names, .inl ⟨hinside, rfl⟩⟩

theorem skip (h : Around pattern s s') : Around pattern s.skip s'.skip := by
  unfold Source.skip
  rw [h.skipsBlanks]
  split
  · rcases h.rest with ⟨hinside, hrest⟩ | ⟨hopen, hnil, hnil', hsign⟩
    · obtain ⟨hsuffix, hblanks⟩ := afterBlanks_append false s.rest s.place s'.place
      rw [hrest]
      dsimp only
      rw [hinside, Bool.false_or]
      refine ⟨hsuffix.trans h.suffix, rfl, h.names, hblanks.imp id ?_⟩
      rintro ⟨hopen, hnil, hnil', hsign⟩
      refine ⟨hopen, hnil, hnil', ?_⟩
      exact (hsign.resolve_left fun h => Bool.false_ne_true h.1).of_suffix h.suffix
    · rw [hnil, hnil', hopen]
      exact ⟨List.nil_suffix, rfl, h.names, .inr ⟨rfl, rfl, rfl, hsign⟩⟩
  · exact h

theorem step (h : Around pattern s s') (hs : s.rest = c :: cs) : Around pattern s.bump.skip s'.bump.skip :=
  (h.bump hs).skip

theorem withBlanks (h : Around pattern s s') (on : Bool) :
    Around pattern { s with skipsBlanks := on } { s' with skipsBlanks := on } :=
  ⟨h.suffix, rfl, h.names, h.rest⟩

theorem withName (h : Around pattern s s') (name : String) :
    Around pattern { s with names := name :: s.names } { s' with names := name :: s'.names } :=
  ⟨h.suffix, h.skipsBlanks, congrArg (name :: ·) h.names, h.rest⟩

/-- A text without a parenthesis stands next in both or in neither. -/
theorem isPrefixOf_eq (h : Around pattern s s') {text : List Char} (htext : ')' ∉ text) :
    text.isPrefixOf s'.rest = text.isPrefixOf s.rest := by
  rcases h.rest with ⟨-, hrest⟩ | ⟨-, hnil, hnil', -⟩
  · rw [hrest]
    exact isPrefixOf_append_ending htext s.rest
  · rw [hnil, hnil']

/-- Several characters that are there. -/
theorem foldl_bump (h : Around pattern s s') {text : List Char} (htext : text.length ≤ s.rest.length) :
    Around pattern (text.foldl (fun s _ => s.bump) s) (text.foldl (fun s _ => s.bump) s') := by
  induction text generalizing s s' with
  | nil => exact h
  | cons d ds ih =>
    cases hs : s.rest with
    | nil =>
      rw [hs] at htext
      cases htext
    | cons c cs =>
      refine ih (h.bump hs) ?_
      rw [Source.rest_bump hs]
      rw [hs] at htext
      exact Nat.le_of_succ_le_succ htext

end Around

theorem Source.length_foldl_bump (s : Source) (text : List Char) :
    (text.foldl (fun s _ => s.bump) s).rest.length ≤ s.rest.length := by
  induction text generalizing s with
  | nil => exact Nat.le_refl _
  | cons d ds ih =>
    refine Nat.le_trans (ih s.bump) ?_
    unfold Source.bump
    cases hs : s.rest with
    | nil => exact Nat.le_of_eq (congrArg List.length hs)
    | cons c cs => exact Nat.le_succ cs.length

/-! ### Readers -/

/-- What a reader reads of the pattern alone, another one reads of the pattern in the group, up to a relation of
what is read, which may also say what is left of the pattern. At most `n` characters are left. -/
def Follows {A B : Type} (pattern : List Char) (n : Nat) (s s' : Source) (r : Read A) (r' : Read B)
    (like : A → B → Source → Prop) : Prop :=
  ∀ a t, r.run s = .ok (a, t) →
    ∃ b t', r'.run s' = .ok (b, t') ∧ Around pattern t t' ∧ t.rest.length ≤ n ∧ like a b t

/-- The same is read. -/
def Same {A : Type} (a b : A) (_ : Source) : Prop :=
  a = b

/-- The same is read, and the pattern goes on. -/
def SameInside {A : Type} (a b : A) (t : Source) : Prop :=
  a = b ∧ t.rest ≠ []

/-- A reader that fails whatever is left. -/
def Fails {A : Type} (r : Read A) : Prop :=
  ∀ s, ∃ e, r.run s = .error e

namespace Fails

variable {A B : Type} {r : Read A}

theorem bind (h : Fails r) (f : A → Read B) : Fails (r >>= f) := by
  intro s
  obtain ⟨e, he⟩ := h s
  refine ⟨e, ?_⟩
  rw [StateT.run_bind, he]
  rfl

theorem failAt (fault : Fault) (extent : Extent) : Fails (Read.failAt fault extent : Read A) :=
  fun _ => ⟨_, rfl⟩

theorem failSince (fault : Fault) (start : Place) : Fails (Read.failSince fault start : Read A) :=
  fun _ => ⟨_, rfl⟩

theorem failHere (fault : Fault) : Fails (Read.failHere fault : Read A) :=
  fun _ => ⟨_, rfl⟩

theorem failAtChar (fault : Fault) : Fails (Read.failAtChar fault : Read A) :=
  fun _ => ⟨_, rfl⟩

theorem charExtent {f : Extent → Read A} (h : ∀ e, Fails (f e)) : Fails (Read.charExtent >>= f) :=
  fun s => h ⟨s.place, s.bump.place⟩ s

theorem of_atEnd {f : Bool → Read A} (hs : s.rest = []) (h : Fails (f true)) :
    ∃ e, (Read.atEnd >>= f).run s = .error e := by
  have hrun : (Read.atEnd >>= f).run s = (f s.rest.isEmpty).run s := rfl
  rw [hrun, hs]
  exact h s

end Fails

namespace Follows

variable {A B A' B' : Type} {r : Read A} {r' : Read B} {like : A → B → Source → Prop}
  {like' : A' → B' → Source → Prop}

theorem of_fails (h : Fails r) : Follows pattern n s s' r r' like := by
  intro a t hrun
  obtain ⟨e, he⟩ := h s
  rw [hrun] at he
  cases he

theorem of_run (h : Around pattern s s') (hn : s.rest.length ≤ n) {a : A} {b : B} (hr : r.run s = .ok (a, s))
    (hr' : r'.run s' = .ok (b, s')) (hlike : like a b s) : Follows pattern n s s' r r' like := by
  intro a' t hrun
  cases hr.symm.trans hrun
  exact ⟨b, s', hr', h, hn, hlike⟩

theorem pure (h : Around pattern s s') (hn : s.rest.length ≤ n) {a : A} {b : B} (hlike : like a b s) :
    Follows pattern n s s' (Pure.pure a) (Pure.pure b) like :=
  of_run h hn rfl rfl hlike

theorem bind {f : A → Read A'} {f' : B → Read B'} (h : Follows pattern m s s' r r' like)
    (hf : ∀ a b t t', Around pattern t t' → t.rest.length ≤ m → like a b t →
      Follows pattern n t t' (f a) (f' b) like') :
    Follows pattern n s s' (r >>= f) (r' >>= f') like' := by
  intro a' u hrun
  rw [StateT.run_bind] at hrun
  cases hr : r.run s with
  | error e =>
    rw [hr] at hrun
    cases hrun
  | ok first =>
    obtain ⟨a, t⟩ := first
    rw [hr] at hrun
    obtain ⟨b, t', hr', haround, hlength, hlike⟩ := h a t hr
    obtain ⟨b', u', hrun', hresult⟩ := hf a b t t' haround hlength hlike a' u hrun
    refine ⟨b', u', ?_, hresult⟩
    rw [StateT.run_bind, hr']
    exact hrun'

theorem assoc {C D : Type} {like : C → D → Source → Prop} {f : A → Read A'} {f' : B → Read B'} {g : A' → Read C}
    {g' : B' → Read D} (h : Follows pattern n s s' (r >>= fun a => f a >>= g) (r' >>= fun b => f' b >>= g') like) :
    Follows pattern n s s' (r >>= f >>= g) (r' >>= f' >>= g') like := by
  rw [bind_assoc r f g, bind_assoc r' f' g']
  exact h

/-- A condition that fails in the group only if it fails in the pattern alone. -/
theorem guard {p p' : Prop} [Decidable p] [Decidable p'] {bad : Read A} {bad' : Read B} (hbad : Fails bad)
    (hp : ¬ p → ¬ p') (h : ¬ p → Follows pattern n s s' r r' like) :
    Follows pattern n s s' (if p then bad else r) (if p' then bad' else r') like := by
  by_cases hcond : p
  · rw [if_pos hcond]
    exact of_fails hbad
  · rw [if_neg hcond, if_neg (hp hcond)]
    exact h hcond

theorem of_le (h : Follows pattern m s s' r r' like) (hle : m ≤ n) : Follows pattern n s s' r r' like := by
  intro a t hrun
  obtain ⟨b, t', hrun', haround, hlength, hab⟩ := h a t hrun
  exact ⟨b, t', hrun', haround, Nat.le_trans hlength hle, hab⟩

/-! ### Steps of reading -/

theorem get {f : Source → Read A} {f' : Source → Read B} (h : Follows pattern n s s' (f s) (f' s') like) :
    Follows pattern n s s' (MonadState.get >>= f) (MonadState.get >>= f') like := h

theorem set {f : Unit → Read A} {f' : Unit → Read B} (h : Follows pattern n t t' (f ()) (f' ()) like) :
    Follows pattern n s s' (MonadStateOf.set t >>= f) (MonadStateOf.set t' >>= f') like := h

theorem here {f : Place → Read A} {f' : Place → Read B}
    (h : Follows pattern n s s' (f s.place) (f' s'.place) like) :
    Follows pattern n s s' (Read.here >>= f) (Read.here >>= f') like := h

theorem charExtent {f : Extent → Read A} {f' : Extent → Read B}
    (h : Follows pattern n s s' (f ⟨s.place, s.bump.place⟩) (f' ⟨s'.place, s'.bump.place⟩) like) :
    Follows pattern n s s' (Read.charExtent >>= f) (Read.charExtent >>= f') like := h

theorem since {f : Extent → Read A} {f' : Extent → Read B} {start start' : Place}
    (h : Follows pattern n s s' (f ⟨start, s.place⟩) (f' ⟨start', s'.place⟩) like) :
    Follows pattern n s s' (Read.since start >>= f) (Read.since start' >>= f') like := h

theorem bump {f : Unit → Read A} {f' : Unit → Read B} (h : Follows pattern n s.bump s'.bump (f ()) (f' ()) like) :
    Follows pattern n s s' (Read.bump >>= f) (Read.bump >>= f') like := h

theorem skip {f : Unit → Read A} {f' : Unit → Read B} (h : Follows pattern n s.skip s'.skip (f ()) (f' ()) like) :
    Follows pattern n s s' (Read.skip >>= f) (Read.skip >>= f') like := h

theorem step {f : Unit → Read A} {f' : Unit → Read B}
    (h : Follows pattern n s.bump.skip s'.bump.skip (f ()) (f' ()) like) :
    Follows pattern n s s' (Read.step >>= f) (Read.step >>= f') like := h

theorem modified {g g' : Source → Source} {f : Unit → Read A} {f' : Unit → Read B}
    (h : Follows pattern n (g s) (g' s') (f ()) (f' ()) like) :
    Follows pattern n s s' (modify g >>= f) (modify g' >>= f') like := h

theorem changed {g g' : Source → Source} (h : Around pattern (g s) (g' s')) (hn : (g s).rest.length ≤ n) :
    Follows pattern n s s' (modify g : Read Unit) (modify g' : Read Unit) Same := by
  intro a t hrun
  cases hrun
  exact ⟨(), g' s', rfl, h, hn, rfl⟩

/-- The next character is the same, where there is one. -/
theorem char? {f : Option Char → Read A} {f' : Option Char → Read B} (h : Around pattern s s')
    (hend : s.rest = [] → Follows pattern n s s' (f none) (f' s'.rest.head?) like)
    (hnext : ∀ c cs, s.rest = c :: cs → Follows pattern n s s' (f (some c)) (f' (some c)) like) :
    Follows pattern n s s' (Read.char? >>= f) (Read.char? >>= f') like := by
  show Follows pattern n s s' (f s.rest.head?) (f' s'.rest.head?) like
  cases hs : s.rest with
  | nil => exact hend hs
  | cons c cs =>
    rw [h.cons hs]
    exact hnext c cs hs

/-- The end is asked for, and the reader fails there. -/
theorem atEnd {f : Bool → Read A} {f' : Bool → Read B} (h : Around pattern s s')
    (hend : Fails (f true)) (hnext : ∀ c cs, s.rest = c :: cs → Follows pattern n s s' (f false) (f' false) like) :
    Follows pattern n s s' (Read.atEnd >>= f) (Read.atEnd >>= f') like := by
  show Follows pattern n s s' (f s.rest.isEmpty) (f' s'.rest.isEmpty) like
  cases hs : s.rest with
  | nil => exact of_fails hend
  | cons c cs =>
    rw [h.cons hs]
    exact hnext c cs hs

end Follows

end MapQuery.Pattern

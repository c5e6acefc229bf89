import MapQuery.Proofs.Pattern.Bare
import MapQuery.Proofs.Pattern.Follows

/-!
# Parts of a pattern inside of a group

The small readers, one by one: what each of them reads of the pattern alone, it reads of the pattern with the ending.

* `Follows.loop` — a loop over characters of one sort.
* `Follows.number`, `Follows.groupName`, `Follows.flags`, `Follows.braced` — the texts within a part.
* `Follows.escape`, `Follows.atom` — the smallest parts.
* `Follows.member` — a member of a set between brackets.
-/

namespace MapQuery.Pattern

variable {pattern : List Char} {s s' t t' : Source} {c : Char} {cs : List Char} {n n' m : Nat}

/-- Where the pattern ends, nothing goes on that takes no parenthesis. -/
theorem Around.head?_of_nil (h : Around pattern s s') (hs : s.rest = []) {sort : Char → Bool}
    (hsort : sort ')' = false) : ∀ d ∈ s'.rest.head?, sort d = false := by
  rcases h.nil hs with hrest | hrest
  · rw [hrest]
    intro d hd
    cases hd
    exact hsort
  · rw [hrest]
    nofun

theorem Around.length_le (h : Around pattern s s') : s'.rest.length ≤ s.rest.length + ending.length := by
  rcases h.rest with ⟨-, hrest⟩ | ⟨-, -, hnil, -⟩
  · exact Nat.le_of_eq (by rw [hrest, List.length_append])
  · rw [hnil]
    exact Nat.zero_le _

theorem head?_of_nil (hs : s.rest = []) {sort : Char → Bool} : ∀ d ∈ s.rest.head?, sort d = false := by
  rw [hs]
  nofun

/-! ### Runs of characters -/

namespace Read

theorem run_char? {A : Type} (f : Option Char → Read A) : (char? >>= f).run s = (f s.rest.head?).run s := rfl

/-- A loop over characters of one sort stops at once before another one. -/
theorem run_loop_of_not {A : Type} (loop : Nat → Read A) {turn : Nat → Option Char → Read A} {sort : Char → Bool}
    {a : A} (hzero : loop 0 = pure a) (hturn : ∀ n, loop (n + 1) = char? >>= turn n)
    (hend : ∀ n, turn n none = pure a) (hother : ∀ n c, sort c = false → turn n (some c) = pure a)
    (h : ∀ c ∈ s.rest.head?, sort c = false) (n : Nat) : (loop n).run s = .ok (a, s) := by
  cases n with
  | zero =>
    rw [hzero]
    rfl
  | succ n =>
    rw [hturn, run_char?]
    cases hhead : s.rest.head? with
    | none =>
      rw [hend]
      rfl
    | some c =>
      rw [hother n c (h c hhead)]
      rfl

theorem run_digits_of_not (h : ∀ c ∈ s.rest.head?, Ascii.isDigit c = false) (n : Nat) :
    (digits n).run s = .ok ([], s) :=
  run_loop_of_not digits rfl (fun _ => rfl) (fun _ => rfl) (fun _ _ hc => if_neg (Bool.eq_false_iff.mp hc)) h n

theorem run_blanks_of_not (h : ∀ c ∈ s.rest.head?, Text.isBlank c = false) (past : Read Unit) (n : Nat) :
    (blanks past n).run s = .ok ((), s) :=
  run_loop_of_not (blanks past) rfl (fun _ => rfl) (fun _ => rfl) (fun _ _ hc => if_neg (Bool.eq_false_iff.mp hc)) h n

theorem run_boundaryName_of_not (h : ∀ c ∈ s.rest.head?, isBoundaryChar c = false) (n : Nat) :
    (boundaryName n).run s = .ok ([], s) :=
  run_loop_of_not boundaryName rfl (fun _ => rfl) (fun _ => rfl) (fun _ _ hc => if_neg (Bool.eq_false_iff.mp hc)) h n

/-- Where neither a blank nor a digit stands, there is no number. -/
theorem run_number_of_not (hblank : ∀ c ∈ s.rest.head?, Text.isBlank c = false)
    (hdigit : ∀ c ∈ s.rest.head?, Ascii.isDigit c = false) : ∃ e, number.run s = .ok (.error e, s) := by
  refine ⟨⟨.repetitionCountDecimalEmpty, ⟨s.place, s.place⟩⟩, ?_⟩
  show ((blanks bump s.rest.length).run s >>= fun r => _) = _
  rw [run_blanks_of_not hblank]
  show ((digits s.rest.length).run s >>= fun r => _) = _
  rw [run_digits_of_not hdigit]
  show ((blanks step s.rest.length).run s >>= fun r => _) = _
  rw [run_blanks_of_not hblank]
  rfl

/-- A hexadecimal digit that has to come next, and those after it. -/
def nextHexDigits (n : Nat) : Read (List Char) := do
  match ← char? with
  | none => failHere .escapeUnexpectedEnd
  | some c =>
    if (Character.Ranges.hexValue? c).isNone then
      failAtChar .escapeHexInvalidDigit
    return c :: (← hexDigits false n)

end Read

/-- Some fuel is left where some characters are. -/
theorem exists_fuel (hs : s.rest = c :: cs) (hn : s.rest.length ≤ n) : ∃ k, n = k + 1 ∧ cs.length ≤ k := by
  rw [hs] at hn
  cases n with
  | zero => cases hn
  | succ k => exact ⟨k, rfl, Nat.le_of_succ_le_succ hn⟩

/-- What lasts for what is left lasts, without one of it, for what is left behind the next character. -/
theorem Around.lasts (h : Around pattern s s') (hs : s.rest = c :: cs) (hn : s.rest.length ≤ n) (hn' : s'.rest.length ≤ n')
    (ht : Around pattern t t') (hlt : t.rest.length ≤ cs.length) : t.rest.length < n ∧ t'.rest.length < n' := by
  have hlt' := ht.length_le
  rw [hs, List.length_cons] at hn
  rw [h.cons hs, List.length_cons, List.length_append] at hn'
  omega

theorem Source.length_step (hs : s.rest = c :: cs) : s.bump.skip.rest.length ≤ cs.length := by
  have hskip := s.bump.length_skip
  rwa [rest_bump hs] at hskip

namespace Follows

/-- A loop that goes on with characters of a sort, to which the parenthesis does not belong. The induction is on the
fuel, which need not be the same for both, as long as it lasts for what is left. -/
theorem loop {A : Type} {loop : Nat → Read A} {sort : Char → Bool} {a : A}
    (hstop : ∀ {s : Source}, (∀ c ∈ s.rest.head?, sort c = false) → ∀ n, (loop n).run s = .ok (a, s))
    (hsort : sort ')' = false)
    (hgo : ∀ {s s' : Source} {c : Char} {cs : List Char} {n n' : Nat}, Around pattern s s' → s.rest = c :: cs →
      sort c = true →
      (∀ {t t' : Source}, Around pattern t t' → t.rest.length ≤ cs.length →
        Follows pattern cs.length t t' (loop n) (loop n') Same) →
      Follows pattern cs.length s s' (loop (n + 1)) (loop (n' + 1)) Same)
    (h : Around pattern s s') (hn : s.rest.length ≤ n) (hn' : s'.rest.length ≤ n') (hm : s.rest.length ≤ m) :
    Follows pattern m s s' (loop n) (loop n') Same := by
  induction n generalizing s s' n' m with
  | zero =>
    have hs : s.rest = [] := List.eq_nil_of_length_eq_zero (Nat.le_zero.mp hn)
    exact of_run h hm (hstop (head?_of_nil hs) 0) (hstop (h.head?_of_nil hs hsort) n') rfl
  | succ n ih =>
    cases hs : s.rest with
    | nil => exact of_run h hm (hstop (head?_of_nil hs) _) (hstop (h.head?_of_nil hs hsort) n') rfl
    | cons c cs =>
      have hlength : s.rest.length = cs.length + 1 := congrArg List.length hs
      have hs' := h.cons hs
      cases hc : sort c with
      | true =>
        obtain ⟨k, rfl, -⟩ := exists_fuel hs' hn'
        refine of_le (hgo h hs hc fun {t t'} ht hlt => ?_) (by omega)
        obtain ⟨hfuel, hfuel'⟩ := h.lasts hs hn hn' ht hlt
        exact ih ht (Nat.le_of_lt_succ hfuel) (Nat.le_of_lt_succ hfuel') hlt
      | false =>
        have hnot : ∀ d ∈ s.rest.head?, sort d = false := by
          rw [hs]
          rintro d ⟨⟩
          exact hc
        have hnot' : ∀ d ∈ s'.rest.head?, sort d = false := by
          rw [hs']
          rintro d ⟨⟩
          exact hc
        exact of_run h hm (hstop hnot _) (hstop hnot' n') rfl

theorem digits (h : Around pattern s s') (hn : s.rest.length ≤ n) (hn' : s'.rest.length ≤ n')
    (hm : s.rest.length ≤ m) : Follows pattern m s s' (Read.digits n) (Read.digits n') Same := by
  refine loop Read.run_digits_of_not rfl (fun {s s' c cs n n'} h hs hc ih => ?_) h hn hn' hm
  rw [Read.digits, Read.digits]
  refine char? h (fun hnil => by cases hs.symm.trans hnil) fun d ds hd => ?_
  cases hs.symm.trans hd
  dsimp only
  rw [if_pos hc, if_pos hc]
  refine step ?_
  refine bind (ih (h.step hs) (Source.length_step hs)) ?_
  rintro text _ t t' ht hlt ⟨⟩
  exact pure ht hlt rfl

theorem blanks {past : Read Unit}
    (hpast : ∀ {s s' : Source} {c : Char} {cs : List Char}, Around pattern s s' → s.rest = c :: cs →
      Follows pattern cs.length s s' past past Same)
    (h : Around pattern s s') (hn : s.rest.length ≤ n) (hn' : s'.rest.length ≤ n') (hm : s.rest.length ≤ m) :
    Follows pattern m s s' (Read.blanks past n) (Read.blanks past n') Same := by
  refine loop (fun hnot => Read.run_blanks_of_not hnot past) rfl (fun {s s' c cs n n'} h hs hc ih => ?_) h hn hn' hm
  rw [Read.blanks, Read.blanks]
  refine char? h (fun hnil => by cases hs.symm.trans hnil) fun d ds hd => ?_
  cases hs.symm.trans hd
  dsimp only
  rw [if_pos hc, if_pos hc]
  refine bind (hpast h hs) fun _ _ t t' ht hlt _ => ?_
  exact ih ht hlt

theorem boundaryName (h : Around pattern s s') (hn : s.rest.length ≤ n) (hn' : s'.rest.length ≤ n')
    (hm : s.rest.length ≤ m) : Follows pattern m s s' (Read.boundaryName n) (Read.boundaryName n') Same := by
  refine loop Read.run_boundaryName_of_not rfl (fun {s s' c cs n n'} h hs hc ih => ?_) h hn hn' hm
  rw [Read.boundaryName, Read.boundaryName]
  refine char? h (fun hnil => by cases hs.symm.trans hnil) fun d ds hd => ?_
  cases hs.symm.trans hd
  dsimp only
  rw [if_pos hc, if_pos hc]
  refine step ?_
  refine bind (ih (h.step hs) (Source.length_step hs)) ?_
  rintro text _ t t' ht hlt ⟨⟩
  exact pure ht hlt rfl

/-- A text without a parenthesis is accepted in both or in neither. -/
theorem accept (h : Around pattern s s') {text : List Char} (htext : ')' ∉ text) (hm : s.rest.length ≤ m) :
    Follows pattern m s s' (Read.accept text) (Read.accept text) Same := by
  unfold Read.accept
  refine get ?_
  rw [h.isPrefixOf_eq htext]
  split
  · next hbegins =>
    have hle : text.length ≤ s.rest.length := (List.isPrefixOf_iff_prefix.mp hbegins).length_le
    refine modified ?_
    exact pure (h.foldl_bump hle) (Nat.le_trans (Source.length_foldl_bump s text) hm) rfl
  · exact pure h hm rfl

theorem acceptAny (h : Around pattern s s') {texts : List String} (htexts : ∀ text ∈ texts, ')' ∉ text.toList)
    (hm : s.rest.length ≤ m) : Follows pattern m s s' (Read.acceptAny texts) (Read.acceptAny texts) Same := by
  unfold Read.acceptAny
  induction texts generalizing s s' m with
  | nil => exact pure h hm rfl
  | cons text texts ih =>
    obtain ⟨htext, htexts⟩ := List.forall_mem_cons.mp htexts
    refine bind (accept h htext hm) ?_
    rintro accepted _ t t' ht hlt ⟨⟩
    cases accepted with
    | true => exact pure ht hlt rfl
    | false => exact ih ht htexts hlt

theorem lifted {A : Type} {x y : Except Located A} (h : Around pattern s s') (hm : s.rest.length ≤ m)
    (hxy : SameValue x y) : Follows pattern m s s' (liftM x : Read A) (liftM y : Read A) Same := by
  cases x with
  | error e => exact of_fails fun _ => ⟨e, rfl⟩
  | ok a =>
    cases y with
    | error e => cases hxy
    | ok b =>
      cases hxy
      exact of_run h hm rfl rfl rfl

/-- A number, which is read after blanks and before others. -/
theorem number (h : Around pattern s s') (hm : s.rest.length ≤ m) :
    Follows pattern m s s' Read.number Read.number fun a b _ => SameValue a b := by
  cases hs : s.rest with
  | nil =>
    obtain ⟨e, he⟩ := Read.run_number_of_not (head?_of_nil hs) (head?_of_nil hs)
    obtain ⟨e', he'⟩ := Read.run_number_of_not (h.head?_of_nil hs rfl) (h.head?_of_nil hs rfl)
    exact of_run h hm he he' rfl
  | cons c cs =>
    have hfuel : s'.rest.length = s.rest.length + ending.length := by
      rw [h.cons hs, hs, List.length_cons, List.length_append, List.length_cons]
      omega
    have hlasts {t t' : Source} (ht : Around pattern t t') (hlt : t.rest.length ≤ s.rest.length) :
        t'.rest.length ≤ s'.rest.length := by
      have := ht.length_le
      omega
    unfold Read.number
    refine get ?_
    dsimp only
    refine bind (blanks (fun {s s' c cs} h hs => ?_) h (Nat.le_refl _) (Nat.le_refl _) (Nat.le_refl _))
      fun _ _ t t' ht hlt _ => ?_
    · exact bump (pure (h.bump hs) (Nat.le_of_eq (congrArg List.length (Source.rest_bump hs))) rfl)
    refine here ?_
    refine bind (digits ht hlt (hlasts ht hlt) hlt) ?_
    rintro text _ u u' hu hlu ⟨⟩
    refine since ?_
    refine bind (blanks (fun {s s' c cs} h hs => ?_) hu hlu (hlasts hu hlu) (Nat.le_trans hlu hm))
      fun _ _ v v' hv hlv _ => ?_
    · exact step (pure (h.step hs) (Source.length_step hs) rfl)
    split
    · exact pure hv hlv rfl
    · split
      · exact pure hv hlv rfl
      · exact pure hv hlv rfl

/-- Hexadecimal digits. The last one has not been passed. -/
theorem hexDigits (h : Around pattern s s') (first : Bool) (n : Nat) (hfirst : first = false → s.rest ≠ [])
    (hm : s.rest.length ≤ m) :
    Follows pattern m s s' (Read.hexDigits first n) (Read.hexDigits first n)
      fun a b t => a = b ∧ (n ≠ 0 ∨ s.rest ≠ [] → t.rest ≠ []) := by
  induction n generalizing first s s' m with
  | zero =>
    rw [Read.hexDigits]
    exact pure h hm ⟨rfl, fun hne => hne.resolve_left fun hzero => hzero rfl⟩
  | succ n ih =>
    have hdigit {t t' : Source} (ht : Around pattern t t') (hlt : t.rest.length ≤ m) :
        Follows pattern m t t' (Read.nextHexDigits n) (Read.nextHexDigits n)
          fun a b t => a = b ∧ (n + 1 ≠ 0 ∨ s.rest ≠ [] → t.rest ≠ []) := by
      unfold Read.nextHexDigits
      refine char? ht (fun _ => of_fails (.failHere _)) fun c cs hc => ?_
      have hne : t.rest ≠ [] := by
        rw [hc]
        exact List.cons_ne_nil c cs
      refine guard ((Fails.failAtChar _).bind _) id fun _ => ?_
      refine bind (ih ht false (fun _ => hne) hlt) ?_
      rintro text _ u u' hu hlu ⟨rfl, hinside⟩
      exact pure hu hlu ⟨rfl, fun _ => hinside (.inr hne)⟩
    rw [Read.hexDigits]
    cases first with
    | true => exact hdigit h hm
    | false =>
      obtain ⟨c, cs, hs⟩ := List.exists_cons_of_ne_nil (hfirst rfl)
      refine step (hdigit (h.step hs) ?_)
      exact Nat.le_trans (Source.length_step hs) (Nat.le_trans (by rw [hs]; exact Nat.le_succ _) hm)

/-- The name of a group, with the sign that closes it next. -/
theorem groupName (h : Around pattern s s') (first : Bool) (hn : s.rest.length < n) (hn' : s'.rest.length < n')
    (hm : s.rest.length ≤ m) :
    Follows pattern m s s' (Read.groupName first n) (Read.groupName first n') SameInside := by
  induction n generalizing first s s' n' m with
  | zero => cases hn
  | succ n ih =>
    cases n' with
    | zero => cases hn'
    | succ n' =>
      rw [Read.groupName, Read.groupName]
      refine char? h (fun _ => of_fails (.failHere _)) fun c cs hs => ?_
      have hlt := Source.length_bump hs
      obtain ⟨hfuel, hfuel'⟩ := h.lasts hs (Nat.le_of_lt_succ hn) (Nat.le_of_lt_succ hn') (h.bump hs)
        (Nat.le_of_eq (congrArg List.length (Source.rest_bump hs)))
      dsimp only
      split
      · refine pure h hm ⟨rfl, ?_⟩
        rw [hs]
        exact List.cons_ne_nil c cs
      · refine guard ((Fails.failAtChar _).bind _) id fun _ => ?_
        refine bump (bind (ih (h.bump hs) false hfuel hfuel' (Nat.le_trans (Nat.le_of_lt hlt) hm)) ?_)
        rintro text _ t t' ht hlt ⟨rfl, hinside⟩
        exact pure ht hlt ⟨rfl, hinside⟩

/-- The flags of a group, with the sign that closes them next. -/
theorem flags (h : Around pattern s s') (done : List FlagItem) {dash dash' : Option Extent}
    (hdash : dash.isSome = dash'.isSome) (hn : s.rest.length < n) (hn' : s'.rest.length < n')
    (hm : s.rest.length ≤ m) :
    Follows pattern m s s' (Read.flags done dash n) (Read.flags done dash' n') SameInside := by
  induction n generalizing done dash dash' s s' n' m with
  | zero => cases hn
  | succ n ih =>
    cases n' with
    | zero => cases hn'
    | succ n' =>
      rw [Read.flags, Read.flags]
      refine char? h (fun _ => of_fails (.failHere _)) fun c cs hs => ?_
      have hlt := Source.length_bump hs
      obtain ⟨hfuel, hfuel'⟩ := h.lasts hs (Nat.le_of_lt_succ hn) (Nat.le_of_lt_succ hn') (h.bump hs)
        (Nat.le_of_eq (congrArg List.length (Source.rest_bump hs)))
      dsimp only
      refine charExtent ?_
      split
      · cases dash with
        | some e => exact of_fails (.failAt _ _)
        | none =>
          cases dash' with
          | some e => cases hdash
          | none =>
            refine pure h hm ⟨rfl, ?_⟩
            rw [hs]
            exact List.cons_ne_nil c cs
      · split
        · refine guard ((Fails.failAt _ _).bind _) id fun _ => ?_
          refine bump ?_
          exact ih (h.bump hs) _ rfl hfuel hfuel' (Nat.le_trans (Nat.le_of_lt hlt) hm)
        · split
          · exact of_fails (.failAt _ _)
          · refine guard ((Fails.failAt _ _).bind _) id fun _ => ?_
            refine bump ?_
            exact ih (h.bump hs) _ rfl hfuel hfuel' (Nat.le_trans (Nat.le_of_lt hlt) hm)

/-- The characters up to a closing brace, and what comes then, which fails where there is no such brace. -/
theorem braced {A B : Type} {like : A → B → Source → Prop} (h : Around pattern s s') (hs : s.rest = c :: cs)
    (allowed : Char → Bool) (fault : Fault) (hn : s.rest.length ≤ n) (hn' : s'.rest.length ≤ n')
    {f : List Char → Read A} {f' : List Char → Read B}
    (hend : ∀ text t, t.rest = [] → ∃ e, (f text).run t = .error e)
    (hgo : ∀ text t t', Around pattern t t' → t.rest ≠ [] → t.rest.length ≤ cs.length →
      Follows pattern m t t' (f text) (f' text) like) :
    Follows pattern m s s' (Read.braced allowed fault n >>= f) (Read.braced allowed fault n' >>= f') like := by
  induction n generalizing s s' n' c cs f f' with
  | zero =>
    rw [hs] at hn
    cases hn
  | succ n ih =>
    obtain ⟨k, rfl, hk⟩ := exists_fuel (h.cons hs) hn'
    rw [Read.braced, Read.braced]
    have hstep := h.step hs
    have hlength := Source.length_step hs
    refine assoc (step (assoc (char? hstep (fun hnil => ?_) fun d ds hd => ?_)))
    · intro a t hrun
      obtain ⟨e, he⟩ := hend [] s.bump.skip hnil
      rw [pure_bind, he] at hrun
      cases hrun
    have hne : s.bump.skip.rest ≠ [] := by
      rw [hd]
      exact List.cons_ne_nil d ds
    dsimp only
    split
    · rw [pure_bind, pure_bind]
      exact hgo [] _ _ hstep hne hlength
    · split
      · exact of_fails (((Fails.failAtChar _).bind _).bind _)
      · refine assoc ?_
        refine ih hstep hd ?_ ?_ (fun text t hnil => ?_) fun text t t' ht hne hlt => ?_
        · have : s.rest.length = cs.length + 1 := congrArg List.length hs
          omega
        · exact Nat.le_trans (Source.length_step (h.cons hs)) hk
        · rw [pure_bind]
          exact hend _ t hnil
        · rw [pure_bind, pure_bind]
          refine hgo _ t t' ht hne ?_
          rw [hd] at hlength
          exact Nat.le_trans hlt (Nat.le_of_lt hlength)

/-! ### Escapes -/

/-- The same tree is read, at another place. -/
def Alike (a b : Node) (_ : Source) : Prop :=
  a.bare = b.bare

theorem literal {extent extent' : Extent} (h : Around pattern s s') (hm : s.rest.length ≤ m) (c : Char)
    (isByte : Bool) :
    Follows pattern m s s' (Pure.pure (.literal ⟨extent, c, isByte⟩)) (Pure.pure (.literal ⟨extent', c, isByte⟩))
      Alike :=
  pure h hm rfl

/-- The text between braces is read at once, with the sign that closes them next. -/
theorem bracedText {A B : Type} {like : A → B → Source → Prop} (h : Around pattern s s') (hs : s.rest = c :: cs)
    (allowed : Char → Bool) (fault : Fault) {f : List Char → Read A} {f' : List Char → Read B}
    (hend : ∀ text t, t.rest = [] → ∃ e, (f text).run t = .error e)
    (hgo : ∀ text t t', Around pattern t t' → t.rest ≠ [] → t.rest.length ≤ cs.length →
      Follows pattern m t t' (f text) (f' text) like) :
    Follows pattern m s s' (Read.bracedText allowed fault >>= f) (Read.bracedText allowed fault >>= f') like := by
  unfold Read.bracedText
  exact assoc (get (braced h hs allowed fault (Nat.le_refl _) (Nat.le_refl _) hend hgo))

theorem hex (h : Around pattern s s') (hs : s.rest = c :: cs) (start start' : Place) {digits : Nat}
    (hdigits : digits ≠ 0) (hm : cs.length ≤ m) :
    Follows pattern m s s' (Read.hex start digits) (Read.hex start' digits) Alike := by
  have hstep := h.step hs
  have hlength := Source.length_step hs
  unfold Read.hex
  refine step (char? hstep (fun _ => of_fails (.failHere _)) fun d ds hd => ?_)
  split
  · next heq => cases heq
  · next heq =>
    cases heq
    refine here (charExtent ?_)
    refine bracedText hstep hd _ _ (fun text t hnil => ?_) fun text t t' ht hne hlt => ?_
    · exact Fails.of_atEnd hnil ((Fails.failSince _ _).bind _)
    · refine atEnd ht ((Fails.failSince _ _).bind _) fun e es he => ?_
      refine here (step ?_)
      refine guard ((Fails.failSince _ _).bind _) id fun _ => ?_
      have hlast := Source.length_step he
      rw [hd, List.length_cons] at hlength
      rw [he, List.length_cons] at hlt
      split
      · exact of_fails (.failAt _ _)
      · exact since (literal (ht.step he) (by omega) _ _)
  · next d' hne heq =>
    cases heq
    refine here ?_
    refine bind (hexDigits hstep true digits nofun hlength) ?_
    rintro text _ t t' ht hlt ⟨rfl, hinside⟩
    obtain ⟨e, es, he⟩ := List.exists_cons_of_ne_nil (hinside (.inl hdigits))
    refine step ?_
    have hlast := Source.length_step he
    rw [he, List.length_cons] at hlt
    split
    · exact of_fails (.failSince _ _)
    · exact since (literal (ht.step he) (by omega) _ _)

theorem property (h : Around pattern s s') (hs : s.rest = c :: cs) (start start' : Place) (negated : Bool)
    (hm : cs.length ≤ m) :
    Follows pattern m s s' (Read.property start negated) (Read.property start' negated) Alike := by
  have hstep := h.step hs
  have hlength := Source.length_step hs
  unfold Read.property
  refine step (char? hstep (fun _ => of_fails (.failHere _)) fun d ds hd => ?_)
  rw [hd, List.length_cons] at hlength
  split
  · next heq => cases heq
  · next heq =>
    cases heq
    refine bracedText hstep hd _ _ (fun text t hnil => ?_) fun text t t' ht hne hlt => ?_
    · exact Fails.of_atEnd hnil ((Fails.failHere _).bind _)
    · refine atEnd ht ((Fails.failHere _).bind _) fun e es he => ?_
      have hrest := Source.rest_bump he
      rw [he, List.length_cons] at hlt
      refine bump (since (pure (ht.bump he) ?_ rfl))
      rw [hrest]
      omega
  · next d' hne heq =>
    cases heq
    have hlast := Source.length_step hd
    refine guard ((Fails.failAtChar _).bind _) id fun _ => ?_
    exact step (since (pure (hstep.step hd) (by omega) rfl))

theorem wordBoundary (h : Around pattern s s') (start start' : Place) (hm : s.rest.length ≤ m) :
    Follows pattern m s s' (Read.wordBoundary start) (Read.wordBoundary start') Alike := by
  have hbrace : (s'.rest.head? != some '\x7b') = (s.rest.head? != some '\x7b') :=
    congrArg not (h.head?_beq (by decide))
  unfold Read.wordBoundary
  refine get ?_
  rw [hbrace]
  split
  · exact since (pure h hm rfl)
  · next hcond =>
    rw [Bool.not_eq_true, bne_eq_false_iff_eq] at hcond
    obtain ⟨cs, hs⟩ := List.head?_eq_some_iff.mp hcond
    have hstep := h.step hs
    have hlength := Source.length_step hs
    refine here (step (char? hstep (fun _ => of_fails (.failSince _ _)) fun d ds hd => ?_))
    dsimp only
    split
    · exact set (since (pure h hm rfl))
    · refine here (get ?_)
      refine bind (boundaryName hstep (Nat.le_refl _) (Nat.le_refl _) hlength) ?_
      rintro name _ t t' ht hlt ⟨⟩
      refine char? ht (fun _ => ?_) fun e es he => ?_
      · exact of_fails ((Fails.failSince _ _).bind _)
      · refine guard ((Fails.failSince _ _).bind _) id fun _ => ?_
        refine here (bump ?_)
        have hbump := ht.bump he
        have hrest := Source.rest_bump he
        split
        · exact of_fails (.failAt _ _)
        · refine since (pure hbump ?_ rfl)
          rw [he, List.length_cons] at hlt
          rw [hs, List.length_cons] at hm
          rw [hrest]
          omega

/-- What a backslash begins. -/
theorem escape (h : Around pattern s s') (hs : s.rest = c :: cs) (hm : cs.length ≤ m) :
    Follows pattern m s s' Read.escape Read.escape Alike := by
  have hbump := h.bump hs
  have hrest := Source.rest_bump hs
  unfold Read.escape
  refine here (bump (char? hbump (fun _ => of_fails (.failSince _ _)) fun d ds hd => ?_))
  have hds : ds.length + 1 = cs.length := by rw [← hrest, hd, List.length_cons]
  dsimp only
  refine guard (.charExtent fun _ => (Fails.failAt _ _).bind _) id fun _ => ?_
  split
  · next digits hdigits =>
    refine hex hbump hd _ _ ?_ (by omega)
    rintro rfl
    unfold Read.hexWidth? at hdigits
    split at hdigits <;> cases hdigits
  · split
    · exact property hbump hd _ _ _ (by omega)
    · have hlast := hbump.bump hd
      have hle : s.bump.bump.rest.length ≤ m := by
        rw [Source.rest_bump hd]
        omega
      refine bump (since ?_)
      split
      · exact pure hlast hle rfl
      · split
        · exact literal hlast hle _ _
        · split
          · exact literal hlast hle _ _
          · split
            · exact pure hlast hle rfl
            · split
              · exact wordBoundary hlast _ _ hle
              · exact of_fails (.failAt _ _)

/-- The smallest part of a pattern. -/
theorem atom (h : Around pattern s s') (hs : s.rest = c :: cs) (hm : cs.length ≤ m) :
    Follows pattern m s s' (Read.atom c) (Read.atom c) Alike := by
  have hle : s.bump.rest.length ≤ m := by
    rw [Source.rest_bump hs]
    exact hm
  unfold Read.atom
  split
  · exact escape h hs hm
  · refine charExtent (bump ?_)
    split
    · exact pure (h.bump hs) hle rfl
    · exact pure (h.bump hs) hle rfl
    · exact pure (h.bump hs) hle rfl
    · exact literal (h.bump hs) hle _ _

/-! ### Sets -/

/-- The same set is read, at another place. -/
def AlikeSet (a b : ClassSet) (_ : Source) : Prop :=
  a.bare = b.bare

theorem classAtom (h : Around pattern s s') (hm : s.rest.length ≤ m + 1) :
    Follows pattern m s s' Read.classAtom Read.classAtom Alike := by
  unfold Read.classAtom
  refine charExtent (char? h (fun _ => of_fails (.failHere _)) fun c cs hs => ?_)
  rw [hs, List.length_cons] at hm
  have hle : cs.length ≤ m := by omega
  split
  · exact escape h hs hle
  · next heq =>
    cases heq
    refine bump (literal (h.bump hs) ?_ _ _)
    rw [Source.rest_bump hs]
    exact hle
  · next heq => cases heq

theorem asMember (h : Around pattern s s') (hm : s.rest.length ≤ m) {a b : Node} (hlike : a.bare = b.bare) :
    Follows pattern m s s' (Read.asMember a) (Read.asMember b) AlikeSet := by
  cases a with
  | literal l =>
    cases b with
    | literal l' => exact pure h hm (congrArg ClassSet.literal (Node.literal.inj hlike))
    | _ => cases hlike
  | letter c =>
    cases b with
    | letter c' => exact pure h hm (congrArg ClassSet.letter (Node.letter.inj hlike))
    | _ => cases hlike
  | property c =>
    cases b with
    | property c' => exact pure h hm (congrArg ClassSet.property (Node.property.inj hlike))
    | _ => cases hlike
  | _ => exact of_fails (.failAt _ _)

theorem asLiteral (h : Around pattern s s') (hm : s.rest.length ≤ m) {a b : Node} (hlike : a.bare = b.bare) :
    Follows pattern m s s' (Read.asLiteral a) (Read.asLiteral b) fun l l' _ => l.bare = l'.bare := by
  cases a with
  | literal l =>
    cases b with
    | literal l' => exact pure h hm (Node.literal.inj hlike)
    | _ => cases hlike
  | _ => exact of_fails (.failAt _ _)

/-- The first character that is neither a blank nor in a comment is the same, or it is the parenthesis. -/
theorem firstSolid?_append (inComment : Bool) (cs : List Char) :
    Source.firstSolid? inComment (cs ++ ending) = Source.firstSolid? inComment cs ∨
      Source.firstSolid? inComment cs = none ∧ Source.firstSolid? inComment (cs ++ ending) = some ')' := by
  induction cs generalizing inComment with
  | nil => cases inComment <;> exact .inr ⟨rfl, rfl⟩
  | cons c cs ih =>
    rw [List.cons_append, Source.firstSolid?, Source.firstSolid?]
    split
    · exact ih inComment
    · split
      · exact ih true
      · exact .inl rfl

/-- A sign that is neither a blank nor begins a comment is not passed over. -/
theorem firstSolid?_ne_none {d : Char} (hblank : Text.isBlank d = false) (hsharp : d ≠ '#') (cs : List Char) :
    Source.firstSolid? false (d :: cs) ≠ none := by
  have hbegins : ¬ (!false && d == '#') = true := by
    rw [Bool.not_false, Bool.true_and, beq_iff_eq]
    exact hsharp
  rw [Source.firstSolid?, if_neg (Bool.eq_false_iff.mp hblank), if_neg hbegins]
  exact Option.some_ne_none d

/-- Whether a sign is the character after the next one does not depend on what stands behind the pattern, unless it
is the parenthesis. -/
theorem secondSolid?_eq (h : Around pattern s s') (hs : s.rest = c :: cs) {d : Char} (hblank : Text.isBlank d = false)
    (hd : d ∉ ['#', ')']) : (s'.secondSolid? == some d) = (s.secondSolid? == some d) := by
  simp only [List.mem_cons, List.not_mem_nil, or_false, not_or] at hd
  obtain ⟨hsharp, hparen⟩ := hd
  have hneParen : (some ')' == some d) = false := beq_eq_false_iff_ne.mpr fun heq => hparen (Option.some.inj heq).symm
  have hsecond : (s'.second? == some d) = (s.second? == some d) := by
    unfold Source.second?
    rw [hs, h.cons hs]
    cases cs with
    | nil => exact hneParen
    | cons e es => rfl
  unfold Source.secondSolid?
  rw [h.skipsBlanks]
  split
  · rw [hs, h.cons hs, List.tail_cons, List.tail_cons]
    rcases firstSolid?_append false cs with hsame | ⟨hnone, hsome⟩
    · rw [hsame]
      cases hfirst : Source.firstSolid? false cs with
      | none => exact hsecond
      | some e => rfl
    · rw [hnone, hsome]
      show (some ')' == some d) = (s.second? == some d)
      rw [hneParen, eq_comm, beq_eq_false_iff_ne]
      intro heq
      unfold Source.second? at heq
      rw [hs, List.tail_cons] at heq
      obtain ⟨es, rfl⟩ := List.head?_eq_some_iff.mp heq
      exact firstSolid?_ne_none hblank hsharp es hnone
  · exact hsecond

theorem member (h : Around pattern s s') (hs : s.rest = c :: cs) (opening opening' : Extent) (hm : cs.length ≤ m) :
    Follows pattern m s s' (Read.member opening) (Read.member opening') AlikeSet := by
  unfold Read.member
  have hlength : s.rest.length = cs.length + 1 := congrArg List.length hs
  refine bind (classAtom h (m := m) (by omega)) ?_
  intro first first' t t' ht hlt hfirst
  have hskip := ht.skip
  have hle : t.skip.rest.length ≤ m := Nat.le_trans t.length_skip hlt
  refine skip (get ?_)
  cases hd : t.skip.rest with
  | nil => exact of_fails (.failAt _ _)
  | cons d ds =>
    rw [hskip.cons hd]
    dsimp only
    have hclose := secondSolid?_eq hskip hd (d := ']') rfl (by decide)
    have hdash := secondSolid?_eq hskip hd (d := '-') rfl (by decide)
    rw [hclose, hdash]
    split
    · exact asMember hskip hle hfirst
    · have hstep := hskip.step hd
      have hlast := Source.length_step hd
      rw [hd, List.length_cons] at hle
      refine step (atEnd hstep ((Fails.failAt _ _).bind _) fun e es he => ?_)
      refine bind (classAtom hstep (m := m) (by omega)) ?_
      intro last last' u u' hu hlu hlast
      refine bind (asLiteral hu hlu hfirst) ?_
      intro a a' v v' hv hlv ha
      refine bind (asLiteral hv hlv hlast) ?_
      intro b b' w w' hw hlw hb
      have hchars : a'.char = a.char ∧ b'.char = b.char :=
        ⟨(congrArg Literal.char ha).symm, (congrArg Literal.char hb).symm⟩
      refine guard ((Fails.failAt _ _).bind _) ?_ fun _ => ?_
      · rw [hchars.1, hchars.2]
        exact id
      · refine pure hw hlw ?_
        show ClassSet.range a.bare b.bare = ClassSet.range a'.bare b'.bare
        rw [ha, hb]

end Follows

end MapQuery.Pattern

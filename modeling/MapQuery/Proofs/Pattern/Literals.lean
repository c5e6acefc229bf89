import MapQuery.Proofs.Pattern.Modes
import MapQuery.Text.Normal

/-!
# Patterns without signs

A text in which no character has a meaning of its own for patterns is read as its characters, one after the other.
Where the builder does not refuse it, it is a pattern, which fits where the text occurs or, where the whole text has to
match, the text itself and nothing else.

* `isSign` — the characters that mean something else than themselves; no letter and no digit does.
* `Node.ofText?_literals` — the tree of a text without signs, and what it means.
* `Expr.spelled`, `Expr.testBit_ends_spelled` — the expression of the characters, and the places where it ends.
* `Expr.occursIn_spelled`, `Expr.occursIn_anchored_spelled` — where it occurs, and what it fits as a whole.
* `compile_literals` — what such a text is compiled to.
* `Builder.refuses_standard_literals` — which texts of ASCII characters are refused where sizes are reckoned.
-/

namespace MapQuery.Pattern

variable {c : Char} {cs : List Char} {p : Place} {names : List String}

/-- The characters that mean something else than themselves outside of brackets, that of a comment included. -/
def isSign (c : Char) : Bool :=
  c ∈ ['\\', '.', '^', '$', '|', '(', ')', '[', '?', '*', '+', '\x7b', '#']

theorem isSign_of_isAlphanum (h : c.isAlphanum = true) : isSign c = false := by
  rw [isSign, decide_eq_false_iff_not]
  intro hmem
  simp only [List.mem_cons, List.not_mem_nil, or_false] at hmem
  rcases hmem with rfl | rfl | rfl | rfl | rfl | rfl | rfl | rfl | rfl | rfl | rfl | rfl | rfl <;> cases h

theorem ne_of_isSign {d : Char} (hc : isSign c = false) (hd : isSign d = true) : c ≠ d := by
  rintro rfl
  rw [hc] at hd
  cases hd

/-! ### Reading -/

namespace Read

/-- A character that is no sign is taken for itself. -/
theorem atom_eq (h : isSign c = false) : atom c = plain c := by
  unfold atom plain
  rw [if_neg (by rw [beq_iff_eq]; exact ne_of_isSign h rfl)]
  refine congrArg (charExtent >>= ·) (funext fun extent => congrArg (bump >>= ·) (funext fun _ => ?_))
  split
  · exact absurd rfl (ne_of_isSign h rfl)
  · exact absurd rfl (ne_of_isSign h rfl)
  · exact absurd rfl (ne_of_isSign h rfl)
  · rfl

/-- A character that is no sign is one more part. -/
theorem run_branches_cons (h : isSign c = false) (b : Branches) (n : Nat) (cs : List Char) (p : Place)
    (names : List String) :
    (branches b (n + 1)).run ⟨c :: cs, p, false, names, false⟩ =
      (branches (b.push (.literal ⟨⟨p, p.after c⟩, c, false⟩)) n).run ⟨cs, p.after c, false, names, false⟩ := by
  have hskip (f : Unit → Read Node) :
      (skip >>= f).run ⟨c :: cs, p, false, names, false⟩ = (f ()).run ⟨c :: cs, p, false, names, false⟩ := rfl
  have hturn : (branches b (n + 1)).run ⟨c :: cs, p, false, names, false⟩ =
      (atom c >>= fun part => branches (b.push part) n).run ⟨c :: cs, p, false, names, false⟩ := by
    rw [branches, hskip, run_char?, List.head?_cons]
    split
    · next heq => cases heq
    iterate 8 · next heq => exact absurd (Option.some.inj heq) (ne_of_isSign h rfl)
    · next heq =>
      cases heq
      rfl
  rw [hturn, atom_eq h]
  rfl

/-- A text without signs is read as its characters. -/
theorem run_branches_literals (h : ∀ c ∈ cs, isSign c = false) (b : Branches) (p : Place) (names : List String)
    {n : Nat} (hn : cs.length < n) :
    ∃ ls : List Literal, ls.map Literal.char = cs ∧ ∃ q,
      (branches b n).run ⟨cs, p, false, names, false⟩ =
        .ok ({ b with parts := (ls.map Node.literal).reverse ++ b.parts }.value q, ⟨[], q, false, names, false⟩) := by
  induction cs generalizing b p n with
  | nil =>
    cases n with
    | zero => cases hn
    | succ n => exact ⟨[], rfl, p, rfl⟩
  | cons c cs ih =>
    obtain ⟨hc, hcs⟩ := List.forall_mem_cons.mp h
    cases n with
    | zero => cases hn
    | succ n =>
      obtain ⟨ls, hls, q, hrun⟩ := ih hcs (b.push (.literal ⟨⟨p, p.after c⟩, c, false⟩)) (p.after c)
        (Nat.lt_of_succ_lt_succ hn)
      refine ⟨⟨⟨p, p.after c⟩, c, false⟩ :: ls, by rw [List.map_cons, hls], q, ?_⟩
      rw [run_branches_cons hc, hrun]
      simp [Branches.push]

/-- The tree of literals. -/
theorem run_pattern_literals {text : String} (h : ∀ c ∈ text.toList, isSign c = false) :
    ∃ ls : List Literal, ls.map Literal.char = text.toList ∧ ∃ q u,
      pattern.run (Source.ofText text) = .ok (Branches.last ⟨.start, [], .start, (ls.map Node.literal).reverse⟩ q, u) := by
  obtain ⟨ls, hls, q, hrun⟩ := run_branches_literals h (.none .start) .start [] (Nat.lt_succ_self _)
  refine ⟨ls, hls, q, ⟨[], q, false, [], false⟩, run_pattern_eq_ok_iff.mpr ⟨?_, rfl⟩⟩
  refine hrun.trans ?_
  rw [show (Branches.none .start).parts = [] from rfl, List.append_nil]
  rfl

end Read

/-- The characters of a text, one after the other. -/
def Expr.spelled (cs : List Char) : Expr :=
  sequence (cs.map fun c => .set [(c.toNat, c.toNat)])

namespace Node

theorem anyTooDeep?_eq_none {nodes : List Node} {depth : Nat} (h : ∀ n ∈ nodes, n.tooDeep? depth = none) :
    anyTooDeep? depth nodes = none := by
  induction nodes with
  | nil => rfl
  | cons n nodes ih =>
    obtain ⟨hn, hnodes⟩ := List.forall_mem_cons.mp h
    rw [anyTooDeep?, hn, ih hnodes]
    rfl

/-- A branch of parts that are not nested lies no deeper than its parts and one more level. -/
theorem tooDeep?_last {b : Branches} (h : ∀ part ∈ b.parts, ∀ depth, part.tooDeep? depth = none) (q : Place)
    {depth : Nat} (hdepth : depth < Fault.nestLimit) : (b.last q).tooDeep? depth = none := by
  unfold Branches.last
  split
  · rfl
  · next part heq => exact h part (heq ▸ List.mem_singleton_self part) depth
  · rw [tooDeep?, if_pos hdepth]
    exact anyTooDeep?_eq_none fun n hn => h n (List.mem_reverse.mp hn) (depth + 1)

/-- A branch means its parts one after the other. -/
theorem meaning_last (b : Branches) (q : Place) (s : Settings) :
    (b.last q).meaning s = meanings b.parts.reverse s >>= fun read => pure (.sequence read.1, read.2) := by
  unfold Branches.last
  split
  · next heq =>
    rw [heq]
    rfl
  · next part heq =>
    rw [heq, List.reverse_singleton]
    show _ = ((part.meaning s >>= fun read => pure ([read.1], read.2)) >>= fun read =>
      pure (Expr.sequence read.1, read.2))
    rw [bind_assoc]
    cases part.meaning s <;> rfl
  · rfl

theorem meanings_literals (ls : List Literal) :
    meanings (ls.map literal) (settings true) =
      .ok ((ls.map Literal.char).map fun c => .set [(c.toNat, c.toNat)], settings true) := by
  induction ls with
  | nil => rfl
  | cons l ls ih =>
    have hfirst : (literal l).meaning (settings true) = .ok (.set [(l.char.toNat, l.char.toNat)], settings true) := rfl
    rw [List.map_cons, meanings, hfirst]
    show (meanings (ls.map literal) (settings true) >>= _) = _
    rw [ih]
    rfl

/-- A text without signs is read as a tree of little depth that means its characters. -/
theorem ofText?_literals {text : String} (h : ∀ c ∈ text.toList, isSign c = false) :
    ∃ t, ofText? text = .ok t ∧ t.tooDeep? 2 = none ∧
      t.meaning (settings true) = .ok (.spelled text.toList, settings true) := by
  obtain ⟨ls, hls, q, u, hrun⟩ := Read.run_pattern_literals h
  have hdeep {depth : Nat} (hdepth : depth < Fault.nestLimit) :
      (Branches.last ⟨.start, [], .start, (ls.map literal).reverse⟩ q).tooDeep? depth = none := by
    refine tooDeep?_last (fun part hpart depth => ?_) q hdepth
    obtain ⟨l, -, rfl⟩ := List.mem_map.mp (List.mem_reverse.mp hpart)
    rfl
  refine ⟨_, ?_, hdeep (by decide), ?_⟩
  · rw [ofText?_of_run hrun, hdeep (by decide)]
  · rw [meaning_last, List.reverse_reverse, meanings_literals, hls]
    rfl

end Node

/-! ### Places -/

namespace Expr

theorem testBit_setPlaces (members : Character.Ranges) (text : List Char) (i : Nat) :
    (setPlaces members text).testBit i = (text[i]?).any fun c => members.has c.toNat := by
  induction text generalizing i with
  | nil => exact Nat.zero_testBit i
  | cons c cs ih =>
    rw [setPlaces]
    cases i with
    | zero =>
      rw [Nat.testBit_zero, List.getElem?_cons_zero, Option.any_some]
      cases members.has c.toNat <;> simp
    | succ i =>
      have hhalf : (2 * setPlaces members cs + (members.has c.toNat).toNat) / 2 = setPlaces members cs := by
        cases members.has c.toNat with
        | false =>
          rw [Bool.toNat_false]
          omega
        | true =>
          rw [Bool.toNat_true]
          omega
      rw [Nat.testBit_succ, hhalf, ih, List.getElem?_cons_succ]

theorem testBit_allPlaces (text : List Char) (i : Nat) : (allPlaces text).testBit i = decide (i ≤ text.length) := by
  induction text generalizing i with
  | nil =>
    show (1 : Nat).testBit i = _
    rw [Bool.eq_iff_iff, Nat.testBit_one_eq_true_iff_self_eq_zero, decide_eq_true_iff]
    exact Nat.le_zero.symm
  | cons c cs ih =>
    rw [allPlaces]
    cases i with
    | zero => simp [Nat.testBit_zero]
    | succ i =>
      have hhalf : (2 * allPlaces cs + 1) / 2 = allPlaces cs := by omega
      rw [Nat.testBit_succ, hhalf, ih]
      simp

theorem has_singleton (n m : Nat) : Character.Ranges.has [(n, n)] m = decide (m = n) := by
  simp only [Character.Ranges.has]
  grind

/-- A character takes a place where it stands to the next one. -/
theorem testBit_ends_char (c : Char) (text : List Char) (s i : Nat) :
    ((Expr.set [(c.toNat, c.toNat)]).ends text s).testBit i = true ↔
      ∃ j, s.testBit j = true ∧ text[j]? = some c ∧ i = j + 1 := by
  show ((s &&& setPlaces _ text) <<< 1).testBit i = true ↔ _
  rw [Nat.testBit_shiftLeft, Bool.and_eq_true, Nat.testBit_and, Bool.and_eq_true, testBit_setPlaces, Option.any_eq_true,
    decide_eq_true_iff]
  constructor
  · rintro ⟨hi, hs, d, hd, hc⟩
    rw [has_singleton, decide_eq_true_iff] at hc
    have hd' : d = c := Char.toNat_inj.mp hc
    exact ⟨i - 1, hs, hd' ▸ hd, by omega⟩
  · rintro ⟨j, hs, hc, rfl⟩
    refine ⟨by omega, hs, c, hc, ?_⟩
    rw [has_singleton]
    exact decide_eq_true rfl

theorem ends_sequence_cons (e : Expr) (es : List Expr) (text : List Char) (s : Nat) :
    (sequence (e :: es)).ends text s = (sequence es).ends text (e.ends text s) := by
  cases es with
  | nil => rfl
  | cons e' es => rfl

/-- The characters of a text take a place where the text stands to the place behind it. -/
theorem testBit_ends_spelled (cs text : List Char) (s i : Nat) :
    ((spelled cs).ends text s).testBit i = true ↔
      ∃ j, s.testBit j = true ∧ cs <+: text.drop j ∧ i = j + cs.length := by
  induction cs generalizing s with
  | nil =>
    show s.testBit i = true ↔ _
    simp
  | cons c cs ih =>
    rw [spelled, List.map_cons, ends_sequence_cons]
    show ((spelled cs).ends text _).testBit i = true ↔ _
    rw [ih]
    constructor
    · rintro ⟨k, hk, hbegins, rfl⟩
      obtain ⟨j, hj, hc, rfl⟩ := (testBit_ends_char c text s k).mp hk
      refine ⟨j, hj, ?_, by simp; omega⟩
      obtain ⟨hlt, hget⟩ := List.getElem?_eq_some_iff.mp hc
      rw [List.drop_eq_getElem_cons hlt, hget]
      exact List.cons_prefix_cons.mpr ⟨rfl, hbegins⟩
    · rintro ⟨j, hj, hbegins, rfl⟩
      have hlt : j < text.length := by
        have := hbegins.length_le
        simp at this
        omega
      rw [List.drop_eq_getElem_cons hlt, List.cons_prefix_cons] at hbegins
      refine ⟨j + 1, (testBit_ends_char c text s (j + 1)).mpr ⟨j, hj, ?_, rfl⟩, hbegins.2, by simp; omega⟩
      rw [List.getElem?_eq_getElem hlt, hbegins.1]

/-- The characters of a text occur where the text occurs. -/
theorem occursIn_spelled (cs text : List Char) : (spelled cs).occursIn text = Text.occursIn cs text := by
  rw [Bool.eq_iff_iff, Text.occursIn_iff]
  show (_ != 0) = true ↔ _
  rw [bne_iff_ne]
  constructor
  · intro h
    obtain ⟨i, hi⟩ := Nat.exists_testBit_of_ne_zero h
    obtain ⟨j, -, ⟨after, hafter⟩, -⟩ := (testBit_ends_spelled cs text _ i).mp hi
    exact ⟨text.take j, after, by rw [List.append_assoc, hafter, List.take_append_drop]⟩
  · rintro ⟨before, after, rfl⟩
    refine ne_zero_of_testBit ((testBit_ends_spelled _ _ _ _).mpr ⟨before.length, ?_, ?_, rfl⟩)
    · rw [testBit_allPlaces, decide_eq_true_iff]
      simp
    · rw [List.append_assoc, List.drop_left]
      exact List.prefix_append cs after

/-- Between the ends of a text, its own characters and no others occur. -/
theorem occursIn_anchored_spelled (cs text : List Char) : (spelled cs).anchored.occursIn text = decide (text = cs) := by
  rw [occursIn_anchored, Bool.eq_iff_iff, decide_eq_true_iff, testBit_ends_spelled]
  constructor
  · rintro ⟨j, hj, hbegins, hlength⟩
    rw [Nat.testBit_one_eq_true_iff_self_eq_zero] at hj
    subst hj
    exact (hbegins.eq_of_length (by simpa using hlength.symm)).symm
  · rintro rfl
    exact ⟨0, rfl, List.prefix_refl _, (Nat.zero_add _).symm⟩

theorem size_sequence_cons (e : Expr) (es : List Expr) : (sequence (e :: es)).size = e.size + (sequence es).size := by
  cases es with
  | nil => rfl
  | cons e' es => rfl

theorem size_spelled {cs : List Char} (h : ∀ c ∈ cs, c.toNat < 0x80) : (spelled cs).size = stateSize * cs.length := by
  induction cs with
  | nil => rfl
  | cons c cs ih =>
    obtain ⟨hc, hcs⟩ := List.forall_mem_cons.mp h
    have hone : (Expr.set [(c.toNat, c.toNat)]).size = stateSize := by
      have hbytes : Utf8.bytes c.toNat = [c.toNat] := if_pos hc
      show (if c.toNat = c.toNat ∧ [] = [] then stateSize * (Utf8.bytes c.toNat).length else _) = _
      rw [if_pos ⟨rfl, rfl⟩, hbytes]
      rfl
    have hrest : (spelled cs).size = stateSize * cs.length := ih hcs
    rw [spelled, List.map_cons, size_sequence_cons, hone]
    show stateSize + (spelled cs).size = _
    rw [hrest, List.length_cons, Nat.mul_succ, Nat.add_comm]

end Expr

/-! ### Compilation -/

variable {text : String}

/-- The expression of a text in a mode. -/
def spelledIn (mode : Mode) (cs : List Char) : Expr :=
  match mode with
  | .full => (Expr.spelled cs).anchored
  | .find => .spelled cs

/-- A text without signs stands for its characters, in both modes: there is no comment in it, and it is not nested. -/
theorem Expr.ofText?_literals (mode : Mode) (h : ∀ c ∈ text.toList, isSign c = false) :
    ofText? true (wrapped mode text) = .ok (spelledIn mode text.toList) := by
  obtain ⟨t, ht, hdeep, hmeaning⟩ := Node.ofText?_literals h
  have hspelled : ofText? true text = .ok (.spelled text.toList) := ofText?_eq_ok_iff.mpr ⟨t, _, ht, hmeaning⟩
  cases mode with
  | find => exact hspelled
  | full =>
    refine (ofText?_wrapped_eq_ok_iff ht).mpr ⟨fun hcomment => ?_, ?_, _, hspelled, rfl⟩
    · obtain ⟨before, comment, htext, -⟩ := hcomment.signInLastLine
      cases h '#' (by rw [htext]; simp)
    · rintro ⟨t', ht', hnested⟩
      cases ht.symm.trans ht'
      exact hnested hdeep

/-- A text without signs is a pattern of its characters, unless the builder refuses it. -/
theorem compile_literals (mode : Mode) (h : ∀ c ∈ text.toList, isSign c = false) (builder : Builder) :
    compile mode true text builder =
      if builder.refuses (wrapped mode text) true then .error .tooLarge
      else .ok ⟨wrapped mode text, spelledIn mode text.toList⟩ := by
  obtain ⟨t, ht, -⟩ := Node.ofText?_literals h
  unfold compile
  dsimp only
  rw [ht, Expr.ofText?_literals mode h]
  rfl

/-! ### Sizes -/

/-- The bytes of a machine besides those for the characters of a text. -/
def framing : Mode → Nat
  | .full => 6 * stateSize
  | .find => 6 * stateSize + byteWaySize + 2 * emptyWaySize

theorem isAnchored_spelled (cs : List Char) : (Expr.spelled cs).isAnchored = false := by
  induction cs with
  | nil => rfl
  | cons c cs ih =>
    cases cs with
    | nil => rfl
    | cons d cs => exact (Bool.false_or _).trans (Bool.false_and _)

/-- The machine of a text of ASCII characters has a state for each of them. -/
theorem machineSize_spelledIn (mode : Mode) (h : ∀ c ∈ cs, c.toNat < 0x80) :
    (spelledIn mode cs).machineSize = stateSize * cs.length + framing mode := by
  have hsize := Expr.size_spelled h
  cases mode with
  | find =>
    show (Expr.spelled cs).size + 3 * stateSize +
      (if (Expr.spelled cs).isAnchored then stateSize else 3 * stateSize + byteWaySize + 2 * emptyWaySize) = _
    rw [hsize, isAnchored_spelled]
    rfl
  | full =>
    show (Expr.spelled cs).anchored.size + 3 * stateSize + stateSize = _
    rw [Expr.size_anchored, hsize]
    rfl

/-- The standard builder refuses a text of ASCII characters without signs exactly if it is long. -/
theorem Builder.refuses_standard_literals (mode : Mode) (hsign : ∀ c ∈ text.toList, isSign c = false)
    (hascii : ∀ c ∈ text.toList, c.toNat < 0x80) :
    Builder.standard.refuses (wrapped mode text) true =
      decide (sizeLimit < stateSize * text.length + framing mode) := by
  have hsize := machineSize_spelledIn mode hascii
  rw [String.length_toList] at hsize
  unfold Builder.standard
  dsimp only
  rw [Expr.ofText?_literals mode hsign]
  dsimp only
  rw [hsize]

end MapQuery.Pattern

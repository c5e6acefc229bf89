import MapQuery.Compiler.Builtin
import MapQuery.Proofs.Compiler.Reading
import MapQuery.Proofs.Query.Rank
import MapQuery.Proofs.Query.Unplaced

/-!
# The shape of the built-in keywords

A built-in keyword is a condition, a condition with an argument of one token, or a question about the
primitives around. What has to be known of all of them is known of these three.

* `Reading.Makes` — a program that takes no token and makes a query without queries inside of it, or fails
  without a place.
* `Reading.TakesOne` — a program that takes a text, a number or a range before it does so.
* `Factory.Basic` — the three shapes of keywords.
* `Registry.basic_builtin` — every built-in keyword has one of them.
* `Registry.get?_builtin` — no built-in keyword takes the place of another one.
-/

namespace MapQuery

namespace Reading

/-- Makes a query without queries inside of it, or fails without a place, and takes no token. -/
inductive Makes : Reading Query → Prop
  | done {q : Query} (h : q.rank = 0) : Makes (.done q)
  | fail {e : Failure} (h : e.span? = none) : Makes (.fail e)

/-- Takes one token and makes a query of what it reads. It fails where it does not read what it should. -/
inductive TakesOne : Reading Query → Prop
  | text {f : Option String → Reading Query} (h : ∀ x, (f x).Makes) : TakesOne (takeText >>= f)
  | number (message : String) {f : Int → Reading Query} (h : ∀ x, (f x).Makes) :
    TakesOne (takeNumber message >>= f)
  | range (message : String) {f : Range → Reading Query} (h : ∀ x, (f x).Makes) :
    TakesOne (takeRange message >>= f)

theorem makes_ofExcept {r : Except Failure Query} (h : ∀ q, r = .ok q → q.rank = 0)
    (herror : Unplaced r) : (ofExcept r).Makes := by
  cases r with
  | ok q => exact .done (h q rfl)
  | error e => exact .fail (herror e rfl)

end Reading

/-- The shapes of keywords: a condition, a condition with an argument, and something around a query. -/
inductive Factory.Basic : Factory → Prop
  | plain {q : Query} (h : q.rank = 0) : Basic (Builtin.plain q)
  | withArgument {read : Flags → Reading Query} (h : ∀ flags, (read flags).TakesOne) :
    Basic (Builtin.withArgument read)
  | around {wrap : Query → Query} (h : ∀ q, (wrap q).rank = q.rank + 1) :
    Basic (.unary (fun _ q => .ok (wrap q)) (fun _ q => .done (wrap q)))

namespace Builtin

open Reading

theorem takesOne_range (property : Property) (message : String) : (range property message).TakesOne :=
  .range message fun _ => .done rfl

theorem takesOne_kind : kind.TakesOne := by
  refine .text fun name => ?_
  dsimp only
  split
  · exact .done rfl
  · exact .fail rfl

theorem takesOne_user : user.TakesOne :=
  .text fun _ => .done rfl

theorem takesOne_role : role.TakesOne :=
  .text fun _ => .done rfl

theorem takesOne_hasRole : hasRole.TakesOne := by
  refine .text fun name => ?_
  cases name with
  | some r => exact .done rfl
  | none => exact .fail rfl

theorem takesOne_nth : nth.TakesOne := by
  refine .number positionMessage fun position => ?_
  split
  · exact .fail rfl
  · exact .done rfl

theorem takesOne_nthModulo : nthModulo.TakesOne := by
  refine .number positionMessage fun position => ?_
  split
  · exact .fail rfl
  · exact .done rfl

theorem rank_timestampOf {now : Instant} {flags : Flags} {text : String} {q : Query}
    (h : timestampOf now flags text = .ok q) : q.rank = 0 := by
  unfold timestampOf at h
  split at h
  · next value _ =>
    cases hvalue : ValueSearch.compile "timestamp" (String.ofList value) flags with
    | error e => rw [hvalue] at h; cases h
    | ok m => rw [hvalue] at h; cases h; rfl
  · obtain ⟨first, _, h⟩ := exists_of_bind_eq_ok h
    obtain ⟨last, _, h⟩ := exists_of_bind_eq_ok h
    cases h
    rfl
  · cases h

theorem unplaced_instant (dflt : Instant) (text : List Char) : Unplaced (instant dflt text) := by
  unfold instant
  split
  · exact unplaced_ok dflt
  · dsimp only
    split
    · exact unplaced_ok _
    · exact unplaced_error rfl

theorem unplaced_timestampOf (now : Instant) (flags : Flags) (text : String) :
    Unplaced (timestampOf now flags text) := by
  unfold timestampOf
  split
  · exact (ValueSearch.unplaced_compile _ _ flags).map Query.value
  · refine (unplaced_instant .earliest _).bind fun first => ?_
    exact (unplaced_instant now _).bind fun last => unplaced_ok _
  · exact unplaced_error rfl

theorem takesOne_timestamp (now : Instant) (flags : Flags) : (timestamp now flags).TakesOne :=
  .text fun _ => makes_ofExcept (fun _ => rank_timestampOf) (unplaced_timestampOf now flags _)

theorem basic_entries (areas : Areas) (now : Instant) : ∀ e ∈ entries areas now, e.2.Basic := by
  intro e he
  simp only [entries, List.mem_append, List.mem_map, List.mem_cons, List.not_mem_nil, or_false] at he
  rcases he with (((⟨⟨property, message⟩, _, rfl⟩ | ⟨state, _, rfl⟩) | ⟨area, _, rfl⟩) |
    ⟨area, _, rfl⟩) | rfl | rfl | rfl | rfl | rfl | rfl | rfl | rfl | rfl
  · exact .withArgument fun _ => takesOne_range property message
  · exact .plain rfl
  · exact .plain rfl
  · exact .plain rfl
  · exact .withArgument fun _ => takesOne_kind
  · exact .withArgument fun _ => takesOne_user
  · exact .withArgument fun _ => takesOne_role
  · exact .withArgument fun _ => takesOne_hasRole
  · exact .withArgument fun _ => takesOne_nth
  · exact .withArgument fun _ => takesOne_nthModulo
  · exact .withArgument (takesOne_timestamp now)
  · exact .around fun _ => rfl
  · exact .around fun _ => rfl

end Builtin

namespace Registry

/-- A registry has one of its keywords' factories under a keyword, or the one it was given with it. -/
theorem exists_of_get?_foldl_insert {entries : List (String × Factory)} {r : Registry} {keyword : String}
    {f : Factory}
    (h : (entries.foldl (fun r (keyword, f) => r.insert keyword f) r).get? keyword = some f) :
    r.get? keyword = some f ∨ ∃ e ∈ entries, e.2 = f := by
  induction entries generalizing r with
  | nil => exact .inl h
  | cons e entries ih =>
    rcases ih h with hr | ⟨e', he', hf⟩
    · rw [get?_insert] at hr
      split at hr
      · exact .inr ⟨e, List.mem_cons_self, Option.some.inj hr⟩
      · exact .inl hr
    · exact .inr ⟨e', List.mem_cons_of_mem _ he', hf⟩

theorem get?_foldl_insert_of_not_mem {entries : List (String × Factory)} {keyword : String}
    (h : keyword ∉ entries.map Prod.fst) (r : Registry) :
    (entries.foldl (fun r (keyword, f) => r.insert keyword f) r).get? keyword = r.get? keyword := by
  induction entries generalizing r with
  | nil => rfl
  | cons e entries ih =>
    rw [List.map_cons, List.mem_cons, not_or] at h
    obtain ⟨hne, hrest⟩ := h
    rw [List.foldl_cons, ih hrest, get?_insert, if_neg (Ne.symm hne)]

/-- Keywords that are all different have the factories that they were given with. -/
theorem get?_foldl_insert_of_mem {entries : List (String × Factory)} (hnodup : (entries.map Prod.fst).Nodup)
    {e : String × Factory} (he : e ∈ entries) (r : Registry) :
    (entries.foldl (fun r (keyword, f) => r.insert keyword f) r).get? e.1 = some e.2 := by
  induction entries generalizing r with
  | nil => cases he
  | cons first rest ih =>
    obtain ⟨hfirst, hrest⟩ := List.nodup_cons.mp hnodup
    rw [List.foldl_cons]
    rcases List.mem_cons.mp he with rfl | he
    · rw [get?_foldl_insert_of_not_mem hfirst, get?_insert, if_pos rfl]
    · exact ih hrest he _

/-- The built-in keywords are all different, and each has its factory. -/
theorem get?_builtin {areas : Areas} {now : Instant} {e : String × Factory}
    (he : e ∈ Builtin.entries areas now) : (builtin areas now).get? e.1 = some e.2 := by
  have hkeywords : (Builtin.entries areas now).map Prod.fst =
      ["id", "version", "changeset", "nodes", "ways", "members", "tags", "areasize", "waylength", "modified",
        "deleted", "selected", "incomplete", "untagged", "closed", "new", "indownloadedarea", "inview",
        "allindownloadedarea", "allinview", "type", "user", "role", "hasRole", "nth", "nth%", "timestamp",
        "parent", "child"] := rfl
  refine get?_foldl_insert_of_mem ?_ he .empty
  rw [hkeywords]
  decide

/-- Every built-in keyword has one of the three shapes. -/
theorem basic_builtin {areas : Areas} {now : Instant} {keyword : String} {f : Factory}
    (h : (builtin areas now).get? keyword = some f) : f.Basic := by
  rcases exists_of_get?_foldl_insert h with hempty | ⟨e, he, rfl⟩
  · rw [get?_empty] at hempty
    cases hempty
  · exact Builtin.basic_entries areas now e he

end Registry

end MapQuery

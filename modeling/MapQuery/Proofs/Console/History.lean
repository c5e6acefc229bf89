import Mathlib.Data.List.Induction
import MapQuery.Console.Session

/-!
# What a session has kept

A session keeps four things from line to line: the data set, the flags, the saved searches and the last query
that could be compiled. A line changes one of them at most, and nothing that came before is looked at again.
So what a session has kept is known from the lines that it has answered.

* `entered` — a line as the session takes it.
* `searched?` — the search that a line asks for.
* `flagsAfter`, `searches` — the flags after several lines, and the queries among them that could be compiled.
* `Session.after` — a session after several lines.
* `Session.Answers` — what a session answers to a line; `Session.answer_session`, `lines_answer_query` and
  `goesOn_answer` say what follows.
* `Session.after_start` — a session keeps what its lines say.
-/

namespace MapQuery.Console

/-! ### Lines -/

/-- A line as the session takes it: what has been typed, without blanks around it. -/
def entered (line : String) : String :=
  String.ofList (Text.trim (typed line.toList))

/-- A line without a backspace is only trimmed. -/
theorem entered_of_no_backspace {line : String} (h : backspace ∉ line.toList) :
    entered line = String.ofList (Text.trim line.toList) := by
  rw [entered, typed_of_no_backspace h]

/-- A line without a backspace and without blanks around it is taken as it is. -/
theorem entered_of_trimmed {line : String} (h : backspace ∉ line.toList)
    (ht : Text.trim line.toList = line.toList) : entered line = line := by
  rw [entered_of_no_backspace h, ht, String.ofList_toList]

/-- A line that is a query, and neither blank nor a command. -/
def isQuery (line : String) : Bool :=
  line ≠ "" && line.toList.head? ≠ some ':'

/-- The search that a line asks for under some flags, if it is a query that can be compiled. -/
def searched? (data : DataSet) (flags : Flags) (now : Instant) (line : String) : Option SavedSearch :=
  if isQuery line && (Query.compile (.builtin data.areas now) flags line).isOk then some ⟨line, flags⟩
  else none

/-- A flag is set if the number of lines that switch it is odd. -/
def switched (command : String) (lines : List (Instant × String)) : Bool :=
  lines.countP (fun line => entered line.2 = command) % 2 = 1

/-- The flags after several lines. -/
def flagsAfter (lines : List (Instant × String)) : Flags :=
  ⟨switched ":case" lines, switched ":regex" lines⟩

/-- The queries among several lines that could be compiled, each with the flags after the lines before it,
the first of which are `earlier`. -/
def searches (data : DataSet) :
    (earlier lines : List (Instant × String)) → List SavedSearch
  | _, [] => []
  | earlier, line :: lines =>
    (searched? data (flagsAfter earlier) line.1 (entered line.2)).toList ++
      searches data (earlier ++ [line]) lines

theorem switched_append (command : String) (lines : List (Instant × String)) (line : Instant × String) :
    switched command (lines ++ [line]) = (switched command lines ^^ entered line.2 = command) := by
  unfold switched
  rw [List.countP_append, List.countP_singleton]
  by_cases h : entered line.2 = command
  · rw [decide_eq_true h, if_pos rfl, Bool.xor_true, ← decide_not, decide_eq_decide]
    omega
  · rw [decide_eq_false h, if_neg Bool.false_ne_true, Nat.add_zero, Bool.xor_false]

theorem searches_append (data : DataSet) (earlier lines : List (Instant × String))
    (line : Instant × String) :
    searches data earlier (lines ++ [line]) = searches data earlier lines ++
      (searched? data (flagsAfter (earlier ++ lines)) line.1 (entered line.2)).toList := by
  induction lines generalizing earlier with
  | nil => simp [searches]
  | cons first lines ih =>
    rw [List.cons_append, searches, ih, searches, List.append_assoc, List.append_assoc,
      List.singleton_append]

namespace Session

/-! ### One line -/

/-- The saved searches after the last search has been saved, if there is one. -/
def savedLast (s : Session) : SavedSearches :=
  match s.last with
  | some setting => s.saved.remember setting
  | none => s.saved

/-- What a query does to a session. -/
theorem search_session (s : Session) (now : Instant) {query : String} (h : isQuery query) :
    (s.search now query).1 = { s with last := (searched? s.data s.flags now query).or s.last } := by
  unfold search searched? SavedSearch.compile
  rw [h, Bool.true_and]
  dsimp only
  cases Query.compile (.builtin s.data.areas now) s.flags query <;> rfl

/-- What a session answers to a line that has been entered: to some lines it only says something. -/
inductive Answers (s : Session) (now : Instant) (line : String) : Answer → Prop where
  | query (h : isQuery line) : Answers s now line (s.perform now (.query line))
  | toggleCase (h : line = ":case") : Answers s now line (s.perform now .toggleCase)
  | toggleRegex (h : line = ":regex") : Answers s now line (s.perform now .toggleRegex)
  | save (h : line = ":save") : Answers s now line (s.perform now .save)
  | quit (h : line = ":quit" ∨ line = ":q") : Answers s now line (s.perform now .quit)
  | tells (h : isQuery line = false) (hline : line ∉ [":case", ":regex", ":save", ":quit", ":q"])
    (lines : List String) : Answers s now line (s.reply lines)

theorem answers_answer (s : Session) (now : Instant) (line : String) :
    Answers s now (entered line) (s.answer now line) := by
  unfold answer
  change Answers s now (entered line)
    (if entered line = "" then s.reply [] else s.perform now (.ofLine (entered line)))
  generalize entered line = line
  split
  · next hblank =>
    subst hblank
    exact .tells (by decide) (by decide) []
  · next hblank =>
    unfold Command.ofLine
    split
    case h_1 => exact .quit (.inl rfl)
    case h_2 => exact .quit (.inr rfl)
    case h_5 => exact .toggleCase rfl
    case h_6 => exact .toggleRegex rfl
    case h_8 => exact .save rfl
    case h_10 hquit hq _ _ hcase hregex _ hsave _ =>
      split
      · next hcolon =>
        refine .tells (by simp [isQuery, hcolon]) ?_ _
        simp only [List.mem_cons, List.not_mem_nil, or_false, not_or]
        exact ⟨hcase, hregex, hsave, hquit, hq⟩
      · next hcolon => exact .query (by simp [isQuery, hblank, hcolon])
    all_goals exact .tells (by decide) (by decide) _

/-- A query is no command. -/
theorem ne_of_isQuery {line command : String} (h : isQuery line) (hc : isQuery command = false) :
    line ≠ command := by
  rintro rfl
  rw [hc] at h
  cases h

/-- What one line does to a session. -/
theorem answer_session (s : Session) (now : Instant) (line : String) :
    (s.answer now line).session =
      { data := s.data
        flags := ⟨s.flags.caseSensitive ^^ entered line = ":case", s.flags.regex ^^ entered line = ":regex"⟩
        saved := if entered line = ":save" then s.savedLast else s.saved
        last := (searched? s.data s.flags now (entered line)).or s.last } := by
  have hanswers := s.answers_answer now line
  generalize s.answer now line = a at hanswers ⊢
  generalize entered line = line at hanswers ⊢
  cases hanswers with
  | query h =>
    have hcase : line ≠ ":case" := ne_of_isQuery h (by decide)
    have hregex : line ≠ ":regex" := ne_of_isQuery h (by decide)
    have hsave : line ≠ ":save" := ne_of_isQuery h (by decide)
    rw [decide_eq_false hcase, decide_eq_false hregex, if_neg hsave, Bool.xor_false, Bool.xor_false]
    exact s.search_session now h
  | toggleCase h => simp [h, perform, reply, searched?, isQuery]
  | toggleRegex h => simp [h, perform, reply, searched?, isQuery]
  | save h =>
    obtain ⟨data, flags, saved, last⟩ := s
    cases last <;> simp [h, perform, reply, savedLast, searched?, isQuery]
  | quit h => rcases h with h | h <;> simp [h, perform, searched?, isQuery]
  | tells h hline lines =>
    simp only [List.mem_cons, List.not_mem_nil, or_false, not_or] at hline
    simp [reply, searched?, h, hline]

/-- Only a line that saves changes the saved searches. -/
theorem saved_answer (s : Session) (now : Instant) (line : String) :
    (s.answer now line).session.saved = if entered line = ":save" then s.savedLast else s.saved := by
  rw [answer_session]

/-- The answer to a query. -/
theorem lines_answer_query (s : Session) (now : Instant) {line : String} (h : isQuery (entered line)) :
    (s.answer now line).lines =
      match Query.compile (.builtin s.data.areas now) s.flags (entered line) with
      | .ok q =>
        [.text ("表达式: " ++ q.shown)] ++ (s.data.search q).map (fun p => .text ("  " ++ p.shown)) ++
          [.matched (s.data.search q).length]
      | .error f => (failureLines (entered line) f).map .text := by
  have hanswers := s.answers_answer now line
  generalize s.answer now line = a at hanswers ⊢
  generalize entered line = line at h hanswers ⊢
  cases hanswers with
  | query _ =>
    show (s.search now line).2 = _
    unfold search SavedSearch.compile
    dsimp only
    cases Query.compile (.builtin s.data.areas now) s.flags line <;> rfl
  -- No other line is a query.
  | tells hquery => simp [hquery] at h
  | quit hquit => rcases hquit with rfl | rfl <;> simp [isQuery] at h
  | toggleCase hline | toggleRegex hline | save hline =>
    subst hline
    simp [isQuery] at h

/-- Only two commands end a session. -/
theorem goesOn_answer (s : Session) (now : Instant) (line : String) :
    (s.answer now line).goesOn = false ↔ entered line = ":quit" ∨ entered line = ":q" := by
  have hanswers := s.answers_answer now line
  generalize s.answer now line = a at hanswers ⊢
  generalize entered line = line at hanswers ⊢
  cases hanswers with
  | query h =>
    have hquit : line ≠ ":quit" := ne_of_isQuery h (by decide)
    have hq : line ≠ ":q" := ne_of_isQuery h (by decide)
    simp [perform, hquit, hq]
  | toggleCase h => simp [h, perform, reply]
  | toggleRegex h => simp [h, perform, reply]
  | save h =>
    obtain ⟨data, flags, saved, last⟩ := s
    cases last <;> simp [h, perform, reply]
  | quit h => simp [h, perform]
  | tells _ hline lines =>
    simp only [List.mem_cons, List.not_mem_nil, or_false, not_or] at hline
    simp [reply, hline]

/-! ### Several lines -/

/-- A session after several lines, each answered at an instant. -/
def after (s : Session) (lines : List (Instant × String)) : Session :=
  lines.foldl (fun s line => (s.answer line.1 line.2).session) s

theorem after_append (s : Session) (lines : List (Instant × String)) (line : Instant × String) :
    s.after (lines ++ [line]) = ((s.after lines).answer line.1 line.2).session := by
  rw [after, List.foldl_append]
  rfl

/-- What a session has kept of several lines. The induction is on the lines, the last one of which has been
answered last. -/
theorem kept_after (data : DataSet) (loaded : Except Folder.Refusal SavedSearches)
    (lines : List (Instant × String)) :
    let s := (start data loaded).after lines
    s.data = data ∧ s.flags = flagsAfter lines ∧ s.last = (searches data [] lines).getLast? := by
  induction lines using List.reverseRecOn with
  | nil => exact ⟨rfl, rfl, rfl⟩
  | append_singleton lines line ih =>
    obtain ⟨hdata, hflags, hlast⟩ := ih
    rw [after_append, answer_session, hdata, hflags, hlast]
    refine ⟨rfl, ?_, ?_⟩
    · unfold flagsAfter
      rw [switched_append, switched_append]
    · rw [searches_append, List.nil_append, List.getLast?_append]
      cases searched? data (flagsAfter lines) line.1 (entered line.2) <;> rfl

/-- Whatever lines a session has answered, with any data set and any saved searches to begin with: a flag is
set if the number of lines that have switched it is odd, and the last search is the last query among the lines
that could be compiled, with the flags after the lines before it. So the next line is compiled with these
flags if it is a query. Only a line that saves changes the saved searches: it puts the last search first, as
its only copy, and does nothing if there is none. -/
theorem after_start (data : DataSet) (loaded : Except Folder.Refusal SavedSearches)
    (lines : List (Instant × String)) (now : Instant) (line : String) :
    let s := (start data loaded).after lines
    let a := s.answer now line
    s.data = data ∧ s.flags = flagsAfter lines ∧ s.last = (searches data [] lines).getLast? ∧
      (isQuery (entered line) →
        a.lines =
          match Query.compile (.builtin data.areas now) (flagsAfter lines) (entered line) with
          | .ok q =>
            [.text ("表达式: " ++ q.shown)] ++ (data.search q).map (fun p => .text ("  " ++ p.shown)) ++
              [.matched (data.search q).length]
          | .error f => (failureLines (entered line) f).map .text) ∧
      a.session.saved =
        (if entered line = ":save" then
          match s.last with
          | some setting => ⟨setting :: s.saved.searches.filter (· ≠ setting)⟩
          | none => s.saved
        else s.saved) ∧
      (a.goesOn = false ↔ entered line = ":quit" ∨ entered line = ":q") := by
  intro s a
  have ha : a = s.answer now line := rfl
  obtain ⟨hdata, hflags, hlast⟩ := kept_after data loaded lines
  refine ⟨hdata, hflags, hlast, fun hquery => ?_, ?_, ?_⟩
  · rw [ha, s.lines_answer_query now hquery, hdata, hflags]
  · rw [ha, saved_answer, savedLast]
    rfl
  · rw [ha, goesOn_answer]

/-- Between two switches a query is compiled, and after them another one fails: what is saved is the first one
with its own flags, and the next query is compiled with both flags set. -/
theorem after_start_switched :
    let lines : List (Instant × String) :=
      [(default, ":case"), (default, " new | closed"), (default, ":regex"), (default, "(")]
    let s := (start .empty (.ok .empty)).after lines
    isQuery (entered "new") ∧
      (s.answer default "new").lines = [.text "表达式: new", .matched 0] ∧
      (s.answer default ":save").session.saved = ⟨[⟨"new | closed", ⟨true, false⟩⟩]⟩ := by
  intro lines s
  have hcase : entered ":case" = ":case" := entered_of_trimmed (by decide) (by decide +kernel)
  have hregex : entered ":regex" = ":regex" := entered_of_trimmed (by decide) (by decide +kernel)
  have hsave : entered ":save" = ":save" := entered_of_trimmed (by decide) (by decide +kernel)
  have hparen : entered "(" = "(" := entered_of_trimmed (by decide) (by decide +kernel)
  have hor : entered " new | closed" = "new | closed" :=
    (entered_of_no_backspace (by decide)).trans (by with_unfolding_all rfl)
  have hnew : entered "new" = "new" := entered_of_trimmed (by decide) (by decide +kernel)
  have hquery : isQuery (entered "new") := by
    rw [hnew]
    decide
  have hflags : flagsAfter lines = ⟨true, true⟩ := by
    simp [lines, flagsAfter, switched, hcase, hregex, hor, hparen]
  have hcompile : Query.compile (.builtin DataSet.empty.areas default) ⟨true, true⟩ "new" =
      .ok (.state .new) := by
    with_unfolding_all rfl
  have hfirst : (Query.compile (.builtin DataSet.empty.areas default) ⟨true, false⟩ "new | closed").isOk := by
    with_unfolding_all rfl
  have hsecond : ¬(Query.compile (.builtin DataSet.empty.areas default) ⟨true, true⟩ "(").isOk := by
    with_unfolding_all decide
  have hlast : (searches .empty [] lines).getLast? = some ⟨"new | closed", ⟨true, false⟩⟩ := by
    simp [lines, searches, searched?, isQuery, flagsAfter, switched, hcase, hregex, hor, hparen, hfirst,
      hsecond]
  have hempty : s.saved = .empty := by
    have hstart : (start .empty (.ok .empty)).saved = .empty := rfl
    simp [s, lines, after, answer_session, hstart, hcase, hregex, hor, hparen]
  obtain ⟨-, -, -, hanswer, -, -⟩ := after_start .empty (.ok .empty) lines default "new"
  obtain ⟨-, -, hs, -, hsaved, -⟩ := after_start .empty (.ok .empty) lines default ":save"
  refine ⟨hquery, ?_, ?_⟩
  · refine (hanswer hquery).trans ?_
    rw [hflags, hnew, hcompile]
    decide +kernel
  · refine hsaved.trans ?_
    rw [if_pos hsave, hs, hlast]
    show SavedSearches.mk (_ :: s.saved.searches.filter _) = _
    rw [hempty]
    rfl

end Session

end MapQuery.Console

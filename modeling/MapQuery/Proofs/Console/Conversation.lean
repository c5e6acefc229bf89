import MapQuery.Console.Program
import MapQuery.Proofs.Console.History
import MapQuery.Proofs.Saved.Reload

/-!
# Saved searches from one session to the next

A session writes its saved searches to a file whenever it changes them, and the next session begins with what
is in the file. So the file and the session agree after every line, unless the file could not be written.

* `ends`, `heard` — the lines that a session hears before it ends.
* `InStep` — the next session would begin with the saved searches of this one.
* `InStep.answer`, `InStep.converse` — one line and a whole conversation keep it so.
* `Session.reload` — what has been saved is there again.
-/

namespace MapQuery.Console

/-- A line that ends a session. -/
def ends (line : String) : Bool :=
  entered line = ":quit" || entered line = ":q"

/-- The lines that a session hears before it ends. -/
def heard (lines : List String) : List String :=
  lines.takeWhile (!ends ·)

/-- The folder after an answer. -/
def folderAfter (f : Folder) (a : Answer) : Folder :=
  if a.writes then (writeSaved f a.session).1 else f

/-- The next session would begin with the saved searches of this one, and they can be written. -/
structure InStep (f : Folder) (s : Session) : Prop where
  isFile : f.items[savedFile]? ≠ some .folder
  same (data : DataSet) : (Session.start data (f.searches savedFile)).saved = s.saved

namespace Session

/-- Only a line that saves asks for the searches to be written, and only if there is a last search. -/
theorem writes_answer (s : Session) (now : Instant) (line : String) :
    (s.answer now line).writes = (entered line = ":save" && s.last.isSome) := by
  have hanswers := s.answers_answer now line
  generalize s.answer now line = a at hanswers ⊢
  generalize entered line = line at hanswers ⊢
  cases hanswers with
  | query h =>
    have hsave : line ≠ ":save" := ne_of_isQuery h (by decide)
    simp [perform, hsave]
  | toggleCase h => simp [h, perform, reply]
  | toggleRegex h => simp [h, perform, reply]
  | save h =>
    obtain ⟨data, flags, saved, last⟩ := s
    cases last <;> simp [h, perform, reply]
  | quit h => rcases h with h | h <;> simp [h, perform]
  | tells _ hline lines =>
    simp only [List.mem_cons, List.not_mem_nil, or_false, not_or] at hline
    simp [reply, hline]

/-- A line that asks for nothing to be written leaves the saved searches as they are. -/
theorem saved_answer_of_not_writes {s : Session} {now : Instant} {line : String}
    (h : (s.answer now line).writes = false) : (s.answer now line).session.saved = s.saved := by
  rw [writes_answer] at h
  rw [saved_answer]
  split
  · next hsave =>
    have hlast : s.last = none := by simpa [hsave] using h
    rw [savedLast, hlast]
  · rfl

end Session

/-! ### One line -/

/-- A file that has been written is no folder. -/
theorem not_folder_of_write {f g : Folder} {name content : String} (h : f.write name content = .ok g) :
    g.items[name]? ≠ some .folder := by
  intro hg
  have hread := Folder.read_of_write h
  rw [Folder.read, hg] at hread
  cases hread

/-- Where there is no folder a file can be written. -/
theorem write_ne_error {f : Folder} {name content : String} {e : Folder.Refusal}
    (h : f.items[name]? ≠ some .folder) : f.write name content ≠ .error e := by
  unfold Folder.write
  split
  · next hfolder => exact absurd hfolder h
  · exact fun hok => by cases hok

/-- A line that ends a session changes nothing, and any other line lets it go on. -/
theorem goesOn_eq (s : Session) (now : Instant) (line : String) :
    (s.answer now line).goesOn = !ends line := by
  have hends : ends line = true ↔ entered line = ":quit" ∨ entered line = ":q" := by simp [ends]
  rw [← s.goesOn_answer now] at hends
  rw [Bool.eq_iff_iff, Bool.not_eq_true', ← Bool.not_eq_true, hends, Bool.not_eq_false]

namespace InStep

/-- After the saved searches have been written to the file, the next session begins with them. -/
theorem of_write {f g : Folder} {s : Session} (h : f.write savedFile s.saved.document = .ok g) :
    InStep g s where
  isFile := not_folder_of_write h
  same data := by
    rw [Folder.searches_of_write_document h]
    rfl

/-- One line keeps the file and the session in step. -/
theorem answer {f : Folder} {s : Session} (h : InStep f s) (now : Instant) (line : String) :
    InStep (folderAfter f (s.answer now line)) (s.answer now line).session := by
  rw [folderAfter]
  split
  · rw [writeSaved]
    split
    · next g hwrite => exact of_write hwrite
    · next hwrite => exact absurd hwrite (write_ne_error h.isFile)
  · next hwrites =>
    rw [Bool.not_eq_true] at hwrites
    exact ⟨h.isFile, fun data => (h.same data).trans (Session.saved_answer_of_not_writes hwrites).symm⟩

end InStep

/-! ### A conversation -/

/-- The folder after a conversation, the first line of which has been answered first. -/
theorem folder_converse (now : Instant) (elapsed : String) (s : Session) (f : Folder) (line : String)
    (lines : List String) :
    let a := s.answer now line
    (converse now elapsed s f (line :: lines)).2 =
      if ends line then folderAfter f a else (converse now elapsed a.session (folderAfter f a) lines).2 := by
  have hgoes := goesOn_eq s now line
  rw [converse]
  dsimp only
  rw [hgoes, folderAfter]
  cases ends line <;> cases (s.answer now line).writes <;> rfl

/-- A session that has heard the lines up to the one that ends it. -/
theorem after_heard (now : Instant) (s : Session) (line : String) (lines : List String) :
    s.after ((heard (line :: lines)).map (now, ·)) =
      if ends line then s else (s.answer now line).session.after ((heard lines).map (now, ·)) := by
  rw [heard, List.takeWhile_cons]
  cases ends line with
  | true => rfl
  | false =>
    show s.after ((now, line) :: (heard lines).map (now, ·)) = _
    rw [Session.after, List.foldl_cons]
    rfl

/-- A line that ends a session leaves it as it is. -/
theorem session_of_ends (s : Session) (now : Instant) {line : String} (h : ends line) :
    (s.answer now line).session = s := by
  have hquit : entered line = ":quit" ∨ entered line = ":q" := by simpa [ends] using h
  obtain ⟨data, ⟨caseSensitive, regex⟩, saved, last⟩ := s
  rw [Session.answer_session]
  rcases hquit with hquit | hquit <;> rw [hquit] <;> simp [searched?, isQuery]

namespace InStep

/-- A whole conversation keeps the file and the session in step. The induction is on the lines, each of which
keeps them so. -/
theorem converse {f : Folder} {s : Session} (h : InStep f s) (now : Instant) (elapsed : String)
    (lines : List String) :
    InStep (Console.converse now elapsed s f lines).2 (s.after ((heard lines).map (now, ·))) := by
  induction lines generalizing f s with
  | nil => exact h
  | cons line lines ih =>
    have hline := h.answer now line
    rw [folder_converse, after_heard]
    split
    · next hends => rwa [session_of_ends s now hends] at hline
    · exact ih hline

end InStep

/-- Every list of searches, once written to a file, is read again as it is. So whenever a line asks a session
to write its saved searches and they can be written, the next session begins with them, and also if more lines
have been heard in between: it begins with what the first session had saved at its end. -/
theorem Session.reload :
    (∀ (l : SavedSearches) (f g : Folder) (name : String),
      f.write name l.document = .ok g → g.searches name = .ok l) ∧
    ∀ (s : Session) (now : Instant) (line : String) (f g : Folder),
      let a := s.answer now line
      a.writes → f.write savedFile a.session.saved.document = .ok g →
        ∀ (later : Instant) (elapsed : String) (lines : List String) (file : Option String) (data : DataSet),
          let left := (Console.converse later elapsed a.session g lines).2
          (opening file data (left.searches savedFile)).1.saved =
            (a.session.after ((heard lines).map (later, ·))).saved := by
  refine ⟨fun l f g name h => Folder.searches_of_write_document h, ?_⟩
  intro s now line f g a hwrites hwrite later elapsed lines file data
  exact ((InStep.of_write hwrite).converse later elapsed lines).same data

/-- A search with a quote, a backslash and two control characters is saved in front of two copies of another
one, and found there after one more line. -/
theorem Session.reload_escaped :
    let setting : SavedSearch := ⟨"name=\"a\\b\"\t\x01é", ⟨true, false⟩⟩
    let saved : SavedSearches := ⟨[setting, ⟨"new", .plain⟩, ⟨"new", .plain⟩]⟩
    let s : Session := ⟨.empty, .plain, ⟨[⟨"new", .plain⟩, ⟨"new", .plain⟩]⟩, some setting⟩
    let a := s.answer default ":save"
    ∃ g, Folder.empty.write savedFile a.session.saved.document = .ok g ∧
      g.searches savedFile = .ok saved ∧
      let left := (Console.converse default "1ms" a.session g [":case"]).2
      (opening none .empty (left.searches savedFile)).1.saved = saved := by
  intro setting saved s a
  obtain ⟨hlist, hsession⟩ := Session.reload
  have hsave : entered ":save" = ":save" := entered_of_trimmed (by decide) (by decide +kernel)
  have hcase : entered ":case" = ":case" := entered_of_trimmed (by decide) (by decide +kernel)
  have hwrites : a.writes := by
    rw [show a.writes = _ from writes_answer s default ":save", hsave]
    rfl
  have hsaved : a.session.saved = saved := by
    rw [show a.session = _ from answer_session s default ":save", hsave]
    decide +kernel
  have hlater : (a.session.after ((heard [":case"]).map (default, ·))).saved = saved := by
    have hheard : heard [":case"] = [":case"] := by simp [heard, ends, hcase]
    rw [hheard, ← hsaved]
    show (a.session.answer default ":case").session.saved = _
    rw [answer_session, hcase]
    rfl
  obtain ⟨g, hwrite⟩ : ∃ g, Folder.empty.write savedFile a.session.saved.document = .ok g := ⟨_, rfl⟩
  refine ⟨g, hwrite, hlist saved .empty g savedFile (hsaved ▸ hwrite), ?_⟩
  exact (hsession s default ":save" .empty g hwrites hwrite default "1ms" [":case"] none .empty).trans hlater

end MapQuery.Console

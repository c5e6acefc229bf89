import MapQuery.Character.Property

/-!
# Typed lines

A backspace in a line takes away the character before it, together with the marks on that character.

* `isMark` — marks on the character before them.
* `typed` — what is left of a line.
-/

namespace MapQuery.Console

/-- The character that erases. -/
def backspace : Char := '\x08'

/-- Control characters carry no marks. -/
def isControl (c : Char) : Bool :=
  c.toNat < 0x20 || (0x7f ≤ c.toNat && c.toNat < 0xa0)

/-- A mark on the character before it, or a joiner. -/
def isMark (c : Char) : Bool :=
  c.toNat = 0x200d || Character.extending.has c.toNat

/-- What is left of a line. `done` are the characters with their marks so far, the last one first;
`carries` says that a mark would be one on the last of them. -/
def typedAfter (done : List (List Char)) (carries : Bool) : List Char → List Char
  | [] => done.reverse.flatten
  | c :: cs =>
    if c = backspace then typedAfter done.tail false cs
    else
      match done with
      | last :: before =>
        if carries && isMark c then typedAfter ((last ++ [c]) :: before) true cs
        else typedAfter ([c] :: last :: before) (!isControl c) cs
      | [] => typedAfter [[c]] (!isControl c) cs

/-- What is left of a line. -/
def typed (cs : List Char) : List Char :=
  typedAfter [] false cs

/-- Without a backspace nothing is taken away. -/
theorem typedAfter_of_no_backspace (done : List (List Char)) (carries : Bool) {cs : List Char}
    (h : backspace ∉ cs) : typedAfter done carries cs = done.reverse.flatten ++ cs := by
  induction cs generalizing done carries with
  | nil => simp [typedAfter]
  | cons c cs ih =>
    have hc : c ≠ backspace := fun e => h (e ▸ List.mem_cons_self)
    have hs : backspace ∉ cs := fun m => h (List.mem_cons_of_mem c m)
    cases done with
    | nil => simp [typedAfter, hc, ih _ _ hs]
    | cons last before =>
      rw [typedAfter, if_neg hc]
      split <;> simp [ih _ _ hs]

/-- A line without a backspace stays as it is. -/
theorem typed_of_no_backspace {cs : List Char} (h : backspace ∉ cs) : typed cs = cs := by
  simp [typed, typedAfter_of_no_backspace [] false h]

end MapQuery.Console

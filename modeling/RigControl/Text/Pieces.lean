/-
Text cut apart at a separator. Every separator ends one piece and starts another, so that there is
always one piece more than there are separators.
-/

namespace RigControl.Text

/-- The pieces of a text between separators; a piece may be empty. -/
def pieces (separator : Char) : List Char → List (List Char)
  | [] => [[]]
  | c :: rest =>
    if c = separator then [] :: pieces separator rest
    else
      match pieces separator rest with
      | [] => [[c]]
      | first :: more => (c :: first) :: more

theorem pieces_of_notMem {separator : Char} {s : List Char} (h : separator ∉ s) :
    pieces separator s = [s] := by
  induction s with
  | nil => rfl
  | cons c rest ih =>
    simp only [List.mem_cons, not_or] at h
    simp [pieces, ih h.2, Ne.symm h.1]

theorem pieces_append {separator : Char} {s t : List Char} (h : separator ∉ s) :
    pieces separator (s ++ separator :: t) = s :: pieces separator t := by
  induction s with
  | nil => simp [pieces]
  | cons c rest ih =>
    simp only [List.mem_cons, not_or] at h
    simp [pieces, ih h.2, Ne.symm h.1]

end RigControl.Text

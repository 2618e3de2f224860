/-! Lines of a text. A line ends at a line feed, at a carriage return, or at the two together, and
every ending is read as a line feed. -/

namespace AccessDirectory.Text

def unifyEndings : List Char → List Char
  | [] => []
  | '\r' :: '\n' :: rest => '\n' :: unifyEndings rest
  | '\r' :: rest => '\n' :: unifyEndings rest
  | c :: rest => c :: unifyEndings rest

/-- The lines of a text, each with its line feed; a last line may lack one. -/
def splitLines : List Char → List (List Char)
  | [] => []
  | c :: rest =>
    if c = '\n' then ['\n'] :: splitLines rest
    else match splitLines rest with
      | [] => [[c]]
      | line :: lines => (c :: line) :: lines

theorem splitLines_flatten (cs : List Char) : (splitLines cs).flatten = cs := by
  induction cs with
  | nil => rfl
  | cons c rest ih =>
    rw [splitLines]
    split
    · simp_all
    · split <;> simp_all

theorem splitLines_append_newline (line rest : List Char) (h : '\n' ∉ line) :
    splitLines (line ++ '\n' :: rest) = (line ++ ['\n']) :: splitLines rest := by
  induction line with
  | nil => simp [splitLines]
  | cons c line ih =>
    obtain ⟨hc, hl⟩ := not_or.1 (mt List.mem_cons.2 h)
    simp [splitLines, Ne.symm hc, ih hl]

end AccessDirectory.Text

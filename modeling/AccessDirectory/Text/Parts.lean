/-! Texts cut at every place where a separator stands. -/

namespace AccessDirectory.Text

def parts (separator : Char) : List Char → List (List Char)
  | [] => [[]]
  | c :: rest =>
    if c = separator then [] :: parts separator rest
    else match parts separator rest with
      | [] => [[c]]
      | part :: more => (c :: part) :: more

theorem parts_ne_nil (separator : Char) (cs : List Char) : parts separator cs ≠ [] := by
  cases cs with
  | nil => simp [parts]
  | cons c rest =>
    rw [parts]
    split
    · simp
    · split <;> simp

theorem parts_length (separator : Char) (cs : List Char) :
    (parts separator cs).length = cs.count separator + 1 := by
  induction cs with
  | nil => rfl
  | cons c rest ih =>
    rw [parts]
    split
    · simp_all
    · split <;> simp_all

end AccessDirectory.Text

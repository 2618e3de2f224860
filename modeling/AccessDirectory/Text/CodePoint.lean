/-! Sets of code points given by their boundaries: an increasing list at each of whose entries
membership flips, starting outside. Membership is the parity of the boundaries passed. -/

namespace AccessDirectory.Text

/-- Whether `n` lies in the set with the given boundaries. -/
def covers : List Nat → Nat → Bool
  | [], _ => false
  | b :: rest, n => if n < b then false else !covers rest n

end AccessDirectory.Text

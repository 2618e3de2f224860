import AccessDirectory.Proofs.Representation.Reading

/-! What submissions leave alone: a new object has no standing and was never active, and a revised one
keeps its identifier, its standing and when it was last active. -/

namespace AccessDirectory

/-- What an object lends to users: its memberships and its permissions. -/
structure Standing where
  groups : List String := []
  permissions : Permissions := {}

def Kind.Object.standing : {k : Kind} → k.Object → Standing
  | .user, (u : User) => ⟨u.groups, u.permissions⟩
  | .userGroup, (g : UserGroup) => ⟨g.groups, g.permissions⟩
  | .connection, (_ : Connection) => {}

def Kind.Object.lastActive : {k : Kind} → k.Object → Option Int
  | .user, (u : User) => u.lastActive
  | .userGroup, _ | .connection, _ => none

namespace Kind

theorem lastActive_setIdentifier {k : Kind} (o : k.Object) (i : Option String) :
    Object.lastActive (Object.setIdentifier o i) = Object.lastActive o := by cases k <;> rfl

theorem lastActive_construct {k : Kind} {fields : Fields} {o : k.Object}
    (h : k.construct fields = .ok o) : Object.lastActive o = none := by
  cases k with
  | user =>
    obtain ⟨username, password, attributes, -, -, -, rfl⟩ := construct_user_eq_ok.1 h
    rfl
  | userGroup | connection => rfl

theorem lastActive_revise {k : Kind} {o o' : k.Object} {fields : Fields}
    (h : revise o fields = .ok o') : Object.lastActive o' = Object.lastActive o := by
  cases k with
  | user =>
    obtain ⟨password, attributes, -, -, rfl⟩ := revise_user_eq_ok.1 h
    rfl
  | userGroup | connection => rfl

theorem standing_setIdentifier {k : Kind} (o : k.Object) (i : Option String) :
    Object.standing (Object.setIdentifier o i) = Object.standing o := by cases k <;> rfl

theorem standing_construct {k : Kind} {fields : Fields} {o : k.Object}
    (h : k.construct fields = .ok o) : Object.standing o = {} := by
  cases k with
  | user =>
    obtain ⟨username, password, attributes, -, -, -, rfl⟩ := construct_user_eq_ok.1 h
    rfl
  | userGroup =>
    obtain ⟨identifier, attributes, -, -, rfl⟩ := construct_userGroup_eq_ok.1 h
    rfl
  | connection => rfl

theorem of_revise_eq_ok {k : Kind} {o o' : k.Object} {fields : Fields}
    (h : revise o fields = .ok o') :
    Object.identifier o' = Object.identifier o ∧ Object.standing o' = Object.standing o := by
  cases k with
  | user =>
    obtain ⟨password, attributes, -, -, rfl⟩ := revise_user_eq_ok.1 h
    exact ⟨rfl, rfl⟩
  | userGroup =>
    obtain ⟨attributes, -, rfl⟩ := revise_userGroup_eq_ok.1 h
    exact ⟨rfl, rfl⟩
  | connection =>
    obtain ⟨name, protocol, parent, attributes, parameters, -, -, -, -, -, rfl⟩ :=
      revise_connection_eq_ok.1 h
    exact ⟨rfl, rfl⟩

end Kind

end AccessDirectory

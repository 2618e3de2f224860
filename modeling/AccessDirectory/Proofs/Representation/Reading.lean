import AccessDirectory.Proofs.Directory.Changes
import AccessDirectory.Representation

/-! What accepted submissions are. One makes or revises an object just if each field of its kind can be
read, and the object then consists of what was read. -/

namespace AccessDirectory

def Text.HasContent (s : String) : Prop := ∃ c ∈ s.toList, ¬Text.isBlank c

theorem Text.hasContent_iff {s : String} : HasContent s ↔ isBlankText s = false := by
  simp [HasContent, isBlankText]

instance : DecidablePred Text.HasContent := fun _ => decidable_of_iff' _ Text.hasContent_iff

theorem Fields.requireText_eq_ok {fields : Fields} {field s : String} :
    requireText fields field = .ok s ↔
      fields.lookup field = some (.str s) ∧ Text.HasContent s := by
  rw [Text.hasContent_iff, requireText]
  split
  next t ht =>
    split
    next hblank => grind
    next hblank => grind
  next hno => grind

namespace Kind
open Fields
variable {fields : Fields}

theorem construct_user_eq_ok {u : User} :
    construct .user fields = .ok u ↔ ∃ username password attributes,
      requireText fields "username" = .ok username ∧
      optionalText fields "password" = .ok password ∧
      Fields.attributes fields = .ok attributes ∧
      u = { identifier := some username, password, attributes } := by
  constructor
  · intro h
    obtain ⟨username, hu, h⟩ := bind_eq_ok.1 h
    obtain ⟨password, hp, h⟩ := bind_eq_ok.1 h
    obtain ⟨attributes, ha, h⟩ := bind_eq_ok.1 h
    cases h
    exact ⟨username, password, attributes, hu, hp, ha, rfl⟩
  · rintro ⟨username, password, attributes, hu, hp, ha, rfl⟩
    exact bind_eq_ok.2 ⟨_, hu, bind_eq_ok.2 ⟨_, hp, bind_eq_ok.2 ⟨_, ha, rfl⟩⟩⟩

theorem construct_userGroup_eq_ok {g : UserGroup} :
    construct .userGroup fields = .ok g ↔ ∃ identifier attributes,
      requireText fields "identifier" = .ok identifier ∧
      Fields.attributes fields = .ok attributes ∧
      g = { identifier := some identifier, attributes } := by
  constructor
  · intro h
    obtain ⟨identifier, hi, h⟩ := bind_eq_ok.1 h
    obtain ⟨attributes, ha, h⟩ := bind_eq_ok.1 h
    cases h
    exact ⟨identifier, attributes, hi, ha, rfl⟩
  · rintro ⟨identifier, attributes, hi, ha, rfl⟩
    exact bind_eq_ok.2 ⟨_, hi, bind_eq_ok.2 ⟨_, ha, rfl⟩⟩

theorem construct_connection_eq_ok {c : Connection} :
    construct .connection fields = .ok c ↔ ∃ identifier name parent protocol parameters attributes,
      optionalText fields "identifier" = .ok identifier ∧
      requireText fields "name" = .ok name ∧
      Fields.parent fields = .ok parent ∧
      requireText fields "protocol" = .ok protocol ∧
      Fields.parameters fields = .ok parameters ∧
      Fields.attributes fields = .ok attributes ∧
      c = { identifier, name, parent, protocol, parameters := parameters.getD ∅, attributes } := by
  constructor
  · intro h
    obtain ⟨identifier, hi, h⟩ := bind_eq_ok.1 h
    obtain ⟨name, hn, h⟩ := bind_eq_ok.1 h
    obtain ⟨parent, hparent, h⟩ := bind_eq_ok.1 h
    obtain ⟨protocol, hprotocol, h⟩ := bind_eq_ok.1 h
    obtain ⟨parameters, hp, h⟩ := bind_eq_ok.1 h
    obtain ⟨attributes, ha, h⟩ := bind_eq_ok.1 h
    cases h
    exact ⟨identifier, name, parent, protocol, parameters, attributes, hi, hn, hparent, hprotocol, hp,
      ha, rfl⟩
  · rintro ⟨identifier, name, parent, protocol, parameters, attributes, hi, hn, hparent, hprotocol,
      hp, ha, rfl⟩
    exact bind_eq_ok.2 ⟨_, hi, bind_eq_ok.2 ⟨_, hn, bind_eq_ok.2 ⟨_, hparent,
      bind_eq_ok.2 ⟨_, hprotocol, bind_eq_ok.2 ⟨_, hp, bind_eq_ok.2 ⟨_, ha, rfl⟩⟩⟩⟩⟩⟩

theorem revise_user_eq_ok {u u' : User} :
    revise (k := .user) u fields = .ok u' ↔ ∃ password attributes,
      optionalText fields "password" = .ok password ∧
      Fields.attributes fields = .ok attributes ∧
      u' = { u with
        password := password <|> u.password
        attributes := u.attributes.override attributes } := by
  constructor
  · intro h
    obtain ⟨password, hp, h⟩ := bind_eq_ok.1 h
    obtain ⟨attributes, ha, h⟩ := bind_eq_ok.1 h
    cases h
    exact ⟨password, attributes, hp, ha, rfl⟩
  · rintro ⟨password, attributes, hp, ha, rfl⟩
    exact bind_eq_ok.2 ⟨_, hp, bind_eq_ok.2 ⟨_, ha, rfl⟩⟩

theorem revise_userGroup_eq_ok {g g' : UserGroup} :
    revise (k := .userGroup) g fields = .ok g' ↔ ∃ attributes,
      Fields.attributes fields = .ok attributes ∧
      g' = { g with attributes := g.attributes.override attributes } := by
  constructor
  · intro h
    obtain ⟨attributes, ha, h⟩ := bind_eq_ok.1 h
    cases h
    exact ⟨attributes, ha, rfl⟩
  · rintro ⟨attributes, ha, rfl⟩
    exact bind_eq_ok.2 ⟨_, ha, rfl⟩

theorem revise_connection_eq_ok {c c' : Connection} :
    revise (k := .connection) c fields = .ok c' ↔ ∃ name protocol parent attributes parameters,
      requireText fields "name" = .ok name ∧
      requireText fields "protocol" = .ok protocol ∧
      Fields.parent fields = .ok parent ∧
      Fields.attributes fields = .ok attributes ∧
      Fields.parameters fields = .ok parameters ∧
      c' = { c with
        name, protocol, parent
        parameters := parameters.getD c.parameters
        attributes := c.attributes.override attributes } := by
  constructor
  · intro h
    obtain ⟨name, hn, h⟩ := bind_eq_ok.1 h
    obtain ⟨protocol, hprotocol, h⟩ := bind_eq_ok.1 h
    obtain ⟨parent, hparent, h⟩ := bind_eq_ok.1 h
    obtain ⟨attributes, ha, h⟩ := bind_eq_ok.1 h
    obtain ⟨parameters, hp, h⟩ := bind_eq_ok.1 h
    cases h
    exact ⟨name, protocol, parent, attributes, parameters, hn, hprotocol, hparent, ha, hp, rfl⟩
  · rintro ⟨name, protocol, parent, attributes, parameters, hn, hprotocol, hparent, ha, hp, rfl⟩
    exact bind_eq_ok.2 ⟨_, hn, bind_eq_ok.2 ⟨_, hprotocol, bind_eq_ok.2 ⟨_, hparent,
      bind_eq_ok.2 ⟨_, ha, bind_eq_ok.2 ⟨_, hp, rfl⟩⟩⟩⟩⟩

end Kind

end AccessDirectory

import AccessDirectory.Proofs.Representation.Amendment

/-! What a creation makes of a submission, said of the submission as it stands. The new object has what was
submitted and nothing else, and connections are given no identifier by clients. -/

namespace AccessDirectory

def Kind.required : Kind → List String
  | .user => ["username"]
  | .userGroup => ["identifier"]
  | .connection => ["name", "protocol"]

namespace Fields
variable {fields : Fields} {declared : List String}

def chosen? (fields : Fields) : Kind → Option String
  | .user => fields.text? "username"
  | .userGroup => fields.text? "identifier"
  | .connection => none

structure Creatable (declared : List String) (fields : Fields) (k : Kind) : Prop where
  shape : ¬fields.Malformed declared k
  texts : ∀ field ∈ k.required, ∃ s, fields.lookup field = some (.str s) ∧ Text.HasContent s

inductive Describes (declared : List String) (fields : Fields) (identifier : Option String) :
    {k : Kind} → k.Object → Prop
  | user {given : Attributes}
      (ha : given.map Json.ofOption = fields.declaredAttributes declared) :
      Describes declared fields identifier (k := .user) ({
        identifier
        password := fields.text? "password"
        attributes := given
        lastActive := none
        groups := []
        permissions := {} } : User)
  | userGroup {given : Attributes}
      (ha : given.map Json.ofOption = fields.declaredAttributes declared) :
      Describes declared fields identifier (k := .userGroup) ({
        identifier
        attributes := given
        groups := []
        permissions := {} } : UserGroup)
  | connection {given : Attributes} {name protocol : String} {parameters : Table String}
      (ha : given.map Json.ofOption = fields.declaredAttributes declared)
      (hn : fields.text? "name" = some name) (hp : fields.text? "protocol" = some protocol)
      (hs : parameters.map Json.str = ((fields.object? "parameters").map .ofList).getD ∅) :
      Describes declared fields identifier (k := .connection) ({
        identifier, name, protocol, parameters
        parent := ((fields.text? "parentIdentifier").filter (· ≠ "")).getD rootParent
        attributes := given } : Connection)

theorem Describes.identifier_eq {k : Kind} {i : Option String} {o : k.Object}
    (h : fields.Describes declared i o) : o.identifier = i := by
  cases h <;> rfl

theorem Describes.setIdentifier {k : Kind} {i j : Option String} {o : k.Object}
    (h : fields.Describes declared i o) :
    fields.Describes declared j (Kind.Object.setIdentifier o j) := by
  cases h with
  | user ha => exact .user ha
  | userGroup ha => exact .userGroup ha
  | connection ha hn hp hs => exact .connection ha hn hp hs

theorem Describes.unique {k : Kind} {i : Option String} {o o' : k.Object}
    (h : fields.Describes declared i o) (h' : fields.Describes declared i o') : o = o' := by
  cases h with
  | user ha =>
    cases h' with
    | user hb => rw [given_unique ha hb]
  | userGroup ha =>
    cases h' with
    | userGroup hb => rw [given_unique ha hb]
  | connection ha hn hp hs =>
    cases h' with
    | connection hb hn' hp' hs' =>
      obtain rfl := Option.some.inj (hn.symm.trans hn')
      obtain rfl := Option.some.inj (hp.symm.trans hp')
      obtain rfl := Table.map_injective (fun _ _ => Json.str.inj) (hs.trans hs'.symm)
      rw [given_unique ha hb]

end Fields

namespace Kind
open Fields
variable {k : Kind} {declared : List String} {fields : Fields} {field : String}

theorem lookup_required (hfield : field ∈ k.required) :
    (k.sanitize declared fields).lookup field = fields.lookup field := by
  cases k with
  | user | userGroup =>
    obtain rfl := List.mem_singleton.1 hfield
    exact lookup_sanitize_of_ne (by decide) (by decide)
  | connection =>
    obtain rfl | rfl := List.mem_pair.1 hfield
    · exact lookup_sanitize (by decide) (by decide)
    · exact lookup_sanitize (by decide) (by decide)

theorem exists_requireText_required (h : fields.Creatable declared k) (hfield : field ∈ k.required) :
    ∃ s, requireText (k.sanitize declared fields) field = .ok s ∧ fields.text? field = some s :=
  exists_requireText_sanitize (lookup_required hfield) (h.texts field hfield)

theorem exists_construct (h : fields.Creatable declared k) :
    ∃ o, fields.Describes declared (fields.chosen? k) o ∧
      k.construct (k.sanitize declared fields) = .ok o := by
  obtain ⟨given, hgiven, hback⟩ := exists_attributes_sanitize h.shape
  cases k with
  | user =>
    obtain ⟨username, husername, hu⟩ := exists_requireText_required h (List.mem_singleton.2 rfl)
    have hpassword : optionalText (sanitize .user declared fields) "password" =
        .ok (fields.text? "password") :=
      optionalText_sanitize (by decide) (by decide) fun v hv hnot => h.shape (.password hv hnot)
    refine ⟨_, .user hback, construct_user_eq_ok.2 ⟨_, _, _, husername, hpassword, hgiven, ?_⟩⟩
    rw [chosen?, hu]
  | userGroup =>
    obtain ⟨identifier, hidentifier, hi⟩ := exists_requireText_required h (List.mem_singleton.2 rfl)
    refine ⟨_, .userGroup hback, construct_userGroup_eq_ok.2 ⟨_, _, hidentifier, hgiven, ?_⟩⟩
    rw [chosen?, hi]
  | connection =>
    have hidentifier : optionalText (sanitize .connection declared fields) "identifier" = .ok none := by
      rw [optionalText, lookup_identifier_sanitize]
    obtain ⟨name, hname, hn⟩ := exists_requireText_required h (List.mem_pair.2 (.inl rfl))
    obtain ⟨protocol, hprotocol, hp⟩ := exists_requireText_required h (List.mem_pair.2 (.inr rfl))
    obtain ⟨parameters, hparameters, hs⟩ := exists_parameters_sanitize h.shape
    refine ⟨_, .connection hback hn hp ?_, construct_connection_eq_ok.2 ⟨none, name, _, protocol,
      parameters, _, hidentifier, hname, parent_sanitize h.shape, hprotocol, hparameters, hgiven, rfl⟩⟩
    rw [← hs]
    cases parameters <;> rfl

theorem creatable_of_construct {o : k.Object}
    (h : k.construct (k.sanitize declared fields) = .ok o) : fields.Creatable declared k where
  shape := (reads_of_construct h).not_malformed
  texts field hfield := by
    have hl : (k.sanitize declared fields).lookup field = fields.lookup field := lookup_required hfield
    rw [← hl]
    cases k with
    | user =>
      obtain ⟨username, password, attributes, hu, -⟩ := construct_user_eq_ok.1 h
      obtain rfl := List.mem_singleton.1 hfield
      exact ⟨username, requireText_eq_ok.1 hu⟩
    | userGroup =>
      obtain ⟨identifier, attributes, hi, -⟩ := construct_userGroup_eq_ok.1 h
      obtain rfl := List.mem_singleton.1 hfield
      exact ⟨identifier, requireText_eq_ok.1 hi⟩
    | connection =>
      obtain ⟨identifier, name, parent, protocol, parameters, attributes, -, hn, -, hp, -⟩ :=
        construct_connection_eq_ok.1 h
      obtain rfl | rfl := List.mem_pair.1 hfield
      · exact ⟨name, requireText_eq_ok.1 hn⟩
      · exact ⟨protocol, requireText_eq_ok.1 hp⟩

theorem construct_sanitize_eq_ok {o : k.Object} :
    k.construct (k.sanitize declared fields) = .ok o ↔
      fields.Creatable declared k ∧ fields.Describes declared (fields.chosen? k) o := by
  constructor
  · intro h
    have hcreatable := creatable_of_construct h
    obtain ⟨described, hdescribed, hmade⟩ := exists_construct hcreatable
    rw [h] at hmade
    cases hmade
    exact ⟨hcreatable, hdescribed⟩
  · rintro ⟨hcreatable, hdescribed⟩
    obtain ⟨described, hone, hmade⟩ := exists_construct hcreatable
    rw [hmade, hone.unique hdescribed]

end Kind

end AccessDirectory

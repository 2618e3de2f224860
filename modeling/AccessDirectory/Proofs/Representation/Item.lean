import AccessDirectory.Proofs.Representation.Reading

/-! The items that a submission may leave out: a password, the parameters of a connection, and any single
attribute. An object that is revised keeps what is left out. -/

namespace AccessDirectory

inductive Item : Kind → Type
  | password : Item .user
  | parameters : Item .connection
  /-- The attribute with a name. -/
  | named {k : Kind} (name : String) : Item k

namespace Item

def Value : {k : Kind} → Item k → Type
  | _, .password => Option String
  | _, .parameters => Table String
  | _, .named _ => Option (Option String)

def of : {k : Kind} → (x : Item k) → k.Object → x.Value
  | _, .password, (u : User) => u.password
  | _, .parameters, (c : Connection) => c.parameters
  | _, .named name, o => (Kind.Object.attributes o).get? name

/-- Whether a submission leaves an item out. Null stands for no password and for no parameters. -/
def omitted : {k : Kind} → Item k → Json → Bool
  | _, .password, submission => ((submission.member? "password").getD .null).isNull
  | _, .parameters, submission => ((submission.member? "parameters").getD .null).isNull
  | _, .named name, submission =>
    ((submission.member? "attributes").bind (·.member? name)).isNone

end Item

namespace Fields
variable {fields : Fields} {field : String}

theorem optionalText_of_isNull (h : ((fields.lookup field).getD .null).isNull) :
    optionalText fields field = .ok none := by
  unfold optionalText
  cases hv : fields.lookup field with
  | none => rfl
  | some v => cases v <;> simp_all [Json.isNull]

theorem mapping_of_isNull {α : Type} (accept : Json → Option α)
    (h : ((fields.lookup field).getD .null).isNull) : mapping accept fields field = .ok none := by
  unfold mapping
  cases hv : fields.lookup field with
  | none => rfl
  | some v => cases v <;> simp_all [Json.isNull]

theorem mapM_keys {α : Type} {accept : Json → Option α} {members : List (String × Json)}
    {entries : List (String × α)}
    (h : members.mapM (fun m => (accept m.2).map (m.1, ·)) = some entries) :
    entries.map (·.1) = members.map (·.1) := by
  induction members generalizing entries with
  | nil =>
    cases h
    rfl
  | cons m rest ih =>
    simp only [List.mapM_cons, bind, Option.bind_eq_some_iff, pure, Option.some.injEq] at h
    obtain ⟨entry, hentry, entries', hrest, rfl⟩ := h
    obtain ⟨a, -, rfl⟩ := Option.map_eq_some_iff.1 hentry
    rw [List.map_cons, ih hrest, List.map_cons]

theorem get?_of_mapping {α : Type} {accept : Json → Option α} {t : Table α}
    (h : mapping accept fields field = .ok (some t)) {key : String}
    (hk : (fields.lookup field).bind (·.member? key) = none) : t.get? key = none := by
  unfold mapping at h
  split at h
  · cases h
  · cases h
  next members hm =>
    split at h
    next entries he =>
      cases h
      have hout : key ∉ members.map (·.1) := by
        rw [hm] at hk
        have hnone : members.lookup key = none := hk
        intro hin
        rw [List.lookup_eq_none_iff] at hnone
        obtain ⟨m, hmem, rfl⟩ := List.mem_map.1 hin
        simpa using hnone m hmem
      rw [← mapM_keys he] at hout
      exact Table.get?_foldl_put hout _
    · cases h
  · cases h

theorem get?_attributes {a : Attributes} (h : attributes fields = .ok a) {name : String}
    (hn : (fields.lookup "attributes").bind (·.member? name) = none) : a.get? name = none := by
  unfold attributes at h
  cases hm : mapping nullableText? fields "attributes" with
  | error f =>
    rw [hm] at h
    cases h
  | ok submitted =>
    rw [hm] at h
    cases h
    cases submitted with
    | none => rfl
    | some t => exact get?_of_mapping hm hn

end Fields

namespace Kind
variable {k : Kind} {declared : List String} {fields : Fields}

theorem lookup_sanitize {field : String} (ha : field ≠ "attributes") (hi : field ≠ "identifier") :
    (k.sanitize declared fields).lookup field = fields.lookup field := by
  have hown : (fields.filter (·.1 ≠ "identifier")).lookup field = fields.lookup field := by
    rw [lookup_filter (· ≠ "identifier")]
    simp [hi]
  cases k <;> simp only [sanitize, lookup_putEntry, if_neg ha, hown]

theorem lookup_sanitize_of_ne {field : String} (hk : k ≠ .connection) (ha : field ≠ "attributes") :
    (k.sanitize declared fields).lookup field = fields.lookup field := by
  cases k with
  | connection => exact absurd rfl hk
  | _ => simp only [sanitize, lookup_putEntry, if_neg ha]

theorem lookup_identifier_sanitize :
    (sanitize .connection declared fields).lookup "identifier" = none := by
  have hne : "identifier" ≠ "attributes" := by decide
  simp only [sanitize, lookup_putEntry, if_neg hne]
  rw [lookup_filter (· ≠ "identifier")]
  simp

theorem lookup_attributes_sanitize (k : Kind) (declared : List String) (fields : Fields) :
    (k.sanitize declared fields).lookup "attributes" =
      some (Fields.declaredOnly declared (fields.lookup "attributes")) := by
  have hown : (fields.filter (·.1 ≠ "identifier")).lookup "attributes" =
      fields.lookup "attributes" := by
    rw [lookup_filter (· ≠ "identifier")]
    simp
  cases k <;> simp only [sanitize, lookup_putEntry, if_pos, hown]

theorem member?_sanitize {name : String}
    (hn : (fields.lookup "attributes").bind (·.member? name) = none) :
    ((k.sanitize declared fields).lookup "attributes").bind (·.member? name) = none := by
  have hdeclared : (Fields.declaredOnly declared (fields.lookup "attributes")).member? name =
      none := by
    unfold Fields.declaredOnly
    split
    next members hm =>
      rw [hm] at hn
      have hnone : members.lookup name = none := hn
      rw [Json.member?, lookup_filter declared.contains, hnone, ite_self]
    next => rfl
  rw [lookup_attributes_sanitize, Option.bind_some, hdeclared]

theorem member?_sanitize_of_undeclared {name : String} (hd : name ∉ declared) :
    ((k.sanitize declared fields).lookup "attributes").bind (·.member? name) = none := by
  have hdeclared : (Fields.declaredOnly declared (fields.lookup "attributes")).member? name =
      none := by
    unfold Fields.declaredOnly
    split
    next members _ =>
      rw [Json.member?, lookup_filter declared.contains, if_neg (by simpa using hd)]
    next => rfl
  rw [lookup_attributes_sanitize, Option.bind_some, hdeclared]

theorem get?_attributes_construct {o : k.Object} {name : String}
    (hn : (fields.lookup "attributes").bind (·.member? name) = none)
    (h : k.construct fields = .ok o) : (Object.attributes o).get? name = none := by
  cases k with
  | user =>
    obtain ⟨username, password, attributes, -, -, ha, rfl⟩ := construct_user_eq_ok.1 h
    exact Fields.get?_attributes ha hn
  | userGroup =>
    obtain ⟨identifier, attributes, -, ha, rfl⟩ := construct_userGroup_eq_ok.1 h
    exact Fields.get?_attributes ha hn
  | connection =>
    obtain ⟨identifier, connectionName, parent, protocol, parameters, attributes, -, -, -, -, -, ha,
      rfl⟩ := construct_connection_eq_ok.1 h
    exact Fields.get?_attributes ha hn

theorem get?_attributes_revise {o o' : k.Object} {name : String}
    (hn : (fields.lookup "attributes").bind (·.member? name) = none)
    (h : revise o fields = .ok o') :
    (Object.attributes o').get? name = (Object.attributes o).get? name := by
  cases k with
  | user =>
    obtain ⟨password, attributes, -, ha, rfl⟩ := revise_user_eq_ok.1 h
    exact Table.get?_override_of_none (Fields.get?_attributes ha hn) _
  | userGroup =>
    obtain ⟨attributes, ha, rfl⟩ := revise_userGroup_eq_ok.1 h
    exact Table.get?_override_of_none (Fields.get?_attributes ha hn) _
  | connection =>
    obtain ⟨connectionName, protocol, parent, attributes, parameters, -, -, -, ha, -, rfl⟩ :=
      revise_connection_eq_ok.1 h
    exact Table.get?_override_of_none (Fields.get?_attributes ha hn) _

theorem of_revise {x : Item k} {o o' : k.Object} (hx : x.omitted (.obj fields))
    (h : revise o (k.sanitize declared fields) = .ok o') : x.of o' = x.of o := by
  cases x with
  | password =>
    have hnone : Fields.optionalText (sanitize .user declared fields) "password" = .ok none := by
      refine Fields.optionalText_of_isNull ?_
      rw [lookup_sanitize (by decide) (by decide)]
      exact hx
    obtain ⟨password, attributes, hp, -, rfl⟩ := revise_user_eq_ok.1 h
    rw [hnone] at hp
    cases hp
    rfl
  | parameters =>
    have hnone : Fields.parameters (sanitize .connection declared fields) = .ok none := by
      refine Fields.mapping_of_isNull _ ?_
      rw [lookup_sanitize (by decide) (by decide)]
      exact hx
    obtain ⟨name, protocol, parent, attributes, parameters, -, -, -, -, hp, rfl⟩ :=
      revise_connection_eq_ok.1 h
    rw [hnone] at hp
    cases hp
    rfl
  | named name =>
    refine get?_attributes_revise (member?_sanitize ?_) h
    simpa [Item.omitted, Json.member?] using hx

end Kind

end AccessDirectory

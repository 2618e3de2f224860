import AccessDirectory.Proofs.Representation.Item
import AccessDirectory.Proofs.Service.Lasting

/-! Objects that survive translation: what clients see of one describes an object again, which differs
from it only in what clients do not see or cannot set. -/

namespace AccessDirectory

namespace Kind.Object

def Translatable : {k : Kind} → k.Object → Prop
  | .user, (u : User) => ∃ s, u.identifier = some s ∧ Text.HasContent s
  | .userGroup, (g : UserGroup) => ∃ s, g.identifier = some s ∧ Text.HasContent s
  | .connection, (c : Connection) =>
    Text.HasContent c.name ∧ Text.HasContent c.protocol ∧ c.parent ≠ ""

theorem any_hasContent_iff {text : Option String} :
    text.any (fun s => decide (Text.HasContent s)) = true ↔ ∃ s, text = some s ∧ Text.HasContent s := by
  cases text <;> simp

instance {k : Kind} (o : k.Object) : Decidable (Translatable o) :=
  match k, o with
  | .user, (_ : User) => decidable_of_iff _ any_hasContent_iff
  | .userGroup, (_ : UserGroup) => decidable_of_iff _ any_hasContent_iff
  | .connection, (c : Connection) =>
    inferInstanceAs (Decidable (Text.HasContent c.name ∧ Text.HasContent c.protocol ∧ c.parent ≠ ""))

/-- An object without what clients do not see or cannot set. -/
def cleared : {k : Kind} → k.Object → k.Object
  | .user, (u : User) =>
    ({ u with password := none, lastActive := none, groups := [], permissions := {} } : User)
  | .userGroup, (g : UserGroup) => ({ g with groups := [], permissions := {} } : UserGroup)
  | .connection, (c : Connection) => ({ c with parameters := ∅ } : Connection)

end Kind.Object

namespace Fields
variable {fields : Fields} {field : String}

theorem optionalText_ofOption {text : Option String}
    (h : fields.lookup field = some (Json.ofOption text)) :
    optionalText fields field = .ok text := by
  cases text <;> simp [optionalText, h, Json.ofOption]

theorem parent_ne_empty {s : String} (h : parent fields = .ok s) : s ≠ "" := by
  unfold parent at h
  cases hp : optionalText fields "parentIdentifier" with
  | error f =>
    rw [hp] at h
    cases h
  | ok given =>
    have hroot : rootParent ≠ "" := by decide
    rw [hp] at h
    cases given with
    | none =>
      cases h
      exact hroot
    | some t =>
      simp only [Except.map, Except.ok.injEq] at h
      split at h
      next => exact h ▸ hroot
      next hne =>
        rintro rfl
        exact hne (h ▸ rfl)

theorem parent_of_ne_empty {s : String} (h : fields.lookup "parentIdentifier" = some (.str s))
    (hs : s ≠ "") : parent fields = .ok s := by
  simp [parent, optionalText, h, Except.map, hs]

theorem mapM_ofOption (entries : List (String × Option String)) :
    (entries.map fun e => (e.1, Json.ofOption e.2)).mapM
      (fun m => (nullableText? m.2).map (m.1, ·)) = some entries := by
  induction entries with
  | nil => rfl
  | cons entry rest ih =>
    have hentry : nullableText? (Json.ofOption entry.2) = some entry.2 := by
      cases entry.2 <;> rfl
    rw [List.map_cons, List.mapM_cons, ih, hentry]
    rfl

theorem attributes_toJson {a : Attributes}
    (h : fields.lookup "attributes" = some (Attributes.toJson a)) : attributes fields = .ok a := by
  have hentries : mapping nullableText? fields "attributes" = .ok (some (.ofList a.entries)) := by
    have hmembers := mapM_ofOption a.entries
    simp only [mapping, h, Attributes.toJson, Table.map, hmembers]
  rw [attributes, hentries, Table.ofList_entries]
  rfl

end Fields

namespace Kind
open Object
variable {k : Kind} {fields : Fields}

theorem translatable_construct {o : k.Object} (h : k.construct fields = .ok o) :
    Translatable o := by
  cases k with
  | user =>
    obtain ⟨username, password, attributes, hu, -, -, rfl⟩ := construct_user_eq_ok.1 h
    exact ⟨username, rfl, (Fields.requireText_eq_ok.1 hu).2⟩
  | userGroup =>
    obtain ⟨identifier, attributes, hi, -, rfl⟩ := construct_userGroup_eq_ok.1 h
    exact ⟨identifier, rfl, (Fields.requireText_eq_ok.1 hi).2⟩
  | connection =>
    obtain ⟨identifier, name, parent, protocol, parameters, attributes, -, hn, hp, hprotocol, -, -,
      rfl⟩ := construct_connection_eq_ok.1 h
    exact ⟨(Fields.requireText_eq_ok.1 hn).2, (Fields.requireText_eq_ok.1 hprotocol).2,
      Fields.parent_ne_empty hp⟩

theorem translatable_revise {o o' : k.Object} (ho : k ≠ .connection → Translatable o)
    (h : revise o fields = .ok o') : Translatable o' := by
  cases k with
  | user =>
    obtain ⟨password, attributes, -, -, rfl⟩ := revise_user_eq_ok.1 h
    exact ho nofun
  | userGroup =>
    obtain ⟨attributes, -, rfl⟩ := revise_userGroup_eq_ok.1 h
    exact ho nofun
  | connection =>
    obtain ⟨name, protocol, parent, attributes, parameters, hn, hprotocol, hp, -, -, rfl⟩ :=
      revise_connection_eq_ok.1 h
    exact ⟨(Fields.requireText_eq_ok.1 hn).2, (Fields.requireText_eq_ok.1 hprotocol).2,
      Fields.parent_ne_empty hp⟩

theorem construct_represent {o : k.Object} :
    k.construct (represent o) = .ok (cleared o) ↔ Translatable o := by
  constructor
  · intro h
    have hcleared := translatable_construct h
    cases k <;> exact hcleared
  · intro h
    cases k with
    | user =>
      obtain ⟨s, hs, hc⟩ := h
      have husername : Fields.requireText (represent (k := .user) o) "username" = .ok s :=
        Fields.requireText_eq_ok.2 ⟨congrArg (some ∘ Json.ofOption) hs, hc⟩
      -- Clients see no password, so none is read.
      have hpassword : Fields.optionalText (represent (k := .user) o) "password" = .ok none := by
        refine Fields.optionalText_of_isNull ?_
        simp only [represent]
        cases User.lastActive o <;> rfl
      have hattributes : Fields.attributes (represent (k := .user) o) = .ok (User.attributes o) :=
        Fields.attributes_toJson rfl
      refine construct_user_eq_ok.2 ⟨s, none, _, husername, hpassword, hattributes, ?_⟩
      rw [← hs]
      rfl
    | userGroup =>
      obtain ⟨s, hs, hc⟩ := h
      have hidentifier : Fields.requireText (represent (k := .userGroup) o) "identifier" = .ok s :=
        Fields.requireText_eq_ok.2 ⟨congrArg (some ∘ Json.ofOption) hs, hc⟩
      have hattributes : Fields.attributes (represent (k := .userGroup) o) =
          .ok (UserGroup.attributes o) := Fields.attributes_toJson rfl
      refine construct_userGroup_eq_ok.2 ⟨s, _, hidentifier, hattributes, ?_⟩
      rw [← hs]
      rfl
    | connection =>
      obtain ⟨hn, hp, hparent⟩ := h
      have hidentifier : Fields.optionalText (represent (k := .connection) o) "identifier" =
          .ok (Connection.identifier o) := Fields.optionalText_ofOption rfl
      have hattributes : Fields.attributes (represent (k := .connection) o) =
          .ok (Connection.attributes o) := Fields.attributes_toJson rfl
      have hname : Fields.requireText (represent (k := .connection) o) "name" =
          .ok (Connection.name o) := Fields.requireText_eq_ok.2 ⟨rfl, hn⟩
      have hprotocol : Fields.requireText (represent (k := .connection) o) "protocol" =
          .ok (Connection.protocol o) := Fields.requireText_eq_ok.2 ⟨rfl, hp⟩
      exact construct_connection_eq_ok.2 ⟨_, _, _, _, none, _, hidentifier, hname,
        Fields.parent_of_ne_empty rfl hparent, hprotocol, rfl, hattributes, rfl⟩

end Kind

theorem Directory.translatable_add {k : Kind} {d d' : Directory k} {o o' : k.Object}
    (ho : Kind.Object.Translatable o) (h : d.add o = .ok (o', d')) :
    Kind.Object.Translatable o' := by
  -- An identifier is assigned only where there is none.
  have named : ∀ s, Kind.Object.identifier o = some s → Text.HasContent s → o' = o := by
    rintro s hs ⟨c, hc, -⟩
    refine eq_of_add hs ?_ h
    rintro rfl
    cases hc
  cases k with
  | user | userGroup =>
    obtain ⟨s, hs, hc⟩ := ho
    rw [named s hs hc]
    exact ⟨s, hs, hc⟩
  | connection =>
    obtain ⟨-, -, i, rfl, -⟩ := of_add_eq_ok h
    exact ho

theorem lasting_translatable (declared : Kind → List String) :
    Lasting declared fun _ => Kind.Object.Translatable where
  added hc hadd := Directory.translatable_add (Kind.translatable_construct hc) hadd
  revised ho hr := Kind.translatable_revise (fun _ => ho) hr

/-- After a run, what clients see of a stored object describes the object again, without what they do
not see or cannot set. -/
theorem Stage.construct_represent_run {w : World}
    (h : ∀ k i (o : k.Object), (w.directories.stored k).get? i = some o → o.Translatable)
    {operations : List Operation} (hs : ∀ p ∈ operations, p.byService) (k : Kind) (i : String)
    (o : k.Object) (ho : ((({ world := w } : Stage).run
      operations).world.directories.stored k).get? i = some o) :
    o.Translatable ∧ k.construct (Kind.represent o) = .ok o.cleared := by
  have hall : All (fun _ => Kind.Object.Translatable) (({ world := w } : Stage).run operations) :=
    (All.start h).run (lasting_translatable w.declared) hs
  have htranslatable := hall.stored k i o ho
  exact ⟨htranslatable, Kind.construct_represent.2 htranslatable⟩

theorem Demo.translatable_directories (k : Kind) (i : String) (o : k.Object)
    (ho : (directories.stored k).get? i = some o) : o.Translatable := by
  have hall : ∀ k : Kind, ∀ e ∈ (directories.stored k).entries, e.2.Translatable := by
    intro k
    cases k <;> decide
  exact hall k (i, o) ((Table.get?_eq_some_iff ..).1 ho)

theorem Stage.construct_represent_renewal : ∃ o : User,
    ((({ world := Demo.world } : Stage).run Demo.renewal).world.directories.stored
      .user).get? Demo.member = some o ∧
    Kind.construct .user (Kind.represent (k := .user) o) =
      .ok (Kind.Object.cleared (k := .user) o) ∧
    o.groups = [Demo.group] ∧ (Kind.Object.cleared (k := .user) o : User).groups = [] := by
  obtain ⟨o, ho, hgroups⟩ : ∃ o : User,
      ((({ world := Demo.world } : Stage).run Demo.renewal).world.directories.stored
        .user).get? Demo.member = some o ∧ o.groups = [Demo.group] := ⟨_, rfl, rfl⟩
  have hservice : ∀ p ∈ Demo.renewal, p.byService := by decide
  have hrun := Stage.construct_represent_run (w := Demo.world) Demo.translatable_directories hservice
    .user Demo.member o ho
  exact ⟨o, ho, hrun.2, hgroups, rfl⟩

end AccessDirectory

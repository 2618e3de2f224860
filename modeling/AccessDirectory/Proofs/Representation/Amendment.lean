import AccessDirectory.Proofs.Representation.Shape
import Mathlib.Data.List.Basic

/-! What an update makes of an object, said of the submission as it stands. Attributes are added to those
of the object, a password or parameters take the place of the old ones if they are submitted, and the
name, the protocol and the parent of a connection always do. -/

namespace AccessDirectory

namespace Table
variable {α β : Type}

theorem map_foldl_put (f : α → β) (entries : List (String × α)) (t : Table α) :
    (entries.foldl (fun r e => r.put e.1 e.2) t).map f =
      (entries.map fun e => (e.1, f e.2)).foldl (fun r e => r.put e.1 e.2) (t.map f) := by
  induction entries generalizing t with
  | nil => rfl
  | cons e rest ih => rw [List.foldl_cons, ih, map_put, List.map_cons, List.foldl_cons]

theorem map_ofList (f : α → β) (entries : List (String × α)) :
    (ofList entries).map f = ofList (entries.map fun e => (e.1, f e.2)) :=
  map_foldl_put f entries empty

theorem map_injective {f : α → β} (hf : Function.Injective f) : Function.Injective (map f) := by
  intro s t h
  have hpair : Function.Injective fun e : String × α => (e.1, f e.2) := by
    intro e e' he
    obtain ⟨hkey, hvalue⟩ := Prod.mk.inj he
    exact Prod.ext hkey (hf hvalue)
  exact ext (List.map_injective_iff.2 hpair (congrArg entries h))

end Table

theorem Json.ofOption_injective : Function.Injective Json.ofOption := by
  intro a b h
  cases a <;> cases b <;> cases h <;> rfl

namespace Fields
variable {fields : Fields} {field : String} {declared : List String}

def text? (fields : Fields) (field : String) : Option String :=
  match fields.lookup field with
  | some (.str s) => some s
  | _ => none

theorem text?_eq_some {s : String} :
    fields.text? field = some s ↔ fields.lookup field = some (.str s) := by
  unfold text?
  split
  next t ht => rw [ht, Option.some.injEq, Option.some.injEq, Json.str.injEq]
  next hno => exact iff_of_false nofun (hno s)

def object? (fields : Fields) (field : String) : Option (List (String × Json)) :=
  match fields.lookup field with
  | some (.obj members) => some members
  | _ => none

def declaredAttributes (declared : List String) (fields : Fields) : Table Json :=
  .ofList (((fields.object? "attributes").getD []).filter fun m => declared.contains m.1)

structure Acceptable (declared : List String) (fields : Fields) (k : Kind) : Prop where
  shape : ¬fields.Malformed declared k
  texts : k = .connection → ∀ field ∈ ["name", "protocol"],
    ∃ s, fields.lookup field = some (.str s) ∧ Text.HasContent s

inductive Amended (declared : List String) (fields : Fields) : {k : Kind} → k.Object → k.Object → Prop
  | user {u : User} {given : Attributes}
      (ha : given.map Json.ofOption = fields.declaredAttributes declared) :
      Amended declared fields (k := .user) u { u with
        password := (fields.text? "password").or u.password
        attributes := u.attributes.override given }
  | userGroup {g : UserGroup} {given : Attributes}
      (ha : given.map Json.ofOption = fields.declaredAttributes declared) :
      Amended declared fields (k := .userGroup) g { g with
        attributes := g.attributes.override given }
  | connection {c : Connection} {given : Attributes} {name protocol : String}
      {parameters : Table String}
      (ha : given.map Json.ofOption = fields.declaredAttributes declared)
      (hn : fields.text? "name" = some name) (hp : fields.text? "protocol" = some protocol)
      (hs : parameters.map Json.str =
        ((fields.object? "parameters").map .ofList).getD (c.parameters.map Json.str)) :
      Amended declared fields (k := .connection) c { c with
        name, protocol, parameters
        parent := ((fields.text? "parentIdentifier").filter (· ≠ "")).getD rootParent
        attributes := c.attributes.override given }

theorem given_unique {a b : Attributes} (ha : a.map Json.ofOption = fields.declaredAttributes declared)
    (hb : b.map Json.ofOption = fields.declaredAttributes declared) : a = b :=
  Table.map_injective Json.ofOption_injective (ha.trans hb.symm)

theorem Amended.unique {k : Kind} {o o' o'' : k.Object} (h : fields.Amended declared o o')
    (h' : fields.Amended declared o o'') : o' = o'' := by
  cases h with
  | user ha =>
    cases h' with
    | user hb => rw [given_unique ha hb]
  | userGroup ha =>
    cases h' with
    | userGroup hb => rw [given_unique ha hb]
  | connection ha hn hp hs =>
    cases h' with
    | connection hb hn' hp' hs' =>
      obtain rfl := Option.some.inj (hn.symm.trans hn')
      obtain rfl := Option.some.inj (hp.symm.trans hp')
      obtain rfl := Table.map_injective (fun _ _ => Json.str.inj) (hs.trans hs'.symm)
      rw [given_unique ha hb]

theorem optionalText_of_not_notText (h : ∀ v, fields.lookup field = some v → ¬v.NotText) :
    optionalText fields field = .ok (fields.text? field) := by
  unfold optionalText text?
  cases hv : fields.lookup field with
  | none => rfl
  | some v =>
    cases v with
    | null | str => rfl
    | _ => exact absurd ⟨by simp, by simp⟩ (h _ hv)

theorem exists_mapM {α : Type} {accept : Json → Option α} {ofValue : α → Json}
    {members : List (String × Json)}
    (h : ∀ m ∈ members, ∃ a, m.2 = ofValue a ∧ accept m.2 = some a) :
    ∃ entries, members.mapM (fun m => (accept m.2).map (m.1, ·)) = some entries ∧
      entries.map (fun e => (e.1, ofValue e.2)) = members := by
  induction members with
  | nil => exact ⟨[], rfl, rfl⟩
  | cons m rest ih =>
    obtain ⟨a, hm, ha⟩ := h m List.mem_cons_self
    obtain ⟨entries, hrest, hback⟩ := ih fun m' hm' => h m' (List.mem_cons_of_mem _ hm')
    refine ⟨(m.1, a) :: entries, ?_, ?_⟩
    · rw [List.mapM_cons, ha, hrest]
      rfl
    · rw [List.map_cons, hback, ← hm]

theorem exists_mapping {α : Type} {accept : Json → Option α} {ofValue : α → Json}
    {members : List (String × Json)} (hl : fields.lookup field = some (.obj members))
    (h : ∀ m ∈ members, ∃ a, m.2 = ofValue a ∧ accept m.2 = some a) :
    ∃ t, mapping accept fields field = .ok (some t) ∧ t.map ofValue = .ofList members := by
  obtain ⟨entries, hentries, hback⟩ := exists_mapM h
  refine ⟨.ofList entries, ?_, ?_⟩
  · simp only [mapping, hl, hentries]
  · rw [Table.map_ofList, hback]

end Fields

namespace Kind
open Fields
variable {k : Kind} {declared : List String} {fields : Fields}

theorem exists_attributes_sanitize (h : ¬fields.Malformed declared k) :
    ∃ given, Fields.attributes (k.sanitize declared fields) = .ok given ∧
      given.map Json.ofOption = fields.declaredAttributes declared := by
  have hl := lookup_attributes_sanitize k declared fields
  have hmembers : declaredOnly declared (fields.lookup "attributes") =
      .obj (((fields.object? "attributes").getD []).filter fun m => declared.contains m.1) := by
    unfold declaredOnly object?
    split <;> simp_all
  rw [hmembers] at hl
  have hread : ∀ m ∈ ((fields.object? "attributes").getD []).filter fun m => declared.contains m.1,
      ∃ a, m.2 = Json.ofOption a ∧ nullableText? m.2 = some a := by
    rintro ⟨name, v⟩ hm
    obtain ⟨hin, hname⟩ := List.mem_filter.1 hm
    have hv : ¬v.NotText := by
      unfold object? at hin
      split at hin
      next members hattributes =>
        exact fun hv => h (.attribute hattributes hin (by simpa using hname) hv)
      next => cases hin
    cases v with
    | null => exact ⟨none, rfl, rfl⟩
    | str s => exact ⟨some s, rfl, rfl⟩
    | _ => exact absurd ⟨by simp, by simp⟩ hv
  obtain ⟨given, hgiven, hback⟩ := exists_mapping hl hread
  exact ⟨given, by rw [Fields.attributes, hgiven]; rfl, hback⟩

theorem exists_parameters_sanitize (h : ¬fields.Malformed declared .connection) :
    ∃ given, Fields.parameters (sanitize .connection declared fields) = .ok given ∧
      given.map (·.map Json.str) = (fields.object? "parameters").map .ofList := by
  have hl : (sanitize .connection declared fields).lookup "parameters" =
      fields.lookup "parameters" := lookup_sanitize (by decide) (by decide)
  unfold object?
  cases hv : fields.lookup "parameters" with
  | none =>
    rw [hv] at hl
    exact ⟨none, by simp only [Fields.parameters, mapping, hl], rfl⟩
  | some v =>
    have hobject : v ≠ .null → ∃ members, v = .obj members ∧ ∀ m ∈ members, ∃ s, m.2 = .str s := by
      intro hnull
      by_contra hno
      refine h (.parameters hv hnull fun members hmembers => ?_)
      by_contra hall
      simp only [not_exists, not_and, not_forall, not_not] at hall
      exact hno ⟨members, hmembers, hall⟩
    by_cases hnull : v = .null
    · subst hnull
      rw [hv] at hl
      exact ⟨none, by simp only [Fields.parameters, mapping, hl], rfl⟩
    · obtain ⟨members, rfl, hall⟩ := hobject hnull
      have hread : ∀ m ∈ members, ∃ s, m.2 = Json.str s ∧ textValue? m.2 = some s := by
        intro m hm
        obtain ⟨s, hs⟩ := hall m hm
        exact ⟨s, hs, by rw [hs]; rfl⟩
      obtain ⟨given, hgiven, hback⟩ := exists_mapping (hl.trans hv) hread
      exact ⟨some given, hgiven, congrArg some hback⟩

theorem optionalText_sanitize {field : String} (ha : field ≠ "attributes") (hi : field ≠ "identifier")
    (h : ∀ v, fields.lookup field = some v → ¬v.NotText) :
    optionalText (k.sanitize declared fields) field = .ok (fields.text? field) := by
  have hl : (k.sanitize declared fields).lookup field = fields.lookup field := lookup_sanitize ha hi
  have hsame : (k.sanitize declared fields).text? field = fields.text? field := by
    rw [text?, text?, hl]
  rw [optionalText_of_not_notText (by rwa [hl]), hsame]

theorem parent_sanitize (h : ¬fields.Malformed declared .connection) :
    Fields.parent (sanitize .connection declared fields) =
      .ok (((fields.text? "parentIdentifier").filter (· ≠ "")).getD rootParent) := by
  have htext : optionalText (sanitize .connection declared fields) "parentIdentifier" =
      .ok (fields.text? "parentIdentifier") :=
    optionalText_sanitize (by decide) (by decide) fun v hv hnot => h (.parent hv hnot)
  rw [Fields.parent, htext]
  cases fields.text? "parentIdentifier" with
  | none => rfl
  | some s =>
    by_cases hs : s = ""
    · simp [Except.map, hs, Option.filter]
    · simp [Except.map, hs, Option.filter]

theorem exists_requireText_sanitize {field : String}
    (hl : (k.sanitize declared fields).lookup field = fields.lookup field)
    (h : ∃ s, fields.lookup field = some (.str s) ∧ Text.HasContent s) :
    ∃ s, requireText (k.sanitize declared fields) field = .ok s ∧ fields.text? field = some s := by
  obtain ⟨s, hs, hcontent⟩ := h
  exact ⟨s, requireText_eq_ok.2 ⟨hl.trans hs, hcontent⟩, text?_eq_some.2 hs⟩

theorem exists_revise (h : fields.Acceptable declared k) (o : k.Object) :
    ∃ o', fields.Amended declared o o' ∧ revise o (k.sanitize declared fields) = .ok o' := by
  obtain ⟨given, hgiven, hback⟩ := exists_attributes_sanitize h.shape
  cases k with
  | user =>
    have hpassword : optionalText (sanitize .user declared fields) "password" =
        .ok (fields.text? "password") :=
      optionalText_sanitize (by decide) (by decide) fun v hv hnot => h.shape (.password hv hnot)
    refine ⟨_, .user hback, revise_user_eq_ok.2 ⟨_, _, hpassword, hgiven, ?_⟩⟩
    cases fields.text? "password" <;> rfl
  | userGroup => exact ⟨_, .userGroup hback, revise_userGroup_eq_ok.2 ⟨_, hgiven, rfl⟩⟩
  | connection =>
    obtain ⟨name, hname, hn⟩ := exists_requireText_sanitize
      (lookup_sanitize (by decide) (by decide)) (h.texts rfl "name" (by simp))
    obtain ⟨protocol, hprotocol, hp⟩ := exists_requireText_sanitize
      (lookup_sanitize (by decide) (by decide)) (h.texts rfl "protocol" (by simp))
    obtain ⟨parameters, hparameters, hs⟩ := exists_parameters_sanitize h.shape
    refine ⟨_, .connection hback hn hp ?_, revise_connection_eq_ok.2 ⟨name, protocol, _, _, parameters,
      hname, hprotocol, parent_sanitize h.shape, hgiven, hparameters, rfl⟩⟩
    rw [← hs]
    cases parameters <;> rfl

theorem acceptable_of_revise {o o' : k.Object}
    (h : revise o (k.sanitize declared fields) = .ok o') : fields.Acceptable declared k where
  shape := (reads_of_revise h).not_malformed
  texts hk field hfield := by
    subst hk
    obtain ⟨name, protocol, parent, attributes, parameters, hn, hp, -⟩ := revise_connection_eq_ok.1 h
    have hl : (sanitize .connection declared fields).lookup field = fields.lookup field :=
      lookup_sanitize (by rintro rfl; simp at hfield) (by rintro rfl; simp at hfield)
    rw [← hl]
    rcases List.mem_pair.1 hfield with rfl | rfl
    · exact ⟨name, requireText_eq_ok.1 hn⟩
    · exact ⟨protocol, requireText_eq_ok.1 hp⟩

theorem revise_sanitize_eq_ok {o o' : k.Object} :
    revise o (k.sanitize declared fields) = .ok o' ↔
      fields.Acceptable declared k ∧ fields.Amended declared o o' := by
  constructor
  · intro h
    have hacceptable := acceptable_of_revise h
    obtain ⟨amended, hamended, hr⟩ := exists_revise hacceptable o
    rw [h] at hr
    cases hr
    exact ⟨hacceptable, hamended⟩
  · rintro ⟨hacceptable, hamended⟩
    obtain ⟨amended, hone, hr⟩ := exists_revise hacceptable o
    rw [hr, hone.unique hamended]

end Kind

end AccessDirectory

import AccessDirectory.Proofs.Failing
import AccessDirectory.Proofs.Representation.Item

/-! The shapes of submissions. A submission of which a field that is read has a wrong shape makes no
object and changes none; what is not read may have any shape. -/

namespace AccessDirectory

def Failure.IsClients (f : Failure) : Prop := f.kind = .client

def Json.NotText (v : Json) : Prop := v ≠ .null ∧ ∀ s, v ≠ .str s

namespace Fields
variable {fields : Fields} {field : String}

theorem failsOnly_requireText (fields : Fields) (field : String) :
    FailsOnly Failure.IsClients (requireText fields field) := by
  unfold requireText
  split
  · split
    · exact .error rfl
    · exact .ok _
  · exact .error rfl

theorem failsOnly_optionalText (fields : Fields) (field : String) :
    FailsOnly Failure.IsClients (optionalText fields field) := by
  unfold optionalText
  split
  · exact .ok _
  · exact .ok _
  · exact .ok _
  · exact .error rfl

theorem failsOnly_mapping {α : Type} (accept : Json → Option α) (fields : Fields)
    (field : String) : FailsOnly Failure.IsClients (mapping accept fields field) := by
  unfold mapping
  split
  · exact .ok _
  · exact .ok _
  · split
    · exact .ok _
    · exact .error rfl
  · exact .error rfl

theorem not_notText_of_optionalText {given : Option String} {v : Json}
    (h : optionalText fields field = .ok given) (hv : fields.lookup field = some v) :
    ¬v.NotText := by
  rintro ⟨hnull, htext⟩
  rw [optionalText, hv] at h
  cases v with
  | null => exact hnull rfl
  | str s => exact htext s rfl
  | _ => cases h

theorem exists_of_mapM {α β : Type} {f : α → Option β} {xs : List α} {ys : List β}
    (h : xs.mapM f = some ys) {x : α} (hx : x ∈ xs) : ∃ y, f x = some y := by
  induction xs generalizing ys with
  | nil => cases hx
  | cons first rest ih =>
    simp only [List.mapM_cons, bind, Option.bind_eq_some_iff] at h
    obtain ⟨y, hy, ys', hrest, -⟩ := h
    obtain rfl | hx := List.mem_cons.1 hx
    · exact ⟨y, hy⟩
    · exact ih hrest hx

theorem of_mapping {α : Type} {accept : Json → Option α} {given : Option (Table α)} {v : Json}
    (h : mapping accept fields field = .ok given) (hv : fields.lookup field = some v)
    (hnull : v ≠ .null) :
    ∃ members, v = .obj members ∧ ∀ m ∈ members, ∃ a, accept m.2 = some a := by
  rw [mapping, hv] at h
  cases v with
  | null => exact absurd rfl hnull
  | obj members =>
    refine ⟨members, rfl, fun m hm => ?_⟩
    cases hentries : members.mapM fun m => (accept m.2).map (m.1, ·) with
    | none =>
      simp only [hentries] at h
      cases h
    | some entries =>
      obtain ⟨entry, hentry⟩ := exists_of_mapM hentries hm
      obtain ⟨a, ha, -⟩ := Option.map_eq_some_iff.1 hentry
      exact ⟨a, ha⟩
  | _ => cases h

inductive Malformed (declared : List String) (fields : Fields) : Kind → Prop
  | attribute {k : Kind} {members : Fields} {name : String} {v : Json}
      (h : fields.lookup "attributes" = some (.obj members)) (hm : (name, v) ∈ members)
      (hd : name ∈ declared) (hv : v.NotText) : Malformed declared fields k
  | password {v : Json} (h : fields.lookup "password" = some v) (hv : v.NotText) :
      Malformed declared fields .user
  | parent {v : Json} (h : fields.lookup "parentIdentifier" = some v) (hv : v.NotText) :
      Malformed declared fields .connection
  | parameters {v : Json} (h : fields.lookup "parameters" = some v) (hnull : v ≠ .null)
      (hv : ∀ members, v = .obj members → ∃ m ∈ members, ∀ s, m.2 ≠ .str s) :
      Malformed declared fields .connection

end Fields

namespace Kind
open Fields
variable {k : Kind} {declared : List String} {fields : Fields}

theorem failsOnly_construct (k : Kind) (fields : Fields) :
    FailsOnly Failure.IsClients (k.construct fields) := by
  have hrequired := failsOnly_requireText fields
  have hoptional := failsOnly_optionalText fields
  have hattributes : FailsOnly Failure.IsClients (attributes fields) :=
    (failsOnly_mapping _ _ _).map _
  have hparent : FailsOnly Failure.IsClients (parent fields) := (hoptional _).map _
  cases k with
  | user =>
    exact (hrequired _).bind fun _ => (hoptional _).bind fun _ =>
      hattributes.bind fun _ => .ok _
  | userGroup =>
    exact (hrequired _).bind fun _ => hattributes.bind fun _ => .ok _
  | connection =>
    exact (hoptional _).bind fun _ => (hrequired _).bind fun _ =>
      hparent.bind fun _ => (hrequired _).bind fun _ =>
      (failsOnly_mapping _ _ _).bind fun _ => hattributes.bind fun _ => .ok _

theorem failsOnly_revise (o : k.Object) (fields : Fields) : FailsOnly Failure.IsClients (revise o fields) := by
  have hrequired := failsOnly_requireText fields
  have hoptional := failsOnly_optionalText fields
  have hattributes : FailsOnly Failure.IsClients (attributes fields) :=
    (failsOnly_mapping _ _ _).map _
  have hparent : FailsOnly Failure.IsClients (parent fields) := (hoptional _).map _
  cases k with
  | user =>
    exact (hoptional _).bind fun _ => hattributes.bind fun _ => .ok _
  | userGroup => exact hattributes.bind fun _ => .ok _
  | connection =>
    exact (hrequired _).bind fun _ => (hrequired _).bind fun _ =>
      hparent.bind fun _ => hattributes.bind fun _ => (failsOnly_mapping _ _ _).bind fun _ => .ok _

structure Reads (k : Kind) (fields : Fields) : Prop where
  attributes : ∃ given, Fields.attributes fields = .ok given
  password : k = .user → ∃ given, optionalText fields "password" = .ok given
  parent : k = .connection → ∃ given, Fields.parent fields = .ok given
  parameters : k = .connection → ∃ given, Fields.parameters fields = .ok given

theorem reads_of_construct {o : k.Object} (h : k.construct fields = .ok o) : k.Reads fields := by
  cases k with
  | user =>
    obtain ⟨username, password, attributes, -, hp, ha, -⟩ := construct_user_eq_ok.1 h
    exact ⟨⟨_, ha⟩, fun _ => ⟨_, hp⟩, by simp, by simp⟩
  | userGroup =>
    obtain ⟨identifier, attributes, -, ha, -⟩ := construct_userGroup_eq_ok.1 h
    exact ⟨⟨_, ha⟩, by simp, by simp, by simp⟩
  | connection =>
    obtain ⟨identifier, name, parent, protocol, parameters, attributes, -, -, hparent, -, hp, ha, -⟩ :=
      construct_connection_eq_ok.1 h
    exact ⟨⟨_, ha⟩, by simp, fun _ => ⟨_, hparent⟩, fun _ => ⟨_, hp⟩⟩

theorem reads_of_revise {o o' : k.Object} (h : revise o fields = .ok o') : k.Reads fields := by
  cases k with
  | user =>
    obtain ⟨password, attributes, hp, ha, -⟩ := revise_user_eq_ok.1 h
    exact ⟨⟨_, ha⟩, fun _ => ⟨_, hp⟩, by simp, by simp⟩
  | userGroup =>
    obtain ⟨attributes, ha, -⟩ := revise_userGroup_eq_ok.1 h
    exact ⟨⟨_, ha⟩, by simp, by simp, by simp⟩
  | connection =>
    obtain ⟨name, protocol, parent, attributes, parameters, -, -, hparent, ha, hp, -⟩ :=
      revise_connection_eq_ok.1 h
    exact ⟨⟨_, ha⟩, by simp, fun _ => ⟨_, hparent⟩, fun _ => ⟨_, hp⟩⟩

theorem Reads.not_malformed (h : k.Reads (k.sanitize declared fields)) :
    ¬fields.Malformed declared k := by
  rintro (⟨ha, hm, hd, hv⟩ | ⟨hp, hv⟩ | ⟨hp, hv⟩ | ⟨hp, hnull, hv⟩)
  · obtain ⟨given, hg⟩ := h.attributes
    obtain ⟨entries, hg, -⟩ := map_eq_ok.1 hg
    have hl := lookup_attributes_sanitize k declared fields
    obtain ⟨members', heq, hall⟩ := of_mapping hg hl (by rw [ha]; simp [declaredOnly])
    rw [ha] at heq
    cases heq
    obtain ⟨a, ha⟩ := hall _ (List.mem_filter.2 ⟨hm, by simpa using hd⟩)
    obtain ⟨hnull, htext⟩ := hv
    unfold nullableText? at ha
    split at ha
    next hn => exact hnull hn
    next s hs => exact htext s hs
    next => cases ha
  · obtain ⟨given, hg⟩ := h.password rfl
    exact not_notText_of_optionalText hg
      ((lookup_sanitize (by decide) (by decide)).trans hp) hv
  · obtain ⟨given, hg⟩ := h.parent rfl
    obtain ⟨text, hg, -⟩ := map_eq_ok.1 hg
    exact not_notText_of_optionalText hg
      ((lookup_sanitize (by decide) (by decide)).trans hp) hv
  · obtain ⟨given, hg⟩ := h.parameters rfl
    obtain ⟨members, rfl, hall⟩ := of_mapping hg
      ((lookup_sanitize (by decide) (by decide)).trans hp) hnull
    obtain ⟨m, hm, hne⟩ := hv members rfl
    obtain ⟨a, ha⟩ := hall m hm
    unfold textValue? at ha
    split at ha
    next s hs => exact hne s hs
    next => cases ha

/-- What is read of a submission: of the attributes those with a declared name, and a parent only for
connections. -/
def considered (k : Kind) (declared : List String) (fields : Fields) : Fields :=
  putEntry "attributes" (declaredOnly declared (fields.lookup "attributes"))
    (if k = .connection then fields else fields.filter (·.1 ≠ "parentIdentifier"))

theorem declaredOnly_declaredOnly (declared : List String) (given : Option Json) :
    declaredOnly declared (some (declaredOnly declared given)) = declaredOnly declared given := by
  have htwice : ∀ members : Fields, declaredOnly declared (some (.obj (members.filter fun m =>
      declared.contains m.1))) = .obj (members.filter fun m => declared.contains m.1) := by
    intro members
    simp [declaredOnly]
  cases given with
  | none => rfl
  | some v => cases v with
    | obj members => exact htwice members
    | _ => rfl

theorem lookup_sanitize_considered {field : String}
    (hf : k = .connection ∨ field ≠ "parentIdentifier") :
    (k.sanitize declared (k.considered declared fields)).lookup field =
      (k.sanitize declared fields).lookup field := by
  by_cases ha : field = "attributes"
  · subst ha
    rw [lookup_attributes_sanitize, lookup_attributes_sanitize, considered, lookup_putEntry,
      if_pos rfl, declaredOnly_declaredOnly]
  · have hown : (k.considered declared fields).lookup field = fields.lookup field := by
      rw [considered, lookup_putEntry, if_neg ha]
      by_cases hk : k = .connection
      · rw [if_pos hk]
      · rw [if_neg hk, lookup_filter (· ≠ "parentIdentifier")]
        simp [hf.resolve_left hk]
    cases k with
    | connection =>
      simp only [sanitize, lookup_putEntry, if_neg ha, lookup_filter (· ≠ "identifier"), hown]
    | _ => simp only [sanitize, lookup_putEntry, if_neg ha, hown]

variable {fields' : Fields}

theorem construct_congr (h : ∀ field, k = .connection ∨ field ≠ "parentIdentifier" →
    fields.lookup field = fields'.lookup field) : k.construct fields = k.construct fields' := by
  cases k <;> simp (disch := decide) only [construct, requireText, optionalText, attributes, parent,
    parameters, mapping, h]

theorem revise_congr (h : ∀ field, k = .connection ∨ field ≠ "parentIdentifier" →
    fields.lookup field = fields'.lookup field) (o : k.Object) :
    revise o fields = revise o fields' := by
  cases k <;> simp (disch := decide) only [revise, requireText, optionalText, attributes, parent,
    parameters, mapping, h]

end Kind

end AccessDirectory

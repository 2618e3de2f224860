import AccessDirectory.Proofs.Service.Amendment
import AccessDirectory.Proofs.Service.Translation

/-! Submitting what is seen of an object changes nothing. What clients do not see is not submitted and
stays, and the declared attributes are put where they are already. -/

namespace AccessDirectory

namespace Table
variable {α β : Type}

theorem foldl_put_of_get? {t : Table α} {entries : List (String × α)}
    (h : ∀ e ∈ entries, t.get? e.1 = some e.2) :
    entries.foldl (fun r e => r.put e.1 e.2) t = t := by
  induction entries with
  | nil => rfl
  | cons e rest ih =>
    rw [List.foldl_cons, put_of_get? (h e List.mem_cons_self)]
    exact ih fun e' he' => h e' (List.mem_cons_of_mem _ he')

theorem override_filter (t : Table α) (p : String → α → Bool) : t.override (t.filter p) = t := by
  refine foldl_put_of_get? fun e he => ?_
  exact (get?_eq_some_iff ..).2 (List.mem_of_mem_filter he)

theorem map_filter_keys (f : α → β) (p : String → Bool) (t : Table α) :
    (t.filter fun key _ => p key).map f = (t.map f).filter fun key _ => p key := by
  refine ext ?_
  simp only [map, filter, List.filter_map]
  rfl

end Table

namespace Kind
open Fields Object
variable {k : Kind} {declared : List String}

theorem lookup_attributes_represent (o : k.Object) :
    (represent o).lookup "attributes" = some (Attributes.toJson o.attributes) := by
  cases k <;> rfl

theorem lookup_password_represent (u : User) :
    (represent (k := .user) u).lookup "password" = none := by
  simp only [represent]
  cases u.lastActive <;> rfl

theorem declaredAttributes_represent (declared : List String) (o : k.Object) :
    (represent o).declaredAttributes declared =
      (o.attributes.filter fun name _ => declared.contains name).map Json.ofOption := by
  have hmembers : (represent o).object? "attributes" =
      some (o.attributes.map Json.ofOption).entries := by
    rw [object?, lookup_attributes_represent]
    rfl
  rw [declaredAttributes, hmembers, Table.map_filter_keys]
  exact Table.ofList_entries ((o.attributes.map Json.ofOption).filter fun name _ => declared.contains name)

theorem not_malformed_represent (o : k.Object) : ¬(represent o).Malformed declared k := by
  rintro (⟨hl, hm, -, hv⟩ | ⟨hl, -⟩ | ⟨hl, hv⟩ | ⟨hl, -, -⟩)
  · rw [lookup_attributes_represent] at hl
    cases hl
    obtain ⟨⟨name, value⟩, -, he⟩ := List.mem_map.1 hm
    cases he
    cases value with
    | none => exact hv.1 rfl
    | some s => exact hv.2 s rfl
  · rw [lookup_password_represent] at hl
    cases hl
  · cases hl
    exact hv.2 _ rfl
  · cases hl

theorem acceptable_represent {o : k.Object} (h : k = .connection → o.Translatable) :
    (represent o).Acceptable declared k where
  shape := not_malformed_represent o
  texts hk field hfield := by
    subst hk
    obtain ⟨hname, hprotocol, -⟩ := h rfl
    obtain rfl | rfl := List.mem_pair.1 hfield
    · exact ⟨_, rfl, hname⟩
    · exact ⟨_, rfl, hprotocol⟩

theorem amended_represent {o : k.Object} (h : k = .connection → o.Translatable) :
    (represent o).Amended declared o o := by
  have ha := (declaredAttributes_represent declared o).symm
  cases k with
  | user =>
    have hpassword : (represent (k := .user) o).text? "password" = none := by
      rw [text?, lookup_password_represent]
    simpa only [Object.attributes, hpassword, Option.none_or, Table.override_filter] using
      Amended.user (u := o) ha
  | userGroup =>
    simpa only [Object.attributes, Table.override_filter] using Amended.userGroup (g := o) ha
  | connection =>
    obtain ⟨-, -, hparent⟩ := h rfl
    have hsubmitted : ((represent (k := .connection) o).text? "parentIdentifier").filter (· ≠ "") =
        some (Connection.parent o) := Option.filter_eq_some_iff.2 ⟨rfl, by simpa using hparent⟩
    -- A parent that is stored is not empty, so that it is read back as it was shown.
    have hamended := Amended.connection (c := o) ha rfl rfl rfl
    simpa only [Object.attributes, hsubmitted, Option.getD_some, Table.override_filter] using hamended

theorem revise_represent {o : k.Object} :
    revise o (k.sanitize declared (represent o)) = .ok o ↔ (k = .connection → o.Translatable) := by
  constructor
  · intro h hk
    exact translatable_revise (absurd hk) h
  · intro h
    exact revise_sanitize_eq_ok.2 ⟨acceptable_represent h, amended_represent h⟩

end Kind

namespace World
variable {w : World} {k : Kind} {i : String} {o : k.Object}

theorem Orderly.tellAll (h : w.Orderly) (events : List Event) : (w.tellAll events).Orderly where
  keyed := by
    rw [directories_tellAll]
    exact h.keyed
  faultless := by
    rw [directories_tellAll]
    exact h.faultless
  quiet := h.quiet.tellAll events

theorem Orderly.fetch_stored (h : w.Orderly) (ho : (w.directories.stored k).get? i = some o)
    (s : Session) : ∃ w', w.fetch s k i = (.ok ⟨k, o, s⟩, w') ∧ w'.Orderly ∧
      w'.directories = w.directories := by
  obtain ⟨d, hd, hin⟩ := Directories.get?_stored_eq_some.1 ho
  exact ⟨_, h.quiet.fetch_eq s hd (h.faultless k d hd .get) hin, h.tellAll _, directories_tellAll ..⟩

theorem Orderly.update_stored (h : w.Orderly) (ho : (w.directories.stored k).get? i = some o)
    (s : Session) {fields : Fields} (hr : Kind.revise o (k.sanitize (w.declared k) fields) = .ok o) :
    ∃ w', w.update ⟨k, o, s⟩ (.obj fields) = (.ok (), ⟨k, o, s⟩, w') ∧
      w'.directories = w.directories := by
  obtain ⟨d, hd, hin⟩ := Directories.get?_stored_eq_some.1 ho
  have hi : Kind.Object.identifier o = some i := h.keyed.of_stored ho
  have hcontains : d.objects.contains i := by
    rw [Table.contains, hin]
    rfl
  have hstore := h.quiet.store_eq hd (h.faultless k d hd .update) s hi
  rw [if_pos hcontains, Table.put_of_get? hin] at hstore
  refine ⟨(w.store ⟨k, o, s⟩).2, ?_, ?_⟩
  · simp only [World.update, Fields.ofSubmission, hr, hstore]
  · rw [hstore, directories_tellAll]
    exact Directories.set_self hd

/-- Whoever submits to an opened object what was seen of it succeeds and changes nothing. -/
theorem Orderly.update_shown (h : w.Orderly) (ho : (w.directories.stored k).get? i = some o)
    (ht : k = .connection → o.Translatable) (s s' : Session) : ∃ c c' w₁ w₂ w₃,
      w.fetch s k i = (.ok c, w₁) ∧ w₁.fetch s' k i = (.ok c', w₂) ∧
      w₂.update c' (.obj c.shown) = (.ok (), c', w₃) ∧ w₃.directories = w.directories := by
  obtain ⟨w₁, hopened, h₁, hd₁⟩ := h.fetch_stored ho s
  rw [← hd₁] at ho
  obtain ⟨w₂, hreopened, h₂, hd₂⟩ := h₁.fetch_stored ho s'
  rw [← hd₂] at ho
  obtain ⟨w₃, hupdated, hd₃⟩ := h₂.update_stored ho s' (Kind.revise_represent.2 ht)
  exact ⟨_, _, w₁, w₂, w₃, hopened, hreopened, hupdated, hd₃.trans (hd₂.trans hd₁)⟩

end World

theorem World.Orderly.update_shown_web : ∃ c c' w₁ w₂ w₃,
    let w := Demo.quiet.world
    (w.directories.stored .connection).get? "1" = some Demo.web ∧
    Kind.Object.Translatable (k := .connection) Demo.web ∧
    w.fetch (Demo.session Demo.administrator) .connection "1" = (.ok c, w₁) ∧
    w₁.fetch (Demo.session Demo.member) .connection "1" = (.ok c', w₂) ∧
    w₂.update c' (.obj c.shown) = (.ok (), c', w₃) ∧ w₃.directories = w.directories := by
  have hin : (Demo.quiet.world.directories.stored .connection).get? "1" = some Demo.web := rfl
  have ht : Kind.Object.Translatable (k := .connection) Demo.web := by decide
  obtain ⟨c, c', w₁, w₂, w₃, hrest⟩ := Demo.orderly_quiet.update_shown hin (fun _ => ht)
    (Demo.session Demo.administrator) (Demo.session Demo.member)
  exact ⟨c, c', w₁, w₂, w₃, hin, ht, hrest⟩

end AccessDirectory

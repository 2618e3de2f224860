import AccessDirectory.Proofs.Permission.Grant
import AccessDirectory.Proofs.Permission.Naming
import Mathlib.Data.Set.Insert

/-! Sets of permissions as sets of pairs. After any additions by name a set answers as the pairs that were
asked for by names that mean something, and a union as the pairs of its parts together. An addition that
fails leaves a trace in the set, but not one that a question or a union can show. -/

namespace AccessDirectory

namespace ObjectPermissions
open ObjectPermission
variable {s t : ObjectPermissions} {G : Set (ObjectPermission × String)}

def granted (s : ObjectPermissions) : Set (ObjectPermission × String) := {g | s.has g.1 g.2}

/-- The pairs that additions by name ask for; a value that names no permission asks for none. -/
def asked (calls : List (Json × String)) : Set (ObjectPermission × String) :=
  {g | ∃ v, g.1.DenotedBy v ∧ (v, g.2) ∈ calls}

def additions (entries : List (String × List Json)) : List (Json × String) :=
  entries.flatMap fun e => e.2.map (·, e.1)

/-- What a set answers that holds the given pairs. A value that names no permission is a fault. -/
structure AnswersAs (s : ObjectPermissions) (G : Set (ObjectPermission × String)) : Prop where
  has : ∀ v p, p.DenotedBy v → ∀ i, ∃ b : Bool, s.hasNamed v i = .ok b ∧ (b ↔ (p, i) ∈ G)
  has_nameless : ∀ v, (∀ p : ObjectPermission, ¬ p.DenotedBy v) →
    ∀ i, ∃ f, s.hasNamed v i = .error f ∧ f.kind = .value
  accessible : ∀ vs, (∀ v ∈ vs, ∃ p : ObjectPermission, p.DenotedBy v) →
    ∀ ids, ∃ seen, s.accessibleNamed vs ids = .ok seen ∧ seen.Nodup ∧
      ∀ i, i ∈ seen ↔ i ∈ ids ∧ ∃ v ∈ vs, ∃ p : ObjectPermission, p.DenotedBy v ∧ (p, i) ∈ G
  accessible_nameless : ∀ vs, (∃ v ∈ vs, ∀ p : ObjectPermission, ¬ p.DenotedBy v) →
    ∀ ids, ∃ f, s.accessibleNamed vs ids = .error f ∧ f.kind = .value

theorem answersAs_granted (s : ObjectPermissions) : s.AnswersAs s.granted where
  has v p hv i := by
    refine ⟨s.has p i, ?_, Iff.rfl⟩
    rw [hasNamed, ofJson_eq_ok.2 hv]
    rfl
  has_nameless v hv i := by
    cases h : ofJson v with
    | ok p => exact absurd (ofJson_eq_ok.1 h) (hv p)
    | error f => exact ⟨f, by rw [hasNamed, h]; rfl, failsOnly_ofJson v f h⟩
  accessible vs hvs ids := by
    obtain ⟨ps, hps, hmem⟩ : ∃ ps, vs.mapM ofJson = .ok ps ∧
        ∀ p, p ∈ ps ↔ ∃ v ∈ vs, ofJson v = .ok p := by
      refine exists_mapM_ok fun v hv => ?_
      obtain ⟨p, hp⟩ := hvs v hv
      exact ⟨p, ofJson_eq_ok.2 hp⟩
    refine ⟨s.accessible ps ids, ?_, nodup_eraseDups _, fun i => ?_⟩
    · rw [accessibleNamed, hps]
      rfl
    · rw [mem_accessible]
      simp only [hmem, ofJson_eq_ok]
      constructor
      · rintro ⟨hi, p, ⟨v, hv, hp⟩, hs⟩
        exact ⟨hi, v, hv, p, hp, hs⟩
      · rintro ⟨hi, v, hv, p, hp, hs⟩
        exact ⟨hi, p, ⟨v, hv, hp⟩, hs⟩
  accessible_nameless vs hvs ids := by
    obtain ⟨v, hv, hnone⟩ := hvs
    cases h : vs.mapM ofJson with
    | ok ps =>
      obtain ⟨p, hp⟩ := exists_of_mapM_eq_ok h hv
      exact absurd (ofJson_eq_ok.1 hp) (hnone p)
    | error f =>
      exact ⟨f, by rw [accessibleNamed, h]; rfl, FailsOnly.mapM failsOnly_ofJson vs f h⟩

theorem denotedBy_name (p : ObjectPermission) : p.DenotedBy (.str p.name) :=
  denotedBy_str.2 (.inl rfl)

theorem AnswersAs.has_of_mem (h : s.AnswersAs G) {v : Json} {p : ObjectPermission}
    (hp : p.DenotedBy v) {i : String} (hG : (p, i) ∈ G) : s.hasNamed v i = .ok true := by
  obtain ⟨b, hb, hiff⟩ := h.has v p hp i
  rw [hb, hiff.2 hG]

theorem AnswersAs.has_of_not_mem (h : s.AnswersAs G) {v : Json} {p : ObjectPermission}
    (hp : p.DenotedBy v) {i : String} (hG : (p, i) ∉ G) : s.hasNamed v i = .ok false := by
  obtain ⟨b, hb, hiff⟩ := h.has v p hp i
  rw [hb, Bool.eq_false_iff.2 (mt hiff.1 hG)]

/-- Sets that no question tells apart. -/
structure Alike (s t : ObjectPermissions) : Prop where
  has : ∀ v i, s.hasNamed v i = t.hasNamed v i
  accessible : ∀ vs ids, s.accessibleNamed vs ids = t.accessibleNamed vs ids

theorem alike_iff : s.Alike t ↔ s.granted = t.granted := by
  constructor
  · intro h
    ext ⟨p, i⟩
    obtain ⟨b, hb, hs⟩ := s.answersAs_granted.has _ p (denotedBy_name p) i
    obtain ⟨b', hb', ht⟩ := t.answersAs_granted.has _ p (denotedBy_name p) i
    rw [← hs, ← ht, Except.ok.inj (hb.symm.trans ((h.has _ i).trans hb'))]
  · intro h
    have hhas : s.has = t.has := by
      funext p i
      exact Bool.eq_iff_iff.2 (Set.ext_iff.1 h (p, i))
    exact ⟨fun v i => by simp only [hasNamed, hhas],
      fun vs ids => by simp only [accessibleNamed, ObjectPermissions.accessible, hhas]⟩

/-! ## Additions by name -/

def addEach (s : ObjectPermissions) :
    List (Json × String) → List (Except Failure Unit) × ObjectPermissions
  | [] => ([], s)
  | (v, i) :: rest =>
    let (answer, s) := s.addNamed v i
    let (answers, s) := s.addEach rest
    (answer :: answers, s)

def Answered (call : Json × String) (answer : Except Failure Unit) : Prop :=
  (∃ p : ObjectPermission, p.DenotedBy call.1) ∧ answer = .ok () ∨
    (∀ p : ObjectPermission, ¬ p.DenotedBy call.1) ∧ ∃ f, answer = .error f ∧ f.kind = .value

theorem granted_add (s : ObjectPermissions) (p : ObjectPermission) (i : String) :
    (s.add p i).granted = s.granted ∪ {(p, i)} := by
  ext ⟨q, j⟩
  simp [granted, has_add, or_comm]

theorem granted_mention (s : ObjectPermissions) (i : String) :
    (s.mention i).granted = s.granted := by
  ext ⟨p, j⟩
  simp [granted, has, on_mention]

theorem asked_nil : asked [] = ∅ := by simp [asked]

theorem asked_cons (call : Json × String) (rest : List (Json × String)) :
    asked (call :: rest) = asked [call] ∪ asked rest := by
  ext g
  simp only [asked, List.mem_cons, List.not_mem_nil, or_false, Set.mem_union, Set.mem_ofPred_eq,
    ← exists_or, ← and_or_left]

theorem asked_of_denotedBy {v : Json} {p : ObjectPermission} (hp : p.DenotedBy v) (i : String) :
    asked [(v, i)] = {(p, i)} := by
  ext ⟨q, j⟩
  simp only [asked, List.mem_singleton, Prod.mk.injEq, Set.mem_ofPred_eq, Set.mem_singleton_iff]
  constructor
  · rintro ⟨w, hq, rfl, rfl⟩
    exact ⟨hq.unique hp, rfl⟩
  · rintro ⟨rfl, rfl⟩
    exact ⟨v, hp, rfl, rfl⟩

theorem asked_of_nameless {v : Json} (hv : ∀ p : ObjectPermission, ¬ p.DenotedBy v) (i : String) :
    asked [(v, i)] = ∅ := by
  ext ⟨q, j⟩
  simp only [asked, List.mem_singleton, Prod.mk.injEq, Set.mem_ofPred_eq, Set.mem_empty_iff_false,
    iff_false]
  rintro ⟨w, hq, rfl, -⟩
  exact hv q hq

theorem addNamed_step (s : ObjectPermissions) (v : Json) (i : String) :
    Answered (v, i) (s.addNamed v i).1 ∧
      (s.addNamed v i).2.granted = s.granted ∪ asked [(v, i)] := by
  unfold addNamed
  cases h : ofJson v with
  | ok p =>
    have hp := ofJson_eq_ok.1 h
    exact ⟨.inl ⟨⟨p, hp⟩, rfl⟩, by rw [asked_of_denotedBy hp, granted_add]⟩
  | error f =>
    have hv : ∀ p : ObjectPermission, ¬ p.DenotedBy v := by
      intro p hp
      rw [ofJson_eq_ok.2 hp] at h
      cases h
    refine ⟨.inr ⟨hv, f, rfl, failsOnly_ofJson v f h⟩, ?_⟩
    rw [asked_of_nameless hv, granted_mention, Set.union_empty]

theorem answered_addEach (s : ObjectPermissions) (calls : List (Json × String)) :
    List.Forall₂ Answered calls (s.addEach calls).1 := by
  induction calls generalizing s with
  | nil => exact .nil
  | cons call rest ih => exact .cons (s.addNamed_step call.1 call.2).1 (ih _)

theorem granted_addEach (s : ObjectPermissions) (calls : List (Json × String)) :
    (s.addEach calls).2.granted = s.granted ∪ asked calls := by
  induction calls generalizing s with
  | nil => rw [asked_nil, Set.union_empty, addEach]
  | cons call rest ih =>
    have hstep := (s.addNamed_step call.1 call.2).2
    rw [asked_cons, ← Set.union_assoc, ← hstep]
    exact ih _

def sound (calls : List (Json × String)) : List (Json × String) :=
  calls.filter fun call => (ofJson call.1).isOk

theorem asked_sound (calls : List (Json × String)) : asked (sound calls) = asked calls := by
  ext g
  simp only [asked, sound, List.mem_filter, Set.mem_ofPred_eq]
  constructor
  · rintro ⟨v, hv, hmem, -⟩
    exact ⟨v, hv, hmem⟩
  · rintro ⟨v, hv, hmem⟩
    exact ⟨v, hv, hmem, by rw [ofJson_eq_ok.2 hv]; rfl⟩

theorem exists_pairs {names : List Json}
    (h : ∀ v ∈ names, ∃ p : ObjectPermission, p.DenotedBy v) (i : String) :
    ∃ pairs, (names.mapM fun v => (ofJson v).map (·, i)) = .ok pairs ∧
      ∀ g, g ∈ pairs ↔ ∃ v ∈ names, g.1.DenotedBy v ∧ g.2 = i := by
  have hread : ∀ v (g : ObjectPermission × String),
      (ofJson v).map (·, i) = .ok g ↔ g.1.DenotedBy v ∧ g.2 = i := by
    intro v g
    rw [map_eq_ok]
    constructor
    · rintro ⟨p, hp, rfl⟩
      exact ⟨ofJson_eq_ok.1 hp, rfl⟩
    · rintro ⟨hp, rfl⟩
      exact ⟨g.1, ofJson_eq_ok.2 hp, rfl⟩
  obtain ⟨pairs, hpairs, hmem⟩ := exists_mapM_ok (f := fun v => (ofJson v).map (·, i))
    fun v hv => by
      obtain ⟨p, hp⟩ := h v hv
      exact ⟨(p, i), (hread v (p, i)).2 ⟨hp, rfl⟩⟩
  exact ⟨pairs, hpairs, fun g => by simp only [hmem, hread]⟩

theorem exists_ofNames {entries : List (String × List Json)}
    (h : ∀ e ∈ entries, ∀ v ∈ e.2, ∃ p : ObjectPermission, p.DenotedBy v) :
    ∃ s, ofNames entries = .ok s ∧ s.granted = asked (additions entries) := by
  obtain ⟨grants, hgrants, hmem⟩ := exists_mapM_ok
    (f := fun e : String × List Json => e.2.mapM fun v => (ofJson v).map (·, e.1))
    fun e he => by
      obtain ⟨pairs, hpairs, -⟩ := exists_pairs (h e he) e.1
      exact ⟨pairs, hpairs⟩
  refine ⟨empty.addAll grants.flatten, ?_, ?_⟩
  · rw [ofNames]
    exact bind_eq_ok.2 ⟨grants, hgrants, rfl⟩
  · ext ⟨p, i⟩
    have hempty : empty.has p i = false := rfl
    simp only [granted, asked, additions, Set.mem_ofPred_eq, has_addAll, hempty, List.mem_flatten,
      hmem, List.mem_flatMap, List.mem_map, Prod.mk.injEq]
    constructor
    · rintro (hno | ⟨pairs, ⟨e, he, hpairs⟩, hg⟩)
      · cases hno
      · obtain ⟨pairs', hpairs', hin⟩ := exists_pairs (h e he) e.1
        obtain rfl := Except.ok.inj (hpairs.symm.trans hpairs')
        obtain ⟨v, hv, hp, rfl⟩ := (hin _).1 hg
        exact ⟨v, hp, e, he, v, hv, rfl, rfl⟩
    · rintro ⟨v, hp, e, he, v', hv, rfl, rfl⟩
      obtain ⟨pairs, hpairs, hin⟩ := exists_pairs (h e he) e.1
      exact .inr ⟨pairs, ⟨e, he, hpairs⟩, (hin _).2 ⟨v', hv, hp, rfl⟩⟩

/-! ## Unions -/

theorem granted_merged (s : ObjectPermissions) (others : List ObjectPermissions) :
    (s.merged others).granted = {g | ∃ t ∈ s :: others, g ∈ t.granted} := by
  ext ⟨p, i⟩
  simp [granted, has_merged]

theorem granted_merged_singleton (s t : ObjectPermissions) :
    (s.merged [t]).granted = s.granted ∪ t.granted := by
  ext g
  simp [granted_merged]

theorem granted_empty : empty.granted = ∅ := by
  ext ⟨p, i⟩
  have hempty : empty.has p i = false := rfl
  simp [granted, hempty]

def Tidy (s : ObjectPermissions) : Prop := ∀ i ∈ s.grants.keys, ∃ p, s.has p i

theorem Tidy.add (h : s.Tidy) (p : ObjectPermission) (i : String) : (s.add p i).Tidy := by
  intro j hj
  by_cases hij : j = i
  · exact ⟨p, by simp [has_add, hij]⟩
  · have hold : j ∈ s.grants.keys := by
      rw [← Table.contains_iff, Table.contains] at hj ⊢
      rwa [ObjectPermissions.add, Table.get?_put_ne _ _ hij] at hj
    obtain ⟨q, hq⟩ := h j hold
    exact ⟨q, by simp [has_add, hq]⟩

theorem Tidy.addAll (h : s.Tidy) (grants : List (ObjectPermission × String)) :
    (s.addAll grants).Tidy := by
  induction grants generalizing s with
  | nil => exact h
  | cons g rest ih => exact ih (h.add g.1 g.2)

theorem tidy_merged (s : ObjectPermissions) (others : List ObjectPermissions) :
    (s.merged others).Tidy := by
  have hempty : empty.Tidy := by
    intro i hi
    cases hi
  exact hempty.addAll _

theorem Alike.merged {ss ts : List ObjectPermissions} (h : s.Alike t)
    (hs : List.Forall₂ Alike ss ts) : (s.merged ss).Alike (t.merged ts) := by
  rw [alike_iff] at h ⊢
  have hall : ∀ g, (∃ u ∈ ss, g ∈ u.granted) ↔ ∃ u ∈ ts, g ∈ u.granted := by
    intro g
    induction hs with
    | nil => simp
    | cons hu _ ih => simp [alike_iff.1 hu, ih]
  ext g
  simp [granted_merged, h, hall]

theorem Alike.refl (s : ObjectPermissions) : s.Alike s := ⟨fun _ _ => rfl, fun _ _ => rfl⟩

theorem Alike.merged_at (h : s.Alike t) (u : ObjectPermissions)
    (before after : List ObjectPermissions) :
    (u.merged (before ++ s :: after)).Alike (u.merged (before ++ t :: after)) := by
  refine (Alike.refl u).merged (List.rel_append ?_ (.cons h ?_))
  · exact List.forall₂_same.2 fun v _ => .refl v
  · exact List.forall₂_same.2 fun v _ => .refl v

theorem merged_comm (s t : ObjectPermissions) : (s.merged [t]).Alike (t.merged [s]) := by
  rw [alike_iff, granted_merged_singleton, granted_merged_singleton, Set.union_comm]

theorem merged_assoc (s t u : ObjectPermissions) :
    ((s.merged [t]).merged [u]).Alike (s.merged [t.merged [u]]) := by
  simp only [alike_iff, granted_merged_singleton, Set.union_assoc]

theorem merged_self (s : ObjectPermissions) : (s.merged [s]).Alike s := by
  rw [alike_iff, granted_merged_singleton, Set.union_self]

theorem merged_empty (s : ObjectPermissions) : (s.merged [empty]).Alike s := by
  rw [alike_iff, granted_merged_singleton, granted_empty, Set.union_empty]

theorem empty_merged (s : ObjectPermissions) : (empty.merged [s]).Alike s := by
  rw [alike_iff, granted_merged_singleton, granted_empty, Set.empty_union]

/-- After any additions to a mapping of names that mean something, a set answers as the set of the pairs in
the mapping and in the additions that succeeded, in unions as well; unions obey the laws of sets, and keep
the permissions of each kind apart. -/
theorem answers_of_history {entries : List (String × List Json)}
    (h : ∀ e ∈ entries, ∀ v ∈ e.2, ∃ p : ObjectPermission, p.DenotedBy v)
    (calls : List (Json × String)) :
    ∃ first last clean, ofNames entries = .ok first ∧ (first.addEach calls).2 = last ∧
      (first.addEach (sound calls)).2 = clean ∧
      List.Forall₂ Answered calls (first.addEach calls).1 ∧
      last.AnswersAs (asked (additions entries) ∪ asked calls) ∧
      last.Alike clean ∧
      (∀ others, (last.merged others).Alike (clean.merged others)) ∧
      (∀ (s : ObjectPermissions) before after,
        (s.merged (before ++ last :: after)).Alike (s.merged (before ++ clean :: after))) ∧
      (∀ (s : ObjectPermissions) others,
        (s.merged others).AnswersAs {g | ∃ t ∈ s :: others, g ∈ t.granted} ∧
        (s.merged others).Tidy) ∧
      (∀ s t u : ObjectPermissions, (s.merged [t]).Alike (t.merged [s]) ∧
        ((s.merged [t]).merged [u]).Alike (s.merged [t.merged [u]]) ∧ (s.merged [s]).Alike s ∧
        (s.merged [empty]).Alike s ∧ (empty.merged [s]).Alike s) ∧
      ∀ (p : Permissions) others x, (p.merged others).holds x ↔ ∃ q ∈ p :: others, q.holds x := by
  obtain ⟨first, hfirst, hgranted⟩ := exists_ofNames h
  have hlast : (first.addEach calls).2.granted = asked (additions entries) ∪ asked calls := by
    rw [granted_addEach, hgranted]
  -- An addition that fails asks for nothing, so leaving it out makes no difference to what is granted.
  have hclean : (first.addEach calls).2.Alike (first.addEach (sound calls)).2 := by
    rw [alike_iff, granted_addEach, granted_addEach, asked_sound]
  refine ⟨first, _, _, hfirst, rfl, rfl, first.answered_addEach calls, ?_, hclean, ?_, ?_, ?_, ?_, ?_⟩
  · rw [← hlast]
    exact answersAs_granted _
  · exact fun others => hclean.merged (List.forall₂_same.2 fun u _ => .refl u)
  · exact fun s before after => hclean.merged_at s before after
  · refine fun s others => ⟨?_, s.tidy_merged others⟩
    rw [← granted_merged]
    exact answersAs_granted _
  · exact fun s t u => ⟨s.merged_comm t, s.merged_assoc t u, s.merged_self, s.merged_empty,
      s.empty_merged⟩
  · intro p others x
    simp [Permissions.holds_merged]

theorem answers_of_history_stray : ∃ first,
    ofNames [("1", [.str "READ", .str "WRITE"])] = .ok first ∧
      let last := (first.addEach [(.str "PURGE", "2"), (.str "DELETE", "2"), (.null, "3")]).2
      last.hasNamed (.str "UPDATE") "1" = .ok true ∧ last.hasNamed (.str "DELETE") "2" = .ok true ∧
        last.hasNamed (.str "READ") "3" = .ok false := by
  have hvalid : ∀ e ∈ [("1", [Json.str "READ", .str "WRITE"])], ∀ v ∈ e.2,
      ∃ p : ObjectPermission, p.DenotedBy v := by
    intro e he v hv
    obtain rfl := List.mem_singleton.1 he
    simp only [List.mem_cons, List.not_mem_nil, or_false] at hv
    rcases hv with rfl | rfl
    · exact ⟨.read, denotedBy_name .read⟩
    · exact ⟨.update, denotedBy_str.2 (.inr ⟨rfl, rfl⟩)⟩
  obtain ⟨first, last, -, hfirst, rfl, -, -, hanswers, -⟩ := answers_of_history hvalid
    [(.str "PURGE", "2"), (.str "DELETE", "2"), (.null, "3")]
  refine ⟨first, hfirst, ?_, ?_, ?_⟩
  · refine hanswers.has_of_mem (denotedBy_name .update) (.inl ?_)
    exact ⟨.str "WRITE", denotedBy_str.2 (.inr ⟨rfl, rfl⟩), by simp [additions]⟩
  · refine hanswers.has_of_mem (denotedBy_name .delete) (.inr ?_)
    exact ⟨.str "DELETE", denotedBy_name .delete, by simp⟩
  · refine hanswers.has_of_not_mem (denotedBy_name .read) ?_
    rintro (⟨v, -, hmem⟩ | ⟨v, ⟨name, rfl, -⟩, hmem⟩)
    · simp [additions] at hmem
    · simp at hmem

end ObjectPermissions

end AccessDirectory

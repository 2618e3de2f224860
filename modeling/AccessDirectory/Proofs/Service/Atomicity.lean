import AccessDirectory.Proofs.Service.Staleness

/-! What an operation that fails leaves behind. Under listeners that never fail it leaves the directories
as they were, but for patches that fail over an object that is not there: what they named before it is
gone by then. -/

namespace AccessDirectory

/-- A directory has lost nothing but objects that are named. -/
structure Directory.Trimmed {k : Kind} (named : String → Prop) (d d' : Directory k) : Prop where
  counter : d'.counter = d.counter
  outage : d'.outage = d.outage
  objects : ∀ i, d'.objects.get? i = d.objects.get? i ∨ d'.objects.get? i = none ∧ named i

namespace Directory.Trimmed
variable {k : Kind} {named named' : String → Prop} {d d' d'' : Directory k}

theorem refl (named : String → Prop) (d : Directory k) : d.Trimmed named d where
  counter := rfl
  outage := rfl
  objects _ := .inl rfl

theorem trans (h : d.Trimmed named d') (h' : d'.Trimmed named d'') : d.Trimmed named d'' where
  counter := h'.counter.trans h.counter
  outage := h'.outage.trans h.outage
  objects i := by
    obtain hkept | hlost := h'.objects i
    · rw [hkept]
      exact h.objects i
    · exact .inr hlost

theorem mono (h : d.Trimmed named d') (hn : ∀ i, named i → named' i) : d.Trimmed named' d' where
  counter := h.counter
  outage := h.outage
  objects i := (h.objects i).imp_right fun hlost => ⟨hlost.1, hn i hlost.2⟩

theorem remove {i : String} (h : d.remove (some i) = .ok d') (hi : named i) :
    d.Trimmed named d' := by
  obtain ⟨-, j, hj, -, rfl⟩ := remove_eq_ok.1 h
  cases hj
  refine ⟨rfl, rfl, fun n => ?_⟩
  simp only [Table.get?_erase]
  split
  next hn => exact .inr ⟨rfl, hn ▸ hi⟩
  next => exact .inl rfl

end Directory.Trimmed

structure Directories.Trimmed (named : String → Prop) (k : Kind) (ds ds' : Directories) : Prop where
  own : ∀ d, ds.get? k = some d → ∃ d', ds'.get? k = some d' ∧ d.Trimmed named d'
  others : ∀ j, j ≠ k → ds'.get? j = ds.get? j

namespace Directories.Trimmed
variable {named named' : String → Prop} {k : Kind} {ds ds' ds'' : Directories}

theorem refl (named : String → Prop) (k : Kind) (ds : Directories) : ds.Trimmed named k ds where
  own d hd := ⟨d, hd, .refl named d⟩
  others _ _ := rfl

theorem trans (h : ds.Trimmed named k ds') (h' : ds'.Trimmed named k ds'') :
    ds.Trimmed named k ds'' where
  own d hd := by
    obtain ⟨d', hd', hfirst⟩ := h.own d hd
    obtain ⟨d'', hd'', hsecond⟩ := h'.own d' hd'
    exact ⟨d'', hd'', hfirst.trans hsecond⟩
  others j hj := (h'.others j hj).trans (h.others j hj)

theorem mono (h : ds.Trimmed named k ds') (hn : ∀ i, named i → named' i) :
    ds.Trimmed named' k ds' where
  own d hd := by
    obtain ⟨d', hd', htrimmed⟩ := h.own d hd
    exact ⟨d', hd', htrimmed.mono hn⟩
  others := h.others

theorem set {d d' : Directory k} (hd : ds.get? k = some d) (h : d.Trimmed named d') :
    ds.Trimmed named k (ds.set d') where
  own e he := by
    obtain rfl := Option.some.inj (hd.symm.trans he)
    exact ⟨d', get?_set_self ds d', h⟩
  others _ hj := get?_set_ne ds d' hj

end Directories.Trimmed

def Json.Removes (submission : Json) (i : String) : Prop :=
  ∃ items members, submission = .arr items ∧ .obj members ∈ items ∧
    members.lookup "op" = some (.str "remove") ∧ members.lookup "path" = some (.str ("/" ++ i))

namespace Patch

theorem target_eq_ok {p : Patch} {i : String} :
    p.target = .ok i ↔ p.verb = .remove ∧ p.path = "/" ++ i := by
  unfold target
  split
  next hv => simp [hv]
  next hv =>
    have hremove : p.verb = .remove := Decidable.not_not.1 hv
    split
    next rest hpath =>
      have hp : p.path = "/" ++ String.ofList rest := by
        rw [← String.toList_inj, hpath]
        simp
      constructor
      · intro h
        cases h
        exact ⟨hremove, hp⟩
      · rintro ⟨-, h⟩
        rw [hp, String.append_right_inj] at h
        rw [h]
    next hno =>
      refine iff_of_false (by simp) ?_
      rintro ⟨-, h⟩
      refine hno i.toList ?_
      rw [h]
      simp

theorem ofJson_eq_ok {value : Json} {p : Patch} :
    ofJson value = .ok p ↔ ∃ members, value = .obj members ∧
      members.lookup "op" = some (.str p.verb.name) ∧
      members.lookup "path" = some (.str p.path) ∧
      p.value = (members.lookup "value").getD .null := by
  constructor
  · intro h
    unfold ofJson at h
    split at h
    next members =>
      dsimp only at h
      split at h
      · cases h
      next v hv =>
        split at h
        next path hpath =>
          cases h
          refine ⟨members, rfl, ?_, hpath, rfl⟩
          cases hop : members.lookup "op" with
          | none =>
            rw [hop] at hv
            cases hv
          | some op =>
            rw [hop] at hv
            cases op with
            | str s =>
              have hname : v.name = s := by simpa using List.find?_some hv
              rw [hname]
            | _ => cases hv
        · cases h
    · cases h
  · rintro ⟨members, rfl, hop, hpath, hvalue⟩
    simp only [ofJson, hop, hpath, Option.getD_some, Verb.ofJson?, Verb.ofName?_name, ← hvalue]

theorem removes_of_targets {submission : Json} {ids : List String}
    (h : parse submission >>= targets = .ok ids) {i : String} (hi : i ∈ ids) :
    submission.Removes i := by
  obtain ⟨patches, hparse, htargets⟩ := bind_eq_ok.1 h
  obtain ⟨p, hp, htarget⟩ := exists_of_mem_mapM htargets hi
  obtain ⟨hverb, hpath⟩ := target_eq_ok.1 htarget
  cases submission with
  | arr items =>
    obtain ⟨item, hitem, hread⟩ := exists_of_mem_mapM hparse hp
    obtain ⟨members, rfl, hmop, hmpath, -⟩ := ofJson_eq_ok.1 hread
    rw [hverb] at hmop
    rw [hpath] at hmpath
    exact ⟨items, members, rfl, hitem, hmop, hmpath⟩
  | _ => cases hparse

end Patch

namespace World
variable {w : World} {k : Kind} {d : Directory k}

def Spares {ε α : Type} (w : World) (ended : Except ε α × World) : Prop :=
  ∀ f, ended.1 = .error f → ended.2.directories = w.directories

theorem Spares.same {ε α : Type} {result : Except ε α} : w.Spares (result, w) := fun _ _ => rfl

theorem spares_refuse (w : World) (e : Event) (f : Failure) : w.Spares (w.refuse e f) :=
  fun _ _ => directories_refuse w e f

theorem Quiet.spares_commit (h : w.Quiet) (e : Event) (d : Directory k) :
    w.Spares (w.commit e d) := by
  intro f hf
  have hok : (w.commit e d).1 = .ok () :=
    Quiet.reportSuccess (w := { w with directories := w.directories.set d }) h e
  rw [hok] at hf
  cases hf

theorem Spares.map {α β : Type} {result : Except Failure α} {w' : World}
    (h : w.Spares (result, w')) (f : α → β) : w.Spares (result.map f, w') := by
  cases result with
  | error g => exact fun _ _ => h g rfl
  | ok x =>
    intro g hg
    cases hg

theorem Quiet.spares_remove (h : w.Quiet) (s : Session) (k : Kind) (identifier : Option String) :
    w.Spares (w.remove s k identifier) := by
  unfold World.remove
  split
  · exact .same
  · split
    · exact spares_refuse w _ _
    · exact h.spares_commit _ _

theorem Quiet.spares_add (h : w.Quiet) (s : Session) (d : Directory k) (o : k.Object) :
    w.Spares (w.add s d o) := by
  unfold World.add
  split
  · exact (spares_refuse w _ _).map _
  · exact (h.spares_commit _ _).map _

theorem Quiet.spares_create (h : w.Quiet) (s : Session) (k : Kind) (submission : Json) :
    w.Spares (w.create s k submission) := by
  unfold World.create
  split
  · exact .same
  · exact .same
  · exact (h.spares_add s _ _).map _

theorem Quiet.spares_store (h : w.Quiet) (c : Opened) : w.Spares (w.store c) := by
  unfold World.store
  split
  · exact .same
  · split
    · exact spares_refuse w _ _
    · exact h.spares_commit _ _

theorem Quiet.spares_update (h : w.Quiet) (c : Opened) (submission : Json) :
    w.Spares ((w.update c submission).1, (w.update c submission).2.2) := by
  unfold World.update
  split
  · exact .same
  · split
    · exact spares_refuse w _ _
    · exact h.spares_store _

theorem Quiet.remove (h : w.Quiet) (s : Session) (k : Kind) (identifier : Option String) :
    (w.remove s k identifier).2.Quiet :=
  h.acts (.remove { world := w } s k identifier)

theorem Quiet.fetch (h : w.Quiet) (s : Session) (k : Kind) (identifier : String) :
    (w.fetch s k identifier).2.Quiet := by
  have hquiet := h.acts (.fetch { world := w } s k identifier "")
  rw [Stage.perform] at hquiet
  split at hquiet <;> rename_i hf <;> rw [hf] <;> exact hquiet

theorem trimmed_remove (s : Session) (hd : w.directories.get? k = some d) {named : String → Prop}
    {i : String} (hi : named i) :
    w.directories.Trimmed named k (w.remove s k (some i)).2.directories := by
  simp only [World.remove, Directories.find_eq_ok.2 hd]
  split
  · rw [directories_refuse]
    exact .refl named k _
  next d' hr =>
    rw [directories_commit]
    exact .set hd (.remove hr hi)

theorem trimmed_removeEach (s : Session) (hd : w.directories.get? k = some d)
    {named : String → Prop} {ids : List String} (hids : ∀ i ∈ ids, named i) :
    w.directories.Trimmed named k (w.removeEach s k ids).2.directories := by
  induction ids generalizing w d with
  | nil => exact .refl named k _
  | cons i rest ih =>
    have hfirst := trimmed_remove s hd (hids i List.mem_cons_self)
    unfold World.removeEach
    split
    next f w' hw =>
      rw [hw] at hfirst
      exact hfirst
    next w' hw =>
      rw [hw] at hfirst
      obtain ⟨d', hd', -⟩ := hfirst.own d hd
      exact hfirst.trans (ih hd' fun j hj => hids j (List.mem_cons_of_mem _ hj))

theorem Quiet.refuse (h : w.Quiet) (e : Event) (f : Failure) : (w.refuse e f).1 = .error f := by
  have hnone : (w.notify (e.failed f)).1 = none := h _ w.journal
  unfold World.refuse World.reportFailure
  split
  next => rfl
  next hw =>
    rw [hw] at hnone
    cases hnone

theorem Quiet.fst_fetch (h : w.Quiet) (s : Session) (k : Kind) (i : String) :
    (w.fetch s k i).1 = (w.directories.find k >>= (·.require i)).map (⟨k, ·, s⟩) := by
  cases hd : w.directories.find k with
  | error f => simp only [World.fetch, hd]; rfl
  | ok d =>
    cases hr : d.require i with
    | error f =>
      have hrefuse := h.refuse (s.event k .get (some i)) f
      simp only [World.fetch, hd, hr]
      rw [World.refuse] at hrefuse
      rw [Except.error.inj hrefuse]
      simp only [bind, Except.bind, hr]
      rfl
    | ok o =>
      have hnone : (w.notify (s.event k .get (some i) (some o))).1 = none := h _ w.journal
      rw [fetch_of_require hd hr]
      simp only [bind, Except.bind, hr]
      split
      next hw =>
        rw [hw] at hnone
        cases hnone
      next => rfl

theorem Quiet.notFound_of_remove (h : w.Quiet) {s : Session}
    (hd : w.directories.get? k = some d) (hout : d.outage .remove = none) {i : String} {f : Failure}
    (hf : (w.remove s k (some i)).1 = .error f) : f = .notFound (some i) := by
  simp only [World.remove, Directories.find_eq_ok.2 hd] at hf
  split at hf
  next g hg =>
    rw [h.refuse] at hf
    cases hf
    simp only [Directory.remove, Directory.guarded, hout] at hg
    split at hg <;> cases hg
    rfl
  next d' hr =>
    have hok : (w.commit (s.event k .remove (some i)) d').1 = .ok () :=
      Quiet.reportSuccess (w := { w with directories := w.directories.set d' }) h _
    rw [hok] at hf
    cases hf

theorem Quiet.notFound_of_removeEach (h : w.Quiet) {s : Session}
    (hd : w.directories.get? k = some d) (hout : d.outage .remove = none) {ids : List String}
    {f : Failure} (hf : (w.removeEach s k ids).1 = .error f) : ∃ i ∈ ids, f = .notFound (some i) := by
  induction ids generalizing w d with
  | nil => cases hf
  | cons i rest ih =>
    have hfirst := trimmed_remove s hd (rfl : i = i)
    have hquiet := h.remove s k (some i)
    unfold World.removeEach at hf
    split at hf
    next g w' hw =>
      cases hf
      exact ⟨i, List.mem_cons_self, h.notFound_of_remove hd hout (congrArg Prod.fst hw)⟩
    next w' hw =>
      rw [hw] at hfirst hquiet
      obtain ⟨d', hd', htrimmed⟩ := hfirst.own d hd
      obtain ⟨j, hj, hfj⟩ := ih hquiet hd' (htrimmed.outage ▸ hout) hf
      exact ⟨j, List.mem_cons_of_mem _ hj, hfj⟩

theorem Quiet.removeEach (h : w.Quiet) {s : Session} (hd : w.directories.get? k = some d)
    {ids : List String} {f : Failure} (hf : (w.removeEach s k ids).1 = .error f) :
    (w.removeEach s k ids).2.directories = w.directories ∨ f.kind = .notFound := by
  cases hout : d.outage .remove with
  | none =>
    obtain ⟨i, -, rfl⟩ := h.notFound_of_removeEach hd hout hf
    exact .inr rfl
  | some g =>
    -- What is out of order fails for the first object already.
    cases ids with
    | nil => cases hf
    | cons i rest =>
      have hremove : w.remove s k (some i) = w.refuse (s.event k .remove (some i)) g := by
        simp only [World.remove, Directories.find_eq_ok.2 hd, Directory.remove, Directory.guarded,
          hout]
      have hfirst := h.refuse (s.event k .remove (some i)) g
      have hsame := directories_refuse w (s.event k .remove (some i)) g
      rw [← hremove] at hfirst hsame
      left
      unfold World.removeEach
      split
      next w' hw =>
        rw [hw] at hsame
        exact hsame
      next w' hw =>
        rw [hw] at hfirst
        cases hfirst

theorem Quiet.patch (h : w.Quiet) {s : Session} (hd : w.directories.get? k = some d)
    {submission : Json} {f : Failure} (hf : (w.patch s k submission).1 = .error f) :
    (w.patch s k submission).2.directories = w.directories ∨ f.kind = .notFound ∧
      w.directories.Trimmed submission.Removes k (w.patch s k submission).2.directories := by
  have hfind := Directories.find_eq_ok.2 hd
  cases hids : Patch.parse submission >>= Patch.targets with
  | error g =>
    have hw : w.patch s k submission = (.error g, w) := by simp only [World.patch, hfind, hids]
    exact .inl (by rw [hw])
  | ok ids =>
    have hw : w.patch s k submission = w.removeEach s k ids := by
      simp only [World.patch, hfind, hids]
    rw [hw] at hf ⊢
    refine (h.removeEach hd hf).imp_right fun hkind => ⟨hkind, ?_⟩
    exact trimmed_removeEach s hd fun i hi => Patch.removes_of_targets hids hi

end World

end AccessDirectory

import AccessDirectory.Proofs.Directory.Changes

/-! Changes of a directory are local: one that names some identifiers leaves the objects under all others
as they are, and how it ends depends on the objects under those that it names alone. -/

namespace AccessDirectory

/-- Two directories have the same objects under some identifiers and differ in no other respect. In which
order the objects stand does not matter. -/
structure Directory.Agree {k : Kind} (named : String → Prop) (d d' : Directory k) : Prop where
  counter : d'.counter = d.counter
  outage : d'.outage = d.outage
  objects : ∀ i, named i → d'.objects.get? i = d.objects.get? i

namespace Directory
variable {k : Kind} {named named' : String → Prop} {d d' d'' : Directory k}

namespace Agree

theorem refl (named : String → Prop) (d : Directory k) : d.Agree named d := ⟨rfl, rfl, fun _ _ => rfl⟩

theorem symm (h : d.Agree named d') : d'.Agree named d :=
  ⟨h.counter.symm, h.outage.symm, fun i hi => (h.objects i hi).symm⟩

theorem trans (h : d.Agree named d') (h' : d'.Agree named d'') : d.Agree named d'' where
  counter := h'.counter.trans h.counter
  outage := h'.outage.trans h.outage
  objects i hi := (h'.objects i hi).trans (h.objects i hi)

theorem mono (h : d.Agree named d') (hn : ∀ i, named' i → named i) : d.Agree named' d' :=
  ⟨h.counter, h.outage, fun i hi => h.objects i (hn i hi)⟩

theorem union (h : d.Agree named d') (h' : d.Agree named' d') :
    d.Agree (fun i => named i ∨ named' i) d' :=
  ⟨h.counter, h.outage, fun i hi => hi.elim (h.objects i) (h'.objects i)⟩

theorem contains (h : d.Agree named d') {i : String} (hi : named i) :
    d'.objects.contains i = d.objects.contains i := by
  rw [Table.contains, Table.contains, h.objects i hi]

theorem guarded (h : d.Agree named d') {α : Type} (method : Method) (result : Except Failure α) :
    d'.guarded method result = d.guarded method result := by
  rw [Directory.guarded, Directory.guarded, h.outage]

theorem require (h : d.Agree named d') {i : String} (hi : named i) : d'.require i = d.require i := by
  rw [Directory.require, Directory.require, get, get, h.guarded, h.objects i hi]

theorem put (h : d.Agree named d') (i : String) (o : k.Object) :
    Agree named { d with objects := d.objects.put i o }
      { d' with objects := d'.objects.put i o } where
  counter := h.counter
  outage := h.outage
  objects j hj := by simp only [Table.get?_put, h.objects j hj]

theorem erase (h : d.Agree named d') (i : String) :
    Agree named { d with objects := d.objects.erase i }
      { d' with objects := d'.objects.erase i } where
  counter := h.counter
  outage := h.outage
  objects j hj := by simp only [Table.get?_erase, h.objects j hj]

end Agree

inductive EndAlike (named : String → Prop) :
    Except Failure (Directory k) → Except Failure (Directory k) → Prop
  | failed (f : Failure) : EndAlike named (.error f) (.error f)
  | done {d d' : Directory k} (h : d.Agree named d') : EndAlike named (.ok d) (.ok d')

theorem EndAlike.guarded {result result' : Except Failure (Directory k)} (h : d.Agree named d')
    (method : Method) (hr : EndAlike named result result') :
    EndAlike named (d.guarded method result) (d'.guarded method result') := by
  rw [Directory.guarded, Directory.guarded, h.outage]
  cases d.outage method with
  | some f => exact .failed f
  | none => exact hr

/-- A change leaves alone what it does not name, and depends on nothing else that may differ. -/
structure Local (named : String → Prop) (change : Directory k → Except Failure (Directory k)) :
    Prop where
  frame : ∀ d d', change d = .ok d' → d.Agree (fun i => ¬named i) d'
  depends : ∀ seen : String → Prop, (∀ i, named i → seen i) → ∀ d d', d.Agree seen d' →
    EndAlike seen (change d) (change d')

theorem local_remove (identifier : Option String) :
    Local (k := k) (fun i => identifier = some i) (·.remove identifier) where
  frame d d' h := by
    obtain ⟨-, i, rfl, -, rfl⟩ := remove_eq_ok.1 h
    refine ⟨rfl, rfl, fun j hj => ?_⟩
    have hne : j ≠ i := fun heq => hj (congrArg some heq.symm)
    simp only [Table.get?_erase, if_neg hne]
  depends seen hseen d d' h := by
    refine .guarded h .remove ?_
    cases identifier with
    | none => exact .failed _
    | some i =>
      simp only [h.contains (hseen i rfl)]
      split
      · exact .done (h.erase i)
      · exact .failed _

theorem local_update (o : k.Object) :
    Local (fun i => Kind.Object.identifier o = some i) (·.update o) where
  frame d d' h := by
    obtain ⟨-, i, hi, -, rfl⟩ := update_eq_ok.1 h
    refine ⟨rfl, rfl, fun j hj => ?_⟩
    have hne : j ≠ i := fun heq => hj (heq ▸ hi)
    simp only [Table.get?_put, if_neg hne]
  depends seen hseen d d' h := by
    refine .guarded h .update ?_
    cases hi : Kind.Object.identifier o with
    | none => exact .failed _
    | some i =>
      simp only [h.contains (hseen i hi)]
      split
      · exact .done (h.put i o)
      · exact .failed _

theorem local_add {o : k.Object} {i : String} (hi : ownIdentifier? o = some i) :
    Local (· = i) fun d => (d.add o).map (·.2) where
  frame d d' h := by
    cases hadd : d.add o with
    | error f =>
      rw [hadd] at h
      cases h
    | ok added =>
      rw [hadd] at h
      cases h
      obtain ⟨-, hadd⟩ := guarded_eq_ok.1 hadd
      simp only [hi] at hadd
      split at hadd <;> cases hadd
      refine ⟨rfl, rfl, fun j hj => ?_⟩
      simp only [Table.get?_put, if_neg hj]
  depends seen hseen d d' h := by
    have hguarded : ∀ d : Directory k, (d.add o).map (·.2) = d.guarded .add
        (if d.objects.contains i then .error (.alreadyExists i)
          else .ok { d with objects := d.objects.put i o }) := by
      intro d
      simp only [add, hi, Directory.guarded]
      split
      · rfl
      · split <;> rfl
    simp only [hguarded]
    refine .guarded h .add ?_
    simp only [h.contains (hseen i rfl)]
    split
    · exact .failed _
    · exact .done (h.put i o)

end Directory

structure Directories.Agree (named : Kind → String → Prop) (ds ds' : Directories) : Prop where
  missing : ∀ k, ds.get? k = none → ds'.get? k = none
  found : ∀ k d, ds.get? k = some d → ∃ d', ds'.get? k = some d' ∧ d.Agree (named k) d'

namespace Directories.Agree
variable {named named' : Kind → String → Prop} {ds ds' ds'' : Directories} {k : Kind}

theorem refl (named : Kind → String → Prop) (ds : Directories) : ds.Agree named ds where
  missing _ hd := hd
  found k d hd := ⟨d, hd, .refl (named k) d⟩

theorem symm (h : ds.Agree named ds') : ds'.Agree named ds where
  missing k hd' := by
    cases hd : ds.get? k with
    | none => rfl
    | some d =>
      obtain ⟨d', hfound, -⟩ := h.found k d hd
      rw [hd'] at hfound
      cases hfound
  found k d' hd' := by
    cases hd : ds.get? k with
    | none =>
      rw [h.missing k hd] at hd'
      cases hd'
    | some d =>
      obtain ⟨e, hfound, hagree⟩ := h.found k d hd
      rw [hd'] at hfound
      cases hfound
      exact ⟨d, rfl, hagree.symm⟩

theorem trans (h : ds.Agree named ds') (h' : ds'.Agree named ds'') : ds.Agree named ds'' where
  missing k hd := h'.missing k (h.missing k hd)
  found k d hd := by
    obtain ⟨d', hd', hfirst⟩ := h.found k d hd
    obtain ⟨d'', hd'', hsecond⟩ := h'.found k d' hd'
    exact ⟨d'', hd'', hfirst.trans hsecond⟩

theorem mono (h : ds.Agree named ds') (hn : ∀ k i, named' k i → named k i) :
    ds.Agree named' ds' where
  missing := h.missing
  found k d hd := by
    obtain ⟨d', hd', hagree⟩ := h.found k d hd
    exact ⟨d', hd', hagree.mono (hn k)⟩

theorem union (h : ds.Agree named ds') (h' : ds.Agree named' ds') :
    ds.Agree (fun k i => named k i ∨ named' k i) ds' where
  missing := h.missing
  found k d hd := by
    obtain ⟨d', hd', hfirst⟩ := h.found k d hd
    obtain ⟨e, he, hsecond⟩ := h'.found k d hd
    obtain rfl := Option.some.inj (hd'.symm.trans he)
    exact ⟨d', hd', hfirst.union hsecond⟩

theorem find_error (h : ds.Agree named ds') {f : Failure} (hf : ds.find k = .error f) :
    ds'.find k = .error f := by
  unfold find at hf ⊢
  cases hd : ds.get? k with
  | none =>
    rw [hd] at hf
    rw [h.missing k hd]
    exact hf
  | some d =>
    rw [hd] at hf
    cases hf

theorem find_ok (h : ds.Agree named ds') {d : Directory k} (hd : ds.find k = .ok d) :
    ∃ d', ds'.find k = .ok d' ∧ d.Agree (named k) d' := by
  obtain ⟨d', hd', hagree⟩ := h.found k d (find_eq_ok.1 hd)
  exact ⟨d', find_eq_ok.2 hd', hagree⟩

theorem set (h : ds.Agree named ds') {d d' : Directory k} (hd : d.Agree (named k) d') :
    (ds.set d).Agree named (ds'.set d') where
  missing j hj := by
    by_cases hk : j = k
    · subst hk
      rw [get?_set_self] at hj
      cases hj
    · rw [get?_set_ne ds d hk] at hj
      rw [get?_set_ne ds' d' hk]
      exact h.missing j hj
  found j e he := by
    by_cases hk : j = k
    · subst hk
      rw [get?_set_self] at he
      cases he
      exact ⟨d', get?_set_self ds' d', hd⟩
    · rw [get?_set_ne ds d hk] at he
      rw [get?_set_ne ds' d' hk]
      exact h.found j e he

theorem put {d d' : Directory k} (hget : ds.get? k = some d) (hd : d.Agree (named k) d') :
    ds.Agree named (ds.set d') := by
  have hset := (refl named ds).set hd
  rwa [set_self hget] at hset

end Directories.Agree

end AccessDirectory

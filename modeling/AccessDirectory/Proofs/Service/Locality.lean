import AccessDirectory.Proofs.Directory.Locality
import AccessDirectory.Proofs.Service.Atomicity
import AccessDirectory.Proofs.Service.Translation

/-! Operations are local. Under listeners that never fail, an operation leaves alone the objects that it
does not name and is answered from those that it names, so two that name nothing in common may change
places. -/

namespace AccessDirectory

namespace World
variable {w w' : World} {declared : Kind → List String} {α β : Type}

structure Calm (declared : Kind → List String) (w : World) : Prop where
  quiet : w.Quiet
  declares : w.declared = declared

theorem Calm.act {g g' : Stage} (h : g.world.Calm declared) (ha : Stage.Act g g') :
    g'.world.Calm declared := by
  cases ha <;> exact ⟨h.quiet, h.declares⟩

theorem Calm.acts {g g' : Stage} (h : g.world.Calm declared) (ha : Stage.Acts g g') :
    g'.world.Calm declared :=
  ha.invariant (P := fun g => g.world.Calm declared) act h

/-- An act leaves alone what it does not name; its answer and what it leaves under the names that two
worlds agree on follow from these, if they include its own. -/
structure Local (declared : Kind → List String) (names : Kind → String → Prop)
    (act : World → Except Failure α × World) : Prop where
  keeps : ∀ w : World, w.Calm declared → (act w).2.Calm declared
  frame : ∀ w : World, w.Calm declared →
    w.directories.Agree (fun k i => ¬names k i) (act w).2.directories
  depends : ∀ seen : Kind → String → Prop, (∀ k i, names k i → seen k i) → ∀ w w' : World,
    w.Calm declared → w'.Calm declared → w.directories.Agree seen w'.directories →
    (act w').1 = (act w).1 ∧ (act w).2.directories.Agree seen (act w').2.directories

namespace Local
variable {names names' : Kind → String → Prop} {act act' : World → Except Failure α × World}
variable {k : Kind} {s : Session}

theorem mono (h : Local declared names act) (hn : ∀ k i, names k i → names' k i) :
    Local declared names' act where
  keeps := h.keeps
  frame w hw := (h.frame w hw).mono fun k i hi hnamed => hi (hn k i hnamed)
  depends seen hseen := h.depends seen fun k i hi => hseen k i (hn k i hi)

theorem congr (h : Local declared names act) (hact : ∀ w : World, w.Calm declared → act' w = act w) :
    Local declared names act' where
  keeps w hw := by
    rw [hact w hw]
    exact h.keeps w hw
  frame w hw := by
    rw [hact w hw]
    exact h.frame w hw
  depends seen hseen w w' hw hw' hagree := by
    rw [hact w hw, hact w' hw']
    exact h.depends seen hseen w w' hw hw' hagree

theorem map (h : Local declared names act) (f : α → β) :
    Local declared names fun w => ((act w).1.map f, (act w).2) where
  keeps := h.keeps
  frame := h.frame
  depends seen hseen w w' hw hw' hagree := by
    obtain ⟨hanswer, hleft⟩ := h.depends seen hseen w w' hw hw' hagree
    exact ⟨by rw [hanswer], hleft⟩

theorem of_constant {answer : Except Failure α} (keeps : ∀ w : World, w.Calm declared → (act w).2.Calm declared)
    (hact : ∀ w : World, w.Calm declared → (act w).1 = answer ∧ (act w).2.directories = w.directories) :
    Local declared names act where
  keeps := keeps
  frame w hw := by
    rw [(hact w hw).2]
    exact .refl _ _
  depends seen _ w w' hw hw' hagree := by
    obtain ⟨hanswer, hleft⟩ := hact w hw
    obtain ⟨hanswer', hleft'⟩ := hact w' hw'
    rw [hanswer, hanswer', hleft, hleft']
    exact ⟨rfl, hagree⟩

theorem answering (answer : Except Failure α) : Local declared names fun w => (answer, w) :=
  of_constant (fun _ hw => hw) fun _ _ => ⟨rfl, rfl⟩

theorem refusing (e : Event) (f : Failure) : Local declared names fun w => w.refuse e f :=
  of_constant (fun w hw => hw.acts (.refuse { world := w } e f)) fun w hw =>
    ⟨hw.quiet.refuse e f, directories_refuse w e f⟩

theorem located (h : Local declared names act) (k : Kind) : Local declared names fun w =>
    match w.directories.find k with
    | .error f => (.error f, w)
    | .ok _ => act w where
  keeps w hw := by
    split
    · exact hw
    · exact h.keeps w hw
  frame w hw := by
    split
    · exact .refl _ _
    · exact h.frame w hw
  depends seen hseen w w' hw hw' hagree := by
    cases hd : w.directories.find k with
    | error f =>
      rw [hagree.find_error hd]
      exact ⟨rfl, hagree⟩
    | ok d =>
      obtain ⟨d', hd', -⟩ := hagree.find_ok hd
      rw [hd']
      exact h.depends seen hseen w w' hw hw' hagree

theorem of_change {named : String → Prop} {change : Directory k → Except Failure (Directory k)}
    (hc : Directory.Local named change) {x : α}
    (keeps : ∀ w : World, w.Calm declared → (act w).2.Calm declared)
    (absent : ∀ (w : World) f, w.directories.find k = .error f → act w = (.error f, w))
    (failed : ∀ (w : World) d f, w.Calm declared → w.directories.find k = .ok d →
      change d = .error f → (act w).1 = .error f ∧ (act w).2.directories = w.directories)
    (done : ∀ (w : World) d d', w.Calm declared → w.directories.find k = .ok d →
      change d = .ok d' → (act w).1 = .ok x ∧ (act w).2.directories = w.directories.set d') :
    Local declared (fun j i => j = k ∧ named i) act where
  keeps := keeps
  frame w hw := by
    cases hd : w.directories.find k with
    | error f =>
      rw [absent w f hd]
      exact .refl _ _
    | ok d =>
      cases hchange : change d with
      | error f =>
        rw [(failed w d f hw hd hchange).2]
        exact .refl _ _
      | ok d' =>
        rw [(done w d d' hw hd hchange).2]
        exact .put (Directories.find_eq_ok.1 hd)
          ((hc.frame d d' hchange).mono fun i hi hnamed => hi ⟨rfl, hnamed⟩)
  depends seen hseen w w' hw hw' hagree := by
    cases hd : w.directories.find k with
    | error f =>
      rw [absent w f hd, absent w' f (hagree.find_error hd)]
      exact ⟨rfl, hagree⟩
    | ok d =>
      obtain ⟨d', hd', hsame⟩ := hagree.find_ok hd
      -- In worlds that agree on what is named, the change fails in both or in neither.
      have halike := hc.depends (seen k) (fun i hi => hseen k i ⟨rfl, hi⟩) d d' hsame
      generalize hchange : change d = ended at halike
      generalize hchange' : change d' = ended' at halike
      cases halike with
      | failed f =>
        have hfail := failed w d f hw hd hchange
        have hfail' := failed w' d' f hw' hd' hchange'
        rw [hfail.1, hfail'.1, hfail.2, hfail'.2]
        exact ⟨rfl, hagree⟩
      | done hleft =>
        have hdone := done w d _ hw hd hchange
        have hdone' := done w' d' _ hw' hd' hchange'
        rw [hdone.1, hdone'.1, hdone.2, hdone'.2]
        exact ⟨rfl, hagree.set hleft⟩

theorem andThen {next : World → Except Failure β × World}
    (h : Local declared names act) (hnext : Local declared names next) :
    Local declared names fun w =>
      match act w with
      | (.error f, w) => (.error f, w)
      | (.ok _, w) => next w where
  keeps w hw := by
    have hfirst := h.keeps w hw
    split <;> rename_i hact <;> rw [hact] at hfirst
    · exact hfirst
    · exact hnext.keeps _ hfirst
  frame w hw := by
    have hfirst := h.frame w hw
    have hkept := h.keeps w hw
    split <;> rename_i hact <;> rw [hact] at hfirst hkept
    · exact hfirst
    · exact hfirst.trans (hnext.frame _ hkept)
  depends seen hseen w w' hw hw' hagree := by
    obtain ⟨hanswer, hleft⟩ := h.depends seen hseen w w' hw hw' hagree
    have hkept := h.keeps w hw
    have hkept' := h.keeps w' hw'
    revert hanswer hleft hkept hkept'
    obtain ⟨answer, left⟩ := act w
    obtain ⟨answer', left'⟩ := act w'
    rintro rfl hleft hkept hkept'
    cases answer' with
    | error f => exact ⟨rfl, hleft⟩
    | ok x => exact hnext.depends seen hseen left left' hkept hkept' hleft

theorem comm {act : World → Except Failure α × World} {act' : World → Except Failure β × World}
    (h : Local declared names act) (h' : Local declared names' act')
    (hdisjoint : ∀ k i, names k i → ¬names' k i) (hw : w.Calm declared) :
    (act (act' w).2).1 = (act w).1 ∧ (act' (act w).2).1 = (act' w).1 ∧
      (act' (act w).2).2.directories.Agree (fun _ _ => True) (act (act' w).2).2.directories := by
  have hkept := h.keeps w hw
  have hkept' := h'.keeps w hw
  obtain ⟨hanswer, hleft⟩ := h.depends _ hdisjoint w _ hw hkept' (h'.frame w hw)
  obtain ⟨hanswer', hleft'⟩ := h'.depends _ (fun k i hi hn => hdisjoint k i hn hi) w _ hw hkept
    (h.frame w hw)
  refine ⟨hanswer, hanswer', ?_⟩
  -- What one act does not name it leaves as the other, which may name it, has left it.
  have houtside := (h'.frame _ hkept).symm.trans hleft
  have houtside' := hleft'.symm.trans (h.frame _ hkept')
  refine (houtside.union houtside').mono fun k i _ => ?_
  by_cases hi : names k i
  · exact .inl (hdisjoint k i hi)
  · exact .inr hi

end Local

variable {k : Kind} {s : Session}

theorem Calm.commit (h : w.Calm declared) (e : Event) (d : Directory k) :
    (w.commit e d).1 = .ok () ∧ (w.commit e d).2.directories = w.directories.set d :=
  ⟨Quiet.reportSuccess (w := { w with directories := w.directories.set d }) h.quiet e,
    directories_commit w e d⟩

theorem local_remove (s : Session) (k : Kind) (identifier : Option String) :
    Local declared (fun j i => j = k ∧ identifier = some i) fun w => w.remove s k identifier := by
  refine .of_change (Directory.local_remove identifier) (x := ())
    (fun w hw => hw.acts (.remove { world := w } s k identifier)) (fun w f hd => ?_)
    (fun w d f hw hd hremove => ?_) fun w d d' hw hd hremove => ?_
  · simp only [World.remove, hd]
  · simp only [World.remove, hd, hremove]
    exact ⟨hw.quiet.refuse _ f, directories_refuse ..⟩
  · simp only [World.remove, hd, hremove]
    exact hw.commit _ d'

theorem local_removeEach (s : Session) (k : Kind) {named : String → Prop} {ids : List String}
    (hids : ∀ i ∈ ids, named i) :
    Local declared (fun j i => j = k ∧ named i) fun w => w.removeEach s k ids := by
  induction ids with
  | nil => exact .answering (.ok ())
  | cons i rest ih =>
    have hfirst : Local declared (fun j i => j = k ∧ named i) fun w => w.remove s k (some i) :=
      (local_remove s k (some i)).mono fun j n hn =>
        ⟨hn.1, Option.some.inj hn.2 ▸ hids i List.mem_cons_self⟩
    have hrest := ih fun j hj => hids j (List.mem_cons_of_mem _ hj)
    refine (hfirst.andThen hrest).congr fun w _ => ?_
    simp only [World.removeEach]
    rcases w.remove s k (some i) with ⟨_ | _, _⟩ <;> rfl

theorem local_patch (s : Session) (k : Kind) (submission : Json) :
    Local declared (fun j i => j = k ∧ submission.Removes i) fun w => w.patch s k submission := by
  cases hids : Patch.parse submission >>= Patch.targets with
  | error f =>
    refine ((Local.answering (.error f)).located k).congr fun w _ => ?_
    simp only [World.patch, hids]
    cases w.directories.find k <;> rfl
  | ok ids =>
    have hnamed : ∀ i ∈ ids, submission.Removes i := fun i hi => Patch.removes_of_targets hids hi
    refine ((local_removeEach s k hnamed).located k).congr fun w _ => ?_
    simp only [World.patch, hids]
    cases w.directories.find k <;> rfl

theorem Calm.submitted_eq (h : w.Calm declared) (h' : w'.Calm declared) (k : Kind)
    (submission : Json) : w'.submitted k submission = w.submitted k submission := by
  simp only [submitted, h.declares, h'.declares]

theorem ownIdentifier?_of_submitted {submission : Json} {o : k.Object} (hk : k ≠ .connection)
    (ho : w.submitted k submission = .ok o) :
    ∃ i, Kind.Object.identifier o = some i ∧ Directory.ownIdentifier? o = some i := by
  have hnonempty : ∀ i, Text.HasContent i → i ≠ "" := by
    rintro i hi rfl
    rw [Text.hasContent_iff] at hi
    cases hi
  obtain ⟨fields, -, hconstruct⟩ := bind_eq_ok.1 ho
  cases k with
  | user =>
    obtain ⟨username, password, attributes, hu, -, -, rfl⟩ := Kind.construct_user_eq_ok.1 hconstruct
    have hne := hnonempty _ (Fields.requireText_eq_ok.1 hu).2
    exact ⟨username, rfl, Directory.ownIdentifier?_of_ne_empty rfl hne⟩
  | userGroup =>
    obtain ⟨identifier, attributes, hi, -, rfl⟩ := Kind.construct_userGroup_eq_ok.1 hconstruct
    have hne := hnonempty _ (Fields.requireText_eq_ok.1 hi).2
    exact ⟨identifier, rfl, Directory.ownIdentifier?_of_ne_empty rfl hne⟩
  | connection => exact absurd rfl hk

theorem Calm.local_create (h : w.Calm declared) (s : Session) {k : Kind} (hk : k ≠ .connection)
    (submission : Json) : Local declared (fun j i => j = k ∧ ∃ o : k.Object,
      w.submitted k submission = .ok o ∧ Kind.Object.identifier o = some i)
      fun w => w.create s k submission := by
  have keeps : ∀ w : World, w.Calm declared → (w.create s k submission).2.Calm declared :=
    fun w hw => hw.acts (.create { world := w } s k submission)
  cases ho : w.submitted k submission with
  | error f =>
    refine ((Local.answering (.error f)).located k).congr fun w' hw' => ?_
    simp only [World.create, h.submitted_eq hw', ho]
    cases w'.directories.find k <;> rfl
  | ok o =>
    obtain ⟨n, hn, hown⟩ := ownIdentifier?_of_submitted hk ho
    have hchange := Local.of_change (Directory.local_add hown) (x := Kind.represent o) keeps
      (fun w' f hd => ?_) (fun w' d f hw' hd hadd => ?_) fun w' d d' hw' hd hadd => ?_
    · exact hchange.mono fun j i hi => ⟨hi.1, o, rfl, hi.2 ▸ hn⟩
    · simp only [World.create, hd]
    · simp only [World.create, h.submitted_eq hw', ho, hd, World.add, map_eq_error.1 hadd]
      rw [hw'.quiet.refuse, directories_refuse]
      exact ⟨rfl, rfl⟩
    · obtain ⟨added, hok, rfl⟩ := map_eq_ok.1 hadd
      have hne : n ≠ "" := (Directory.ownIdentifier?_eq_some hown).2
      have hsame : added.1 = o := Directory.eq_of_add hn hne hok
      simp only [World.create, h.submitted_eq hw', ho, hd, World.add, hok]
      obtain ⟨hanswer, hleft⟩ := hw'.commit
        (s.event k .add (Kind.Object.identifier added.1) (some added.1)) added.2
      rw [hanswer, hleft, hsame]
      exact ⟨rfl, rfl⟩

theorem local_fetch (s : Session) (k : Kind) (n : String) :
    Local declared (fun j i => j = k ∧ i = n) fun w => w.fetch s k n where
  keeps w hw := by
    have hkept := Calm.acts (g := { world := w }) hw (.fetch { world := w } s k n "")
    rw [Stage.perform] at hkept
    split at hkept <;> rename_i hf <;> rw [hf] <;> exact hkept
  frame w hw := by
    rw [directories_fetch]
    exact .refl _ _
  depends seen hseen w w' hw hw' hagree := by
    rw [hw.quiet.fst_fetch, hw'.quiet.fst_fetch, directories_fetch, directories_fetch]
    refine ⟨?_, hagree⟩
    cases hd : w.directories.find k with
    | error f => rw [hagree.find_error hd]
    | ok d =>
      obtain ⟨d', hd', hsame⟩ := hagree.find_ok hd
      rw [hd']
      simp only [bind, Except.bind, hsame.require (hseen k n ⟨rfl, rfl⟩)]

theorem local_store (c : Opened) :
    Local declared (fun j i => j = c.kind ∧ c.identifier = some i) fun w => w.store c := by
  have keeps : ∀ w : World, w.Calm declared → (w.store c).2.Calm declared := fun w hw =>
    Calm.acts (g := { world := w, held := Table.empty.put "" c }) hw
      (.store (Table.get?_put_self ..))
  refine .of_change (Directory.local_update c.object) (x := ()) keeps (fun w f hd => ?_)
    (fun w d f hw hd hupdate => ?_) fun w d d' hw hd hupdate => ?_
  · simp only [World.store, hd]
  · simp only [World.store, hd, hupdate]
    exact ⟨hw.quiet.refuse _ f, directories_refuse ..⟩
  · simp only [World.store, hd, hupdate]
    exact hw.commit _ d'

theorem local_update (c : Opened) (submission : Json) :
    Local declared (fun j i => j = c.kind ∧ c.identifier = some i)
      fun w => ((w.update c submission).1, (w.update c submission).2.2) := by
  cases hs : Fields.ofSubmission .nothingToUpdate submission with
  | error f =>
    refine (Local.answering (.error f)).congr fun w _ => ?_
    simp only [World.update, hs]
  | ok fields =>
    cases hr : Kind.revise c.object (c.kind.sanitize (declared c.kind) fields) with
    | error f =>
      refine (Local.refusing (c.session.event c.kind .update c.identifier (some c.object)) f).congr
        fun w hw => ?_
      simp only [World.update, hs, hw.declares, hr]
    | ok o =>
      have hsame : Kind.Object.identifier o = c.identifier := (Kind.of_revise_eq_ok hr).1
      refine ((local_store { c with object := o }).mono fun j i hi => ⟨hi.1, hsame ▸ hi.2⟩).congr
        fun w hw => ?_
      simp only [World.update, hs, hw.declares, hr]

end World

end AccessDirectory

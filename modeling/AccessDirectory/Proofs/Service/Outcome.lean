import AccessDirectory.Proofs.Service.Act
import AccessDirectory.Proofs.Service.Dispatch

/-! Attempts on storage, how they end and what the listeners are told of them. Listeners that fail decide
whether an attempt counts as completed, but not what is stored. -/

namespace AccessDirectory

structure Attempt where
  event : Event
  stored : Except Failure Directories

namespace Attempt

def after (a : Attempt) (w : World) : World :=
  match a.stored with
  | .ok ds => { w with directories := ds }
  | .error _ => w

/-- What is told before the attempt can be known to fail. -/
def announced (a : Attempt) : List Event :=
  match a.stored with
  | .ok _ => [a.event]
  | .error _ => []

def Fails (a : Attempt) (w : World) (f : Failure) : Prop :=
  a.stored = .error f ∨ (∃ ds, a.stored = .ok ds) ∧ (a.after w).Raises a.event f

/-- An operation fails with `g` because its attempt fails with `f`: this is reported last, and only a
listener that fails on the report puts another failure in its place. -/
structure Failed (a : Attempt) (w : World) (f g : Failure) (w' : World) : Prop where
  cause : a.Fails w f
  reported : w' = (a.after w).tellAll (a.announced ++ [a.event.failed f])
  front : w.listeners ≠ [] → w'.journal.received 0 =
    w.journal.received 0 ++ (a.announced ++ [a.event.failed f])
  heard : ∀ place, ∃ got, got.Sublist (a.announced ++ [a.event.failed f]) ∧
    w'.journal.received place = w.journal.received place ++ got
  answer : ((a.after w).tellAll a.announced).Raises (a.event.failed f) g ∨
    g = f ∧ ∀ f', ¬((a.after w).tellAll a.announced).Raises (a.event.failed f) f'

structure Ends {α : Type} (a : Attempt) (w : World) (result : Except Failure α) (w' : World) :
    Prop where
  succeeded : a.event.succeeded
  completes_iff : (∃ x, result = .ok x) ↔
    (∃ ds, a.stored = .ok ds) ∧ ∀ f, ¬(a.after w).Raises a.event f
  completed : ∀ x, result = .ok x → w' = (a.after w).tellAll [a.event] ∧
    ∀ place < w.listeners.length,
      w'.journal.received place = w.journal.received place ++ [a.event]
  failed : ∀ g, result = .error g → ∃ f, a.Failed w f g w'
  directories : w'.directories = (a.after w).directories

def conclude (a : Attempt) (w : World) : Except Failure Unit × World :=
  match a.stored with
  | .error f => w.refuse a.event f
  | .ok ds => { w with directories := ds }.reportSuccess a.event

variable {a : Attempt} {w : World}

theorem received_after (a : Attempt) (w : World) (place : Nat) :
    (a.after w).journal.received place = w.journal.received place := by
  unfold after
  split <;> rfl

theorem listeners_after (a : Attempt) (w : World) : (a.after w).listeners = w.listeners := by
  unfold after
  split <;> rfl

theorem ends_of_fails (hs : a.event.succeeded) {f : Failure} (hf : a.Fails w f) {g : Failure}
    (hg : g = (((a.after w).tellAll a.announced).reportFailure a.event f).1) :
    a.Ends w (.error g : Except Failure Unit)
      ((a.after w).tellAll (a.announced ++ [a.event.failed f])) where
  succeeded := hs
  completes_iff := by
    refine iff_of_false (fun ⟨_, h⟩ => by cases h) ?_
    rintro ⟨⟨ds, hds⟩, hquiet⟩
    -- Either storage refused, or a listener failed on the success that it was told of.
    obtain he | ⟨-, hr⟩ := hf
    · rw [hds] at he
      cases he
    · exact hquiet f hr
  completed _ h := by cases h
  failed g' h := by
    cases h
    refine ⟨f, hf, rfl, fun hl => ?_, fun place => ?_, ?_⟩
    · rw [World.received_tellAll_front (by rwa [listeners_after]), received_after]
    · obtain ⟨got, hgot, hr⟩ := World.exists_received_tellAll (a.after w)
        (a.announced ++ [a.event.failed f]) place
      exact ⟨got, hgot, by rw [hr, received_after]⟩
    · subst hg
      exact World.reportFailure_fst ..
  directories := World.directories_tellAll ..

theorem ends_of_quiet (hs : a.event.succeeded) {ds : Directories} (hstored : a.stored = .ok ds)
    (hquiet : ∀ f, ¬(a.after w).Raises a.event f) :
    a.Ends w (.ok () : Except Failure Unit) ((a.after w).tellAll [a.event]) where
  succeeded := hs
  completes_iff := iff_of_true ⟨(), rfl⟩ ⟨⟨ds, hstored⟩, hquiet⟩
  completed _ _ := by
    refine ⟨rfl, fun place hp => ?_⟩
    rw [← listeners_after a] at hp
    rw [← received_after a w]
    exact World.received_tellAll_of_not_raises hquiet hp
  failed _ h := by cases h
  directories := rfl

theorem ends_conclude (hs : a.event.succeeded) (w : World) :
    a.Ends w (a.conclude w).1 (a.conclude w).2 := by
  cases hstored : a.stored with
  | error f =>
    have hw : a.after w = w := by rw [after, hstored]
    have hnone : a.announced = [] := by rw [announced, hstored]
    have hc : a.conclude w = w.refuse a.event f := by rw [conclude, hstored]
    have hend := ends_of_fails hs (w := w) (.inl hstored) rfl
    rw [hw, hnone] at hend
    rw [hc, World.refuse_eq]
    exact hend
  | ok ds =>
    have hw : a.after w = { w with directories := ds } := by rw [after, hstored]
    have hone : a.announced = [a.event] := by rw [announced, hstored]
    have hc : a.conclude w = (a.after w).reportSuccess a.event := by rw [conclude, hstored, hw]
    by_cases hr : ∃ f, (a.after w).Raises a.event f
    · -- The failure of a listener is reported to all, those who heard of the success included.
      obtain ⟨f, hf⟩ := hr
      have hend := ends_of_fails hs (.inr ⟨⟨ds, hstored⟩, hf⟩) rfl
      rw [hone] at hend
      rw [hc, World.reportSuccess_of_raises hf, World.refuse_eq]
      exact hend
    · have hquiet := not_exists.1 hr
      rw [hc, World.reportSuccess_of_not_raises hquiet]
      exact ends_of_quiet hs hstored hquiet

theorem Ends.map {α β : Type} {result : Except Failure α} {w' : World} (h : a.Ends w result w')
    (answer : α → β) : a.Ends w (result.map answer) w' := by
  cases result with
  | error g => exact { h with
      completes_iff := by simpa [Except.map] using h.completes_iff
      completed := fun _ hx => by cases hx
      failed := fun g' hg => by
        cases hg
        exact h.failed g rfl }
  | ok x => exact { h with
      completes_iff := by simpa [Except.map] using h.completes_iff
      completed := fun _ _ => h.completed x rfl
      failed := fun _ hg => by cases hg }

end Attempt

namespace World
variable {w : World} {k : Kind} {d : Directory k}

def adding (w : World) (s : Session) (d : Directory k) (o : k.Object) : Attempt :=
  match d.add o with
  | .error f => ⟨s.event k .add (Kind.Object.identifier o) (some o), .error f⟩
  | .ok (o, d) => ⟨s.event k .add (Kind.Object.identifier o) (some o), .ok (w.directories.set d)⟩

def revising (w : World) (s : Session) (d : Directory k) (o : k.Object) (fields : Fields) : Attempt :=
  match Kind.revise o (k.sanitize (w.declared k) fields) with
  | .error f => ⟨s.event k .update (Kind.Object.identifier o) (some o), .error f⟩
  | .ok o => ⟨s.event k .update (Kind.Object.identifier o) (some o),
      (d.update o).map w.directories.set⟩

def removing (w : World) (s : Session) (d : Directory k) (identifier : Option String) : Attempt :=
  ⟨s.event k .remove identifier, (d.remove identifier).map w.directories.set⟩

theorem remove_eq_conclude (hd : w.directories.get? k = some d) (s : Session)
    (identifier : Option String) :
    w.remove s k identifier = (w.removing s d identifier).conclude w := by
  simp only [remove, Directories.find_eq_ok.2 hd, removing, Attempt.conclude, commit]
  cases d.remove identifier <;> rfl

theorem ends_add (w : World) (s : Session) (d : Directory k) (o : k.Object) :
    (w.adding s d o).Ends w (w.add s d o).1 (w.add s d o).2 := by
  have hs : (w.adding s d o).event.succeeded := by
    unfold adding
    split <;> rfl
  cases hadd : d.add o with
  | error f =>
    have hend := (Attempt.ends_conclude hs w).map fun _ => o
    simpa only [add, adding, hadd, Attempt.conclude, commit] using hend
  | ok added =>
    have hend := (Attempt.ends_conclude hs w).map fun _ => added.1
    simpa only [add, adding, hadd, Attempt.conclude, commit] using hend

theorem update_eq_conclude (hd : w.directories.get? k = some d) (s : Session) (o : k.Object)
    {submission : Json} {fields : Fields}
    (hf : Fields.ofSubmission .nothingToUpdate submission = .ok fields) :
    ((w.update ⟨k, o, s⟩ submission).1, (w.update ⟨k, o, s⟩ submission).2.2) =
      (w.revising s d o fields).conclude w := by
  simp only [update, hf, revising]
  cases Kind.revise o (k.sanitize (w.declared k) fields) with
  | error f => rfl
  | ok o' =>
    simp only [store, Directories.find_eq_ok.2 hd, Attempt.conclude, commit]
    cases d.update o' <;> rfl

/-- Creating, storing and removing end as their attempts on storage and the listeners decide, whatever
the listeners do. -/
theorem ends_of_directory (hd : w.directories.get? k = some d) (s : Session) :
    (∀ submission o, w.submitted k submission = .ok o →
      (w.adding s d o).Ends w (w.create s k submission).1 (w.create s k submission).2) ∧
    (∀ o submission fields, Fields.ofSubmission .nothingToUpdate submission = .ok fields →
      (w.revising s d o fields).Ends w (w.update ⟨k, o, s⟩ submission).1
        (w.update ⟨k, o, s⟩ submission).2.2) ∧
    (∀ o : k.Object, (w.removing s d (Kind.Object.identifier o)).Ends w (w.delete ⟨k, o, s⟩).1
      (w.delete ⟨k, o, s⟩).2) ∧
    ∀ identifier, (w.removing s d identifier).Ends w (w.remove s k identifier).1
      (w.remove s k identifier).2 := by
  have hfind := Directories.find_eq_ok.2 hd
  have hremove : ∀ identifier, (w.removing s d identifier).Ends w (w.remove s k identifier).1
      (w.remove s k identifier).2 := by
    intro identifier
    rw [remove_eq_conclude hd]
    exact Attempt.ends_conclude rfl w
  refine ⟨fun submission o ho => ?_, fun o submission fields hf => ?_, fun o => ?_, hremove⟩
  · have hend := (ends_add w s d o).map Kind.represent
    simpa only [create, hfind, ho] using hend
  · have hs : (w.revising s d o fields).event.succeeded := by
      unfold revising
      split <;> rfl
    have hend := Attempt.ends_conclude hs w
    rw [← update_eq_conclude hd s o hf] at hend
    exact hend
  · exact hremove _

end World

def Demo.contested : World where
  directories := Demo.directories
  declared := Demo.declared
  listeners := [.recorder, .failing .onSuccess (.foreign .runtime "out of reach"), .logger]

theorem World.ends_contested : ∃ o created updated removed,
    Demo.contested.submitted .user (.obj [("username", .str "bob")]) = .ok o ∧
    Demo.contested.create (Demo.session Demo.administrator) .user
      (.obj [("username", .str "bob")]) = (.error (.foreign .runtime "out of reach"), created) ∧
    (Demo.contested.adding (Demo.session Demo.administrator) Demo.users o).Ends Demo.contested
      (.error (.foreign .runtime "out of reach") : Except Failure Fields) created ∧
    (Demo.contested.revising (Demo.session Demo.administrator) Demo.users o
      [("password", .str "new")]).Ends Demo.contested
      (.error (.notFound (some "bob")) : Except Failure Unit) updated ∧
    (Demo.contested.removing (Demo.session Demo.administrator) Demo.users (some Demo.member)).Ends
      Demo.contested (.error (.foreign .runtime "out of reach") : Except Failure Unit) removed ∧
    (removed.directories.get? .user).bind (·.objects.get? Demo.member) = none := by
  have hd : Demo.contested.directories.get? .user = some Demo.users := rfl
  obtain ⟨hcreate, hupdate, -, hremove⟩ :=
    World.ends_of_directory hd (Demo.session Demo.administrator)
  exact ⟨_, _, _, _, rfl, rfl, hcreate (.obj [("username", .str "bob")]) _ rfl,
    hupdate _ (.obj [("password", .str "new")]) _ rfl, hremove (some Demo.member), rfl⟩

end AccessDirectory

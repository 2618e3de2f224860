import AccessDirectory.Demo
import AccessDirectory.Proofs.Directory.Changes
import AccessDirectory.Service.Run
import Mathlib.Logic.Relation

/-! Operations taken apart. Each is a chain of acts: the listeners are told of an attempt that changed
nothing, one change of storage is carried out and told of, or a client takes hold of an object. What
every act keeps, whatever the conditions, every run keeps. -/

namespace AccessDirectory

def Operation.byService : Operation → Bool
  | insert .. | overwrite .. | discard .. => false
  | _ => true

def Event.changesStorage (e : Event) : Bool := e.succeeded && e.action ≠ .get

namespace Stage

def tell (g : Stage) (e : Event) : Stage := { g with world := (g.world.notify e).2 }

def change (g : Stage) {k : Kind} (d : Directory k) (e : Event) : Stage :=
  { g with world := ({ g.world with directories := g.world.directories.set d }.notify e).2 }

def hold (g : Stage) (handle : String) (c : Opened) : Stage :=
  { g with held := g.held.put handle c }

theorem held_hold {g : Stage} {handle name : String} {b c : Opened}
    (hb : (g.hold handle c).held.get? name = some b) : b = c ∨ g.held.get? name = some b := by
  rw [hold, Table.get?_put] at hb
  split at hb
  · exact .inl (Option.some.inj hb).symm
  · exact .inr hb

/-- What the service does in one piece. -/
inductive Act (g : Stage) : Stage → Prop
  | tell {e : Event} (he : e.changesStorage = false) : Act g (g.tell e)
  | add (s : Session) {k : Kind} {d d' : Directory k} {submission : Json} {o o' : k.Object}
      (hd : g.world.directories.get? k = some d) (ho : g.world.submitted k submission = .ok o)
      (h : d.add o = .ok (o', d')) :
      Act g (g.change d' (s.event k .add (Kind.Object.identifier o') (some o')))
  | remove (s : Session) {k : Kind} {d d' : Directory k} {identifier : Option String}
      (hd : g.world.directories.get? k = some d) (h : d.remove identifier = .ok d') :
      Act g (g.change d' (s.event k .remove identifier))
  | store {handle : String} {c : Opened} {d d' : Directory c.kind}
      (hc : g.held.get? handle = some c) (hd : g.world.directories.get? c.kind = some d)
      (h : d.update c.object = .ok d') :
      Act g (g.change d' (c.session.event c.kind .update c.identifier (some c.object)))
  | take (handle : String) {c : Opened} {d : Directory c.kind} {identifier : String}
      (hd : g.world.directories.get? c.kind = some d)
      (h : d.objects.get? identifier = some c.object) : Act g (g.hold handle c)
  | revise {handle : String} {c : Opened} {fields : Fields} {o : c.kind.Object}
      (hc : g.held.get? handle = some c)
      (h : Kind.revise c.object (c.kind.sanitize (g.world.declared c.kind) fields) = .ok o) :
      Act g (g.hold handle { c with object := o })

def Acts : Stage → Stage → Prop := Relation.ReflTransGen Act

namespace Acts
variable {g g' g'' : Stage}

theorem refl (g : Stage) : Acts g g := Relation.ReflTransGen.refl

theorem single (h : Act g g') : Acts g g' := Relation.ReflTransGen.single h

theorem trans (h : Acts g g') (h' : Acts g' g'') : Acts g g'' := Relation.ReflTransGen.trans h h'

theorem invariant {P : Stage → Prop} (step : ∀ {g g'}, P g → Act g g' → P g') (h : Acts g g')
    (hg : P g) : P g' := by
  induction h with
  | refl => exact hg
  | tail _ ha ih => exact step ih ha

theorem refuse (g : Stage) (e : Event) (f : Failure) :
    Acts g { g with world := (g.world.refuse e f).2 } := by
  have hw : (g.world.refuse e f).2 = (g.world.notify (e.failed f)).2 := by
    unfold World.refuse World.reportFailure
    split <;> rename_i h <;> simp [h]
  rw [hw]
  exact single (.tell (e := e.failed f) (by simp [Event.changesStorage]))

theorem commit {k : Kind} {d : Directory k} {e : Event} (h : Act g (g.change d e)) :
    Acts g { g with world := (g.world.commit e d).2 } := by
  refine (single h).trans ?_
  unfold World.commit World.reportSuccess
  split
  next w hw =>
    have hg : g.change d e = { g with world := w } := by simp [change, hw]
    rw [hg]
    exact refl _
  next f w hw =>
    have hg : g.change d e = { g with world := w } := by simp [change, hw]
    rw [hg]
    exact refuse { g with world := w } e f

theorem remove (g : Stage) (s : Session) (k : Kind) (identifier : Option String) :
    Acts g { g with world := (g.world.remove s k identifier).2 } := by
  unfold World.remove
  split
  · exact refl g
  next d hd =>
    split
    next f _ => exact refuse g _ f
    next d' h => exact commit (.remove s (Directories.find_eq_ok.1 hd) h)

theorem removeEach (g : Stage) (s : Session) (k : Kind) (identifiers : List String) :
    Acts g { g with world := (g.world.removeEach s k identifiers).2 } := by
  induction identifiers generalizing g with
  | nil => exact refl g
  | cons identifier rest ih =>
    have first := remove g s k (some identifier)
    unfold World.removeEach
    split
    next f w hw =>
      rw [hw] at first
      exact first
    next w hw =>
      rw [hw] at first
      exact first.trans (ih { g with world := w })

theorem patch (g : Stage) (s : Session) (k : Kind) (submission : Json) :
    Acts g { g with world := (g.world.patch s k submission).2 } := by
  unfold World.patch
  split
  · exact refl g
  · exact refl g
  · exact removeEach g s k _

theorem create (g : Stage) (s : Session) (k : Kind) (submission : Json) :
    Acts g { g with world := (g.world.create s k submission).2 } := by
  unfold World.create
  split
  · exact refl g
  · exact refl g
  next d o hd ho =>
    unfold World.add
    split
    next f _ => exact refuse g _ f
    next o' d' h => exact commit (.add s (Directories.find_eq_ok.1 hd) ho h)

theorem fetch (g : Stage) (s : Session) (k : Kind) (identifier handle : String) :
    Acts g (g.perform (.fetch s k identifier handle)).2 := by
  have told : ∀ e : Event, e.changesStorage = false →
      Acts g { g with world := (g.world.notify e).2 } := fun e he => single (.tell he)
  cases hd : g.world.directories.find k with
  | error f =>
    simp only [Stage.perform, World.fetch, hd]
    exact refl g
  | ok d =>
    cases hr : d.require identifier with
    | error f =>
      simp only [Stage.perform, World.fetch, hd, hr]
      exact refuse g (s.event k .get (some identifier)) f
    | ok o =>
      have first := told { s.event k .get (some identifier) with object := some o } rfl
      cases hn : g.world.notify { s.event k .get (some identifier) with object := some o } with
      | mk failure w =>
        rw [hn] at first
        cases failure with
        | some f =>
          simp only [Stage.perform, World.fetch, hd, hr, hn]
          exact first
        | none =>
          simp only [Stage.perform, World.fetch, hd, hr, hn]
          -- The object is taken only now that every listener has heard of it.
          refine first.trans (single ?_)
          have hw : w.directories = g.world.directories := congrArg (·.2.directories) hn.symm
          have hfind : w.directories.get? k = some d := by
            rw [hw]
            exact Directories.find_eq_ok.1 hd
          exact Act.take (c := ⟨k, o, s⟩) handle hfind (Directory.require_eq_ok.1 hr).2

theorem store {handle : String} {c : Opened} (hc : g.held.get? handle = some c) :
    Acts g { g with world := (g.world.store c).2 } := by
  unfold World.store
  split
  · exact refl g
  next d hd =>
    split
    next f _ => exact refuse g _ f
    next d' h => exact commit (.store hc (Directories.find_eq_ok.1 hd) h)

theorem update {handle : String} {c : Opened} (hc : g.held.get? handle = some c)
    (submission : Json) :
    Acts g { world := (g.world.update c submission).2.2
             held := g.held.put handle (g.world.update c submission).2.1 } := by
  -- A submission that cannot be used leaves the client with the object that it held.
  have kept : g.held.put handle c = g.held := Table.put_of_get? hc
  unfold World.update
  split
  · simp only [kept]
    exact refl g
  next fields _ =>
    split
    next f _ =>
      simp only [kept]
      exact refuse g _ f
    next o ho =>
      refine (single (.revise hc ho)).trans ?_
      exact store (g := g.hold handle { c with object := o }) (Table.get?_put_self ..)

theorem perform (g : Stage) {operation : Operation} (h : operation.byService) :
    Acts g (g.perform operation).2 ∨ ∃ given, operation = .await given := by
  cases operation with
  | list s k names => exact .inl (refl g)
  | patch s k submission => exact .inl (patch g s k submission)
  | create s k submission => exact .inl (create g s k submission)
  | fetch s k identifier handle => exact .inl (fetch g s k identifier handle)
  | read handle =>
    simp only [Stage.perform, onHeld]
    split <;> exact .inl (refl g)
  | update handle submission =>
    simp only [Stage.perform, onHeld]
    split
    next c hc => exact .inl (update hc submission)
    next => exact .inl (refl g)
  | delete handle =>
    simp only [Stage.perform, onHeld]
    split
    next c _ => exact .inl (remove g c.session c.kind c.identifier)
    next => exact .inl (refl g)
  | await given => exact .inr ⟨given, rfl⟩
  | insert | overwrite | discard => cases h

end Acts

theorem Act.listeners {g g' : Stage} (h : Act g g') : g'.world.listeners = g.world.listeners := by
  cases h <;> rfl

theorem Act.given {g g' : Stage} (h : Act g g') : g'.world.given = g.world.given := by
  cases h <;> rfl

theorem Acts.listeners {g g' : Stage} (h : Acts g g') : g'.world.listeners = g.world.listeners := by
  induction h with
  | refl => rfl
  | tail _ ha ih => exact ha.listeners.trans ih

theorem Acts.given {g g' : Stage} (h : Acts g g') : g'.world.given = g.world.given := by
  induction h with
  | refl => rfl
  | tail _ ha ih => exact ha.given.trans ih

/-- What acts keep, and what does not hang on the conditions. -/
structure Invariant (P : Stage → Prop) : Prop where
  act : ∀ {g g' : Stage}, P g → Act g g' → P g'
  await : ∀ {g : Stage} (given : Conditions), P g → P (g.await given)

namespace Invariant
variable {P : Stage → Prop} {g : Stage}

theorem perform (hP : Invariant P) {operation : Operation} (h : operation.byService) (hg : P g) :
    P (g.perform operation).2 := by
  obtain hacts | ⟨given, rfl⟩ := Acts.perform g h
  · exact hacts.invariant hP.act hg
  · exact hP.await given hg

theorem run (hP : Invariant P) {operations : List Operation} (h : ∀ p ∈ operations, p.byService)
    (hg : P g) : P (g.run operations) := by
  induction operations generalizing g with
  | nil => exact hg
  | cons operation rest ih =>
    have first := hP.perform (h operation List.mem_cons_self) hg
    exact ih (fun p hp => h p (List.mem_cons_of_mem _ hp)) first

end Invariant

end Stage

namespace Demo

theorem wellKeyed_directories : directories.WellKeyed := by
  intro k d hd
  cases k <;> cases hd
  · show users.WellKeyed
    decide
  · show userGroups.WellKeyed
    decide
  · show connections.WellKeyed
    decide

theorem faultless_directories : directories.Faultless := by
  intro k d hd
  cases k <;> cases hd <;> exact fun _ => rfl

def world : World where
  directories := directories
  declared := declared
  listeners := [.recorder, .failing (.after 1) (.foreign .runtime "out of reach")]

def renewal : List Operation := [
  .fetch (session administrator) .user member "old",
  .patch (session administrator) .user
    (.arr [.obj [("op", .str "remove"), ("path", .str ("/" ++ member))]]),
  .create (session administrator) .user (.obj [("username", .str member)]),
  .update "old" (.obj [])]

end Demo

end AccessDirectory

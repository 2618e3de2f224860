import AccessDirectory.Service.Opened
import Mathlib.Data.List.Forall2

/-! Worlds that are alike: whatever is out of order in one is out of order in the other, with a failure of
the same class, and only the texts of failures that clients are not told may differ. Operations on worlds
that are alike succeed with the same results or fail with failures that are alike. -/

namespace AccessDirectory

/-- One failure, or two of a class whose texts clients are not told. -/
def Failure.Alike (f g : Failure) : Prop := f = g ∨ f.kind = g.kind ∧ f.kind.report? = none

theorem Failure.Alike.refl (f : Failure) : f.Alike f := .inl rfl

/-- Both computations succeed, with values that go together, or both fail, with failures that are alike. -/
inductive Parallel {α β : Type} (R : α → β → Prop) : Except Failure α → Except Failure β → Prop
  | ok {x : α} {y : β} (h : R x y) : Parallel R (.ok x) (.ok y)
  | error {f g : Failure} (h : f.Alike g) : Parallel R (.error f) (.error g)

namespace Parallel
variable {α β γ δ : Type} {R : α → β → Prop} {S : γ → δ → Prop} {x : Except Failure α}
  {y : Except Failure β}

theorem refl (x : Except Failure α) : Parallel Eq x x := by
  cases x with
  | error f => exact .error (.refl f)
  | ok a => exact .ok rfl

theorem ends (h : Parallel R x y) :
    (∃ f g, x = .error f ∧ y = .error g ∧ f.Alike g) ∨ ∃ a b, x = .ok a ∧ y = .ok b ∧ R a b := by
  cases h with
  | error h => exact .inl ⟨_, _, rfl, rfl, h⟩
  | ok h => exact .inr ⟨_, _, rfl, rfl, h⟩

theorem bind (h : Parallel R x y) {next : α → Except Failure γ} {next' : β → Except Failure δ}
    (hn : ∀ a b, R a b → Parallel S (next a) (next' b)) : Parallel S (x >>= next) (y >>= next') := by
  cases h with
  | error h => exact .error h
  | ok h => exact hn _ _ h

theorem map (h : Parallel R x y) {fn : α → γ} {fn' : β → δ} (hn : ∀ a b, R a b → S (fn a) (fn' b)) :
    Parallel S (x.map fn) (y.map fn') := by
  cases h with
  | error h => exact .error h
  | ok h => exact .ok (hn _ _ h)

end Parallel

namespace Directory
variable {k : Kind} {d d' : Directory k}

structure Alike (d d' : Directory k) : Prop where
  objects : d.objects = d'.objects
  counter : d.counter = d'.counter
  outage : ∀ method, Option.Rel Failure.Alike (d.outage method) (d'.outage method)

namespace Alike

theorem guarded (h : d.Alike d') (method : Method) {α β : Type} {R : α → β → Prop}
    {x : Except Failure α} {y : Except Failure β} (hxy : Parallel R x y) :
    Parallel R (d.guarded method x) (d'.guarded method y) := by
  have hout := h.outage method
  unfold Directory.guarded
  generalize d.outage method = out at hout
  generalize d'.outage method = out' at hout
  cases hout with
  | none => exact hxy
  | some hf => exact .error hf

theorem set (h : d.Alike d') (objects : Table k.Object) (counter : Option Int) :
    Alike { d with objects, counter } { d' with objects, counter } := ⟨rfl, rfl, h.outage⟩

theorem identifiers (h : d.Alike d') : Parallel Eq d.identifiers d'.identifiers := by
  unfold Directory.identifiers
  rw [h.objects]
  exact h.guarded .identifiers (.refl _)

theorem getAll (h : d.Alike d') (ids : List String) : Parallel Eq (d.getAll ids) (d'.getAll ids) := by
  unfold Directory.getAll
  rw [h.objects]
  exact h.guarded .getAll (.refl _)

theorem get (h : d.Alike d') (i : String) : Parallel Eq (d.get i) (d'.get i) := by
  unfold Directory.get
  rw [h.objects]
  exact h.guarded .get (.refl _)

theorem require (h : d.Alike d') (i : String) : Parallel Eq (d.require i) (d'.require i) := by
  unfold Directory.require
  obtain ⟨f, g, hx, hy, hf⟩ | ⟨found, _, hx, hy, rfl⟩ := (h.get i).ends <;> rw [hx, hy]
  · exact .error hf
  · exact .refl _

theorem add (h : d.Alike d') (o : k.Object) :
    Parallel (fun added added' => added.1 = added'.1 ∧ added.2.Alike added'.2) (d.add o) (d'.add o) := by
  have hnext : d.nextNumber = d'.nextNumber := by
    funext n
    rw [nextNumber, nextNumber, h.objects]
  unfold Directory.add
  refine h.guarded .add ?_
  rw [hnext, h.objects, h.counter]
  cases ownIdentifier? o with
  | some i =>
    dsimp only
    split
    · exact .error (.refl _)
    · exact .ok ⟨rfl, h.set _ _⟩
  | none =>
    cases d'.counter with
    | none => exact .error (.refl _)
    | some n => exact .ok ⟨rfl, h.set _ _⟩

theorem update (h : d.Alike d') (o : k.Object) : Parallel Alike (d.update o) (d'.update o) := by
  unfold Directory.update
  refine h.guarded .update ?_
  rw [h.objects, h.counter]
  cases Kind.Object.identifier o with
  | none => exact .error (.refl _)
  | some i =>
    dsimp only
    split
    · exact .ok (h.set _ _)
    · exact .error (.refl _)

theorem remove (h : d.Alike d') (identifier : Option String) :
    Parallel Alike (d.remove identifier) (d'.remove identifier) := by
  unfold Directory.remove
  refine h.guarded .remove ?_
  rw [h.objects, h.counter]
  cases identifier with
  | none => exact .error (.refl _)
  | some i =>
    dsimp only
    split
    · exact .ok (h.set _ _)
    · exact .error (.refl _)

end Alike
end Directory

namespace Directories
variable {ds ds' : Directories}

def Alike (ds ds' : Directories) : Prop :=
  ∀ k, Option.Rel Directory.Alike (ds.get? k) (ds'.get? k)

namespace Alike

theorem find (h : ds.Alike ds') (k : Kind) : Parallel Directory.Alike (ds.find k) (ds'.find k) := by
  have hk := h k
  unfold Directories.find
  generalize ds.get? k = found at hk
  generalize ds'.get? k = found' at hk
  cases hk with
  | none => exact .error (.refl _)
  | some hd => exact .ok hd

theorem set (h : ds.Alike ds') {k : Kind} {d d' : Directory k} (hd : d.Alike d') :
    (ds.set d).Alike (ds'.set d') := by
  intro j
  by_cases hj : j = k
  · subst hj
    rw [get?_set_self, get?_set_self]
    exact .some hd
  · rw [get?_set_ne _ _ hj, get?_set_ne _ _ hj]
    exact h j

theorem account (h : ds.Alike ds') (i : String) : Parallel Eq (ds.account i) (ds'.account i) :=
  (h.find .user).bind fun _ _ hd => hd.get i

theorem inherited (h : ds.Alike ds') (memberships : List String) :
    Parallel Eq (ds.inherited memberships) (ds'.inherited memberships) := by
  have hgroups : Option.Rel Directory.Alike ds.userGroups ds'.userGroups := h .userGroup
  unfold Directories.inherited
  generalize ds.userGroups = groups at hgroups
  generalize ds'.userGroups = groups' at hgroups
  cases hgroups with
  | none => exact .refl _
  | some hd =>
    cases memberships with
    | nil => exact .refl _
    | cons name rest =>
      dsimp only
      rw [hd.objects]
      exact hd.guarded .get (.refl _)

theorem effectivePermissions (h : ds.Alike ds') (i : String) :
    Parallel Eq (ds.effectivePermissions i) (ds'.effectivePermissions i) := by
  refine (h.account i).bind ?_
  rintro found _ rfl
  cases found with
  | none => exact .refl _
  | some user =>
    refine (h.inherited user.groups).bind ?_
    rintro groups _ rfl
    exact .refl _

end Alike
end Directories

def Journal.Alike (j j' : Journal) : Prop :=
  ∀ place, (j.received place).length = (j'.received place).length

theorem Journal.Alike.receive {j j' : Journal} (h : j.Alike j') (place : Nat) (e e' : Event) :
    (j.receive place e).Alike (j'.receive place e') := by
  intro i
  rw [received_receive, received_receive, List.length_append, List.length_append, h i]
  split <;> rfl

namespace Trigger

def Alike (t t' : Trigger) : Prop :=
  ∀ ⦃earlier earlier' : List Event⦄ ⦃e e' : Event⦄ ⦃f g : Failure⦄,
    earlier.length = earlier'.length → e.succeeded = e'.succeeded → f.Alike g →
      Option.Rel Failure.Alike (t.reacts earlier e f) (t'.reacts earlier' e' g)

theorem alike_firing {fires : List Event → Event → Bool}
    (h : ∀ {earlier earlier' : List Event} {e e' : Event}, earlier.length = earlier'.length →
      e.succeeded = e'.succeeded → fires earlier e = fires earlier' e') :
    (firing fires).Alike (firing fires) := by
  intro earlier earlier' e e' f g hlength he hf
  simp only [firing, h hlength he]
  split
  · exact .some hf
  · exact .none

theorem alike_always : always.Alike always := alike_firing fun _ _ => rfl

theorem alike_onSuccess : onSuccess.Alike onSuccess := alike_firing fun _ he => he

theorem alike_onFailure : onFailure.Alike onFailure := alike_firing fun _ he => congrArg (!·) he

theorem alike_after (count : Nat) : (after count).Alike (after count) :=
  alike_firing fun hlength _ => by rw [hlength]

end Trigger

namespace Listener

inductive Alike : Listener → Listener → Prop
  | recorder : Alike .recorder .recorder
  | logger : Alike .logger .logger
  | auditor (key : String) : Alike (.auditor key) (.auditor key)
  | failing {t t' : Trigger} (ht : t.Alike t') {f g : Failure} (h : f.Alike g) :
    Alike (.failing t f) (.failing t' g)

theorem Alike.handle {l l' : Listener} (h : l.Alike l') (given : Conditions) (place : Nat)
    {j j' : Journal} (hj : j.Alike j') {e e' : Event} (he : e.succeeded = e'.succeeded) :
    Option.Rel Failure.Alike (l.handle given place j e).1 (l'.handle given place j' e').1 ∧
      (l.handle given place j e).2.Alike (l'.handle given place j' e').2 := by
  constructor
  · cases h with
    | recorder | logger => exact .none
    | auditor key =>
      simp only [Listener.handle]
      split
      · exact .none
      · exact .some (.refl _)
    | failing ht hf => exact ht (hj place) he hf
  · intro i
    rw [received_handle, received_handle]
    exact hj.receive place e e' i

end Listener

theorem deliver_alike (given : Conditions) {ls ls' : List Listener}
    (h : List.Forall₂ Listener.Alike ls ls') (place : Nat) {j j' : Journal} (hj : j.Alike j')
    {e e' : Event} (he : e.succeeded = e'.succeeded) :
    Option.Rel Failure.Alike (deliver given e place ls j).1 (deliver given e' place ls' j').1 ∧
      (deliver given e place ls j).2.Alike (deliver given e' place ls' j').2 := by
  induction h generalizing place j j' with
  | nil => exact ⟨.none, hj⟩
  | @cons l l' rest rest' hl _ ih =>
    have hfirst := hl.handle given place hj he
    rw [deliver, deliver]
    generalize l.handle given place j e = x at hfirst
    generalize l'.handle given place j' e' = y at hfirst
    obtain ⟨failure, told⟩ := x
    obtain ⟨failure', told'⟩ := y
    -- Either both deliveries end here, or both go on to the next listener.
    obtain ⟨hfailure, htold⟩ := hfirst
    cases hfailure with
    | none => exact ih (place + 1) htold
    | some hf => exact ⟨.some hf, htold⟩

namespace World

/-- What is out of order, and what the listeners fail with, may differ in texts that clients are not
told; what was logged and recorded before may differ in anything. -/
structure Alike (w w' : World) : Prop where
  directories : w.directories.Alike w'.directories
  declared : w.declared = w'.declared
  listeners : List.Forall₂ Listener.Alike w.listeners w'.listeners
  given : w.given = w'.given
  journal : w.journal.Alike w'.journal

structure InStep {α β : Type} (R : α → β → Prop) (x : α × World) (y : β × World) : Prop where
  result : R x.1 y.1
  world : x.2.Alike y.2

namespace InStep
variable {α β γ δ : Type} {R : α → β → Prop} {S : γ → δ → Prop} {x : Except Failure α × World}
  {y : Except Failure β × World}

theorem map (h : InStep (Parallel R) x y) {fn : α → γ} {fn' : β → δ}
    (hn : ∀ a b, R a b → S (fn a) (fn' b)) :
    InStep (Parallel S) (x.1.map fn, x.2) (y.1.map fn', y.2) := ⟨h.result.map hn, h.world⟩

theorem ends (h : InStep (Parallel R) x y) :
    (∃ f g v v', x = (.error f, v) ∧ y = (.error g, v') ∧ f.Alike g ∧ v.Alike v') ∨
      ∃ a b v v', x = (.ok a, v) ∧ y = (.ok b, v') ∧ R a b ∧ v.Alike v' := by
  obtain ⟨result, v⟩ := x
  obtain ⟨result', v'⟩ := y
  obtain ⟨hresult, hworld⟩ := h
  cases hresult with
  | error hf => exact .inl ⟨_, _, v, v', rfl, rfl, hf, hworld⟩
  | ok h => exact .inr ⟨_, _, v, v', rfl, rfl, h, hworld⟩

theorem told {x y : Option Failure × World} (h : InStep (Option.Rel Failure.Alike) x y) :
    (∃ f g v v', x = (some f, v) ∧ y = (some g, v') ∧ f.Alike g ∧ v.Alike v') ∨
      ∃ v v', x = (none, v) ∧ y = (none, v') ∧ v.Alike v' := by
  obtain ⟨failure, v⟩ := x
  obtain ⟨failure', v'⟩ := y
  obtain ⟨hfailure, hworld⟩ := h
  cases hfailure with
  | some hf => exact .inl ⟨_, _, v, v', rfl, rfl, hf, hworld⟩
  | none => exact .inr ⟨v, v', rfl, rfl, hworld⟩

end InStep

namespace Alike
variable {w w' : World} (h : w.Alike w') (s : Session)
include h

theorem notify {e e' : Event} (he : e.succeeded = e'.succeeded) :
    InStep (Option.Rel Failure.Alike) (w.notify e) (w'.notify e') := by
  have htold := deliver_alike w.given h.listeners 0 h.journal he
  unfold World.notify
  rw [← h.given]
  exact ⟨htold.1, h.directories, h.declared, h.listeners, rfl, htold.2⟩

theorem reportFailure (e : Event) {f g : Failure} (hf : f.Alike g) :
    InStep Failure.Alike (w.reportFailure e f) (w'.reportFailure e g) := by
  have htold : InStep (Option.Rel Failure.Alike) (w.notify (e.failed f)) (w'.notify (e.failed g)) :=
    h.notify rfl
  unfold World.reportFailure
  obtain ⟨f', g', v, v', hx, hy, hf', hv⟩ | ⟨v, v', hx, hy, hv⟩ := htold.told <;> rw [hx, hy]
  · exact ⟨hf', hv⟩
  · exact ⟨hf, hv⟩

theorem refuse (e : Event) {f g : Failure} (hf : f.Alike g) :
    InStep (Parallel Eq) (w.refuse e f) (w'.refuse e g) :=
  ⟨.error (h.reportFailure e hf).result, (h.reportFailure e hf).world⟩

theorem reportSuccess (e : Event) :
    InStep (Parallel Eq) (w.reportSuccess e) (w'.reportSuccess e) := by
  have htold := h.notify (e := e) rfl
  unfold World.reportSuccess
  obtain ⟨f, g, v, v', hx, hy, hf, hv⟩ | ⟨v, v', hx, hy, hv⟩ := htold.told <;> rw [hx, hy]
  · exact hv.refuse e hf
  · exact ⟨.ok rfl, hv⟩

theorem commit (e : Event) {k : Kind} {d d' : Directory k} (hd : d.Alike d') :
    InStep (Parallel Eq) (w.commit e d) (w'.commit e d') := by
  have hset : Alike { w with directories := w.directories.set d }
      { w' with directories := w'.directories.set d' } :=
    ⟨h.directories.set hd, h.declared, h.listeners, h.given, h.journal⟩
  exact hset.reportSuccess e

theorem list (k : Kind) (names : List Json) :
    Parallel Eq (w.list s k names) (w'.list s k names) := by
  refine (h.directories.find k).bind fun d d' hd => ?_
  refine (h.directories.effectivePermissions s.self).bind ?_
  rintro effective _ rfl
  refine hd.identifiers.bind ?_
  rintro identifiers _ rfl
  refine (Parallel.refl (visible effective k names identifiers)).bind ?_
  rintro seen _ rfl
  refine (hd.getAll seen).bind ?_
  rintro objects _ rfl
  exact .refl _

theorem remove (k : Kind) (identifier : Option String) :
    InStep (Parallel Eq) (w.remove s k identifier) (w'.remove s k identifier) := by
  unfold World.remove
  obtain ⟨f, g, hx, hy, hf⟩ | ⟨d, d', hx, hy, hd⟩ := (h.directories.find k).ends
  · rw [hx, hy]
    exact ⟨.error hf, h⟩
  · rw [hx, hy]
    obtain ⟨f, g, hx', hy', hf⟩ | ⟨d₁, d₂, hx', hy', hd'⟩ := (hd.remove identifier).ends
    · simp only [hx', hy']
      exact h.refuse _ hf
    · simp only [hx', hy']
      exact h.commit _ hd'

theorem removeEach (k : Kind) (identifiers : List String) :
    InStep (Parallel Eq) (w.removeEach s k identifiers) (w'.removeEach s k identifiers) := by
  induction identifiers generalizing w w' with
  | nil => exact ⟨.refl _, h⟩
  | cons identifier rest ih =>
    rw [World.removeEach, World.removeEach]
    obtain ⟨f, g, v, v', hx, hy, hf, hv⟩ | ⟨_, _, v, v', hx, hy, -, hv⟩ :=
      (h.remove s k (some identifier)).ends <;> rw [hx, hy]
    · exact ⟨.error hf, hv⟩
    · exact ih hv

theorem patch (k : Kind) (submission : Json) :
    InStep (Parallel Eq) (w.patch s k submission) (w'.patch s k submission) := by
  unfold World.patch
  obtain ⟨f, g, hx, hy, hf⟩ | ⟨d, d', hx, hy, -⟩ := (h.directories.find k).ends <;> rw [hx, hy]
  · exact ⟨.error hf, h⟩
  · cases Patch.parse submission >>= Patch.targets with
    | error f => exact ⟨.error (.refl f), h⟩
    | ok identifiers => exact h.removeEach s k identifiers

theorem add {k : Kind} {d d' : Directory k} (hd : d.Alike d') (o : k.Object) :
    InStep (Parallel Eq) (w.add s d o) (w'.add s d' o) := by
  unfold World.add
  obtain ⟨f, g, hx, hy, hf⟩ | ⟨⟨o₁, d₁⟩, ⟨o₂, d₂⟩, hx, hy, rfl, hd'⟩ := (hd.add o).ends <;> rw [hx, hy]
  · exact (h.refuse _ hf).map fun _ _ _ => rfl
  · exact (h.commit _ hd').map fun _ _ _ => rfl

theorem create (k : Kind) (submission : Json) :
    InStep (Parallel Eq) (w.create s k submission) (w'.create s k submission) := by
  have hsubmitted : w.submitted k submission = w'.submitted k submission := by
    rw [submitted, submitted, h.declared]
  unfold World.create
  rw [hsubmitted]
  obtain ⟨f, g, hx, hy, hf⟩ | ⟨d, d', hx, hy, hd⟩ := (h.directories.find k).ends <;> rw [hx, hy]
  · exact ⟨.error hf, h⟩
  · cases w'.submitted k submission with
    | error f => exact ⟨.error (.refl f), h⟩
    | ok o => exact (h.add s hd o).map fun _ _ heq => congrArg Kind.represent heq

theorem fetch (k : Kind) (identifier : String) :
    InStep (Parallel Eq) (w.fetch s k identifier) (w'.fetch s k identifier) := by
  obtain ⟨f, g, hx, hy, hf⟩ | ⟨d, d', hx, hy, hd⟩ := (h.directories.find k).ends
  · simp only [World.fetch, hx, hy]
    exact ⟨.error hf, h⟩
  · obtain ⟨f, g, hx', hy', hf⟩ | ⟨o, _, hx', hy', rfl⟩ := (hd.require identifier).ends
    · simp only [World.fetch, hx, hy, hx', hy']
      have htold := h.reportFailure (s.event k .get (some identifier)) hf
      exact ⟨.error htold.result, htold.world⟩
    · rw [fetch_of_require hx hx', fetch_of_require hy hy']
      have htold := h.notify (e := s.event k .get (some identifier) (some o)) rfl
      obtain ⟨f, g, v, v', hn, hn', hf, hv⟩ | ⟨v, v', hn, hn', hv⟩ := htold.told <;> rw [hn, hn']
      · exact ⟨.error hf, hv⟩
      · exact ⟨.ok rfl, hv⟩

theorem store (c : Opened) : InStep (Parallel Eq) (w.store c) (w'.store c) := by
  unfold World.store
  obtain ⟨f, g, hx, hy, hf⟩ | ⟨d, d', hx, hy, hd⟩ := (h.directories.find c.kind).ends
  · simp only [hx, hy]
    exact ⟨.error hf, h⟩
  · obtain ⟨f, g, hx', hy', hf⟩ | ⟨d₁, d₂, hx', hy', hd'⟩ := (hd.update c.object).ends
    · simp only [hx, hy, hx', hy']
      exact h.refuse _ hf
    · simp only [hx, hy, hx', hy']
      exact h.commit _ hd'

theorem update (c : Opened) (submission : Json) :
    InStep (Parallel Eq) ((w.update c submission).1, (w.update c submission).2.2)
      ((w'.update c submission).1, (w'.update c submission).2.2) := by
  unfold World.update
  rw [h.declared]
  cases Fields.ofSubmission .nothingToUpdate submission with
  | error f => exact ⟨.error (.refl f), h⟩
  | ok fields =>
    dsimp only
    cases Kind.revise c.object (c.kind.sanitize (w'.declared c.kind) fields) with
    | error f => exact h.refuse _ (.refl f)
    | ok o => exact h.store { c with object := o }

theorem delete (c : Opened) : InStep (Parallel Eq) (w.delete c) (w'.delete c) :=
  h.remove c.session c.kind c.identifier

end Alike
end World

end AccessDirectory

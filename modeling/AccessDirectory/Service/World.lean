import AccessDirectory.Listener
import AccessDirectory.Membership

/-! The world that operations act on: the directories with the attributes that clients may set, the
listeners, and the journal of what the listeners received. Every attempt is reported once. -/

namespace AccessDirectory

structure World where
  directories : Directories := {}
  /-- The names of the attributes that clients may set. -/
  declared : Kind → List String := fun _ => []
  listeners : List Listener := []
  given : Conditions := {}
  journal : Journal := {}

def Session.event (s : Session) (k : Kind) (action : Action) (identifier : Option String)
    (object : Option k.Object := none) : Event :=
  { kind := k, action, identifier, object, user := s.username, provider := s.provider }

namespace World

def notify (w : World) (e : Event) : Option Failure × World :=
  let told := deliver w.given e 0 w.listeners w.journal
  (told.1, { w with journal := told.2 })

/-- Reports a failed attempt. A listener that fails then replaces the failure by its own. -/
def reportFailure (w : World) (e : Event) (f : Failure) : Failure × World :=
  match w.notify (e.failed f) with
  | (none, w) => (f, w)
  | (some g, w) => (g, w)

/-- Reports a completed attempt. A listener that fails makes it a failed attempt, which is reported in
turn, although storage stays changed. -/
def reportSuccess (w : World) (e : Event) : Except Failure Unit × World :=
  match w.notify e with
  | (none, w) => (.ok (), w)
  | (some f, w) =>
    let told := w.reportFailure e f
    (.error told.1, told.2)

def refuse (w : World) (e : Event) (f : Failure) : Except Failure Unit × World :=
  let told := w.reportFailure e f
  (.error told.1, told.2)

def commit {k : Kind} (w : World) (e : Event) (d : Directory k) : Except Failure Unit × World :=
  { w with directories := w.directories.set d }.reportSuccess e

@[simp] theorem directories_notify (w : World) (e : Event) :
    (w.notify e).2.directories = w.directories := rfl

@[simp] theorem directories_reportFailure (w : World) (e : Event) (f : Failure) :
    (w.reportFailure e f).2.directories = w.directories := by
  rw [reportFailure]
  split <;> rename_i h <;> exact congrArg (·.2.directories) h.symm

@[simp] theorem directories_reportSuccess (w : World) (e : Event) :
    (w.reportSuccess e).2.directories = w.directories := by
  rw [reportSuccess]
  split <;> rename_i h
  · exact congrArg (·.2.directories) h.symm
  · exact (directories_reportFailure _ _ _).trans (congrArg (·.2.directories) h.symm)

@[simp] theorem directories_refuse (w : World) (e : Event) (f : Failure) :
    (w.refuse e f).2.directories = w.directories := by simp [refuse]

@[simp] theorem directories_commit {k : Kind} (w : World) (e : Event) (d : Directory k) :
    (w.commit e d).2.directories = w.directories.set d := by simp [commit]

end World

end AccessDirectory

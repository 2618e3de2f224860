import AccessDirectory.Audit.Record

/-! Listeners are told of every event, in their order. A listener that fails keeps the event from those
after it. The journal holds all that they received and wrote. -/

namespace AccessDirectory

/-- What a listener does on an event after those that it received before: nothing, or it fails. The
failure that it is set up with is its own. -/
structure Trigger where
  reacts : (earlier : List Event) → Event → (own : Failure) → Option Failure

namespace Trigger

def firing (fires : (earlier : List Event) → Event → Bool) : Trigger :=
  ⟨fun earlier e own => if fires earlier e then some own else none⟩

def always : Trigger := firing fun _ _ => true

def onSuccess : Trigger := firing fun _ e => e.succeeded

def onFailure : Trigger := firing fun _ e => !e.succeeded

def after (count : Nat) : Trigger := firing fun earlier _ => earlier.length = count

section
variable {σ : Type} (start : σ) (step : σ → Event → Option Failure × σ)

def reached (events : List Event) : σ := events.foldl (fun s e => (step s e).2) start

/-- A listener with a state of its own, by which it fails or not, and which every event changes. -/
def machine : Trigger := ⟨fun earlier e _ => (step (reached start step earlier) e).1⟩

theorem reached_append_singleton (events : List Event) (e : Event) :
    reached start step (events ++ [e]) = (step (reached start step events) e).2 := by
  rw [reached, List.foldl_append]
  rfl

end

end Trigger

inductive Listener
  | recorder
  | failing (trigger : Trigger) (failure : Failure)
  | logger
  | auditor (key : String)

instance (l : Option Listener) : Decidable (l = some .recorder) :=
  match l with
  | some .recorder => isTrue rfl
  | some (.failing _ _) | some .logger | some (.auditor _) | none => isFalse nofun

structure Journal where
  /-- Events in the order of their delivery, each with the place of the listener that received it. -/
  deliveries : List (Nat × Event) := []
  log : List LogLine := []
  /-- The lines of the audit trail. -/
  trail : List String := []

namespace Journal

def received (j : Journal) (place : Nat) : List Event :=
  (j.deliveries.filter (·.1 = place)).map (·.2)

def write (j : Journal) (threshold : Severity) (line : LogLine) : Journal :=
  { j with log := writeLine threshold j.log line }

def receive (j : Journal) (place : Nat) (e : Event) : Journal :=
  { j with deliveries := j.deliveries ++ [(place, e)] }

theorem received_receive (j : Journal) (place i : Nat) (e : Event) :
    (j.receive place e).received i = j.received i ++ if place = i then [e] else [] := by
  by_cases h : place = i <;> simp [received, receive, List.filter_append, h]

end Journal

/-- What delivery depends on besides the listener: the clock and the threshold of the log. -/
structure Conditions where
  now : Clock.Instant := 0
  threshold : Severity := .info

def Listener.handle (given : Conditions) (place : Nat) (j : Journal) (e : Event) :
    Listener → Option Failure × Journal
  | recorder => (none, j.receive place e)
  | failing trigger f => (trigger.reacts (j.received place) e f, j.receive place e)
  | logger => (none, (j.receive place e).write given.threshold e.logLine)
  | auditor key =>
    if Clock.inRange given.now then
      (none, { j.receive place e with trail := j.trail ++ [Audit.line key given.now e] })
    else (some .beyondCalendar, j.receive place e)

theorem Listener.handle_machine {σ : Type} (start : σ) (step : σ → Event → Option Failure × σ)
    (own : Failure) (given : Conditions) (place : Nat) (j : Journal) (e : Event) :
    let state (j : Journal) := Trigger.reached start step (j.received place)
    let told := (failing (.machine start step) own).handle given place j e
    (told.1, state told.2) = step (state j) e := by
  have hreceived : (j.receive place e).received place = j.received place ++ [e] := by
    rw [Journal.received_receive, if_pos rfl]
  simp only [handle, hreceived, Trigger.machine, Trigger.reached_append_singleton]

/-- Hands an event to listeners in order, from a place on, until one fails. -/
def deliver (given : Conditions) (e : Event) : (place : Nat) → List Listener → Journal →
    Option Failure × Journal
  | _, [], j => (none, j)
  | place, l :: rest, j =>
    match l.handle given place j e with
    | (some f, j) => (some f, j)
    | (none, j) => deliver given e (place + 1) rest j

theorem Listener.received_handle (given : Conditions) (place i : Nat) (j : Journal) (e : Event)
    (l : Listener) :
    (l.handle given place j e).2.received i = (j.receive place e).received i := by
  cases l with
  | auditor key =>
    rw [handle]
    split <;> rfl
  | _ => rfl

end AccessDirectory

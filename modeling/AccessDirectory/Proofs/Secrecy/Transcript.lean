import AccessDirectory.Proofs.Secrecy.Redaction
import AccessDirectory.Proofs.Service.Upkeep

/-! Nothing that clients, listeners, the log or the audit trail get to see depends on passwords or on the
parameters of connections. Every operation does the same with them as without them, so two runs that
differ in nothing else give the same transcript. -/

namespace AccessDirectory

def Event.redact (e : Event) : Event := { e with object := e.object.map Kind.Object.redact }

theorem Event.redact_redact (e : Event) : e.redact.redact = e.redact := by
  have htwice : (Kind.Object.redact ∘ Kind.Object.redact : e.kind.Object → e.kind.Object) =
      Kind.Object.redact := funext Kind.Object.redact_redact
  simp only [redact, Option.map_map, htwice]

namespace Journal

def redact (j : Journal) : Journal :=
  { j with deliveries := j.deliveries.map fun d => (d.1, d.2.redact) }

theorem receive_redact (j : Journal) (place : Nat) (e : Event) :
    j.redact.receive place e.redact = (j.receive place e).redact := by
  simp [receive, redact]

theorem received_redact (j : Journal) (place : Nat) :
    j.redact.received place = (j.received place).map Event.redact := by
  simp only [received, redact, List.filter_map, List.map_map]
  rfl

end Journal

namespace Trigger

/-- A trigger that does not look at the objects of events. -/
def Blind (t : Trigger) : Prop :=
  ∀ earlier e own, t.reacts (earlier.map Event.redact) e.redact own = t.reacts earlier e own

theorem blind_always : always.Blind := fun _ _ _ => rfl

theorem blind_onSuccess : onSuccess.Blind := fun _ _ _ => rfl

theorem blind_onFailure : onFailure.Blind := fun _ _ _ => rfl

theorem blind_after (count : Nat) : (after count).Blind := by
  intro earlier e own
  simp only [after, firing, List.length_map]

end Trigger

def Listener.Blind : Listener → Prop
  | failing trigger _ => trigger.Blind
  | recorder | logger | auditor _ => True

theorem Listener.handle_redact (given : Conditions) (place : Nat) (j : Journal) (e : Event)
    {l : Listener} (hl : l.Blind) :
    l.handle given place j.redact e.redact = Prod.map id Journal.redact (l.handle given place j e) := by
  cases l with
  | recorder => simp only [handle, Journal.receive_redact, Prod.map, id]
  | failing trigger f =>
    have hreacts := hl (j.received place) e f
    simp only [handle, Journal.receive_redact, Journal.received_redact, hreacts, Prod.map, id]
  | logger =>
    simp only [handle, Journal.receive_redact, Prod.map, id]
    rfl
  | auditor key =>
    -- A line says which object an event is about, and nothing of what is in it.
    have hline : Audit.line key given.now e.redact = Audit.line key given.now e := rfl
    simp only [handle, Journal.receive_redact, hline]
    split <;> rfl

theorem deliver_redact (given : Conditions) (e : Event) (place : Nat) {ls : List Listener}
    (hls : ∀ l ∈ ls, l.Blind) (j : Journal) :
    deliver given e.redact place ls j.redact =
      Prod.map id Journal.redact (deliver given e place ls j) := by
  induction ls generalizing place j with
  | nil => rfl
  | cons l rest ih =>
    rw [deliver, deliver, Listener.handle_redact given place j e (hls l List.mem_cons_self)]
    cases l.handle given place j e with
    | mk failure told =>
      cases failure with
      | some f => rfl
      | none => exact ih (place + 1) (fun l hl => hls l (List.mem_cons_of_mem _ hl)) told

theorem Session.event_redact (s : Session) (k : Kind) (action : Action) (i : Option String)
    (o : k.Object) :
    s.event k action i (some (Kind.Object.redact o)) = (s.event k action i (some o)).redact := rfl

namespace World
open Kind.Object

def redact (w : World) : World :=
  { w with directories := w.directories.redact, journal := w.journal.redact }

def Blind (w : World) : Prop := ∀ l ∈ w.listeners, l.Blind

theorem Blind.congr {w w' : World} (h : w.Blind) (hl : w'.listeners = w.listeners) : w'.Blind := by
  rwa [Blind, hl]

section
variable (w : World) (s : Session)

theorem find_redact (k : Kind) :
    w.redact.directories.find k = (w.directories.find k).map Directory.redact :=
  w.directories.find_redact k

theorem list_redact (k : Kind) (names : List Json) :
    w.redact.list s k names = w.list s k names := by
  have heffective : w.redact.directories.effectivePermissions s.self =
      w.directories.effectivePermissions s.self := w.directories.effectivePermissions_redact s.self
  have hshown : ∀ objects : List k.Object,
      representAll (objects.map Kind.Object.redact) = representAll objects := by
    intro objects
    simp only [representAll, List.map_map, Function.comp_def, identifier_redact, represent_redact]
  simp only [list, find_redact, heffective]
  cases w.directories.find k with
  | error f => rfl
  | ok d =>
    simp only [Except.map, bind, Except.bind, Directory.identifiers_redact, Directory.getAll_redact]
    cases w.directories.effectivePermissions s.self with
    | error f => rfl
    | ok effective =>
      cases d.identifiers with
      | error f => rfl
      | ok identifiers =>
        cases hv : visible effective k names identifiers with
        | error f => simp only [hv]
        | ok seen =>
          simp only [hv]
          cases d.getAll seen with
          | error f => rfl
          | ok objects => simp only [hshown]

end

section
variable {w : World} (hw : w.Blind) (s : Session)
include hw

theorem notify_redact (e : Event) :
    w.redact.notify e.redact = Prod.map id redact (w.notify e) := by
  simp only [notify, redact, deliver_redact _ _ _ hw, Prod.map, id]

theorem reportFailure_redact (e : Event) (f : Failure) :
    w.redact.reportFailure e.redact f = Prod.map id redact (w.reportFailure e f) := by
  have hfailed : (e.redact.failed f) = (e.failed f).redact := rfl
  rw [reportFailure, hfailed, notify_redact hw, reportFailure]
  cases w.notify (e.failed f) with
  | mk failure told => cases failure <;> rfl

theorem refuse_redact (e : Event) (f : Failure) :
    w.redact.refuse e.redact f = Prod.map id redact (w.refuse e f) := by
  simp only [refuse, reportFailure_redact hw, Prod.map, id]

theorem reportSuccess_redact (e : Event) :
    w.redact.reportSuccess e.redact = Prod.map id redact (w.reportSuccess e) := by
  rw [reportSuccess, notify_redact hw, reportSuccess]
  cases hn : w.notify e with
  | mk failure told =>
    have htold : told.Blind := hw.congr (congrArg (·.2.listeners) hn.symm)
    cases failure with
    | none => rfl
    | some f => simp only [Prod.map, id, reportFailure_redact htold]

theorem commit_redact {k : Kind} (e : Event) (d : Directory k) :
    w.redact.commit e.redact d.redact = Prod.map id redact (w.commit e d) := by
  have hset : ({ w with directories := w.directories.set d } : World).Blind := hw
  rw [commit, commit, ← reportSuccess_redact hset]
  simp only [redact, Directories.set_redact]

theorem remove_redact (k : Kind) (identifier : Option String) :
    w.redact.remove s k identifier = Prod.map id redact (w.remove s k identifier) := by
  simp only [remove, find_redact]
  cases w.directories.find k with
  | error f => rfl
  | ok d =>
    simp only [Except.map, Directory.remove_redact]
    cases d.remove identifier with
    | error f => exact refuse_redact hw (s.event k .remove identifier) f
    | ok d' => exact commit_redact hw (s.event k .remove identifier) d'

theorem removeEach_redact (k : Kind) (identifiers : List String) :
    w.redact.removeEach s k identifiers = Prod.map id redact (w.removeEach s k identifiers) := by
  induction identifiers generalizing w with
  | nil => rfl
  | cons identifier rest ih =>
    have hlisteners := listeners_remove w s k (some identifier)
    rw [removeEach, remove_redact hw, removeEach]
    cases hr : w.remove s k (some identifier) with
    | mk ended told =>
      rw [hr] at hlisteners
      cases ended with
      | error f => rfl
      | ok _ => exact ih (hw.congr hlisteners)

end

end World

def Json.redact : Json → Json
  | .obj members => .obj (Fields.redact members)
  | value => value

theorem Fields.ofSubmission_redact (missing : Failure) (submission : Json) :
    ofSubmission missing submission.redact = (ofSubmission missing submission).map redact := by
  cases submission <;> rfl

def Opened.redact (c : Opened) : Opened := { c with object := Kind.Object.redact c.object }

namespace World
open Kind.Object
variable {w : World} (hw : w.Blind) (s : Session)

theorem submitted_redact (w : World) (k : Kind) (submission : Json) :
    w.redact.submitted k submission.redact = (w.submitted k submission).map Kind.Object.redact := by
  rw [submitted, Fields.ofSubmission_redact, submitted]
  cases Fields.ofSubmission .nothingToCreate submission with
  | error f => rfl
  | ok fields =>
    have hdeclared : w.redact.declared = w.declared := rfl
    simp only [Except.map, bind, Except.bind, hdeclared, Kind.sanitize_redact]
    exact Kind.construct_redact _

include hw

theorem patch_redact (k : Kind) (submission : Json) :
    w.redact.patch s k submission.redact = Prod.map id redact (w.patch s k submission) := by
  have hparse : Patch.parse submission.redact = Patch.parse submission := by
    cases submission <;> rfl
  simp only [patch, find_redact, hparse]
  cases w.directories.find k with
  | error f => rfl
  | ok d =>
    cases Patch.parse submission >>= Patch.targets with
    | error f => rfl
    | ok identifiers => exact removeEach_redact hw s k identifiers

theorem add_redact {k : Kind} (d : Directory k) (o : k.Object) :
    w.redact.add s d.redact (Kind.Object.redact o) =
      Prod.map (Except.map Kind.Object.redact) redact (w.add s d o) := by
  simp only [add, Directory.add_redact, identifier_redact]
  cases d.add o with
  | error f =>
    have h := refuse_redact hw (s.event k .add (Kind.Object.identifier o) (some o)) f
    rw [← Session.event_redact] at h
    simp only [Except.map, h]
    rfl
  | ok added =>
    have h := commit_redact hw
      (s.event k .add (Kind.Object.identifier added.1) (some added.1)) added.2
    rw [← Session.event_redact] at h
    simp only [Except.map, identifier_redact, h]
    cases w.commit (s.event k .add (Kind.Object.identifier added.1) (some added.1)) added.2 with
    | mk ended told => cases ended <;> rfl

theorem create_redact (k : Kind) (submission : Json) :
    w.redact.create s k submission.redact = Prod.map id redact (w.create s k submission) := by
  simp only [create, find_redact, submitted_redact]
  cases w.directories.find k with
  | error f => rfl
  | ok d =>
    cases w.submitted k submission with
    | error f => rfl
    | ok o =>
      simp only [Except.map, add_redact hw]
      cases w.add s d o with
      | mk ended told =>
        cases ended with
        | error f => rfl
        | ok added => simp only [Prod.map, Except.map, represent_redact, id]

theorem fetch_redact (k : Kind) (identifier : String) :
    w.redact.fetch s k identifier =
      Prod.map (Except.map Opened.redact) redact (w.fetch s k identifier) := by
  have hfind := w.find_redact k
  cases hd : w.directories.find k with
  | error f =>
    rw [hd] at hfind
    simp only [fetch, hd, hfind]
    rfl
  | ok d =>
    rw [hd] at hfind
    have hrequire := d.require_redact identifier
    cases ho : d.require identifier with
    | error f =>
      rw [ho] at hrequire
      have h := reportFailure_redact hw (s.event k .get (some identifier)) f
      simp only [fetch, hd, hfind, ho, hrequire, Except.map]
      exact congrArg (fun told => (Except.error told.1, told.2)) h
    | ok o =>
      rw [ho] at hrequire
      have h := notify_redact hw (s.event k .get (some identifier) (some o))
      rw [fetch_of_require hd ho, fetch_of_require hfind hrequire]
      rw [← Session.event_redact] at h
      rw [h]
      cases w.notify (s.event k .get (some identifier) (some o)) with
      | mk failure told => cases failure <;> rfl

theorem store_redact (c : Opened) :
    w.redact.store c.redact = Prod.map id redact (w.store c) := by
  have hevent : c.redact.session.event c.redact.kind .update c.redact.identifier
      (some c.redact.object) =
        (c.session.event c.kind .update c.identifier (some c.object)).redact := by
    simp only [Opened.redact, Opened.identifier, identifier_redact, ← Session.event_redact]
  unfold store
  rw [hevent]
  simp only [Opened.redact, find_redact]
  cases w.directories.find c.kind with
  | error f => rfl
  | ok d =>
    simp only [Except.map, Directory.update_redact]
    cases d.update c.object with
    | error f => exact refuse_redact hw (c.session.event c.kind .update c.identifier (some c.object)) f
    | ok d' =>
      exact commit_redact hw (c.session.event c.kind .update c.identifier (some c.object)) d'

theorem update_redact (c : Opened) (submission : Json) :
    w.redact.update c.redact submission.redact =
      Prod.map id (Prod.map Opened.redact redact) (w.update c submission) := by
  have hdeclared : w.redact.declared = w.declared := rfl
  simp only [update, Fields.ofSubmission_redact, hdeclared]
  cases Fields.ofSubmission .nothingToUpdate submission with
  | error f => rfl
  | ok fields =>
    have hrevise : Kind.revise c.redact.object
        (c.redact.kind.sanitize (w.declared c.redact.kind) (Fields.redact fields)) =
          (Kind.revise c.object (c.kind.sanitize (w.declared c.kind) fields)).map
            Kind.Object.redact := by
      simp only [Opened.redact, Kind.sanitize_redact, Kind.revise_redact]
    simp only [Except.map, hrevise]
    cases Kind.revise c.object (c.kind.sanitize (w.declared c.kind) fields) with
    | error f =>
      have h := refuse_redact hw (c.session.event c.kind .update c.identifier (some c.object)) f
      have hidentifier : c.redact.identifier = c.identifier := identifier_redact c.object
      rw [← Session.event_redact] at h
      simp only [hidentifier]
      exact congrArg (fun ended => (ended.1, c.redact, ended.2)) h
    | ok o =>
      have h := store_redact hw { c with object := o }
      exact congrArg (fun ended => (ended.1, Opened.redact { c with object := o }, ended.2)) h

theorem delete_redact (c : Opened) :
    w.redact.delete c.redact = Prod.map id redact (w.delete c) := by
  have hidentifier : c.redact.identifier = c.identifier := identifier_redact c.object
  rw [delete, hidentifier, delete]
  exact remove_redact hw c.session c.kind c.identifier

end World

def Operation.redact : Operation → Operation
  | list s k names => list s k names
  | patch s k submission => patch s k submission.redact
  | create s k submission => create s k submission.redact
  | fetch s k identifier handle => fetch s k identifier handle
  | read handle => read handle
  | update handle submission => update handle submission.redact
  | delete handle => delete handle
  | insert k o => insert k (Kind.Object.redact o)
  | overwrite k o => overwrite k (Kind.Object.redact o)
  | discard k identifier => discard k identifier
  | await given => await given

/-- What can be seen after an operation: its answer, the identifiers in use, the log, the audit trail, and
the events with the listeners that received them. -/
structure Observation where
  answer : Except Failure Json
  identifiers : (k : Kind) → Option (List String)
  log : List LogLine
  trail : List String
  deliveries : List (Nat × Event)

namespace Stage

def redact (g : Stage) : Stage := ⟨g.world.redact, g.held.map Opened.redact⟩

def observe (g : Stage) (answer : Except Failure Json) : Observation where
  answer
  identifiers k := (g.world.directories.get? k).map (·.objects.keys)
  log := g.world.journal.log
  trail := g.world.journal.trail
  deliveries := g.world.journal.redact.deliveries

def transcript (g : Stage) : List Operation → List Observation
  | [] => []
  | p :: rest => (g.perform p).2.observe (g.perform p).1 :: (g.perform p).2.transcript rest

variable (g : Stage)

theorem onHeld_redact (handle : String) {act act' : Opened → Except Failure Json × Stage}
    (h : ∀ c, act' c.redact = Prod.map id redact (act c)) :
    g.redact.onHeld handle act' = Prod.map id redact (g.onHeld handle act) := by
  have hget : g.redact.held.get? handle = (g.held.get? handle).map Opened.redact := Table.get?_map ..
  rw [onHeld, hget, onHeld]
  cases g.held.get? handle with
  | none => rfl
  | some c => exact h c

theorem onDirectory_redact (k : Kind) {change change' : Directory k → Except Failure (Directory k)}
    (h : ∀ d, change' d.redact = (change d).map Directory.redact) :
    g.redact.onDirectory k change' = Prod.map id redact (g.onDirectory k change) := by
  have hfind : g.redact.world.directories.find k =
      (g.world.directories.find k).map Directory.redact := g.world.find_redact k
  have hchange : (g.redact.world.directories.find k >>= change') =
      (g.world.directories.find k >>= change).map Directory.redact := by
    rw [hfind]
    cases g.world.directories.find k with
    | error f => rfl
    | ok d => exact h d
  rw [onDirectory, hchange, onDirectory]
  cases g.world.directories.find k >>= change with
  | error f => rfl
  | ok d =>
    have hset : g.redact.world.directories.set d.redact = (g.world.directories.set d).redact :=
      g.world.directories.set_redact d
    simp only [Except.map, hset]
    rfl

variable {g} in
theorem perform_redact (hg : g.world.Blind) (p : Operation) :
    g.redact.perform p.redact = Prod.map id redact (g.perform p) := by
  cases p with
  | list s k names =>
    have h := g.world.list_redact s k names
    exact congrArg (fun shown => (Except.map Json.obj shown, g.redact)) h
  | patch s k submission =>
    have h := World.patch_redact hg s k submission
    exact congrArg (fun ended =>
      (Except.map (fun _ => Json.null) ended.1, (⟨ended.2, g.redact.held⟩ : Stage))) h
  | create s k submission =>
    have h := World.create_redact hg s k submission
    exact congrArg (fun ended =>
      (Except.map Json.obj ended.1, (⟨ended.2, g.redact.held⟩ : Stage))) h
  | fetch s k identifier handle =>
    have h := World.fetch_redact hg s k identifier
    have hw : g.redact.world = g.world.redact := rfl
    simp only [perform, Operation.redact, hw, h]
    cases g.world.fetch s k identifier with
    | mk ended told =>
      cases ended with
      | error f => rfl
      | ok c =>
        have hidentifier : c.redact.identifier = c.identifier :=
          Kind.Object.identifier_redact c.object
        simp only [Prod.map, Except.map, id, hidentifier, redact, Table.map_put]
  | read handle =>
    refine g.onHeld_redact handle fun c => ?_
    have hshown : c.redact.shown = c.shown := Kind.Object.represent_redact c.object
    rw [hshown]
    rfl
  | update handle submission =>
    refine g.onHeld_redact handle fun c => ?_
    have h := World.update_redact hg c submission
    simp only [h, Prod.map, id, redact, Table.map_put]
  | delete handle =>
    refine g.onHeld_redact handle fun c => ?_
    have h := World.delete_redact hg c
    simp only [h, Prod.map, id, redact]
  | insert k o =>
    refine g.onDirectory_redact k fun d => ?_
    rw [Directory.add_redact]
    cases d.add o <;> rfl
  | overwrite k o => exact g.onDirectory_redact k fun d => d.update_redact o
  | discard k identifier => exact g.onDirectory_redact k fun d => d.remove_redact identifier
  | await given => rfl

theorem observe_redact (answer : Except Failure Json) :
    g.redact.observe answer = g.observe answer := by
  have hidentifiers : ∀ k, (g.redact.world.directories.get? k).map (·.objects.keys) =
      (g.world.directories.get? k).map (·.objects.keys) := by
    intro k
    have hget : g.redact.world.directories.get? k =
        (g.world.directories.get? k).map Directory.redact := g.world.directories.get?_redact k
    rw [hget, Option.map_map]
    cases g.world.directories.get? k with
    | none => rfl
    | some d => exact congrArg some (Table.keys_map ..)
  have hdeliveries : g.redact.world.journal.redact.deliveries =
      g.world.journal.redact.deliveries := by
    simp [redact, World.redact, Journal.redact, Event.redact_redact]
  simp only [observe, hidentifiers, hdeliveries]
  rfl

variable {g} in
theorem transcript_redact (hg : g.world.Blind) (ps : List Operation) :
    g.redact.transcript (ps.map Operation.redact) = g.transcript ps := by
  induction ps generalizing g with
  | nil => rfl
  | cons p rest ih =>
    -- No operation changes the listeners, so they stay blind for the rest of the run.
    have hrest : (g.perform p).2.world.Blind := hg.congr (listeners_perform g p)
    rw [List.map_cons, transcript, perform_redact hg, transcript]
    simp only [Prod.map, id, observe_redact, ih hrest]

/-- Under listeners that do not look at the objects of events, stages and operations that are the same
up to passwords and parameters give the same transcript. -/
theorem transcript_eq_of_redact_eq {g g' : Stage} (hl : g.world.Blind) {ps ps' : List Operation}
    (hg : g.redact = g'.redact) (hp : ps.map Operation.redact = ps'.map Operation.redact) :
    g.transcript ps = g'.transcript ps' := by
  have hl' : g'.world.Blind := hl.congr (congrArg (·.world.listeners) hg.symm)
  rw [← transcript_redact hl, ← transcript_redact hl', hg, hp]

end Stage

namespace Demo

def outOfReach : Failure := .foreign .runtime "out of reach"

def secretWorld (secret : String) : World where
  directories := {
    users := some { objects := .ofList [
      (member, { identifier := some member, password := some secret })] }
    connections := some { objects := .ofList [
      ("1", { identifier := some "1", parameters := .ofList [("token", secret)] })] } }
  listeners := [.logger, .auditor "key", .recorder, .failing (.after 2) outOfReach,
    .failing .onFailure outOfReach, .failing .onSuccess outOfReach, .failing .always outOfReach]

theorem blind_secretWorld (secret : String) : (secretWorld secret).Blind := by
  simp [World.Blind, secretWorld, Listener.Blind, Trigger.blind_after, Trigger.blind_onFailure,
    Trigger.blind_onSuccess, Trigger.blind_always]

def secretRun (secret : String) : List Operation := [
  .create (session administrator) .user
    (.obj [("username", .str administrator), ("password", .str secret)]),
  .fetch (session administrator) .connection "1" "held",
  .update "held" (.obj [("name", .str "web-01"), ("protocol", .str "ssh"),
    ("parameters", .obj [("token", .str secret)])]),
  .update "held" (.obj [("password", .str secret)])]

end Demo

theorem Stage.transcript_eq_secretRun :
    ({ world := Demo.secretWorld "first" } : Stage).transcript (Demo.secretRun "first") =
      ({ world := Demo.secretWorld "second" } : Stage).transcript (Demo.secretRun "second") :=
  transcript_eq_of_redact_eq (Demo.blind_secretWorld _) rfl rfl

end AccessDirectory

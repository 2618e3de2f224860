import AccessDirectory.Proofs.Directory.Presence
import AccessDirectory.Proofs.Service.Quiet

/-! No object is added twice or removed twice. However clients take turns, and whatever they hold, under
each identifier of a directory that is in order the additions and removals that succeed alternate. -/

namespace AccessDirectory

/-- A step of a client, or a change of a directory past the service. Patches are taken one removal at a
time. -/
inductive Move
  | strike (session : Session) (kind : Kind) (identifier : String)
  | perform (operation : Operation) (h : ∀ s k submission, operation ≠ .patch s k submission)

def Move.operations : Move → List Operation
  | strike .. => []
  | perform operation _ => [operation]

structure Aim where
  kind : Kind
  deed : Deed
  identifier : String

namespace World

variable {w : World} {α β : Type} {k : Kind} {d : Directory k}

def revised (w : World) (c : Opened) (submission : Json) : Except Failure c.kind.Object := do
  let fields ← Fields.ofSubmission .nothingToUpdate submission
  Kind.revise c.object (c.kind.sanitize (w.declared c.kind) fields)

structure Enacts (w : World) (ended : Except Failure α × World)
    (change : Except Failure (Directory k)) : Prop where
  failure : failure? ended.1 = failure? change
  directories : ended.2.directories = w.directories.after change

theorem Enacts.map {result : Except Failure α} {w' : World} {change : Except Failure (Directory k)}
    (h : w.Enacts (result, w') change) (f : α → β) : w.Enacts (result.map f, w') change :=
  ⟨(failure?_map f result).trans h.failure, h.directories⟩

theorem Quiet.enacts_refuse (h : w.Quiet) (e : Event) (f : Failure) :
    w.Enacts (w.refuse e f) (.error f : Except Failure (Directory k)) := by
  rw [h.refuse_eq]
  exact ⟨rfl, directories_tellAll ..⟩

theorem Quiet.enacts_commit (h : w.Quiet) (e : Event) (d : Directory k) :
    w.Enacts (w.commit e d) (.ok d) := by
  rw [h.commit_eq]
  exact ⟨rfl, directories_tellAll ..⟩

theorem Quiet.enacts_remove (h : w.Quiet) (hd : w.directories.get? k = some d) (s : Session)
    (identifier : Option String) : w.Enacts (w.remove s k identifier) (d.remove identifier) := by
  simp only [World.remove, Directories.find_eq_ok.2 hd]
  cases d.remove identifier with
  | error f => exact h.enacts_refuse _ f
  | ok d' => exact h.enacts_commit _ d'

theorem Quiet.enacts_add (h : w.Quiet) (s : Session) (d : Directory k) (o : k.Object) :
    w.Enacts (w.add s d o) ((d.add o).map (·.2)) := by
  rw [World.add]
  cases d.add o with
  | error f => exact (h.enacts_refuse _ f).map _
  | ok added => exact (h.enacts_commit _ added.2).map _

theorem Quiet.enacts_store (h : w.Quiet) {c : Opened} {d : Directory c.kind}
    (hd : w.directories.get? c.kind = some d) : w.Enacts (w.store c) (d.update c.object) := by
  simp only [World.store, Directories.find_eq_ok.2 hd]
  cases d.update c.object with
  | error f => exact h.enacts_refuse _ f
  | ok d' => exact h.enacts_commit _ d'

theorem update_of_revised {c : Opened} {submission : Json} {o : c.kind.Object}
    (h : w.revised c submission = .ok o) : w.update c submission =
      ((w.store { c with object := o }).1, { c with object := o }, (w.store { c with object := o }).2) := by
  obtain ⟨fields, hf, hr⟩ := bind_eq_ok.1 h
  simp only [update, hf, hr]

theorem directories_update_of_not_revised {c : Opened} {submission : Json} {f : Failure}
    (h : w.revised c submission = .error f) :
    (w.update c submission).2.2.directories = w.directories := by
  unfold update
  split
  · rfl
  next fields hf =>
    split
    · exact directories_refuse ..
    next o hr => exact absurd (h.symm.trans (bind_eq_ok.2 ⟨fields, hf, hr⟩)) nofun

end World

namespace Stage

def move (g : Stage) : Move → Except Failure Json × Stage
  | .strike s k i =>
    let ended := g.world.remove s k (some i)
    (ended.1.map fun _ => .null, { g with world := ended.2 })
  | .perform operation _ => g.perform operation

def play (g : Stage) : List Move → Stage
  | [] => g
  | x :: rest => (g.move x).2.play rest

def assigned? (g : Stage) (k : Kind) (o : k.Object) : Option String :=
  (g.world.directories.get? k).bind (·.assigned? o)

/-- What a move attempts. A submission that does not pass the checks attempts nothing. -/
def aim? (g : Stage) : Move → Option Aim
  | .strike _ k i => some ⟨k, .removal, i⟩
  | .perform operation _ => match operation with
    | .create _ k submission => match g.world.submitted k submission with
      | .ok o => (g.assigned? k o).map (⟨k, .addition, ·⟩)
      | .error _ => none
    | .insert k o => (g.assigned? k o).map (⟨k, .addition, ·⟩)
    | .update handle submission => (g.held.get? handle).bind fun c =>
      match g.world.revised c submission with
      | .ok o => (Kind.Object.identifier o).map (⟨c.kind, .update, ·⟩)
      | .error _ => none
    | .overwrite k o => (Kind.Object.identifier o).map (⟨k, .update, ·⟩)
    | .delete handle => (g.held.get? handle).bind fun c => c.identifier.map (⟨c.kind, .removal, ·⟩)
    | .discard k identifier => identifier.map (⟨k, .removal, ·⟩)
    | _ => none

def trial? (g : Stage) (k : Kind) (i : String) (x : Move) : Option Trial :=
  (g.aim? x).bind fun a =>
    if a.kind = k ∧ a.identifier = i then some ⟨a.deed, failure? (g.move x).1⟩ else none

def trials (g : Stage) (k : Kind) (i : String) : List Move → List Trial
  | [] => []
  | x :: rest => (g.trial? k i x).toList ++ (g.move x).2.trials k i rest

theorem play_append (g : Stage) (moves later : List Move) :
    g.play (moves ++ later) = (g.play moves).play later := by
  induction moves generalizing g with
  | nil => rfl
  | cons x rest ih => exact ih (g.move x).2

theorem exists_play_removeEach (g : Stage) (s : Session) (k : Kind) (ids : List String) :
    ∃ moves, g.play moves = { g with world := (g.world.removeEach s k ids).2 } := by
  induction ids generalizing g with
  | nil => exact ⟨[], rfl⟩
  | cons i rest ih =>
    cases hremove : g.world.remove s k (some i) with
    | mk result w =>
      have hmove : (g.move (.strike s k i)).2 = { g with world := w } := by
        simp only [move, hremove]
      cases result with
      | error f =>
        refine ⟨[.strike s k i], ?_⟩
        simp only [play, hmove, World.removeEach, hremove]
      | ok u =>
        obtain ⟨moves, hmoves⟩ := ih { g with world := w }
        refine ⟨.strike s k i :: moves, ?_⟩
        simp only [play, hmove, hmoves, World.removeEach, hremove]

/-- Every run of operations is one of moves, its patches taken apart. -/
theorem exists_play_run (g : Stage) (operations : List Operation) :
    ∃ moves, g.play moves = g.run operations := by
  have hone : ∀ (g : Stage) operation, ∃ moves, g.play moves = (g.perform operation).2 := by
    intro g operation
    -- A patch is as many moves as it removes objects, and every other operation is one.
    by_cases hpatch : ∃ s k submission, operation = .patch s k submission
    · obtain ⟨s, k, submission, rfl⟩ := hpatch
      simp only [perform, World.patch]
      split
      · exact ⟨[], rfl⟩
      · exact ⟨[], rfl⟩
      · exact exists_play_removeEach g s k _
    · exact ⟨[.perform operation fun s k submission h => hpatch ⟨s, k, submission, h⟩], rfl⟩
  induction operations generalizing g with
  | nil => exact ⟨[], rfl⟩
  | cons operation rest ih =>
    obtain ⟨first, hfirst⟩ := hone g operation
    obtain ⟨later, hlater⟩ := ih (g.perform operation).2
    exact ⟨first ++ later, by rw [play_append, hfirst, hlater, run]⟩

structure Serves (g : Stage) (k : Kind) : Prop where
  quiet : g.world.Quiet
  found : ∃ d, g.world.directories.get? k = some d ∧ ∀ method, d.outage method = none

structure Settles (g : Stage) (k : Kind) (x : Move) : Prop where
  found : ∃ d, (g.move x).2.world.directories.get? k = some d ∧ ∀ method, d.outage method = none
  conform : ∀ i, Trial.Conform i ((g.world.directories.stored k).contains i)
    (g.trial? k i x).toList (((g.move x).2.world.directories.stored k).contains i)

namespace Serves
variable {g : Stage} {k j : Kind} {x : Move} {d : Directory j} {n : String} {deed : Deed}

theorem quiet_move (h : g.Serves k) (hx : g.world.StaysQuiet x.operations) :
    (g.move x).2.world.Quiet := by
  cases x with
  | strike s k i => exact h.quiet.remove s k (some i)
  | perform operation _ =>
    have hlisteners := listeners_perform g operation
    obtain hsame | hawait := given_perform g operation
    · exact h.quiet.congr hlisteners hsame
    · exact (hx _ (List.mem_singleton.2 hawait.symm)).congr hlisteners rfl

theorem listeners_move (g : Stage) (x : Move) :
    (g.move x).2.world.listeners = g.world.listeners := by
  cases x with
  | strike s k i => exact World.listeners_remove g.world s k (some i)
  | perform operation _ => exact listeners_perform g operation

theorem settles_of_same (h : g.Serves k)
    (hsame : (g.move x).2.world.directories = g.world.directories)
    (ha : ∀ a, g.aim? x = some a → a.kind ≠ k) : g.Settles k x where
  found := hsame ▸ h.found
  conform i := by
    have hnone : g.trial? k i x = none := by
      rw [trial?, Option.bind_eq_none_iff]
      intro a haim
      exact if_neg fun hk => ha a haim hk.1
    rw [hnone, hsame]
    exact .nil

theorem settles_of_enacts (h : g.Serves k) {change : Except Failure (Directory j)}
    (hd : g.world.directories.get? j = some d)
    (he : g.world.Enacts ((g.move x).1, (g.move x).2.world) change)
    (ha : g.aim? x = some ⟨j, deed, n⟩)
    (hdoes : (∀ method, d.outage method = none) → d.Does deed n change) : g.Settles k x := by
  have htrial : ∀ i, g.trial? k i x =
      if j = k ∧ n = i then some ⟨deed, failure? (g.move x).1⟩ else none := by
    intro i
    rw [trial?, ha]
    rfl
  have hdirectories : (g.move x).2.world.directories = g.world.directories.after change :=
    he.directories
  by_cases hj : j = k
  · subst hj
    obtain ⟨d₀, hd₀, hout⟩ := h.found
    -- The move is about this directory; under other identifiers it leaves things as they stood.
    obtain rfl := Option.some.inj (hd.symm.trans hd₀)
    have hdone := hdoes hout
    obtain ⟨d', hd', hout', hcontains⟩ := Directories.exists_get?_after hd hdone
    rw [← hdirectories] at hd'
    refine ⟨⟨d', hd', fun method => by rw [hout', hout]⟩, fun i => ?_⟩
    rw [htrial, Directories.stored_eq hd, Directories.stored_eq hd', hcontains]
    by_cases hi : n = i
    · subst hi
      rw [if_pos ⟨rfl, rfl⟩, if_pos rfl]
      exact .cons (he.failure.trans hdone.failure) .nil
    · rw [if_neg fun hboth => hi hboth.2, if_neg fun heq => hi heq.symm]
      exact .nil
  · have hget : (g.move x).2.world.directories.get? k = g.world.directories.get? k := by
      rw [hdirectories]
      exact Directories.get?_after_ne _ change fun heq => hj heq.symm
    refine ⟨hget ▸ h.found, fun i => ?_⟩
    rw [htrial, if_neg fun hboth => hj hboth.1, Directories.stored, Directories.stored, hget]
    exact .nil

theorem settles_of_change (h : g.Serves k) {named : Option String}
    {name? : Directory j → Option String} {change : Directory j → Except Failure (Directory j)}
    (hperforms : Directory.Performs deed name? change)
    (ha : g.aim? x = named.map (⟨j, deed, ·⟩))
    (hmissing : g.world.directories.get? j = none →
      (g.move x).2.world.directories = g.world.directories)
    (hfound : ∀ d, g.world.directories.get? j = some d → named = name? d ∧
      g.world.Enacts ((g.move x).1, (g.move x).2.world) (change d)) : g.Settles k x := by
  cases hd : g.world.directories.get? j with
  | none =>
    refine h.settles_of_same (hmissing hd) fun a haim hk => ?_
    obtain ⟨n, -, rfl⟩ := Option.map_eq_some_iff.1 (ha.symm.trans haim)
    obtain rfl : j = k := hk
    obtain ⟨d, hserves, -⟩ := h.found
    exact absurd (hd.symm.trans hserves) nofun
  | some d =>
    obtain ⟨rfl, he⟩ := hfound d hd
    cases hn : name? d with
    | some n =>
      rw [hn] at ha
      exact h.settles_of_enacts hd he ha fun hout => hperforms.named d n hout hn
    | none =>
      rw [hn] at ha
      obtain ⟨f, hf⟩ := hperforms.unnamed d hn
      refine h.settles_of_same ?_ fun a haim => absurd (ha.symm.trans haim) nofun
      rw [he.directories, hf]
      rfl

theorem settles_onDirectory (h : g.Serves k) {named : Option String}
    {name? : Directory j → Option String} {change : Directory j → Except Failure (Directory j)}
    (hperforms : Directory.Performs deed name? change)
    (ha : g.aim? x = named.map (⟨j, deed, ·⟩)) (hmove : g.move x = g.onDirectory j change)
    (hnamed : ∀ d, g.world.directories.get? j = some d → named = name? d) : g.Settles k x := by
  refine h.settles_of_change hperforms ha (fun hd => ?_) fun d hd => ⟨hnamed d hd, ?_⟩
  · rw [hmove, onDirectory, Directories.find, hd]
    rfl
  · rw [hmove, onDirectory, Directories.find_eq_ok.2 hd]
    simp only [bind, Except.bind]
    cases change d with
    | error f => exact ⟨rfl, rfl⟩
    | ok d' => exact ⟨rfl, rfl⟩

theorem assigned?_eq (hd : g.world.directories.get? j = some d) (o : j.Object) :
    g.assigned? j o = d.assigned? o := by
  rw [assigned?, hd]
  rfl

theorem settles_create (h : g.Serves k) (s : Session) (j : Kind) (submission : Json)
    (hwhole : ∀ s' k' submission', Operation.create s j submission ≠ .patch s' k' submission') :
    g.Settles k (.perform (.create s j submission) hwhole) := by
  cases ho : g.world.submitted j submission with
  | error f =>
    refine h.settles_of_same ?_ fun a ha => ?_
    · simp only [move, Stage.perform, World.create, ho]
      cases g.world.directories.find j <;> rfl
    · simp only [aim?, ho] at ha
      cases ha
  | ok o =>
    refine h.settles_of_change (Directory.performs_add o) (by simp only [aim?, ho]) (fun hd => ?_)
      fun d hd => ⟨assigned?_eq hd o, ?_⟩
    · simp only [move, Stage.perform, World.create, Directories.find, hd]
    · simp only [move, Stage.perform, World.create, Directories.find_eq_ok.2 hd, ho]
      exact ((h.quiet.enacts_add s d o).map _).map _

theorem settles_update (h : g.Serves k) (handle : String) (submission : Json)
    (hwhole : ∀ s' k' submission', Operation.update handle submission ≠ .patch s' k' submission') :
    g.Settles k (.perform (.update handle submission) hwhole) := by
  cases hc : g.held.get? handle with
  | none =>
    refine h.settles_of_same ?_ fun a ha => ?_
    · simp only [move, Stage.perform, onHeld, hc]
    · simp only [aim?, hc] at ha
      cases ha
  | some c =>
    cases ho : g.world.revised c submission with
    | error f =>
      refine h.settles_of_same ?_ fun a ha => ?_
      · simp only [move, perform_update hc, World.directories_update_of_not_revised ho]
      · simp only [aim?, hc, Option.bind_some, ho] at ha
        cases ha
    | ok o =>
      refine h.settles_of_change (Directory.performs_update o)
        (by simp only [aim?, hc, Option.bind_some, ho]) (fun hd => ?_) fun d hd => ⟨rfl, ?_⟩
      · simp only [move, perform_update hc, World.update_of_revised ho, World.store,
          Directories.find, hd]
      · simp only [move, perform_update hc, World.update_of_revised ho]
        exact (h.quiet.enacts_store (c := { c with object := o }) hd).map _

theorem settles_delete (h : g.Serves k) (handle : String)
    (hwhole : ∀ s' k' submission', Operation.delete handle ≠ .patch s' k' submission') :
    g.Settles k (.perform (.delete handle) hwhole) := by
  cases hc : g.held.get? handle with
  | none =>
    refine h.settles_of_same ?_ fun a ha => ?_
    · simp only [move, Stage.perform, onHeld, hc]
    · simp only [aim?, hc] at ha
      cases ha
  | some c =>
    refine h.settles_of_change (Directory.performs_remove (k := c.kind) c.identifier)
      (by simp only [aim?, hc, Option.bind_some]) (fun hd => ?_) fun d hd => ⟨rfl, ?_⟩
    · simp only [move, Stage.perform, onHeld, hc, World.delete, World.remove, Directories.find, hd]
    · simp only [move, Stage.perform, onHeld, hc]
      exact (h.quiet.enacts_remove hd c.session c.identifier).map _

theorem settles (h : g.Serves k) (x : Move) : g.Settles k x := by
  cases x with
  | strike s j i =>
    refine h.settles_of_change (Directory.performs_remove (some i)) rfl (fun hd => ?_)
      fun d hd => ⟨rfl, (h.quiet.enacts_remove hd s (some i)).map _⟩
    simp only [move, World.remove, Directories.find, hd]
  | perform operation hwhole =>
    cases operation with
    | patch s j submission => exact absurd rfl (hwhole s j submission)
    | list s j names => exact h.settles_of_same rfl fun a ha => by cases ha
    | fetch s j i handle =>
      exact h.settles_of_same (directories_perform_fetch ..) fun a ha => by cases ha
    | read handle =>
      refine h.settles_of_same ?_ fun a ha => by cases ha
      simp only [move, Stage.perform, onHeld]
      split <;> rfl
    | await given => exact h.settles_of_same rfl fun a ha => by cases ha
    | create s j submission => exact h.settles_create s j submission hwhole
    | update handle submission => exact h.settles_update handle submission hwhole
    | delete handle => exact h.settles_delete handle hwhole
    | insert j o =>
      exact h.settles_onDirectory (Directory.performs_add o) rfl rfl fun d hd => assigned?_eq hd o
    | overwrite j o =>
      exact h.settles_onDirectory (Directory.performs_update o) rfl rfl fun d hd => rfl
    | discard j identifier =>
      exact h.settles_onDirectory (Directory.performs_remove identifier) rfl rfl fun d hd => rfl

theorem conform_trials (h : g.Serves k) (i : String) {moves : List Move}
    (hq : g.world.StaysQuiet (moves.flatMap Move.operations)) :
    Trial.Conform i ((g.world.directories.stored k).contains i) (g.trials k i moves)
      (((g.play moves).world.directories.stored k).contains i) := by
  induction moves generalizing g with
  | nil => exact .nil
  | cons x rest ih =>
    rw [List.flatMap_cons] at hq
    obtain ⟨hfirst, hrest⟩ := hq.of_append
    -- One move conforms, and leaves a stage that serves the rest of them.
    have hnext : (g.move x).2.Serves k := ⟨h.quiet_move hfirst, (h.settles x).found⟩
    exact ((h.settles x).conform i).append (ih hnext (hrest.congr (listeners_move g x)))

end Serves

/-- Under an identifier of a directory that is in order, the additions and removals that succeed
alternate, beginning with an addition if nothing stood there. An addition fails just if something
stands there by then, and a removal or an update just if nothing does. -/
theorem trials_alternate {g : Stage} {k : Kind} {d : Directory k} (hq : g.world.Quiet)
    (hd : g.world.directories.get? k = some d) (hout : ∀ method, d.outage method = none)
    (i : String) {moves : List Move} (hm : g.world.StaysQuiet (moves.flatMap Move.operations)) :
    let changes := (g.trials k i moves).filter Trial.changes
    (changes.map (·.deed)).IsChain (· ≠ ·) ∧
    (∀ t ∈ changes.head?, t.deed = .addition ↔ ¬d.objects.contains i) ∧
    (∀ before t after, g.trials k i moves = before ++ t :: after →
      let stands := Trial.stands (d.objects.contains i) before
      (t.deed = .addition → t.failure = if stands then some (.alreadyExists i) else none) ∧
      (t.deed ≠ .addition → t.failure = if stands then none else some (.notFound (some i)))) ∧
    ((g.play moves).world.directories.stored k).contains i =
      Trial.stands (d.objects.contains i) (g.trials k i moves) := by
  have hserves : g.Serves k := ⟨hq, d, hd, hout⟩
  have hconform := hserves.conform_trials i hm
  rw [Directories.stored_eq hd] at hconform
  obtain ⟨hhead, hchain⟩ := hconform.alternate
  refine ⟨hchain, fun t ht => ?_, fun before t after htrials => ?_, hconform.eq_stands⟩
  · rw [hhead t ht]
    cases d.objects.contains i <;> decide
  · rw [htrials] at hconform
    obtain ⟨middle, hbefore, hrest⟩ := hconform.of_append
    cases hrest with
    | cons ht _ =>
      dsimp only
      rw [← hbefore.eq_stands, ht]
      cases t.deed <;> cases middle <;> simp [Deed.failure?]

end Stage

namespace Demo

def newConnection : Json := .obj [("name", .str "web-03"), ("protocol", .str "ssh")]

/-- A connection is created and opened under the identifier that it is assigned, removed by one client
behind the back of the other, who learns of it an hour later, put back past the service, and updated
and deleted from what was opened in the beginning. -/
def turns : List Move := [
  .perform (.create (session administrator) .connection newConnection) nofun,
  .perform (.fetch (session member) .connection "3" "child") nofun,
  .perform (.insert .connection ({ identifier := some "3" } : Connection)) nofun,
  .strike (session administrator) .connection "3",
  .perform (.await { now := 3600000000 }) nofun,
  .perform (.update "child" newConnection) nofun,
  .perform (.delete "child") nofun,
  .perform (.insert .connection ({ identifier := some "3" } : Connection)) nofun,
  .perform (.create (session administrator) .connection newConnection) nofun,
  .perform (.update "child" newConnection) nofun,
  .perform (.delete "child") nofun]

def departing : List Trial := [⟨.addition, none⟩, ⟨.addition, some (.alreadyExists "3")⟩,
  ⟨.removal, none⟩, ⟨.update, some (.notFound (some "3"))⟩]

def returning : List Trial := [⟨.addition, none⟩, ⟨.update, none⟩, ⟨.removal, none⟩]

theorem trials_turns : quiet.trials .connection "3" turns =
    departing ++ ⟨.removal, some (.notFound (some "3"))⟩ :: returning := by
  decide

end Demo

theorem Stage.trials_alternate_turns :
    (((Demo.quiet.trials .connection "3" Demo.turns).filter Trial.changes).map (·.deed)).IsChain
      (· ≠ ·) ∧
    Trial.stands false Demo.departing = false ∧
    (∃ t after, Demo.quiet.trials .connection "3" Demo.turns = Demo.departing ++ t :: after ∧
      t.failure = some (.notFound (some "3"))) ∧
    ((Demo.quiet.play Demo.turns).world.directories.stored .connection).contains "3" = false := by
  have hd : Demo.quiet.world.directories.get? .connection = some Demo.connections := rfl
  have hm : Demo.quiet.world.StaysQuiet (Demo.turns.flatMap Move.operations) := fun _ _ _ _ => rfl
  obtain ⟨hchain, -, htrial, hend⟩ := Stage.trials_alternate Demo.orderly_quiet.quiet hd
    (fun _ => rfl) "3" hm
  obtain ⟨-, hfails⟩ := htrial _ _ _ Demo.trials_turns
  refine ⟨hchain, by decide, ⟨_, _, Demo.trials_turns, hfails (by decide)⟩, ?_⟩
  rw [hend, Demo.trials_turns]
  decide

end AccessDirectory

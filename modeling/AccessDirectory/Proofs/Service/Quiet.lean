import AccessDirectory.Proofs.Service.Atomicity
import AccessDirectory.Proofs.Service.Dispatch

/-! Listeners that never fail. All of them receive every event, and an attempt ends as storage has it. -/

namespace AccessDirectory.World
variable {w : World}

theorem Quiet.tellAll (h : w.Quiet) (events : List Event) : (w.tellAll events).Quiet := by
  induction events generalizing w with
  | nil => exact h
  | cons e rest ih => exact ih (w := (w.notify e).2) h

theorem Quiet.not_raises (h : w.Quiet) (e : Event) (f : Failure) : ¬w.Raises e f :=
  notify_eq_none.1 (h e w.journal) f

theorem Quiet.received_tellAll (h : w.Quiet) (events : List Event) {place : Nat}
    (hp : place < w.listeners.length) :
    (w.tellAll events).journal.received place = w.journal.received place ++ events := by
  induction events generalizing w with
  | nil => simp [World.tellAll]
  | cons e rest ih =>
    have hone := received_tellAll_of_not_raises (h.not_raises e) hp
    have hrest := ih (h.tellAll [e]) hp
    rw [hone, List.append_assoc] at hrest
    exact hrest

theorem Quiet.refuse_eq (h : w.Quiet) (e : Event) (f : Failure) :
    w.refuse e f = (.error f, w.tellAll [e.failed f]) := by
  have hf : (w.reportFailure e f).1 = f := Except.error.inj (h.refuse e f)
  rw [World.refuse_eq, hf]
  rfl

theorem Quiet.commit_eq {k : Kind} (h : w.Quiet) (e : Event) (d : Directory k) :
    w.commit e d =
      (.ok (), ({ w with directories := w.directories.set d } : World).tellAll [e]) := by
  have hquiet : ({ w with directories := w.directories.set d } : World).Quiet := h
  exact reportSuccess_of_not_raises (hquiet.not_raises e)

theorem Quiet.fetch_eq {k : Kind} (h : w.Quiet) (s : Session) {d : Directory k} {i : String}
    {o : k.Object} (hd : w.directories.get? k = some d) (hget : d.outage .get = none)
    (ho : d.objects.get? i = some o) :
    w.fetch s k i = (.ok ⟨k, o, s⟩, w.tellAll [s.event k .get (some i) (some o)]) := by
  have hnone : (w.notify (s.event k .get (some i) (some o))).1 = none := h _ w.journal
  rw [fetch_of_require (Directories.find_eq_ok.2 hd) (Directory.require_eq_ok.2 ⟨hget, ho⟩)]
  split
  next hw =>
    rw [hw] at hnone
    cases hnone
  next w' hw =>
    have hw' : w.tellAll [s.event k .get (some i) (some o)] = w' := congrArg Prod.snd hw
    rw [hw']

structure Became (w : World) (ds : Directories) (events : List Event) (w' : World) : Prop where
  eq : w' = ({ w with directories := ds } : World).tellAll events
  heard : ∀ place < w.listeners.length,
    w'.journal.received place = w.journal.received place ++ events

theorem Became.directories {w' : World} {ds : Directories} {events : List Event}
    (h : w.Became ds events w') : w'.directories = ds := by
  rw [h.eq, directories_tellAll]

theorem Became.quiet {w' : World} {ds : Directories} {events : List Event}
    (h : w.Became ds events w') (hq : w.Quiet) : w'.Quiet := by
  rw [h.eq]
  exact Quiet.tellAll (w := { w with directories := ds }) hq events

theorem Quiet.became (h : w.Quiet) (ds : Directories) (events : List Event) :
    w.Became ds events (({ w with directories := ds } : World).tellAll events) where
  eq := rfl
  heard _ hp := Quiet.received_tellAll (w := { w with directories := ds }) h events hp

end AccessDirectory.World

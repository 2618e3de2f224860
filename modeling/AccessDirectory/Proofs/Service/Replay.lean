import AccessDirectory.Proofs.Service.Act
import Mathlib.Logic.Function.Basic

/-! The events that a first recorder receives are a complete account of storage: the successes among
them, carried out again on the objects of the start, give the objects of the end. Listeners that fail
add reports of failures, which replay as nothing. -/

namespace AccessDirectory

abbrev Stores := (k : Kind) → Table k.Object

namespace Event

def applied (e : Event) (objects : Table e.kind.Object) : Table e.kind.Object :=
  match e.action, e.identifier, e.object with
  | .add, some i, some o => objects.put i o
  | .update, some i, some o => if objects.contains i then objects.put i o else objects
  | .remove, some i, _ => objects.erase i
  | _, _, _ => objects

def replay (e : Event) (stores : Stores) : Stores :=
  if e.succeeded then Function.update stores e.kind (e.applied (stores e.kind)) else stores

def replayAll (events : List Event) (stores : Stores) : Stores :=
  events.foldl (fun stores e => e.replay stores) stores

theorem replayAll_append_singleton (events : List Event) (e : Event) (stores : Stores) :
    replayAll (events ++ [e]) stores = e.replay (replayAll events stores) := by
  simp [replayAll, List.foldl_append]

theorem replay_of_unchanging {e : Event} (h : e.changesStorage = false) (stores : Stores) :
    e.replay stores = stores := by
  unfold replay
  split
  next hs =>
    have hget : e.action = .get := by simpa [changesStorage, hs] using h
    simp [applied, hget]
  next => rfl

end Event

theorem received_deliver_of_lt (given : Conditions) (e : Event) {place i : Nat} (h : i < place)
    (ls : List Listener) (j : Journal) :
    (deliver given e place ls j).2.received i = j.received i := by
  induction ls generalizing place j with
  | nil => rfl
  | cons l rest ih =>
    have hone : (l.handle given place j e).2.received i = j.received i := by
      rw [Listener.received_handle, Journal.received_receive, if_neg (by omega), List.append_nil]
    rw [deliver]
    split <;> rename_i hl <;> rw [hl] at hone
    · exact hone
    · rw [ih (by omega), hone]

theorem World.received_notify {w : World} {rest : List Listener}
    (h : w.listeners = .recorder :: rest) (e : Event) :
    (w.notify e).2.journal.received 0 = w.journal.received 0 ++ [e] := by
  simp only [notify, h, deliver, Listener.handle]
  rw [received_deliver_of_lt _ _ (by omega), Journal.received_receive, if_pos rfl]

theorem Directories.stored_set (ds : Directories) {k : Kind} (d : Directory k) :
    (ds.set d).stored = Function.update ds.stored k d.objects := by
  funext j
  by_cases hj : j = k
  · subst hj
    rw [stored_set_self, Function.update_self]
  · rw [stored_set_ne _ _ hj, Function.update_of_ne hj]

structure Stage.Accounted (rest : List Listener) (earlier : List Event) (stores : Stores)
    (g : Stage) : Prop where
  listeners : g.world.listeners = .recorder :: rest
  account : ∃ events, g.world.journal.received 0 = earlier ++ events ∧
    Event.replayAll events stores = g.world.directories.stored

namespace Stage.Accounted
variable {rest : List Listener} {earlier : List Event} {stores : Stores} {g g' : Stage}

theorem tell (h : Accounted rest earlier stores g) {e : Event} (he : e.changesStorage = false) :
    Accounted rest earlier stores (g.tell e) := by
  obtain ⟨events, hr, hs⟩ := h.account
  refine ⟨h.listeners, events ++ [e], ?_, ?_⟩
  · rw [Stage.tell, World.received_notify h.listeners, hr, List.append_assoc]
  · rw [Event.replayAll_append_singleton, hs, Event.replay_of_unchanging he]
    rfl

theorem change (h : Accounted rest earlier stores g) (e : Event) {d d' : Directory e.kind}
    (hd : g.world.directories.get? e.kind = some d) (he : e.succeeded)
    (ha : e.applied d.objects = d'.objects) : Accounted rest earlier stores (g.change d' e) := by
  obtain ⟨events, hr, hs⟩ := h.account
  refine ⟨h.listeners, events ++ [e], ?_, ?_⟩
  · have hn := World.received_notify (w := { g.world with
      directories := g.world.directories.set d' }) h.listeners e
    exact hn.trans (by rw [hr, List.append_assoc])
  · rw [Event.replayAll_append_singleton, hs, Event.replay, if_pos he, Directories.stored_eq hd, ha]
    exact (Directories.stored_set ..).symm

theorem act (h : Accounted rest earlier stores g) (ha : Act g g') :
    Accounted rest earlier stores g' := by
  cases ha with
  | tell he => exact h.tell he
  | @add s k d d' submission o o' hd ho hadd =>
    obtain ⟨-, -, i, hi, hput⟩ := Directory.of_add_eq_ok hadd
    refine h.change (s.event k .add (Kind.Object.identifier o') (some o')) hd rfl ?_
    have hid : Kind.Object.identifier o' = some i := by
      rw [hi, Kind.Object.identifier_setIdentifier]
    simp [Event.applied, Session.event, hid, hput]
  | @remove s k d d' identifier hd hr =>
    obtain ⟨-, i, rfl, -, rfl⟩ := Directory.remove_eq_ok.1 hr
    exact h.change (s.event k .remove (some i)) hd rfl rfl
  | @store handle c d d' hc hd hu =>
    -- Storage took the copy, so its identifier is in use and the event replays as more than nothing.
    obtain ⟨-, i, hi, hin, rfl⟩ := Directory.update_eq_ok.1 hu
    refine h.change (c.session.event c.kind .update c.identifier (some c.object)) hd rfl ?_
    simp [Event.applied, Session.event, Opened.identifier, hi, hin]
  | take | revise => exact ⟨h.listeners, h.account⟩

theorem invariant : Invariant (Accounted rest earlier stores) where
  act := act
  await _ h := ⟨h.listeners, h.account⟩

end Stage.Accounted

/-- Over any run of the service, the recorder's further events replay to what is stored at the end. -/
theorem Stage.replayAll_received_run {w : World} {rest : List Listener}
    (hl : w.listeners = .recorder :: rest) {operations : List Operation}
    (hs : ∀ p ∈ operations, p.byService) :
    ∃ events,
      (({ world := w } : Stage).run operations).world.journal.received 0 =
        w.journal.received 0 ++ events ∧
      Event.replayAll events w.directories.stored =
        (({ world := w } : Stage).run operations).world.directories.stored := by
  have start : Accounted rest (w.journal.received 0) w.directories.stored { world := w } :=
    ⟨hl, [], by simp, rfl⟩
  exact (Accounted.invariant.run hs start).account

theorem Stage.replayAll_received_renewal : ∃ events,
    (({ world := Demo.world } : Stage).run Demo.renewal).world.journal.received 0 = events ∧
    events.length = 5 ∧
    Event.replayAll events Demo.world.directories.stored =
      (({ world := Demo.world } : Stage).run Demo.renewal).world.directories.stored := by
  obtain ⟨events, hr, hs⟩ :=
    Stage.replayAll_received_run (w := Demo.world) rfl
      (by decide : ∀ p ∈ Demo.renewal, p.byService)
  have hlength : events.length = 5 := (congrArg List.length hr).symm
  exact ⟨events, hr, hlength, hs⟩

end AccessDirectory

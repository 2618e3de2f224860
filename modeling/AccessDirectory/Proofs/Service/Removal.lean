import AccessDirectory.Proofs.Service.Batch

/-! Two ways to remove an object, to delete it where it is open and to name it in a patch. Whatever is held
has an identifier, and removing it does the same either way, failures included. -/

namespace AccessDirectory

namespace World
variable {w : World} {k : Kind}

theorem removeEach_singleton (w : World) (s : Session) (k : Kind) (i : String) :
    w.removeEach s k [i] = w.remove s k (some i) := by
  rw [removeEach]
  split
  next hr => exact hr.symm
  next hr => exact hr.symm

theorem patch_of_removes {s : Session} {submission : Json} {patches : List Patch} {ids : List String}
    (hread : submission.Patches patches) (hids : List.Forall₂ Patch.Removes patches ids) :
    w.patch s k submission = match w.directories.find k with
      | .error f => (.error f, w)
      | .ok _ => w.removeEach s k ids := by
  have htargets : Patch.parse submission >>= Patch.targets = .ok ids :=
    bind_eq_ok.2 ⟨patches, Patch.parse_eq_ok.2 hread, Patch.targets_eq_ok.2 hids⟩
  rw [patch, htargets]
  cases w.directories.find k with
  | error f => rfl
  | ok d => rfl

theorem patch_eq_delete {c : Opened} {i : String} (hi : c.identifier = some i) {submission : Json}
    {p : Patch} (hread : submission.Patches [p]) (hp : p.Removes i) :
    w.patch c.session c.kind submission = w.delete c := by
  rw [patch_of_removes hread (.cons hp .nil), removeEach_singleton, delete, hi]
  cases hd : w.directories.find c.kind with
  | error f => simp only [remove, hd]
  | ok d => rfl

end World

namespace Stage
variable {g g' : Stage}

structure Identified (g : Stage) : Prop where
  keyed : g.world.directories.WellKeyed
  held : ∀ handle c, g.held.get? handle = some c → ∃ i, c.identifier = some i

namespace Identified

theorem start {w : World} (h : w.directories.WellKeyed) : Identified { world := w } where
  keyed := h
  held _ _ hc := by cases hc

theorem hold (h : g.Identified) (handle : String) {c : Opened} {i : String}
    (hi : c.identifier = some i) : (g.hold handle c).Identified := by
  refine ⟨h.keyed, fun name b hb => ?_⟩
  obtain rfl | hb := held_hold hb
  · exact ⟨i, hi⟩
  · exact h.held name b hb

theorem act (h : g.Identified) (ha : Act g g') : g'.Identified := by
  have hkeyed := ha.wellKeyed h.keyed
  cases ha with
  | tell | add | remove | store => exact ⟨hkeyed, h.held⟩
  | take handle hd ho => exact h.hold handle (h.keyed _ _ hd _ _ ho)
  | @revise handle c fields o hc hr =>
    -- No submission changes the identifier of what is held.
    obtain ⟨i, hi⟩ := h.held handle c hc
    exact h.hold handle ((Kind.of_revise_eq_ok hr).1.trans hi)

theorem perform (h : g.Identified) (operation : Operation) : (g.perform operation).2.Identified := by
  obtain hacts | ⟨given, rfl⟩ | ⟨k, d, d', hd, hk, -, hchanged⟩ := g.perform_cases operation
  · exact hacts.invariant act h
  · exact ⟨h.keyed, h.held⟩
  · rw [hchanged]
    exact ⟨h.keyed.set (hk (h.keyed k d hd)), h.held⟩

theorem run (h : g.Identified) (operations : List Operation) : (g.run operations).Identified := by
  induction operations generalizing g with
  | nil => exact h
  | cons operation rest ih => exact ih (h.perform operation)

end Identified

/-- After a run, whatever is held has an identifier, and whoever holds it may as well remove it by a
patch: the answer, the directories, what the listeners receive and what they write are the same. -/
theorem perform_patch_eq_delete {w : World} (h : w.directories.WellKeyed)
    (operations : List Operation) {handle : String} {c : Opened}
    (hc : (({ world := w } : Stage).run operations).held.get? handle = some c) :
    ∃ i, c.identifier = some i ∧ ∀ (submission : Json) (p : Patch), submission.Patches [p] →
      p.Removes i →
      let g := ({ world := w } : Stage).run operations
      g.perform (.patch c.session c.kind submission) = g.perform (.delete handle) := by
  obtain ⟨i, hi⟩ := ((Identified.start h).run operations).held handle c hc
  refine ⟨i, hi, fun submission p hread hp => ?_⟩
  simp only [perform, onHeld, hc, World.patch_eq_delete hi hread hp]

end Stage

namespace Demo

def alice : User where
  identifier := some member
  attributes := .ofList [("guac-full-name", some "Alice")]
  groups := [group]

end Demo

theorem Stage.perform_patch_eq_delete_reported : ∃ g',
    let g := ({ world := Demo.world } : Stage).run
      [.fetch (Demo.session Demo.administrator) .user Demo.member "account"]
    g.held.get? "account" = some ⟨.user, Demo.alice, Demo.session Demo.administrator⟩ ∧
    g.perform (.delete "account") = (.error (.foreign .runtime "out of reach"), g') ∧
    (g'.world.directories.stored .user).keys = [Demo.administrator] ∧
    g.perform (.patch (Demo.session Demo.administrator) .user
      (Demo.batch [Demo.removal Demo.member])) =
        (.error (.foreign .runtime "out of reach"), g') := by
  have hheld : (({ world := Demo.world } : Stage).run
      [.fetch (Demo.session Demo.administrator) .user Demo.member "account"]).held.get? "account" =
        some ⟨.user, Demo.alice, Demo.session Demo.administrator⟩ := rfl
  obtain ⟨i, hi, hsame⟩ := Stage.perform_patch_eq_delete Demo.wellKeyed_directories _ hheld
  obtain rfl : Demo.member = i := Option.some.inj hi
  obtain ⟨g', hdelete, hleft⟩ : ∃ g', (({ world := Demo.world } : Stage).run
      [.fetch (Demo.session Demo.administrator) .user Demo.member "account"]).perform
        (.delete "account") = (.error (.foreign .runtime "out of reach"), g') ∧
      (g'.world.directories.stored .user).keys = [Demo.administrator] := ⟨_, rfl, rfl⟩
  have hpatch := hsame (Demo.batch [Demo.removal Demo.member]) (Demo.removal Demo.member)
    (Demo.patches_batch (by simp [Demo.removal])) ⟨rfl, rfl⟩
  exact ⟨g', hheld, hdelete, hleft, hpatch.trans hdelete⟩

end AccessDirectory

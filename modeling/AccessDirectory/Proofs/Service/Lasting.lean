import AccessDirectory.Proofs.Service.Act

/-! Properties of objects that last. What objects have when they are added and keep when they are
revised, everything that is stored or held has after a run if it had it before. -/

namespace AccessDirectory

/-- Objects have the property when they are added and keep it when they are revised. -/
structure Lasting (declared : Kind → List String) (P : (k : Kind) → k.Object → Prop) : Prop where
  added : ∀ {k : Kind} {fields : Fields} {d d' : Directory k} {o o' : k.Object},
    k.construct (k.sanitize (declared k) fields) = .ok o → d.add o = .ok (o', d') → P k o'
  revised : ∀ {k : Kind} {fields : Fields} {o o' : k.Object},
    P k o → Kind.revise o (k.sanitize (declared k) fields) = .ok o' → P k o'

namespace Stage
variable {P : (k : Kind) → k.Object → Prop} {g g' : Stage}

structure All (P : (k : Kind) → k.Object → Prop) (g : Stage) : Prop where
  stored : ∀ k i (o : k.Object), (g.world.directories.stored k).get? i = some o → P k o
  held : ∀ handle c, g.held.get? handle = some c → P c.kind c.object

namespace All

theorem start {w : World} (h : ∀ k i (o : k.Object), (w.directories.stored k).get? i = some o → P k o) :
    All P { world := w } where
  stored := h
  held _ _ hc := by cases hc

theorem change (h : All P g) {k : Kind} {d : Directory k} (e : Event)
    (hd : ∀ i o, d.objects.get? i = some o →
      (g.world.directories.stored k).get? i = some o ∨ P k o) : All P (g.change d e) := by
  refine ⟨fun j i o ho => ?_, h.held⟩
  change ((g.world.directories.set d).stored j).get? i = some o at ho
  by_cases hj : j = k
  · subst hj
    rw [Directories.stored_set_self] at ho
    exact (hd i o ho).elim (h.stored j i o) id
  · rw [Directories.stored_set_ne _ _ hj] at ho
    exact h.stored j i o ho

theorem hold (h : All P g) (handle : String) {c : Opened} (hc : P c.kind c.object) :
    All P (g.hold handle c) := by
  refine ⟨h.stored, fun name b hb => ?_⟩
  obtain rfl | hb := held_hold hb
  · exact hc
  · exact h.held name b hb

theorem act (h : All P g) (hP : Lasting g.world.declared P) (ha : Act g g') : All P g' := by
  cases ha with
  | tell => exact ⟨h.stored, h.held⟩
  | @add s k d d' submission o o' hd ho hadd =>
    obtain ⟨fields, -, hc⟩ := bind_eq_ok.1 ho
    obtain ⟨-, -, i, -, hput⟩ := Directory.of_add_eq_ok hadd
    refine h.change _ fun j p hp => ?_
    rw [hput, Table.get?_put] at hp
    split at hp
    · cases hp
      exact .inr (hP.added hc hadd)
    · exact .inl (by rwa [Directories.stored_eq hd])
  | @remove s k d d' identifier hd hr =>
    obtain ⟨-, i, -, -, rfl⟩ := Directory.remove_eq_ok.1 hr
    refine h.change _ fun j p hp => ?_
    rw [Table.get?_erase] at hp
    split at hp
    · cases hp
    · exact .inl (by rwa [Directories.stored_eq hd])
  | @store handle c d d' hc hd hu =>
    obtain ⟨-, i, -, -, rfl⟩ := Directory.update_eq_ok.1 hu
    refine h.change _ fun j p hp => ?_
    rw [Table.get?_put] at hp
    split at hp
    · cases hp
      -- The copy may be old, but it had the property when it was taken or revised.
      exact .inr (h.held handle c hc)
    · exact .inl (by rwa [Directories.stored_eq hd])
  | @take handle c d identifier hd ho =>
    exact h.hold handle (h.stored c.kind identifier c.object (by rwa [Directories.stored_eq hd]))
  | @revise handle c fields o hc hr => exact h.hold handle (hP.revised (h.held handle c hc) hr)

end All

theorem Act.declared (ha : Act g g') : g'.world.declared = g.world.declared := by
  cases ha <;> rfl

theorem Act.wellKeyed (h : g.world.directories.WellKeyed) (ha : Act g g') :
    g'.world.directories.WellKeyed := by
  cases ha with
  | tell | take | revise => exact h
  | add s hd ho hadd => exact h.set ((h _ _ hd).add hadd)
  | remove s hd hr => exact h.set ((h _ _ hd).remove hr)
  | store hc hd hu => exact h.set ((h _ _ hd).update hu)

theorem invariant_wellKeyed : Invariant fun g => g.world.directories.WellKeyed where
  act h ha := ha.wellKeyed h
  await _ h := h

variable {operations : List Operation}

/-- The property depends on the declared names, so that they stay the same is part of the invariant. -/
theorem invariant_all {declared : Kind → List String} (hP : Lasting declared P) :
    Invariant fun g => g.world.declared = declared ∧ All P g where
  act := fun ⟨hd, hall⟩ ha => ⟨ha.declared.trans hd, hall.act (hd ▸ hP) ha⟩
  await _ := fun ⟨hd, hall⟩ => ⟨hd, hall.stored, hall.held⟩

theorem All.run (h : All P g) (hP : Lasting g.world.declared P)
    (hs : ∀ p ∈ operations, p.byService) : All P (g.run operations) :=
  ((invariant_all hP).run hs ⟨rfl, h⟩).2

theorem wellKeyed_run (h : g.world.directories.WellKeyed) (hs : ∀ p ∈ operations, p.byService) :
    (g.run operations).world.directories.WellKeyed :=
  invariant_wellKeyed.run hs h

end Stage

end AccessDirectory

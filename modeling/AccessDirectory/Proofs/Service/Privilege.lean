import AccessDirectory.Proofs.Membership.Closure
import AccessDirectory.Proofs.Representation.Revision
import AccessDirectory.Proofs.Service.Lasting

/-! Nobody gains a permission through the service. Whatever stands under an identifier, and whatever a
client holds, lends what the object that first stood there lent, or nothing; so a chain of groups that
lends something was there from the start. -/

namespace AccessDirectory

/-- Whether an object lends nothing, or just what the object that first stood under its identifier
lent. -/
def Directories.Lends (first : Directories) {k : Kind} (o : k.Object) : Prop :=
  o.standing = {} ∨ ∃ i o₀, o.identifier = some i ∧ (first.stored k).get? i = some o₀ ∧
    o.standing = o₀.standing

theorem Directories.lasting_lends (first : Directories) (declared : Kind → List String) :
    Lasting declared fun _ => first.Lends where
  added := by
    intro k fields d d' o o' hc hadd
    obtain ⟨-, -, i, rfl, -⟩ := Directory.of_add_eq_ok hadd
    exact .inl (by rw [Kind.standing_setIdentifier, Kind.standing_construct hc])
  revised := by
    intro k fields o o' h hr
    obtain ⟨hi, hs⟩ := Kind.of_revise_eq_ok hr
    unfold Directories.Lends
    rw [hi, hs]
    exact h

structure Stage.Bounded (first : Directories) (g : Stage) : Prop where
  keyed : ∀ k i o, (g.world.directories.stored k).get? i = some o → o.identifier = some i
  stored : ∀ k i (o : k.Object), (g.world.directories.stored k).get? i = some o → first.Lends o
  held : ∀ handle c, g.held.get? handle = some c → first.Lends c.object

namespace Stage.Bounded
variable {first : Directories} {g g' : Stage}

theorem start {w : World} (h : w.directories.WellKeyed) :
    Bounded w.directories { world := w } where
  keyed _ _ _ ho := h.of_stored ho
  stored _ i o ho := .inr ⟨i, o, h.of_stored ho, ho, rfl⟩
  held _ _ hc := by cases hc

theorem act (h : Bounded first g) (ha : Act g g') : Bounded first g' := by
  have hkeyed : g'.world.directories.WellKeyed :=
    ha.wellKeyed (Directories.wellKeyed_iff_stored.2 h.keyed)
  have hlends : All (fun _ => first.Lends) g' :=
    All.act ⟨h.stored, h.held⟩ (first.lasting_lends _) ha
  exact ⟨Directories.wellKeyed_iff_stored.1 hkeyed, hlends.stored, hlends.held⟩

theorem invariant (first : Directories) : Invariant (Bounded first) where
  act := act
  await _ h := ⟨h.keyed, h.stored, h.held⟩

theorem first_or_empty (h : Bounded first g) {k : Kind} {i : String} {o : k.Object}
    (ho : (g.world.directories.stored k).get? i = some o) :
    o.standing = {} ∨ ∃ o₀, (first.stored k).get? i = some o₀ ∧ o.standing = o₀.standing := by
  rcases h.stored k i o ho with he | ⟨j, o₀, hj, ho₀, hs⟩
  · exact .inl he
  · have hi := h.keyed k i o ho
    rw [hj] at hi
    cases hi
    exact .inr ⟨o₀, ho₀, hs⟩

theorem reaches (h : Bounded first g) {memberships : List String} {n : String} {u : UserGroup}
    (hr : Reaches (g.world.directories.stored .userGroup) memberships n u) :
    Kind.Object.standing (k := .userGroup) u = {} ∨
      ∃ u₀ : UserGroup, Reaches (first.stored .userGroup) memberships n u₀ ∧
        Kind.Object.standing (k := .userGroup) u = Kind.Object.standing (k := .userGroup) u₀ := by
  induction hr with
  | direct hm hu =>
    rcases h.first_or_empty hu with he | ⟨u₀, hu₀, hs⟩
    · exact .inl he
    · exact .inr ⟨u₀, .direct hm hu₀, hs⟩
  | step _ hm hv ih =>
    rcases h.first_or_empty hv with he | ⟨v₀, hv₀, hs⟩
    · exact .inl he
    · -- The group before lends its memberships, so it is not empty.
      rcases ih with he | ⟨u₀, hr₀, hs₀⟩
      · rw [(Standing.mk.inj he).1] at hm
        cases hm
      · rw [(Standing.mk.inj hs₀).1] at hm
        exact .inr ⟨v₀, .step hr₀ hm hv₀, hs⟩

theorem holds (h : Bounded first g) {username : String} {before after : Permissions}
    (hb : first.effectivePermissions username = .ok before)
    (ha : g.world.directories.effectivePermissions username = .ok after) {x : Grant}
    (hx : after.holds x) : before.holds x := by
  rw [Directories.holds_effectivePermissions ha] at hx
  rw [Directories.holds_effectivePermissions hb]
  obtain ⟨u, hu, hx⟩ := hx
  rcases h.first_or_empty hu with he | ⟨u₀, hu₀, hs⟩
  · -- A user without standing holds nothing, directly or through groups.
    obtain ⟨hgroups, hpermissions⟩ := Standing.mk.inj he
    rw [hgroups, hpermissions] at hx
    rcases hx with hx | ⟨n, v, hr, -⟩
    · simp at hx
    · exact absurd hr not_reaches_nil
  · obtain ⟨hgroups, hpermissions⟩ := Standing.mk.inj hs
    rw [hgroups, hpermissions] at hx
    refine ⟨u₀, hu₀, hx.imp_right ?_⟩
    rintro ⟨n, v, hr, hv⟩
    -- A group that the memberships led to only later lends nothing.
    rcases h.reaches hr with he | ⟨v₀, hr₀, hs₀⟩
    · rw [(Standing.mk.inj he).2] at hv
      simp at hv
    · rw [(Standing.mk.inj hs₀).2] at hv
      exact ⟨n, v₀, hr₀, hv⟩

end Stage.Bounded

/-- What a user holds in effect after a run the user held before it. Directories that were filled by
additions are well keyed. -/
theorem Stage.holds_of_holds_run {w : World} (hk : w.directories.WellKeyed)
    {operations : List Operation} (hs : ∀ p ∈ operations, p.byService) {username : String}
    {before after : Permissions} (hb : w.directories.effectivePermissions username = .ok before)
    (ha : (({ world := w } : Stage).run operations).world.directories.effectivePermissions
      username = .ok after) {x : Grant} (hx : after.holds x) : before.holds x :=
  ((Bounded.invariant _).run hs (Bounded.start hk)).holds hb ha hx

/-- A user who was removed, created anew and overwritten holds a permission through the old group. -/
theorem Stage.holds_read_renewal : ∃ before after,
    Demo.world.directories.effectivePermissions Demo.member = .ok before ∧
    (({ world := Demo.world } : Stage).run Demo.renewal).world.directories.effectivePermissions
      Demo.member = .ok after ∧
    after.holds (.object .connection .read "1") ∧ before.holds (.object .connection .read "1") := by
  have first : ∃ before,
      Demo.world.directories.effectivePermissions Demo.member = .ok before := ⟨_, rfl⟩
  have last : ∃ after,
      (({ world := Demo.world } : Stage).run Demo.renewal).world.directories.effectivePermissions
        Demo.member = .ok after ∧ after.holds (.object .connection .read "1") := ⟨_, rfl, by decide⟩
  obtain ⟨before, hb⟩ := first
  obtain ⟨after, ha, hx⟩ := last
  exact ⟨before, after, hb, ha, hx,
    Stage.holds_of_holds_run Demo.wellKeyed_directories (by decide) hb ha hx⟩

end AccessDirectory

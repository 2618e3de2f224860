import AccessDirectory.Proofs.Service.Listing

/-! The permissions in effect are the closure of memberships: following them comes to an end, whatever
cycles there are and in whatever order the names come up, and leads to the same permissions. -/

namespace AccessDirectory

/-- What a user holds in effect is what the account holds or some group at the end of a chain of groups
that exist. Every pursuit of the memberships ends, and all of them find this. -/
theorem Stage.effectivePermissions_closed {g : Stage} {users : Directory .user}
    (hu : g.world.directories.get? .user = some users) (hget : users.outage .get = none)
    (hgroups : ∀ groups, g.world.directories.get? .userGroup = some groups →
      groups.outage .get = none) (i : String) :
    (WellFounded fun q p => Pursuit.Step (g.world.directories.stored .userGroup) p q) ∧
    (∀ p, (∀ q, ¬Pursuit.Step (g.world.directories.stored .userGroup) p q) → p.pending = []) ∧
    ∃ effective, g.world.directories.effectivePermissions i = .ok effective ∧
      (∀ x, effective.holds x ↔ g.world.directories.Entitles i x) ∧
      (∀ u, users.objects.get? i = some u →
        (∃ p, Pursuit.Ends (g.world.directories.stored .userGroup) u.groups p ∧
          effective = u.permissions.merged (p.found.map (·.permissions))) ∧
        ∀ p, Pursuit.Ends (g.world.directories.stored .userGroup) u.groups p →
          ∀ x, (u.permissions.merged (p.found.map (·.permissions))).holds x ↔ effective.holds x) ∧
      ∀ s k names, s.self = i → (g.perform (.list s k names)).2 = g := by
  have hall := Directories.effectivePermissions_eq hu hget hgroups i
  have hholds := Directories.holds_effectivePermissions hall
  refine ⟨Pursuit.wellFounded_step _, fun p hstuck => ?_, _, hall, hholds, fun u hfound => ?_,
    fun _ _ _ _ => rfl⟩
  · by_contra hp
    obtain ⟨q, hq⟩ := Pursuit.exists_step _ hp
    exact hstuck q hq
  · simp only [hfound] at hholds ⊢
    obtain ⟨p, hends, hgroupsOf⟩ :=
      Pursuit.exists_ends_groupsOf (g.world.directories.stored .userGroup) u.groups
    refine ⟨⟨p, hends, by rw [hgroupsOf]⟩, fun p hends x => ?_⟩
    -- Whichever way they were found, the groups are the same, if not their order.
    rw [Permissions.holds_merged, Permissions.holds_merged]
    simp only [List.mem_map, exists_exists_and_eq_and, hends.mem_found, mem_groupsOf]

namespace Demo

/-- Two groups that are members of each other, one also of itself, and both of a group that does not
exist. The second may read a connection. -/
def entangled : Directory .userGroup where
  objects := .ofList [
    ("staff", { identifier := some "staff", groups := ["staff", "nobody", group] }),
    (group, {
      identifier := some group
      groups := ["staff", "nobody"]
      permissions := { connection := ObjectPermissions.empty.add .read "1" } })]

def entanglement : Stage where
  world := { directories := { users := some users, userGroups := some entangled } }

def roundabout : Pursuit where
  pending := []
  seen := ["nobody", "staff", group]
  found := (entangled.objects.get? group).toList ++ (entangled.objects.get? "staff").toList

theorem ends_roundabout : Pursuit.Ends entangled.objects [group] roundabout := by
  have hgroup : Pursuit.Step entangled.objects ⟨[group], [], []⟩
      ⟨["nobody", "staff"], [group], (entangled.objects.get? group).toList⟩ :=
    .visit (.refl _) (by decide) rfl (by decide)
  have hstaff : Pursuit.Step entangled.objects
      ⟨["nobody", "staff"], [group], (entangled.objects.get? group).toList⟩
      ⟨["staff", "nobody", group, "nobody"], ["staff", group], roundabout.found⟩ :=
    @Pursuit.Step.visit _ _ ["nobody"] _ _ _ "staff" _ (by decide) (by decide) rfl (by decide)
  refine ⟨.head hgroup (.head hstaff ?_), rfl⟩
  refine .head (.again (.refl _) (by decide)) ?_
  refine .head (.missing (.refl _) (by decide) rfl) ?_
  refine .head (.again (.refl _) (by decide)) ?_
  exact .single (.again (.refl _) (by decide))

end Demo

theorem Stage.effectivePermissions_entanglement : ∃ effective,
    Demo.entanglement.world.directories.effectivePermissions Demo.member = .ok effective ∧
    effective.holds (.object .connection .read "1") ∧
    ¬ Demo.entanglement.world.directories.Entitles Demo.member (.system .administer) ∧
    ∀ u, Demo.users.objects.get? Demo.member = some u →
      ∀ x, (u.permissions.merged (Demo.roundabout.found.map (·.permissions))).holds x ↔
        effective.holds x := by
  have hu : Demo.entanglement.world.directories.get? .user = some Demo.users := rfl
  obtain ⟨-, -, effective, he, hholds, hsame, -⟩ := Stage.effectivePermissions_closed hu rfl
    (fun groups hg => by cases hg; rfl) Demo.member
  have hread : Demo.entanglement.world.directories.Entitles Demo.member
      (.object .connection .read "1") :=
    ⟨_, rfl, .inr ⟨Demo.group, _, .direct List.mem_cons_self rfl, by decide⟩⟩
  obtain ⟨held, hheld, hnot⟩ : ∃ held,
      Demo.entanglement.world.directories.effectivePermissions Demo.member = .ok held ∧
      ¬ held.holds (.system .administer) := ⟨_, rfl, by decide⟩
  obtain rfl : effective = held := Except.ok.inj (he.symm.trans hheld)
  refine ⟨effective, he, (hholds _).2 hread, fun h => hnot ((hholds _).2 h), fun u hfound => ?_⟩
  obtain ⟨-, hfollowed⟩ := hsame u hfound
  cases hfound
  exact hfollowed Demo.roundabout Demo.ends_roundabout

end AccessDirectory

import AccessDirectory.Proofs.Directory.Changes
import AccessDirectory.Proofs.Membership.Pursuit
import AccessDirectory.Proofs.Permission.Grant

/-! What a user holds in effect: what the account holds, and what is held by the groups that its
memberships lead to. -/

namespace AccessDirectory

namespace Directories
variable {ds : Directories}

theorem account_eq_ok {i : String} {u : Option User} (h : ds.account i = .ok u) :
    u = (ds.stored .user).get? i := by
  obtain ⟨d, hd, hu⟩ := bind_eq_ok.1 h
  rw [stored_eq (find_eq_ok.1 hd)]
  exact (Except.ok.inj (Directory.guarded_eq_ok.1 hu).2).symm

theorem inherited_eq_ok {memberships : List String} {gs : List UserGroup}
    (h : ds.inherited memberships = .ok gs) :
    gs = groupsOf (ds.stored .userGroup) memberships := by
  have hnil : groupsOf (ds.stored .userGroup) [] = [] := by
    rw [List.eq_nil_iff_forall_not_mem]
    intro g hg
    obtain ⟨n, hr⟩ := (mem_groupsOf ..).1 hg
    exact not_reaches_nil hr
  unfold inherited at h
  split at h
  next hd =>
    -- Without a directory of groups no name has a group.
    have hs : ds.stored .userGroup = ∅ := by simp [stored, get?, hd]
    rw [← Except.ok.inj h, eq_comm, List.eq_nil_iff_forall_not_mem]
    intro g hg
    obtain ⟨n, hr⟩ := (mem_groupsOf ..).1 hg
    have hn := hr.get?_eq
    rw [hs] at hn
    cases hn
  next => rw [← Except.ok.inj h, hnil]
  next d _ hd _ =>
    rw [stored_eq (k := .userGroup) hd]
    exact (Except.ok.inj (Directory.guarded_eq_ok.1 h).2).symm

theorem effectivePermissions_eq {users : Directory .user} (hu : ds.get? .user = some users)
    (hget : users.outage .get = none)
    (hgroups : ∀ groups, ds.get? .userGroup = some groups → groups.outage .get = none) (i : String) :
    ds.effectivePermissions i = .ok (match users.objects.get? i with
      | none => {}
      | some u => u.permissions.merged
        ((groupsOf (ds.stored .userGroup) u.groups).map (·.permissions))) := by
  have haccount : ds.account i = .ok (users.objects.get? i) := by
    rw [account, find_eq_ok.2 hu]
    exact Directory.guarded_eq_ok.2 ⟨hget, rfl⟩
  have hinherited : ∀ memberships,
      ds.inherited memberships = .ok (groupsOf (ds.stored .userGroup) memberships) := by
    intro memberships
    obtain ⟨gs, hgs⟩ : ∃ gs, ds.inherited memberships = .ok gs := by
      unfold inherited
      split
      · exact ⟨_, rfl⟩
      · exact ⟨_, rfl⟩
      next hg _ => exact ⟨_, Directory.guarded_eq_ok.2 ⟨hgroups _ hg, rfl⟩⟩
    rw [hgs, inherited_eq_ok hgs]
  rw [effectivePermissions, haccount]
  cases users.objects.get? i with
  | none => rfl
  | some u =>
    simp only [bind, Except.bind, hinherited]
    rfl

theorem holds_effectivePermissions {i : String} {p : Permissions}
    (h : ds.effectivePermissions i = .ok p) (x : Grant) :
    p.holds x ↔ ∃ u, (ds.stored .user).get? i = some u ∧
      (u.permissions.holds x ∨
        ∃ n g, Reaches (ds.stored .userGroup) u.groups n g ∧ g.permissions.holds x) := by
  obtain ⟨found, ha, h⟩ := bind_eq_ok.1 h
  rw [← account_eq_ok ha]
  cases found with
  | none =>
    cases h
    simp
  | some u =>
    obtain ⟨gs, hi, h⟩ := bind_eq_ok.1 h
    cases h
    rw [inherited_eq_ok hi, Permissions.holds_merged]
    simp only [List.mem_map, exists_exists_and_eq_and, mem_groupsOf, Option.some.injEq,
      exists_eq_left']
    constructor
    · rintro (hu | ⟨g, ⟨n, hr⟩, hg⟩)
      · exact .inl hu
      · exact .inr ⟨n, g, hr, hg⟩
    · rintro (hu | ⟨n, g, hr, hg⟩)
      · exact .inl hu
      · exact .inr ⟨g, ⟨n, hr⟩, hg⟩

end Directories

end AccessDirectory

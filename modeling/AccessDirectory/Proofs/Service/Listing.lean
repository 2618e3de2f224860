import AccessDirectory.Proofs.Membership.Closure
import AccessDirectory.Proofs.Permission.Naming
import AccessDirectory.Proofs.Service.Act
import Mathlib.Data.List.Nodup

/-! A listing filtered by permissions is exact: it shows the stored objects on which the caller holds one
of the permissions named, each under its identifier, and all of them to an administrator. -/

namespace AccessDirectory

namespace Directories
variable {ds : Directories}

theorem Faultless.exists_effectivePermissions (h : ds.Faultless) {users : Directory .user}
    (hu : ds.get? .user = some users) (i : String) :
    ∃ effective, ds.effectivePermissions i = .ok effective :=
  ⟨_, effectivePermissions_eq hu (h _ _ hu .get) (fun _ hg => h _ _ hg .get) i⟩

/-- What a user may do: what the account allows, or a group that its memberships lead to. -/
def Entitles (ds : Directories) (username : String) (x : Grant) : Prop :=
  ∃ u : User, (ds.stored .user).get? username = some u ∧
    (u.permissions.holds x ∨
      ∃ n g, Reaches (ds.stored .userGroup) u.groups n g ∧ g.permissions.holds x)

end Directories

namespace World
variable {k : Kind}

theorem exists_visible (effective : Permissions) (k : Kind) {names : List String}
    (hn : ∀ n ∈ names, ∃ p : ObjectPermission, p.Named n) {ids : List String} (hids : ids.Nodup) :
    ∃ seen, visible effective k (names.map .str) ids = .ok seen ∧ seen.Nodup ∧
      ∀ i, i ∈ seen ↔ i ∈ ids ∧ (names = [] ∨ effective.holds (.system .administer) ∨
        ∃ n ∈ names, ∃ p : ObjectPermission, p.Named n ∧ effective.holds (.object k p i)) := by
  by_cases hall : (effective.isAdministrator || (names.map Json.str).isEmpty) = true
  · have hsees : names = [] ∨ effective.holds (.system .administer) := by
      simpa [Permissions.isAdministrator, Permissions.holds, or_comm] using hall
    refine ⟨ids, if_pos hall, hids, fun i => ?_⟩
    rcases hsees with h | h <;> simp [h]
  · have hsees : names ≠ [] ∧ effective.holds (.system .administer) = false := by
      simpa [Permissions.isAdministrator, Permissions.holds, and_comm] using hall
    obtain ⟨ps, hps, hmem⟩ := ObjectPermission.exists_mapM_ofJson hn
    refine ⟨(effective.on k).accessible ps ids, ?_, nodup_eraseDups _, fun i => ?_⟩
    · rw [visible, if_neg hall, ObjectPermissions.accessibleNamed, hps]
      rfl
    · have hsome : (∃ p ∈ ps, (effective.on k).has p i) ↔
          ∃ n ∈ names, ∃ p : ObjectPermission, p.Named n ∧ effective.holds (.object k p i) := by
        simp only [hmem]
        constructor
        · rintro ⟨p, ⟨n, hin, hp⟩, hh⟩
          exact ⟨n, hin, p, hp, hh⟩
        · rintro ⟨n, hin, p, hp, hh⟩
          exact ⟨p, ⟨n, hin, hp⟩, hh⟩
      rw [ObjectPermissions.mem_accessible, hsome]
      simp [hsees.1, hsees.2]

theorem lookup_representAll {d : Directory k} (hk : d.WellKeyed) {ids : List String}
    (hids : ids.Nodup) :
    ((representAll (ids.filterMap d.objects.get?)).map (·.1)).Nodup ∧
      ∀ i v, (representAll (ids.filterMap d.objects.get?)).lookup i = some v ↔
        i ∈ ids ∧ ∃ o, d.objects.get? i = some o ∧ v = .obj (Kind.represent o) := by
  -- An object carries the identifier that it was fetched by, so the keys of the answer are the ids.
  have hentry : ∀ i, (d.objects.get? i).map
        (fun o => ((Kind.Object.identifier o).getD "", Json.obj (Kind.represent o))) =
      (d.objects.get? i).map fun o => (i, Json.obj (Kind.represent o)) := by
    intro i
    cases ho : d.objects.get? i with
    | none => rfl
    | some o => simp [hk i o ho]
  have hshown : representAll (ids.filterMap d.objects.get?) =
      ids.filterMap fun i => (d.objects.get? i).map fun o => (i, Json.obj (Kind.represent o)) := by
    simp only [representAll, List.map_filterMap, hentry]
  have hdistinct : ((representAll (ids.filterMap d.objects.get?)).map (·.1)).Nodup := by
    rw [hshown, List.map_filterMap]
    refine hids.filterMap ?_
    intro i j key hi hj
    simp only [Option.map_map, Option.mem_def, Option.map_eq_some_iff] at hi hj
    obtain ⟨o, -, hi⟩ := hi
    obtain ⟨o', -, hj⟩ := hj
    exact hi.trans hj.symm
  refine ⟨hdistinct, fun i v => ?_⟩
  have hmem : (representAll (ids.filterMap d.objects.get?)).lookup i = some v ↔
      (i, v) ∈ representAll (ids.filterMap d.objects.get?) :=
    Table.get?_eq_some_iff ⟨_, hdistinct⟩ i v
  rw [hmem, hshown, List.mem_filterMap]
  constructor
  · rintro ⟨j, hj, h⟩
    obtain ⟨o, ho, h⟩ := Option.map_eq_some_iff.1 h
    obtain ⟨rfl, rfl⟩ := Prod.mk.inj h
    exact ⟨hj, o, ho, rfl⟩
  · rintro ⟨hi, o, ho, rfl⟩
    exact ⟨i, hi, Option.map_eq_some_iff.2 ⟨o, ho, rfl⟩⟩

end World

/-- Listing a well-keyed directory answers with a map that shows exactly the stored objects that the
caller may see, and does nothing else. -/
theorem Stage.perform_list {g : Stage} (hf : g.world.directories.Faultless)
    {users : Directory .user} (hu : g.world.directories.get? .user = some users) {k : Kind}
    {d : Directory k} (hd : g.world.directories.get? k = some d) (hk : d.WellKeyed) (s : Session)
    {names : List String} (hn : ∀ n ∈ names, ∃ p : ObjectPermission, p.Named n) :
    ∃ effective shown,
      g.world.directories.effectivePermissions s.self = .ok effective ∧
      (∀ x, effective.holds x ↔ g.world.directories.Entitles s.self x) ∧
      g.perform (.list s k (names.map .str)) = (.ok (.obj shown), g) ∧
      (shown.map (·.1)).Nodup ∧
      ∀ i v, shown.lookup i = some v ↔
        ∃ o, d.objects.get? i = some o ∧ v = .obj (Kind.represent o) ∧
          (names = [] ∨ effective.holds (.system .administer) ∨
            ∃ n ∈ names, ∃ p : ObjectPermission, p.Named n ∧ effective.holds (.object k p i)) := by
  have hall : ∀ method, d.outage method = none := hf k d hd
  obtain ⟨effective, he⟩ := hf.exists_effectivePermissions hu s.self
  have hkeys : d.objects.keys.Nodup := d.objects.distinct
  obtain ⟨seen, hv, hnodup, hmem⟩ := World.exists_visible effective k hn hkeys
  obtain ⟨hdistinct, hlookup⟩ := World.lookup_representAll hk hnodup
  have hids : d.identifiers = .ok d.objects.keys := Directory.guarded_of_faultless hall ..
  have hget : d.getAll seen = .ok (seen.filterMap d.objects.get?) :=
    Directory.guarded_of_faultless hall ..
  refine ⟨effective, World.representAll (seen.filterMap d.objects.get?), he,
    Directories.holds_effectivePermissions he, ?_, hdistinct, fun i v => ?_⟩
  · simp only [Stage.perform, World.list, Directories.find_eq_ok.2 hd, he, hids, hv, hget, bind,
      Except.bind]
    rfl
  · rw [hlookup, hmem]
    constructor
    · rintro ⟨⟨-, hsees⟩, o, ho, hshown⟩
      exact ⟨o, ho, hshown, hsees⟩
    · rintro ⟨o, ho, hshown, hsees⟩
      -- Only identifiers in use are asked about, which a stored object's is.
      have hin : i ∈ d.objects.keys := by
        rw [← Table.contains_iff, Table.contains, ho]
        rfl
      exact ⟨⟨hin, hsees⟩, o, ho, hshown⟩

theorem Stage.perform_list_member : ∃ shown,
    ({ world := { directories := Demo.directories } } : Stage).perform
        (.list (Demo.session Demo.member) .connection (["READ", "WRITE"].map .str)) =
      (.ok (.obj shown), { world := { directories := Demo.directories } }) ∧
    shown.lookup "1" = (Demo.connections.objects.get? "1").map
      (fun o => .obj (Kind.represent (k := .connection) o)) ∧
    shown.lookup "2" = none := by
  have hn : ∀ n ∈ ["READ", "WRITE"], ∃ p : ObjectPermission, p.Named n := by
    intro n hn
    simp only [List.mem_cons, List.not_mem_nil, or_false] at hn
    rcases hn with rfl | rfl
    · exact ⟨.read, .inl rfl⟩
    · exact ⟨.update, .inr ⟨rfl, rfl⟩⟩
  have hu : Demo.directories.get? .user = some Demo.users := rfl
  have hd : Demo.directories.get? .connection = some Demo.connections := rfl
  have hk : Demo.connections.WellKeyed := Demo.wellKeyed_directories .connection _ hd
  obtain ⟨effective, shown, he, -, hs, -, hlookup⟩ := Stage.perform_list
    (g := { world := { directories := Demo.directories } }) Demo.faultless_directories hu hd hk
    (Demo.session Demo.member) hn
  obtain ⟨held, hheld, hread, hsystem, hother⟩ : ∃ held,
      Demo.directories.effectivePermissions Demo.member = .ok held ∧
      held.holds (.object .connection .read "1") ∧ ¬ held.holds (.system .administer) ∧
      ∀ p, ¬ held.holds (.object .connection p "2") :=
    ⟨_, rfl, by decide, by decide, fun p => by cases p <;> decide⟩
  obtain rfl : effective = held := Except.ok.inj (he.symm.trans hheld)
  refine ⟨shown, hs, ?_, ?_⟩
  · exact (hlookup "1" _).2 ⟨_, rfl, rfl, .inr (.inr ⟨"READ", by decide, .read, .inl rfl, hread⟩)⟩
  · rw [Option.eq_none_iff_forall_ne_some]
    intro v hv
    obtain ⟨o, -, -, hsees⟩ := (hlookup "2" v).1 hv
    rcases hsees with h | h | ⟨n, -, p, -, h⟩
    · cases h
    · exact hsystem h
    · exact hother p h

end AccessDirectory

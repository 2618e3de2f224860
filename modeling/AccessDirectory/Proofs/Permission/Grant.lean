import AccessDirectory.Permission
import Mathlib.Logic.Basic

/-! The single permissions that a set of permissions holds. A union holds what one of its parts holds,
each permission for the same objects as there. -/

namespace AccessDirectory

inductive Grant
  | system (p : SystemPermission)
  | object (k : Kind) (p : ObjectPermission) (identifier : String)
deriving DecidableEq, Repr

theorem nodup_eraseDups (l : List String) : l.eraseDups.Nodup := by
  cases l with
  | nil => exact List.nodup_nil
  | cons a rest =>
    rw [List.eraseDups_cons, List.nodup_cons]
    exact ⟨by simp, nodup_eraseDups _⟩
termination_by l.length
decreasing_by
  have := List.length_filter_le (fun b => !b == a) rest
  rw [List.length_cons]
  omega

namespace ObjectPermissions

theorem mem_pairs {s : ObjectPermissions} {p : ObjectPermission} {i : String} :
    (p, i) ∈ s.pairs ↔ s.has p i := by
  simp only [pairs, List.mem_flatMap, List.mem_map, Prod.mk.injEq]
  constructor
  · rintro ⟨⟨key, ps⟩, hmem, q, hq, rfl, rfl⟩
    have hget : s.grants.get? key = some ps := (Table.get?_eq_some_iff ..).2 hmem
    simpa [has, on, hget] using hq
  · intro h
    cases hget : s.grants.get? i with
    | none => simp [has, on, hget] at h
    | some ps =>
      refine ⟨(i, ps), (Table.get?_eq_some_iff ..).1 hget, p, ?_, rfl, rfl⟩
      simpa [has, on, hget] using h

theorem has_addAll (s : ObjectPermissions) (grants : List (ObjectPermission × String))
    (p : ObjectPermission) (i : String) :
    (s.addAll grants).has p i ↔ s.has p i ∨ (p, i) ∈ grants := by
  induction grants generalizing s with
  | nil => simp [addAll]
  | cons g rest ih =>
    have h := ih (s.add g.1 g.2)
    rw [has_add] at h
    simpa [addAll, Prod.ext_iff, or_assoc] using h

theorem has_merged (s : ObjectPermissions) (others : List ObjectPermissions) (p : ObjectPermission)
    (i : String) : (s.merged others).has p i ↔ s.has p i ∨ ∃ t ∈ others, t.has p i := by
  have hempty : empty.has p i = false := rfl
  rw [merged, has_addAll]
  simp [hempty, mem_pairs]

end ObjectPermissions

namespace Permissions

def holds (p : Permissions) : Grant → Bool
  | .system q => p.system.contains q
  | .object k q i => (p.on k).has q i

theorem mem_mergeSystem (first : List SystemPermission) (others : List (List SystemPermission))
    (p : SystemPermission) : p ∈ mergeSystem first others ↔ p ∈ first ∨ ∃ o ∈ others, p ∈ o := by
  have key : ∀ all s : List SystemPermission,
      p ∈ all.foldl (fun s p => s.insert p) s ↔ p ∈ s ∨ p ∈ all := by
    intro all
    induction all with
    | nil => simp
    | cons q rest ih =>
      intro s
      simp [ih, List.mem_insert_iff, or_left_comm, or_assoc, or_comm]
  rw [mergeSystem, key]
  simp

theorem on_merged (p : Permissions) (others : List Permissions) (k : Kind) :
    (p.merged others).on k = (p.on k).merged (others.map (·.on k)) := by cases k <;> rfl

theorem holds_merged (p : Permissions) (others : List Permissions) (x : Grant) :
    (p.merged others).holds x ↔ p.holds x ∨ ∃ q ∈ others, q.holds x := by
  cases x with
  | system q => simp [holds, merged, mem_mergeSystem]
  | object k q i =>
    rw [holds, on_merged, ObjectPermissions.has_merged]
    simp [holds]

@[simp] theorem holds_nothing (x : Grant) : ({} : Permissions).holds x = false := by
  cases x with
  | system => rfl
  | object k => cases k <;> rfl

end Permissions

end AccessDirectory

import AccessDirectory.Membership
import Mathlib.Algebra.Order.BigOperators.Group.List
import Mathlib.Algebra.Order.Group.Nat
import Mathlib.Logic.Relation

/-! Memberships followed from group to group. In whatever order the names come up, a pursuit ends after
finitely many steps, and has then found exactly the groups at the end of a chain of groups that exist,
whatever cycles there are. -/

namespace AccessDirectory

/-- A group at the end of a chain of groups that exist, which begins with one of the memberships. -/
inductive Reaches (groups : Table UserGroup) (memberships : List String) :
    String → UserGroup → Prop
  | direct {name : String} {g : UserGroup} (hm : name ∈ memberships)
      (hg : groups.get? name = some g) : Reaches groups memberships name g
  | step {name next : String} {g h : UserGroup} (hr : Reaches groups memberships name g)
      (hm : next ∈ g.groups) (hg : groups.get? next = some h) : Reaches groups memberships next h

namespace Reaches
variable {groups : Table UserGroup} {memberships pending : List String} {name n : String}
  {g h : UserGroup}

theorem get?_eq (hr : Reaches groups memberships name g) : groups.get? name = some g := by
  cases hr with
  | direct _ hg => exact hg
  | step _ _ hg => exact hg

theorem mono {more : List String} (hr : Reaches groups memberships name g)
    (hsub : ∀ m ∈ memberships, m ∈ more) : Reaches groups more name g := by
  induction hr with
  | direct hm hg => exact .direct (hsub _ hm) hg
  | step _ hm hg ih => exact .step ih hm hg

theorem of_cons_of_none (hr : Reaches groups (name :: pending) n g)
    (hn : groups.get? name = none) : Reaches groups pending n g := by
  induction hr with
  | direct hm hg =>
    rcases List.mem_cons.1 hm with rfl | hm
    · rw [hn] at hg
      cases hg
    · exact .direct hm hg
  | step _ hm hg ih => exact .step ih hm hg

/-- A chain that leads past a group can be cut off before its last visit there. -/
theorem of_cons_of_some (hr : Reaches groups (name :: pending) n h)
    (hn : groups.get? name = some g) :
    (n = name ∧ h = g) ∨ Reaches (groups.erase name) (g.groups ++ pending) n h := by
  have kept : ∀ {m u}, groups.get? m = some u → m ≠ name →
      (groups.erase name).get? m = some u := by
    intro m u hu hm
    rw [Table.get?_erase, if_neg hm, hu]
  induction hr with
  | @direct m u hm hu =>
    by_cases hmn : m = name
    · subst hmn
      exact .inl ⟨rfl, Option.some.inj (hu.symm.trans hn)⟩
    · have hp : m ∈ pending := (List.mem_cons.1 hm).resolve_left hmn
      exact .inr (.direct (List.mem_append_right _ hp) (kept hu hmn))
  | @step m next u v _ hm hv ih =>
    by_cases hmn : next = name
    · subst hmn
      exact .inl ⟨rfl, Option.some.inj (hv.symm.trans hn)⟩
    · rcases ih with ⟨-, rfl⟩ | ih
      · exact .inr (.direct (List.mem_append_left _ hm) (kept hv hmn))
      · exact .inr (.step ih hm (kept hv hmn))

/-- Whatever the groups of a group lead to, the group itself leads to. -/
theorem cons_of_erase (hr : Reaches (groups.erase name) (g.groups ++ pending) n h)
    (hn : groups.get? name = some g) : Reaches groups (name :: pending) n h := by
  have kept : ∀ {m u}, (groups.erase name).get? m = some u → groups.get? m = some u := by
    intro m u hu
    rw [Table.get?_erase] at hu
    split at hu
    · cases hu
    · exact hu
  induction hr with
  | direct hm hu =>
    rcases List.mem_append.1 hm with hm | hm
    · exact .step (.direct List.mem_cons_self hn) hm (kept hu)
    · exact .direct (List.mem_cons_of_mem _ hm) (kept hu)
  | step _ hm hu ih => exact .step ih hm (kept hu)

end Reaches

theorem not_reaches_nil {groups : Table UserGroup} {n : String} {g : UserGroup} :
    ¬ Reaches groups [] n g := by
  intro hr
  generalize hm : ([] : List String) = memberships at hr
  induction hr with
  | direct hn =>
    subst hm
    cases hn
  | step _ _ _ ih => exact ih

theorem visitsLeft_erase {groups : Table UserGroup} {name : String} {g : UserGroup}
    (h : groups.get? name = some g) (pending : List String) :
    visitsLeft (groups.erase name) (g.groups ++ pending) < visitsLeft groups (name :: pending) := by
  have sum_le : ∀ entries : List (String × UserGroup), entries.lookup name = some g →
      ((entries.filter (·.1 ≠ name)).map (·.2.groups.length)).sum + g.groups.length ≤
        (entries.map (·.2.groups.length)).sum := by
    intro entries
    induction entries with
    | nil => simp
    | cons entry rest ih =>
      intro hl
      by_cases he : entry.1 = name
      · have hg : entry.2 = g := by grind
        have hsub : ((rest.filter (·.1 ≠ name)).map (·.2.groups.length)).sum ≤
            (rest.map (·.2.groups.length)).sum :=
          (List.filter_sublist.map _).sum_le_sum fun _ _ => Nat.zero_le _
        simp [he, hg] at hsub ⊢
        omega
      · have := ih (by grind)
        simp [he] at this ⊢
        omega
  have left_eq : ∀ (t : Table UserGroup) (names : List String), visitsLeft t names =
      names.length + (t.entries.map (·.2.groups.length)).sum := fun _ _ => rfl
  have := sum_le groups.entries h
  simp only [left_eq, Table.erase, List.length_append, List.length_cons]
  omega

/-- How far memberships have been followed: the names to be looked at, those that have been, and the
groups found. -/
structure Pursuit where
  pending : List String
  seen : List String := []
  found : List UserGroup := []

namespace Pursuit
variable {groups : Table UserGroup} {memberships pending rest next seen found : List String}
  {name : String} {g h : UserGroup} {p q : Pursuit}

/-- Any of the pending names is looked at, and the names to which a group leads are added in any order. -/
inductive Step (groups : Table UserGroup) : Pursuit → Pursuit → Prop
  | again {pending rest seen : List String} {found : List UserGroup} {name : String}
      (hp : pending.Perm (name :: rest)) (hs : name ∈ seen) :
      Step groups ⟨pending, seen, found⟩ ⟨rest, seen, found⟩
  | missing {pending rest seen : List String} {found : List UserGroup} {name : String}
      (hp : pending.Perm (name :: rest)) (hs : name ∉ seen) (hg : groups.get? name = none) :
      Step groups ⟨pending, seen, found⟩ ⟨rest, name :: seen, found⟩
  | visit {pending rest next seen : List String} {found : List UserGroup} {name : String}
      {g : UserGroup} (hp : pending.Perm (name :: rest)) (hs : name ∉ seen)
      (hg : groups.get? name = some g) (hn : next.Perm (g.groups ++ rest)) :
      Step groups ⟨pending, seen, found⟩ ⟨next, name :: seen, found ++ [g]⟩

def Ends (groups : Table UserGroup) (memberships : List String) (p : Pursuit) : Prop :=
  Relation.ReflTransGen (Step groups) { pending := memberships } p ∧ p.pending = []

def unseen (groups : Table UserGroup) (seen : List String) : Table UserGroup :=
  groups.filter fun name _ => !seen.contains name

theorem unseen_nil (groups : Table UserGroup) : unseen groups [] = groups := by
  apply Table.ext
  simp [unseen, Table.filter]

theorem unseen_cons (groups : Table UserGroup) (name : String) (seen : List String) :
    unseen groups (name :: seen) = (unseen groups seen).erase name := by
  apply Table.ext
  simp only [unseen, Table.filter, Table.erase, List.filter_filter]
  congr 1
  funext e
  simp

theorem get?_unseen (groups : Table UserGroup) (seen : List String) (name : String) :
    (unseen groups seen).get? name = if name ∈ seen then none else groups.get? name := by
  have h := lookup_filter (fun name => !seen.contains name) name groups.entries
  simpa [Table.get?, unseen, Table.filter] using h

theorem erase_unseen (hn : (unseen groups seen).get? name = none) :
    (unseen groups seen).erase name = unseen groups seen := by
  have hkeys : name ∉ (unseen groups seen).keys := (Table.get?_eq_none_iff ..).1 hn
  apply Table.ext
  apply List.filter_eq_self.2
  intro e he
  have hne : e.1 ≠ name := by
    rintro rfl
    exact hkeys (List.mem_map_of_mem he)
  exact decide_eq_true hne

theorem visitsLeft_perm (groups : Table UserGroup) (hp : pending.Perm rest) :
    visitsLeft groups pending = visitsLeft groups rest := by
  rw [visitsLeft, visitsLeft, hp.length_eq]

theorem visitsLeft_cons (groups : Table UserGroup) (name : String) (rest : List String) :
    visitsLeft groups (name :: rest) = visitsLeft groups rest + 1 := by
  simp only [visitsLeft, List.length_cons]
  omega

theorem visitsLeft_step (hs : Step groups p q) :
    visitsLeft (unseen groups q.seen) q.pending < visitsLeft (unseen groups p.seen) p.pending := by
  cases hs with
  | again hp _ =>
    dsimp only
    rw [visitsLeft_perm _ hp, visitsLeft_cons]
    exact Nat.lt_succ_self _
  | @missing pending rest seen found name hp hs hg =>
    have hn : (unseen groups seen).get? name = none := by rw [get?_unseen, if_neg hs, hg]
    dsimp only
    rw [unseen_cons, erase_unseen hn, visitsLeft_perm _ hp, visitsLeft_cons]
    exact Nat.lt_succ_self _
  | @visit pending rest next seen found name g hp hs hg hn =>
    have hsome : (unseen groups seen).get? name = some g := by rw [get?_unseen, if_neg hs, hg]
    dsimp only
    rw [unseen_cons, visitsLeft_perm _ hn, visitsLeft_perm _ hp]
    exact visitsLeft_erase hsome rest

/-- No pursuit goes on for ever. -/
theorem wellFounded_step (groups : Table UserGroup) : WellFounded fun q p => Step groups p q :=
  Subrelation.wf visitsLeft_step
    (measure fun p : Pursuit => visitsLeft (unseen groups p.seen) p.pending).wf

theorem exists_step (groups : Table UserGroup) (hp : p.pending ≠ []) : ∃ q, Step groups p q := by
  obtain ⟨pending, seen, found⟩ := p
  obtain ⟨name, rest, rfl⟩ := List.exists_cons_of_ne_nil hp
  by_cases hs : name ∈ seen
  · exact ⟨_, .again (.refl _) hs⟩
  · cases hg : groups.get? name with
    | none => exact ⟨_, .missing (.refl _) hs hg⟩
    | some g => exact ⟨_, .visit (.refl _) hs hg (.refl _)⟩

/-- What the memberships lead to has been found, or what is pending leads to it past no name that has
been looked at. -/
def Covers (groups : Table UserGroup) (memberships : List String) (p : Pursuit) : Prop :=
  ∀ h, (∃ n, Reaches groups memberships n h) ↔
    h ∈ p.found ∨ ∃ n, Reaches (unseen groups p.seen) p.pending n h

theorem exists_reaches_perm (hp : pending.Perm rest) :
    (∃ n, Reaches groups pending n h) ↔ ∃ n, Reaches groups rest n h := by
  constructor
  · rintro ⟨n, hr⟩
    exact ⟨n, hr.mono fun _ hm => hp.subset hm⟩
  · rintro ⟨n, hr⟩
    exact ⟨n, hr.mono fun _ hm => hp.symm.subset hm⟩

theorem exists_reaches_cons_of_none (hn : groups.get? name = none) :
    (∃ n, Reaches groups (name :: rest) n h) ↔ ∃ n, Reaches groups rest n h := by
  constructor
  · rintro ⟨n, hr⟩
    exact ⟨n, hr.of_cons_of_none hn⟩
  · rintro ⟨n, hr⟩
    exact ⟨n, hr.mono fun _ hm => List.mem_cons_of_mem _ hm⟩

theorem exists_reaches_cons_of_some (hn : groups.get? name = some g) :
    (∃ n, Reaches groups (name :: rest) n h) ↔
      h = g ∨ ∃ n, Reaches (groups.erase name) (g.groups ++ rest) n h := by
  constructor
  · rintro ⟨n, hr⟩
    rcases hr.of_cons_of_some hn with ⟨-, rfl⟩ | hr
    · exact .inl rfl
    · exact .inr ⟨n, hr⟩
  · rintro (rfl | ⟨n, hr⟩)
    · exact ⟨name, .direct List.mem_cons_self hn⟩
    · exact ⟨n, hr.cons_of_erase hn⟩

theorem covers_start (groups : Table UserGroup) (memberships : List String) :
    Covers groups memberships { pending := memberships } := by
  intro h
  simp [unseen_nil]

theorem Covers.step (hc : Covers groups memberships p) (hs : Step groups p q) :
    Covers groups memberships q := by
  intro h
  rw [hc h]
  cases hs with
  | @again pending rest seen found name hp hs =>
    have hn : (unseen groups seen).get? name = none := by rw [get?_unseen, if_pos hs]
    rw [exists_reaches_perm hp, exists_reaches_cons_of_none hn]
  | @missing pending rest seen found name hp hs hg =>
    have hn : (unseen groups seen).get? name = none := by rw [get?_unseen, if_neg hs, hg]
    rw [exists_reaches_perm hp, exists_reaches_cons_of_none hn, unseen_cons, erase_unseen hn]
  | @visit pending rest next seen found name g hp hs hg hn =>
    have hsome : (unseen groups seen).get? name = some g := by rw [get?_unseen, if_neg hs, hg]
    rw [exists_reaches_perm hp, exists_reaches_cons_of_some hsome, unseen_cons,
      exists_reaches_perm hn, List.mem_append, List.mem_singleton, or_assoc]

theorem Covers.steps (hc : Covers groups memberships p)
    (hs : Relation.ReflTransGen (Step groups) p q) : Covers groups memberships q := by
  induction hs with
  | refl => exact hc
  | tail _ hs ih => exact ih.step hs

theorem Ends.mem_found (hp : Ends groups memberships p) (g : UserGroup) :
    g ∈ p.found ↔ ∃ n, Reaches groups memberships n g := by
  obtain ⟨hsteps, hnil⟩ := hp
  have hc := (covers_start groups memberships).steps hsteps
  rw [hc g, hnil]
  simp [not_reaches_nil]

/-- Taking groups out of the table when they are visited is a pursuit that takes the names from the front. -/
theorem exists_steps_reachedGroups {fuel : Nat} {seen pending : List String}
    (hfuel : visitsLeft (unseen groups seen) pending ≤ fuel) (found : List UserGroup) :
    ∃ seen', Relation.ReflTransGen (Step groups) ⟨pending, seen, found⟩
      ⟨[], seen', found ++ reachedGroups fuel (unseen groups seen) pending⟩ := by
  induction fuel generalizing seen pending found with
  | zero =>
    have hp : pending = [] := by
      unfold visitsLeft at hfuel
      exact List.length_eq_zero_iff.1 (by omega)
    subst hp
    exact ⟨seen, by simpa [reachedGroups] using Relation.ReflTransGen.refl⟩
  | succ fuel ih =>
    cases pending with
    | nil => exact ⟨seen, by simpa [reachedGroups] using Relation.ReflTransGen.refl⟩
    | cons name rest =>
      cases hn : (unseen groups seen).get? name with
      | none =>
        have hless : visitsLeft (unseen groups seen) rest ≤ fuel := by
          rw [visitsLeft_cons] at hfuel
          omega
        have hreached : reachedGroups (fuel + 1) (unseen groups seen) (name :: rest) =
            reachedGroups fuel (unseen groups seen) rest := by simp only [reachedGroups, hn]
        rw [hreached]
        -- The name leads nowhere for one of two reasons: it was visited before, or no group has it.
        by_cases hs : name ∈ seen
        · obtain ⟨seen', hsteps⟩ := ih hless found
          exact ⟨seen', .head (.again (.refl _) hs) hsteps⟩
        · have hg : groups.get? name = none := by rwa [get?_unseen, if_neg hs] at hn
          have hsame : unseen groups (name :: seen) = unseen groups seen := by
            rw [unseen_cons, erase_unseen hn]
          have hless' : visitsLeft (unseen groups (name :: seen)) rest ≤ fuel := by rwa [hsame]
          obtain ⟨seen', hsteps⟩ := ih hless' found
          rw [hsame] at hsteps
          exact ⟨seen', .head (.missing (.refl _) hs hg) hsteps⟩
      | some g =>
        have hless : visitsLeft (unseen groups (name :: seen)) (g.groups ++ rest) ≤ fuel := by
          have := visitsLeft_erase hn rest
          rw [unseen_cons]
          omega
        have hreached : reachedGroups (fuel + 1) (unseen groups seen) (name :: rest) =
            g :: reachedGroups fuel (unseen groups (name :: seen)) (g.groups ++ rest) := by
          simp only [reachedGroups, hn, unseen_cons]
        obtain ⟨hs, hg⟩ : name ∉ seen ∧ groups.get? name = some g := by
          rw [get?_unseen] at hn
          split at hn
          · cases hn
          next hs => exact ⟨hs, hn⟩
        obtain ⟨seen', hsteps⟩ := ih hless (found ++ [g])
        rw [List.append_assoc, List.singleton_append, ← hreached] at hsteps
        exact ⟨seen', .head (.visit (.refl _) hs hg (.refl _)) hsteps⟩

theorem exists_ends_groupsOf (groups : Table UserGroup) (memberships : List String) :
    ∃ p, Ends groups memberships p ∧ p.found = groupsOf groups memberships := by
  have hfuel : visitsLeft (unseen groups []) memberships ≤ visitsLeft groups memberships := by
    rw [unseen_nil]
  obtain ⟨seen, hsteps⟩ := exists_steps_reachedGroups hfuel []
  rw [List.nil_append, unseen_nil] at hsteps
  exact ⟨_, ⟨hsteps, rfl⟩, rfl⟩

end Pursuit

theorem mem_groupsOf (groups : Table UserGroup) (memberships : List String) (g : UserGroup) :
    g ∈ groupsOf groups memberships ↔ ∃ n, Reaches groups memberships n g := by
  obtain ⟨p, hp, hfound⟩ := Pursuit.exists_ends_groupsOf groups memberships
  rw [← hfound, hp.mem_found]

end AccessDirectory

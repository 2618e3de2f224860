import AccessDirectory.Proofs.Directory.Changes
import Mathlib.Data.List.Chain
import Mathlib.Data.List.Nodup
import Mathlib.Data.List.Perm.Subperm
import Std.Data.String.ToInt

/-! Whether an object stands under an identifier decides what may be done to it, and is all that decides.
An identifier that a directory assigns is one under which nothing stands. -/

namespace AccessDirectory

inductive Deed
  | addition
  | removal
  | update
deriving DecidableEq, Repr

namespace Deed

def failure? (i : String) : (present : Bool) → Deed → Option Failure
  | true, addition => some (.alreadyExists i)
  | false, removal | false, update => some (.notFound (some i))
  | _, _ => none

def leaves (present : Bool) : Deed → Bool
  | addition => true
  | removal => false
  | update => present

theorem leaves_of_failure {i : String} {present : Bool} {deed : Deed} {f : Failure}
    (h : deed.failure? i present = some f) : deed.leaves present = present := by
  cases deed <;> cases present <;> first | rfl | cases h

end Deed

structure Trial where
  deed : Deed
  failure : Option Failure
deriving DecidableEq

namespace Trial

def changes (t : Trial) : Bool := t.failure.isNone && t.deed ≠ .update

/-- Whether an object stands under an identifier after some attempts: the last change was an addition,
or there was none and one stood there before. -/
def stands (present : Bool) (trials : List Trial) : Bool :=
  match (trials.filter changes).getLast? with
  | some t => t.deed = .addition
  | none => present

/-- Each attempt in its turn fails if and as it must, and what stands in the end follows from all. -/
inductive Conform (i : String) : (before : Bool) → List Trial → (after : Bool) → Prop
  | nil {present : Bool} : Conform i present [] present
  | cons {present after : Bool} {t : Trial} {rest : List Trial}
      (ht : t.failure = t.deed.failure? i present)
      (h : Conform i (t.deed.leaves present) rest after) : Conform i present (t :: rest) after

namespace Conform
variable {i : String} {present middle after : Bool} {t : Trial} {trials later : List Trial}

theorem append (h : Conform i present trials middle) (h' : Conform i middle later after) :
    Conform i present (trials ++ later) after := by
  induction h with
  | nil => exact h'
  | cons ht _ ih => exact .cons ht (ih h')

theorem of_append (h : Conform i present (trials ++ later) after) :
    ∃ middle, Conform i present trials middle ∧ Conform i middle later after := by
  induction trials generalizing present with
  | nil => exact ⟨present, .nil, h⟩
  | cons t rest ih =>
    cases h with
    | cons ht h =>
      obtain ⟨middle, hfirst, hlater⟩ := ih h
      exact ⟨middle, .cons ht hfirst, hlater⟩

theorem leaves_eq (ht : t.failure = t.deed.failure? i present) :
    t.deed.leaves present = if t.changes then !present else present := by
  obtain ⟨deed, failure⟩ := t
  obtain rfl : failure = deed.failure? i present := ht
  cases deed <;> cases present <;> rfl

theorem deed_of_changes (ht : t.failure = t.deed.failure? i present) (hc : t.changes) :
    t.deed = if present then .removal else .addition := by
  obtain ⟨deed, failure⟩ := t
  obtain rfl : failure = deed.failure? i present := ht
  cases deed <;> cases present <;> first | rfl | cases hc

theorem eq_stands (h : Conform i present trials after) : after = stands present trials := by
  induction h with
  | nil => rfl
  | @cons present after t rest ht _ ih =>
    rw [ih, leaves_eq ht]
    by_cases hc : t.changes
    · have hdeed := deed_of_changes ht hc
      rw [if_pos hc, stands, stands, List.filter_cons_of_pos hc, List.getLast?_cons]
      cases (rest.filter changes).getLast? with
      | some last => rfl
      | none =>
        show (!present) = decide (t.deed = .addition)
        rw [hdeed]
        cases present <;> rfl
    · rw [if_neg hc, stands, stands, List.filter_cons_of_neg hc]

theorem alternate (h : Conform i present trials after) :
    (∀ t ∈ (trials.filter changes).head?, t.deed = if present then .removal else .addition) ∧
      ((trials.filter changes).map (·.deed)).IsChain (· ≠ ·) := by
  induction h with
  | nil => exact ⟨nofun, .nil⟩
  | @cons present after t rest ht _ ih =>
    obtain ⟨hhead, hchain⟩ := ih
    rw [leaves_eq ht] at hhead
    by_cases hc : t.changes
    · have hdeed := deed_of_changes ht hc
      rw [if_pos hc] at hhead
      rw [List.filter_cons_of_pos hc, List.map_cons, List.isChain_cons]
      refine ⟨fun t' ht' => ?_, fun deed hfirst => ?_, hchain⟩
      · cases ht'
        exact hdeed
      · rw [List.head?_map] at hfirst
        obtain ⟨next, hnext, rfl⟩ := Option.map_eq_some_iff.1 hfirst
        rw [hdeed, hhead next hnext]
        cases present <;> decide
    · rw [if_neg hc] at hhead
      rw [List.filter_cons_of_neg hc]
      exact ⟨hhead, hchain⟩

end Conform
end Trial

def failure? {α : Type} : Except Failure α → Option Failure
  | .ok _ => none
  | .error f => some f

@[simp] theorem failure?_map {α β : Type} (f : α → β) (result : Except Failure α) :
    failure? (result.map f) = failure? result := by
  cases result <;> rfl

namespace Table
variable {α : Type}

theorem contains_put (t : Table α) (i j : String) (a : α) :
    (t.put i a).contains j = if j = i then true else t.contains j := by
  rw [contains, get?_put]
  split
  · rfl
  · rfl

theorem contains_erase (t : Table α) (i j : String) :
    (t.erase i).contains j = if j = i then false else t.contains j := by
  rw [contains, get?_erase]
  split
  · rfl
  · rfl

end Table

namespace Directory
variable {k : Kind} {d d' : Directory k} {o : k.Object} {n : String} {inUse : String → Bool}

theorem inUse_of_freeNumber {tries : Nat} {first : Int}
    (h : inUse (toString (freeNumber inUse tries first))) {m : Nat} (hm : m ≤ tries) :
    inUse (toString (first + m)) := by
  -- The search only went on past `first + m` because that number was in use.
  induction tries generalizing first m with
  | zero =>
    obtain rfl := Nat.le_zero.1 hm
    rw [Int.natCast_zero, Int.add_zero]
    exact h
  | succ tries ih =>
    rw [freeNumber] at h
    by_cases hfirst : inUse (toString first)
    · rw [if_pos hfirst] at h
      cases m with
      | zero =>
        rw [Int.natCast_zero, Int.add_zero]
        exact hfirst
      | succ m =>
        have hnext := ih h (Nat.le_of_succ_le_succ hm)
        have hsum : first + 1 + (m : Int) = first + ((m + 1 : Nat) : Int) := by omega
        rwa [hsum] at hnext
    · rw [if_neg hfirst] at h
      exact absurd h hfirst

/-- There are more numbers to try than identifiers in use. -/
theorem not_contains_nextNumber (d : Directory k) (first : Int) :
    ¬d.objects.contains (toString (d.nextNumber first)) := by
  intro h
  let tried := (List.range (d.objects.size + 1)).map fun m : Nat => toString (first + m)
  have hinjective : Function.Injective fun m : Nat => toString (first + m) := by
    intro a b hab
    have hsum : first + (a : Int) = first + b := Int.repr_injective hab
    omega
  have hnodup : tried.Nodup := (List.nodup_map_iff hinjective).2 List.nodup_range
  have hused : tried ⊆ d.objects.keys := by
    intro i hi
    obtain ⟨m, hm, rfl⟩ := List.mem_map.1 hi
    have hle : m ≤ d.objects.size := Nat.le_of_lt_succ (List.mem_range.1 hm)
    exact (Table.contains_iff ..).1 (inUse_of_freeNumber h hle)
  have hlength := (List.subperm_of_subset hnodup hused).length_le
  rw [List.length_map, List.length_range, Table.keys, List.length_map] at hlength
  exact Nat.not_succ_le_self _ hlength

def assigned? (d : Directory k) (o : k.Object) : Option String :=
  match ownIdentifier? o with
  | some i => some i
  | none => d.counter.map fun n => toString (d.nextNumber n)

/-- A change of a directory carries out a deed on one identifier and no other, or fails as it must. -/
structure Does (d : Directory k) (deed : Deed) (n : String)
    (change : Except Failure (Directory k)) : Prop where
  failure : failure? change = deed.failure? n (d.objects.contains n)
  outage : ∀ d', change = .ok d' → d'.outage = d.outage
  contains : ∀ d', change = .ok d' → ∀ i, d'.objects.contains i =
    if i = n then deed.leaves (d.objects.contains n) else d.objects.contains i

theorem Does.failed {deed : Deed} {f : Failure}
    (h : deed.failure? n (d.objects.contains n) = some f) : d.Does deed n (.error f) :=
  ⟨h.symm, nofun, nofun⟩

theorem Does.put (d : Directory k) {deed : Deed} (h : deed.failure? n (d.objects.contains n) = none)
    (hleaves : deed.leaves (d.objects.contains n)) (p : k.Object) (counter : Option Int) :
    d.Does deed n (.ok { d with objects := d.objects.put n p, counter }) where
  failure := h.symm
  outage d' hd' := by
    cases hd'
    rfl
  contains d' hd' i := by
    cases hd'
    rw [hleaves, Table.contains_put]

theorem does_add (hout : d.outage .add = none) (hn : d.assigned? o = some n) :
    d.Does .addition n ((d.add o).map (·.2)) := by
  rw [add, guarded, hout]
  unfold assigned? at hn
  cases hown : ownIdentifier? o with
  | some i =>
    rw [hown] at hn
    cases hn
    by_cases hin : d.objects.contains n
    · simp only [if_pos hin]
      exact .failed (congrArg (Deed.failure? n · .addition) hin)
    · simp only [if_neg hin]
      exact .put d (congrArg (Deed.failure? n · .addition) (eq_false_of_ne_true hin)) rfl o d.counter
  | none =>
    rw [hown] at hn
    obtain ⟨first, hfirst, rfl⟩ := Option.map_eq_some_iff.1 hn
    have hfree := eq_false_of_ne_true (d.not_contains_nextNumber first)
    simp only [hfirst]
    exact .put d (congrArg (Deed.failure? _ · .addition) hfree) rfl _ _

theorem does_update (hout : d.outage .update = none) (hn : o.identifier = some n) :
    d.Does .update n (d.update o) := by
  rw [update, guarded, hout, hn]
  by_cases hin : d.objects.contains n
  · simp only [if_pos hin]
    exact .put d (congrArg (Deed.failure? n · .update) hin) hin o d.counter
  · simp only [if_neg hin]
    exact .failed (congrArg (Deed.failure? n · .update) (eq_false_of_ne_true hin))

theorem does_remove (hout : d.outage .remove = none) (n : String) :
    d.Does .removal n (d.remove (some n)) := by
  rw [remove, guarded, hout]
  by_cases hin : d.objects.contains n
  · simp only [if_pos hin]
    refine ⟨(congrArg (Deed.failure? n · .removal) hin).symm, fun d' hd' => ?_, fun d' hd' i => ?_⟩
    · cases hd'
      rfl
    · cases hd'
      exact Table.contains_erase ..
  · simp only [if_neg hin]
    exact .failed (congrArg (Deed.failure? n · .removal) (eq_false_of_ne_true hin))

structure Performs (deed : Deed) (name? : Directory k → Option String)
    (change : Directory k → Except Failure (Directory k)) : Prop where
  named : ∀ d n, (∀ method, d.outage method = none) → name? d = some n → d.Does deed n (change d)
  unnamed : ∀ d, name? d = none → ∃ f, change d = .error f

theorem performs_add (o : k.Object) :
    Performs .addition (·.assigned? o) fun d => (d.add o).map (·.2) where
  named _ _ hout hn := does_add (hout .add) hn
  unnamed d hn := by
    cases hadd : d.add o with
    | error f => exact ⟨f, rfl⟩
    | ok added =>
      obtain ⟨-, h⟩ := guarded_eq_ok.1 hadd
      unfold assigned? at hn
      split at hn
      · cases hn
      next hown =>
        rw [Option.map_eq_none_iff] at hn
        simp only [hown, hn] at h
        cases h

theorem performs_update (o : k.Object) : Performs .update (fun _ => o.identifier) (·.update o) where
  named _ _ hout hn := does_update (hout .update) hn
  unnamed d hn := by
    cases hu : d.update o with
    | error f => exact ⟨f, rfl⟩
    | ok d' =>
      obtain ⟨-, i, hi, -⟩ := update_eq_ok.1 hu
      exact absurd (hn.symm.trans hi) nofun

theorem performs_remove (identifier : Option String) :
    Performs (k := k) .removal (fun _ => identifier) (·.remove identifier) where
  named _ _ hout hn := hn ▸ does_remove (hout .remove) _
  unnamed d hn := by
    cases hr : d.remove identifier with
    | error f => exact ⟨f, rfl⟩
    | ok d' =>
      obtain ⟨-, i, hi, -⟩ := remove_eq_ok.1 hr
      exact absurd (hn.symm.trans hi) nofun

end Directory

namespace Directories
variable {ds : Directories} {j k : Kind} {d : Directory k} {change : Except Failure (Directory k)}

def after (ds : Directories) : Except Failure (Directory k) → Directories
  | .ok d => ds.set d
  | .error _ => ds

theorem get?_after_ne (ds : Directories) (change : Except Failure (Directory k)) (h : j ≠ k) :
    (ds.after change).get? j = ds.get? j := by
  cases change with
  | error f => rfl
  | ok d => exact get?_set_ne ds d h

theorem exists_get?_after (hd : ds.get? k = some d) {deed : Deed} {n : String}
    (h : d.Does deed n change) : ∃ d', (ds.after change).get? k = some d' ∧ d'.outage = d.outage ∧
      ∀ i, d'.objects.contains i =
        if i = n then deed.leaves (d.objects.contains n) else d.objects.contains i := by
  cases change with
  | ok d' => exact ⟨d', get?_set_self ds d', h.outage d' rfl, h.contains d' rfl⟩
  | error f =>
    refine ⟨d, hd, rfl, fun i => ?_⟩
    split
    next hi => rw [hi, Deed.leaves_of_failure h.failure.symm]
    next => rfl

end Directories

end AccessDirectory

import AccessDirectory.Proofs.Directory.Desk
import AccessDirectory.Proofs.Directory.Presence
import Mathlib.Order.Bounds.Defs

/-! Identifiers that a directory assigns. It counts from where it stopped and passes over what is in use,
so the numbers it assigns go up and none comes back, not even when its object has been removed. -/

namespace AccessDirectory

namespace Directory
variable {k : Kind} {d : Directory k} {o : k.Object} {inUse : String → Bool}

inductive Search (inUse : String → Bool) : (first found : Int) → Prop
  | free {n : Int} (h : inUse (toString n) = false) : Search inUse n n
  | taken {n found : Int} (h : inUse (toString n)) (rest : Search inUse (n + 1) found) :
      Search inUse n found

theorem Search.isLeast {first found : Int} (h : Search inUse first found) :
    IsLeast {n : Int | first ≤ n ∧ inUse (toString n) = false} found := by
  induction h with
  | free h => exact ⟨⟨Int.le_refl _, h⟩, fun m hm => hm.1⟩
  | @taken n found h _ ih =>
    obtain ⟨⟨hle, hfree⟩, hleast⟩ := ih
    refine ⟨⟨by omega, hfree⟩, fun m hm => hleast ⟨?_, hm.2⟩⟩
    have hne : m ≠ n := by
      rintro rfl
      rw [hm.2] at h
      cases h
    have hge : n ≤ m := hm.1
    omega

theorem search_freeNumber {tries : Nat} {first : Int}
    (h : inUse (toString (freeNumber inUse tries first)) = false) :
    Search inUse first (freeNumber inUse tries first) := by
  induction tries generalizing first with
  | zero => exact .free h
  | succ tries ih =>
    rw [freeNumber] at h ⊢
    by_cases hfirst : inUse (toString first)
    · rw [if_pos hfirst] at h ⊢
      exact .taken hfirst (ih h)
    · rw [if_neg hfirst] at h ⊢
      exact .free h

/-- The search comes to an end, as there are more numbers than objects. -/
theorem search_nextNumber (d : Directory k) (first : Int) :
    Search d.objects.contains first (d.nextNumber first) :=
  search_freeNumber (eq_false_of_ne_true (d.not_contains_nextNumber first))

theorem add_of_named {i : String} (hout : d.outage .add = none) (ho : ownIdentifier? o = some i) :
    d.add o = if d.objects.contains i then .error (.alreadyExists i)
      else .ok (o, { d with objects := d.objects.put i o }) := by
  simp only [add, guarded, hout, ho]

theorem add_of_nameless {first : Int} (hout : d.outage .add = none) (hc : d.counter = some first)
    (ho : ownIdentifier? o = none) :
    let i := toString (d.nextNumber first)
    let named := Kind.Object.setIdentifier o (some i)
    d.add o = .ok (named,
      { d with objects := d.objects.put i named, counter := some (d.nextNumber first + 1) }) := by
  simp only [add, guarded, hout, ho, hc]

theorem counter_of_add_named {i : String} {o' : k.Object} {d' : Directory k}
    (ho : ownIdentifier? o = some i) (h : d.add o = .ok (o', d')) : d'.counter = d.counter := by
  obtain ⟨-, h⟩ := guarded_eq_ok.1 h
  simp only [ho] at h
  split at h
  · cases h
  · cases h
    rfl

end Directory

namespace Desk
open Directory (ownIdentifier? Search)
variable {k : Kind} {g : Desk k} {first : Int} {copy : String} {o : k.Object}

def assigned (g : Desk k) (call : Call k) : Option String :=
  match call, (g.perform call).1 with
  | .add copy, .ok [added] => (g.copies.get? copy).bind fun o =>
    if (ownIdentifier? o).isNone then Kind.Object.identifier added else none
  | _, _ => none

def assignments (g : Desk k) : List (Call k) → List String
  | [] => []
  | call :: rest => (g.assigned call).toList ++ (g.perform call).2.assignments rest

def resume (first : Int) (numbers : List Int) : Int :=
  (numbers.getLast?.map (· + 1)).getD first

theorem resume_cons (first n : Int) (numbers : List Int) :
    resume first (n :: numbers) = resume (n + 1) numbers := by
  rw [resume, resume, List.getLast?_cons]
  cases numbers.getLast? <;> rfl

/-- An object that names no identifier is added under the least number that is free, counted from `first`
on, and everything else stays in its place. -/
structure Assigns (g : Desk k) (copy : String) (o : k.Object) (first n : Int) : Prop where
  search : Search g.directory.objects.contains first n
  least : IsLeast {m : Int | first ≤ m ∧ g.directory.objects.get? (toString m) = none} n
  answer : (g.perform (.add copy)).1 = .ok [Kind.Object.setIdentifier o (some (toString n))]
  stored : ∀ i, (g.perform (.add copy)).2.directory.objects.get? i =
    if i = toString n then some (Kind.Object.setIdentifier o (some (toString n)))
    else g.directory.objects.get? i

structure Counts (g : Desk k) (first : Int) : Prop where
  order : g.directory.outage .add = none
  counter : g.directory.counter = some first

namespace Counts

theorem add_nameless (h : g.Counts first) (hcopy : g.copies.get? copy = some o)
    (ho : ownIdentifier? o = none) :
    ∃ n, g.Assigns copy o first n ∧ g.assigned (.add copy) = some (toString n) ∧
      (g.perform (.add copy)).2.Counts (n + 1) := by
  have hadd := Directory.add_of_nameless h.order h.counter ho
  have hsearch := g.directory.search_nextNumber first
  refine ⟨g.directory.nextNumber first, ⟨hsearch, ?_, ?_, fun i => ?_⟩, ?_, ?_, ?_⟩
  · simpa [Table.contains] using hsearch.isLeast
  · simp only [perform, handIn, hcopy, hadd]
  · simp only [perform, handIn, hcopy, hadd, Table.get?_put]
  · simp only [assigned, perform, handIn, hcopy, hadd, ho, Option.bind_some, Option.isNone_none,
      if_true, Kind.Object.identifier_setIdentifier]
  · simp only [perform, handIn, hcopy, hadd, h.order]
  · simp only [perform, handIn, hcopy, hadd]

theorem add_named (h : g.Counts first) (hcopy : g.copies.get? copy = some o) {i : String}
    (ho : ownIdentifier? o = some i) :
    g.assigned (.add copy) = none ∧ (g.perform (.add copy)).2.Counts first := by
  cases hadd : g.directory.add o with
  | error f =>
    simp only [assigned, Desk.perform, handIn, hcopy, hadd]
    exact ⟨trivial, h⟩
  | ok added =>
    obtain ⟨-, horder, -⟩ := Directory.of_add_eq_ok hadd
    have hcounter := Directory.counter_of_add_named ho hadd
    simp only [assigned, Desk.perform, handIn, hcopy, hadd, ho, Option.bind_some,
      Option.isNone_some, Bool.false_eq_true, if_false]
    exact ⟨trivial, by rw [horder, h.order], by rw [hcounter, h.counter]⟩

theorem perform (h : g.Counts first) (call : Call k) :
    g.assigned call = none ∧ (g.perform call).2.Counts first ∨
      ∃ n, g.assigned call = some (toString n) ∧ first ≤ n ∧ (g.perform call).2.Counts (n + 1) := by
  cases call with
  | make copy o => exact .inl ⟨rfl, h.order, h.counter⟩
  | getAll identifiers => exact .inl ⟨rfl, h⟩
  | get identifier copy =>
    refine .inl ⟨rfl, ?_⟩
    simp only [Desk.perform]
    split <;> exact ⟨h.order, h.counter⟩
  | add copy =>
    cases hcopy : g.copies.get? copy with
    | none =>
      simp only [assigned, Desk.perform, handIn, hcopy]
      exact .inl ⟨trivial, h⟩
    | some o =>
      cases ho : ownIdentifier? o with
      | some i => exact .inl (h.add_named hcopy ho)
      | none =>
        -- Only this call assigns a number, and only it moves the counter.
        obtain ⟨n, hassigns, hassigned, hcounts⟩ := h.add_nameless hcopy ho
        exact .inr ⟨n, hassigned, hassigns.least.1.1, hcounts⟩
  | update copy =>
    refine .inl ⟨rfl, ?_⟩
    simp only [Desk.perform, handIn]
    split
    · split
      · exact h
      next hu =>
        obtain ⟨-, i, -, -, rfl⟩ := Directory.update_eq_ok.1 hu
        exact ⟨h.order, h.counter⟩
    · exact h
  | remove identifier =>
    refine .inl ⟨rfl, ?_⟩
    simp only [Desk.perform]
    split
    · exact h
    next hr =>
      obtain ⟨-, i, -, -, rfl⟩ := Directory.remove_eq_ok.1 hr
      exact ⟨h.order, h.counter⟩

theorem run (h : g.Counts first) (calls : List (Call k)) :
    ∃ numbers : List Int, g.assignments calls = numbers.map toString ∧ numbers.Pairwise (· < ·) ∧
      (∀ n ∈ numbers, first ≤ n) ∧ (g.run calls).Counts (resume first numbers) := by
  induction calls generalizing g first with
  | nil => exact ⟨[], rfl, .nil, nofun, h⟩
  | cons call rest ih =>
    obtain ⟨hnone, hcounts⟩ | ⟨n, hn, hle, hcounts⟩ := h.perform call
    · obtain ⟨numbers, hnumbers, hup, hfrom, hend⟩ := ih hcounts
      exact ⟨numbers, by rw [assignments, hnone, hnumbers]; rfl, hup, hfrom, hend⟩
    · obtain ⟨numbers, hnumbers, hup, hfrom, hend⟩ := ih hcounts
      refine ⟨n :: numbers, ?_, ?_, ?_, ?_⟩
      · rw [assignments, hn, hnumbers]
        rfl
      · exact List.pairwise_cons.2 ⟨fun m hm => Int.lt_of_add_one_le (hfrom m hm), hup⟩
      · intro m hm
        obtain rfl | hm := List.mem_cons.1 hm
        · exact hle
        · have hlater := hfrom m hm
          omega
      · rw [resume_cons]
        exact hend

end Counts

theorem assignments_append (g : Desk k) (calls later : List (Call k)) :
    g.assignments (calls ++ later) = g.assignments calls ++ (g.run calls).assignments later := by
  induction calls generalizing g with
  | nil => rfl
  | cons call rest ih =>
    rw [List.cons_append, assignments, assignments, run, ih, List.append_assoc]

def filling : List k.Object → List (Call k)
  | [] => []
  | o :: rest => .make "" o :: .add "" :: filling rest

theorem directory_run_filling {objects : List k.Object} {d : Directory k}
    (h : g.directory.addAll objects = .ok d) : (g.run (filling objects)).directory = d := by
  induction objects generalizing g with
  | nil =>
    cases h
    rfl
  | cons o rest ih =>
    obtain ⟨⟨o', d'⟩, hadd, hrest⟩ := bind_eq_ok.1 h
    have hstep : (((g.perform (.make "" o)).2).perform (.add "")).2.directory = d' := by
      simp only [perform, handIn, Table.get?_put_self, hadd]
    rw [filling, run, run]
    exact ih (hstep ▸ hrest)

/-- Whatever is done to a directory that counts from `first`, the identifiers that it assigns are the
texts of numbers that go up, and each is the least that was free from where counting had stopped. -/
theorem assignments_increase (h : g.Counts first) (calls : List (Call k)) :
    ∃ numbers : List Int, g.assignments calls = numbers.map toString ∧
      numbers.Pairwise (· < ·) ∧ (g.assignments calls).Nodup ∧
      ∀ before copy after o, calls = before ++ .add copy :: after →
        (g.run before).copies.get? copy = some o → ownIdentifier? o = none →
        ∃ earlier n later, numbers = earlier ++ n :: later ∧
          g.assignments before = earlier.map toString ∧
          (g.run before).Assigns copy o (resume first earlier) n := by
  have hinjective : Function.Injective (toString : Int → String) := fun _ _ => Int.repr_injective
  obtain ⟨numbers, hnumbers, hup, -, -⟩ := h.run calls
  refine ⟨numbers, hnumbers, hup, ?_, ?_⟩
  · rw [hnumbers, List.nodup_map_iff hinjective]
    exact hup.imp Int.ne_of_lt
  rintro before copy after o rfl hcopy ho
  obtain ⟨earlier, hearlier, -, -, hcounts⟩ := h.run before
  obtain ⟨n, hassigns, hassigned, hnext⟩ := hcounts.add_nameless hcopy ho
  -- The run is cut at the addition; both its halves are runs that count.
  obtain ⟨later, hlater, -⟩ := hnext.run after
  refine ⟨earlier, n, later, List.map_injective_iff.2 hinjective ?_, hearlier, hassigns⟩
  rw [← hnumbers, assignments_append, assignments, hearlier, hassigned, hlater, List.map_append,
    List.map_cons]
  rfl

end Desk

namespace Demo

def counting : Desk .connection := { directory := { counter := some (-1) } }

def pair : List (Kind.Object .connection) :=
  [({ identifier := some "0" } : Connection), ({ identifier := none } : Connection)]

def late : Connection := { identifier := some "" }

def vacating : List (Desk.Call .connection) :=
  Desk.filling pair ++ [.remove (some "-1"), .make "late" late]

end Demo

theorem Desk.assignments_increase_vacating : ∃ d earlier n,
    Demo.counting.directory.addAll Demo.pair = .ok d ∧
    (Demo.counting.run (filling Demo.pair)).directory = d ∧
    (Demo.counting.run Demo.vacating).directory.objects.keys = ["0"] ∧
    earlier.map toString = ["-1"] ∧
    (Demo.counting.run Demo.vacating).Assigns "late" Demo.late (resume (-1) earlier) n ∧
    toString n = "1" := by
  have hcounts : Demo.counting.Counts (-1) := ⟨rfl, rfl⟩
  obtain ⟨numbers, hnumbers, -, -, hadds⟩ :=
    assignments_increase hcounts (Demo.vacating ++ [.add "late"])
  obtain ⟨earlier, n, later, rfl, hearlier, hassigns⟩ := hadds Demo.vacating "late" [] Demo.late rfl rfl rfl
  have hfirst : Demo.counting.assignments Demo.vacating = ["-1"] := by decide
  have hall : Demo.counting.assignments (Demo.vacating ++ [.add "late"]) = ["-1", "1"] := by decide
  rw [hall, List.map_append, ← hearlier, hfirst] at hnumbers
  have hn := (List.cons.inj (List.cons.inj hnumbers).2).1
  exact ⟨_, earlier, n, rfl, directory_run_filling rfl, by decide, hearlier ▸ hfirst, hassigns, hn.symm⟩

end AccessDirectory

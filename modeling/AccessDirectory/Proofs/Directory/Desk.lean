import AccessDirectory.Proofs.Directory.Changes

/-! A directory in the hands of its callers, who hold copies of objects and make of them what they like.
Under an identifier the directory keeps just what was last handed in for it, until it is removed. -/

namespace AccessDirectory

namespace Directory
variable {k : Kind} {d d' : Directory k} {o o' : k.Object}

theorem toString_ne_empty (n : Int) : toString n ≠ "" := by
  have hdigits : ∀ m : Nat, Nat.repr m ≠ "" := by
    intro m h
    have hlist := congrArg String.toList h
    rw [Nat.repr, String.toList_ofList] at hlist
    exact Nat.toDigits_ne_nil hlist
  cases n with
  | ofNat m => exact hdigits m
  | negSucc m =>
    intro h
    have hlist := congrArg String.toList h
    rw [show toString (Int.negSucc m) = "-" ++ Nat.repr (m + 1) from rfl,
      String.toList_append] at hlist
    cases hlist

theorem identifier_of_add (h : d.add o = .ok (o', d')) :
    ∃ i, o'.identifier = some i ∧ i ≠ "" := by
  obtain ⟨-, h⟩ := guarded_eq_ok.1 h
  split at h
  next i hi =>
    split at h
    · cases h
    · cases h
      exact ⟨i, ownIdentifier?_eq_some hi⟩
  next =>
    split at h
    · cases h
    · cases h
      exact ⟨_, Kind.Object.identifier_setIdentifier .., toString_ne_empty _⟩

structure Sound (d : Directory k) : Prop where
  faultless : ∀ method, d.outage method = none
  keyed : d.WellKeyed
  named : d.objects.get? "" = none

namespace Sound

theorem empty (counter : Option Int) : ({ counter } : Directory k).Sound where
  faultless _ := rfl
  keyed _ _ h := by cases h
  named := rfl

theorem put {i : String} (h : d.Sound) (hi : i ≠ "") (hk : d'.WellKeyed)
    (hf : d'.outage = d.outage) (hd : d'.objects = d.objects.put i o) : d'.Sound where
  faultless method := by rw [hf, h.faultless]
  keyed := hk
  named := by rw [hd, Table.get?_put_ne _ _ hi.symm, h.named]

theorem add (h : d.Sound) (ha : d.add o = .ok (o', d')) : d'.Sound := by
  obtain ⟨-, hf, i, hi, hd⟩ := of_add_eq_ok ha
  obtain ⟨j, hj, hne⟩ := identifier_of_add ha
  rw [hi, Kind.Object.identifier_setIdentifier] at hj
  obtain rfl := Option.some.inj hj
  exact h.put hne (h.keyed.add ha) hf hd

theorem update (h : d.Sound) (hu : d.update o = .ok d') : d'.Sound := by
  have hk := h.keyed.update hu
  obtain ⟨-, i, hi, hin, rfl⟩ := update_eq_ok.1 hu
  have hne : i ≠ "" := by
    rintro rfl
    rw [Table.contains, h.named] at hin
    cases hin
  exact h.put hne hk rfl rfl

theorem remove {identifier : Option String} (h : d.Sound) (hr : d.remove identifier = .ok d') :
    d'.Sound := by
  have hk := h.keyed.remove hr
  obtain ⟨-, i, -, -, rfl⟩ := remove_eq_ok.1 hr
  refine ⟨h.faultless, hk, ?_⟩
  rw [Table.get?_erase, h.named, ite_self]

theorem addAll {objects : List k.Object} (h : d.Sound) (ha : d.addAll objects = .ok d') :
    d'.Sound := by
  induction objects generalizing d with
  | nil =>
    cases ha
    exact h
  | cons o rest ih =>
    obtain ⟨⟨o', d''⟩, hadd, ha⟩ := bind_eq_ok.1 ha
    exact ih (h.add hadd) ha

theorem get_eq (h : d.Sound) (i : String) : d.get i = .ok (d.objects.get? i) :=
  guarded_of_faultless h.faultless ..

theorem getAll_eq (h : d.Sound) (ids : List String) :
    d.getAll ids = .ok (ids.filterMap d.objects.get?) := guarded_of_faultless h.faultless ..

theorem add_iff (h : d.Sound) {i : String} (hi : o.identifier = some i) (hne : i ≠ "") :
    (∃ added, d.add o = .ok added) ↔ d.objects.get? i = none := by
  have hown : ownIdentifier? o = some i := by simp [ownIdentifier?, hi, hne]
  rw [Directory.add, guarded_of_faultless h.faultless, hown]
  by_cases hin : d.objects.contains i = true
  · simp_all [Table.contains, Option.isSome_iff_ne_none]
  · simp_all [Table.contains]

theorem update_iff (h : d.Sound) :
    (∃ d', d.update o = .ok d') ↔ ∃ i, o.identifier = some i ∧ d.objects.get? i ≠ none := by
  simp only [update_eq_ok, h.faultless, true_and, Table.contains, Option.isSome_iff_ne_none]
  constructor
  · rintro ⟨d', i, hi, hin, -⟩
    exact ⟨i, hi, hin⟩
  · rintro ⟨i, hi, hin⟩
    exact ⟨_, i, hi, hin, rfl⟩

theorem remove_iff (h : d.Sound) {identifier : Option String} :
    (∃ d', d.remove identifier = .ok d') ↔
      ∃ i, identifier = some i ∧ d.objects.get? i ≠ none := by
  simp only [remove_eq_ok, h.faultless, true_and, Table.contains, Option.isSome_iff_ne_none]
  constructor
  · rintro ⟨d', i, hi, hin, -⟩
    exact ⟨i, hi, hin⟩
  · rintro ⟨i, hi, hin⟩
    exact ⟨_, i, hi, hin, rfl⟩

end Sound
end Directory

/-- A directory, and the copies of objects that its callers hold, by names of their own. -/
structure Desk (k : Kind) where
  directory : Directory k
  copies : Table k.Object := ∅

namespace Desk
variable {k : Kind}

inductive Call (k : Kind)
  /-- A caller makes an object, or anything else of a copy that it holds. -/
  | make (copy : String) (object : k.Object)
  | add (copy : String)
  | get (identifier copy : String)
  | getAll (identifiers : List String)
  | update (copy : String)
  | remove (identifier : Option String)

def handIn (g : Desk k) (copy : String)
    (act : k.Object → Except Failure (List k.Object) × Desk k) :
    Except Failure (List k.Object) × Desk k :=
  match g.copies.get? copy with
  | some o => act o
  | none => (.ok [], g)

def perform (g : Desk k) : Call k → Except Failure (List k.Object) × Desk k
  | .make copy o => (.ok [], { g with copies := g.copies.put copy o })
  | .add copy => g.handIn copy fun o =>
    match g.directory.add o with
    | .error f => (.error f, g)
    | .ok (o, d) => (.ok [o], { directory := d, copies := g.copies.put copy o })
  | .get identifier copy =>
    match g.directory.get identifier with
    | .error f => (.error f, g)
    | .ok none => (.ok [], g)
    | .ok (some o) => (.ok [o], { g with copies := g.copies.put copy o })
  | .getAll identifiers => (g.directory.getAll identifiers, g)
  | .update copy => g.handIn copy fun o =>
    match g.directory.update o with
    | .error f => (.error f, g)
    | .ok d => (.ok [], { g with directory := d })
  | .remove identifier =>
    match g.directory.remove identifier with
    | .error f => (.error f, g)
    | .ok d => (.ok [], { g with directory := d })

def run (g : Desk k) : List (Call k) → Desk k
  | [] => g
  | call :: rest => (g.perform call).2.run rest

/-- What a call that changes the directory leaves under which identifier, if it succeeds: the copy that
was handed in, with the identifier that it has or is given, or nothing. -/
def left (g : Desk k) (call : Call k) : Option (String × Option k.Object) :=
  match call, (g.perform call).1 with
  | .add copy, .ok [added] =>
    (g.copies.get? copy).bind fun o =>
      (Kind.Object.identifier added).map fun i => (i, some (Kind.Object.setIdentifier o (some i)))
  | .update copy, .ok _ =>
    (g.copies.get? copy).bind fun o => (Kind.Object.identifier o).map (·, some o)
  | .remove identifier, .ok _ => identifier.map (·, none)
  | _, _ => none

def account (g : Desk k) : List (Call k) → List (String × Option k.Object)
  | [] => []
  | call :: rest => (g.left call).toList ++ (g.perform call).2.account rest

theorem left_of_error {g : Desk k} {call : Call k} {f : Failure}
    (h : (g.perform call).1 = .error f) : g.left call = none := by
  unfold left
  rw [h]
  cases call <;> rfl

theorem getD_lookup_singleton {β : Type} (i j : String) (b c : β) :
    ([(j, b)].lookup i).getD c = if i = j then b else c := by
  rw [List.lookup_cons]
  by_cases h : i = j
  · simp [h]
  · simp [h, beq_false_of_ne h]

theorem get?_perform (g : Desk k) (call : Call k) (i : String) :
    (g.perform call).2.directory.objects.get? i =
      ((g.left call).toList.lookup i).getD (g.directory.objects.get? i) := by
  cases call with
  | make copy o => rfl
  | getAll identifiers => rfl
  | get identifier copy =>
    simp only [left, perform]
    split <;> rfl
  | add copy =>
    cases hc : g.copies.get? copy with
    | none => simp [left, perform, handIn, hc]
    | some o =>
      cases ha : g.directory.add o with
      | error f => simp [left, perform, handIn, hc, ha]
      | ok added =>
        obtain ⟨o', d'⟩ := added
        obtain ⟨-, -, j, hj, hput⟩ := Directory.of_add_eq_ok ha
        have hid : Kind.Object.identifier o' = some j := by
          rw [hj, Kind.Object.identifier_setIdentifier]
        simp only [left, perform, handIn, hc, ha, hid, ← hj, hput, Table.get?_put, Option.bind_some,
          Option.map_some, Option.toList_some, getD_lookup_singleton]
  | update copy =>
    cases hc : g.copies.get? copy with
    | none => simp [left, perform, handIn, hc]
    | some o =>
      cases hu : g.directory.update o with
      | error f => simp [left, perform, handIn, hc, hu]
      | ok d' =>
        obtain ⟨-, j, hj, -, rfl⟩ := Directory.update_eq_ok.1 hu
        simp only [left, perform, handIn, hc, hu, hj, Table.get?_put, Option.bind_some,
          Option.map_some, Option.toList_some, getD_lookup_singleton]
  | remove identifier =>
    cases hr : g.directory.remove identifier with
    | error f => simp [left, perform, hr]
    | ok d' =>
      obtain ⟨-, j, rfl, -, rfl⟩ := Directory.remove_eq_ok.1 hr
      simp only [left, perform, hr, Table.get?_erase, Option.map_some, Option.toList_some,
        getD_lookup_singleton]

theorem getD_lookup_append {β : Type} (i : String) (b : β) (xs ys : List (String × β)) :
    ((ys ++ xs).lookup i).getD b = (ys.lookup i).getD ((xs.lookup i).getD b) := by
  rw [List.lookup_append]
  cases ys.lookup i <;> rfl

theorem get?_run (g : Desk k) (calls : List (Call k)) (i : String) :
    (g.run calls).directory.objects.get? i =
      ((g.account calls).reverse.lookup i).getD (g.directory.objects.get? i) := by
  induction calls generalizing g with
  | nil => rfl
  | cons call rest ih =>
    -- A call leaves at most one thing, which is the same in either order.
    have hone : (g.left call).toList.reverse = (g.left call).toList := by
      cases g.left call <;> rfl
    rw [run, ih, get?_perform, account, List.reverse_append, getD_lookup_append, hone]

theorem sound_perform {g : Desk k} (h : g.directory.Sound) (call : Call k) :
    (g.perform call).2.directory.Sound := by
  cases call with
  | make copy o => exact h
  | getAll identifiers => exact h
  | get identifier copy =>
    simp only [perform]
    split <;> exact h
  | add copy =>
    simp only [perform, handIn]
    split
    · split
      · exact h
      next ha => exact h.add ha
    · exact h
  | update copy =>
    simp only [perform, handIn]
    split
    · split
      · exact h
      next hu => exact h.update hu
    · exact h
  | remove identifier =>
    simp only [perform]
    split
    · exact h
    next hr => exact h.remove hr

theorem sound_run {g : Desk k} (h : g.directory.Sound) (calls : List (Call k)) :
    (g.run calls).directory.Sound := by
  induction calls generalizing g with
  | nil => exact h
  | cons call rest ih => exact ih (sound_perform h call)

/-- What callers may rely on whenever they come to the desk. -/
structure Faithful (g : Desk k) : Prop where
  keyed : ∀ i o, g.directory.objects.get? i = some o →
    Kind.Object.identifier o = some i ∧ i ≠ ""
  get_eq : ∀ i, g.directory.get i = .ok (g.directory.objects.get? i)
  getAll_eq : ∀ ids, g.directory.getAll ids = .ok (ids.filterMap g.directory.objects.get?)
  add_iff : ∀ (o : k.Object) i, o.identifier = some i → i ≠ "" →
    ((∃ added, g.directory.add o = .ok added) ↔ g.directory.objects.get? i = none)
  update_iff : ∀ o : k.Object, (∃ d, g.directory.update o = .ok d) ↔
    ∃ i, o.identifier = some i ∧ g.directory.objects.get? i ≠ none
  remove_iff : ∀ identifier, (∃ d, g.directory.remove identifier = .ok d) ↔
    ∃ i, identifier = some i ∧ g.directory.objects.get? i ≠ none
  /-- A success changes one identifier alone. -/
  changed : ∀ call j left, g.left call = some (j, left) → ∀ i,
    (g.perform call).2.directory.objects.get? i =
      if i = j then left else g.directory.objects.get? i
  unchanged : ∀ call, g.left call = none → ∀ i,
    (g.perform call).2.directory.objects.get? i = g.directory.objects.get? i
  failed : ∀ call f, (g.perform call).1 = .error f → g.left call = none
  /-- What callers make of their copies does not reach the directory. -/
  apart : ∀ copy o, (g.perform (.make copy o)).2.directory = g.directory

theorem faithful {g : Desk k} (h : g.directory.Sound) : g.Faithful where
  keyed i o ho := by
    refine ⟨h.keyed i o ho, ?_⟩
    rintro rfl
    rw [h.named] at ho
    cases ho
  get_eq := h.get_eq
  getAll_eq := h.getAll_eq
  add_iff _ _ := h.add_iff
  update_iff _ := h.update_iff
  remove_iff _ := h.remove_iff
  changed call j left hl i := by
    rw [get?_perform, hl, Option.toList_some, getD_lookup_singleton]
  unchanged call hl i := by
    rw [get?_perform, hl]
    rfl
  failed _ _ := left_of_error
  apart _ _ := rfl

/-- Over every run, callers find under each identifier what the last call that changed it left there. -/
theorem faithful_run {counter : Option Int} {objects : List k.Object} {d : Directory k}
    (hd : ({ counter } : Directory k).addAll objects = .ok d) (calls : List (Call k)) :
    (({ directory := d } : Desk k).run calls).Faithful ∧
      ∀ i, (({ directory := d } : Desk k).run calls).directory.get i =
        .ok (((({ directory := d } : Desk k).account calls).reverse.lookup i).getD
          (d.objects.get? i)) := by
  have hsound : d.Sound := (Directory.Sound.empty counter).addAll hd
  have hrun : (({ directory := d } : Desk k).run calls).directory.Sound := sound_run hsound calls
  refine ⟨faithful hrun, fun i => ?_⟩
  rw [hrun.get_eq, get?_run]

end Desk

def Demo.handedIn : List Connection :=
  [{ identifier := some "2", name := "first" }, { identifier := none, name := "second" }]

def Demo.exchange : List (Desk.Call .connection) := [
  .make "mine" ({ identifier := some "2", name := "taken" } : Connection),
  .add "mine",
  .make "mine" ({ identifier := none, name := "third" } : Connection),
  .add "mine",
  .make "mine" ({ identifier := some "2", name := "changed" } : Connection),
  .update "mine",
  .get "2" "theirs",
  .make "theirs" ({ identifier := some "1", name := "strayed" } : Connection),
  .remove (some "1"),
  .update "theirs"]

theorem Desk.faithful_exchange : ∃ d,
    ({ counter := some 1 } : Directory .connection).addAll Demo.handedIn = .ok d ∧
    (({ directory := d } : Desk .connection).run Demo.exchange).Faithful ∧
    (({ directory := d } : Desk .connection).run Demo.exchange).directory.get "1" = .ok none ∧
    (({ directory := d } : Desk .connection).run Demo.exchange).directory.get "2" =
      .ok (some ({ identifier := some "2", name := "changed" } : Connection)) ∧
    (({ directory := d } : Desk .connection).run Demo.exchange).directory.get "3" =
      .ok (some ({ identifier := some "3", name := "third" } : Connection)) := by
  have hd : ({ counter := some 1 } : Directory .connection).addAll Demo.handedIn = .ok _ := rfl
  obtain ⟨hf, hget⟩ := Desk.faithful_run hd Demo.exchange
  exact ⟨_, hd, hf, hget "1", hget "2", hget "3"⟩

end AccessDirectory

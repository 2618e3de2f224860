import AccessDirectory.Directory
import AccessDirectory.Proofs.Failing

/-! What the changes of a directory do, read off their success, and the rule that every object stands
under its own identifier. Each change keeps the rule, so a directory that is filled by additions
follows it from the start. -/

namespace AccessDirectory

theorem Kind.Object.setIdentifier_self {k : Kind} {o : k.Object} {i : Option String}
    (h : o.identifier = i) : setIdentifier o i = o := by
  subst h
  cases k <;> rfl

namespace Directory
variable {k : Kind} {d d' : Directory k} {o o' : k.Object}

theorem guarded_eq_ok {α : Type} {method : Method} {result : Except Failure α} {a : α} :
    d.guarded method result = .ok a ↔ d.outage method = none ∧ result = .ok a := by
  unfold guarded
  cases d.outage method <;> simp

theorem ownIdentifier?_eq_some {i : String} (h : ownIdentifier? o = some i) :
    o.identifier = some i ∧ i ≠ "" := by
  unfold ownIdentifier? at h
  cases hi : o.identifier with
  | none => simp [hi] at h
  | some s =>
    rw [hi] at h
    by_cases hs : s = ""
    · simp [hs] at h
    · simp [hs] at h
      exact ⟨congrArg some h, h ▸ hs⟩

theorem ownIdentifier?_of_ne_empty {i : String} (h : o.identifier = some i) (hi : i ≠ "") :
    ownIdentifier? o = some i := by
  simp [ownIdentifier?, h, hi]

theorem guarded_of_faultless (h : ∀ method, d.outage method = none) {α : Type} (method : Method)
    (result : Except Failure α) : d.guarded method result = result := by
  rw [guarded, h method]

theorem of_add_eq_ok (h : d.add o = .ok (o', d')) :
    d.outage .add = none ∧ d'.outage = d.outage ∧
      ∃ i, o' = Kind.Object.setIdentifier o (some i) ∧ d'.objects = d.objects.put i o' := by
  obtain ⟨hm, h⟩ := guarded_eq_ok.1 h
  refine ⟨hm, ?_⟩
  split at h
  next i hi =>
    have hs := Kind.Object.setIdentifier_self (ownIdentifier?_eq_some hi).1
    split at h
    · cases h
    · obtain ⟨rfl, rfl⟩ := Prod.mk.inj (Except.ok.inj h)
      exact ⟨rfl, i, hs.symm, rfl⟩
  next =>
    split at h
    · cases h
    · obtain ⟨rfl, rfl⟩ := Prod.mk.inj (Except.ok.inj h)
      exact ⟨rfl, _, rfl, rfl⟩

theorem eq_of_add {i : String} (hi : o.identifier = some i) (hne : i ≠ "")
    (h : d.add o = .ok (o', d')) : o' = o := by
  obtain ⟨-, h⟩ := guarded_eq_ok.1 h
  simp only [ownIdentifier?_of_ne_empty hi hne] at h
  split at h
  · cases h
  · cases h
    rfl

theorem update_eq_ok :
    d.update o = .ok d' ↔ d.outage .update = none ∧
      ∃ i, o.identifier = some i ∧ d.objects.contains i ∧
        d' = { d with objects := d.objects.put i o } := by
  rw [update, guarded_eq_ok]
  refine and_congr_right fun _ => ?_
  cases o.identifier with
  | none => simp
  | some i => by_cases hc : d.objects.contains i = true <;> simp [hc, eq_comm (b := d')]

theorem remove_eq_ok {identifier : Option String} :
    d.remove identifier = .ok d' ↔ d.outage .remove = none ∧
      ∃ i, identifier = some i ∧ d.objects.contains i ∧
        d' = { d with objects := d.objects.erase i } := by
  unfold remove
  rw [guarded_eq_ok]
  refine and_congr_right fun _ => ?_
  cases identifier with
  | none => simp
  | some i => by_cases hc : d.objects.contains i = true <;> simp [hc, eq_comm (b := d')]

theorem require_eq_ok {i : String} :
    d.require i = .ok o ↔ d.outage .get = none ∧ d.objects.get? i = some o := by
  unfold require get guarded
  cases d.outage .get <;> cases d.objects.get? i <;> simp

/-- Every object stands under its own identifier. -/
def WellKeyed (d : Directory k) : Prop :=
  ∀ i o, d.objects.get? i = some o → o.identifier = some i

theorem wellKeyed_iff :
    d.WellKeyed ↔ ∀ e ∈ d.objects.entries, Kind.Object.identifier e.2 = some e.1 := by
  constructor
  · intro h e he
    exact h e.1 e.2 ((Table.get?_eq_some_iff ..).2 he)
  · intro h i o ho
    exact h (i, o) ((Table.get?_eq_some_iff ..).1 ho)

instance : Decidable d.WellKeyed := decidable_of_iff _ wellKeyed_iff.symm

theorem WellKeyed.put {i : String} (h : d.WellKeyed) (ho : o.identifier = some i)
    (hd : d'.objects = d.objects.put i o) : d'.WellKeyed := by
  intro j p hp
  rw [hd, Table.get?_put] at hp
  split at hp
  next hj => rw [← Option.some.inj hp, hj, ho]
  next => exact h j p hp

theorem WellKeyed.add (h : d.WellKeyed) (ha : d.add o = .ok (o', d')) : d'.WellKeyed := by
  obtain ⟨-, -, i, ho, hd⟩ := of_add_eq_ok ha
  exact h.put (by rw [ho, Kind.Object.identifier_setIdentifier]) hd

theorem WellKeyed.update (h : d.WellKeyed) (hu : d.update o = .ok d') : d'.WellKeyed := by
  obtain ⟨-, i, ho, -, rfl⟩ := update_eq_ok.1 hu
  exact h.put ho rfl

theorem WellKeyed.remove {identifier : Option String} (h : d.WellKeyed)
    (hr : d.remove identifier = .ok d') : d'.WellKeyed := by
  obtain ⟨-, i, -, -, rfl⟩ := remove_eq_ok.1 hr
  intro j p hp
  rw [Table.get?_erase] at hp
  split at hp
  · cases hp
  · exact h j p hp

end Directory

namespace Directories

theorem find_eq_ok {ds : Directories} {k : Kind} {d : Directory k} :
    ds.find k = .ok d ↔ ds.get? k = some d := by
  unfold find
  cases ds.get? k <;> simp

def stored (ds : Directories) (k : Kind) : Table k.Object :=
  match ds.get? k with
  | some d => d.objects
  | none => ∅

theorem stored_eq {ds : Directories} {k : Kind} {d : Directory k} (h : ds.get? k = some d) :
    ds.stored k = d.objects := by simp [stored, h]

theorem get?_stored_eq_some {ds : Directories} {k : Kind} {i : String} {o : k.Object} :
    (ds.stored k).get? i = some o ↔ ∃ d, ds.get? k = some d ∧ d.objects.get? i = some o := by
  unfold stored
  cases ds.get? k <;> simp [EmptyCollection.emptyCollection]

theorem stored_set_self (ds : Directories) {k : Kind} (d : Directory k) :
    (ds.set d).stored k = d.objects := stored_eq (get?_set_self ds d)

theorem stored_set_ne (ds : Directories) {j k : Kind} (d : Directory k) (h : j ≠ k) :
    (ds.set d).stored j = ds.stored j := by simp [stored, get?_set_ne ds d h]

theorem set_self {ds : Directories} {k : Kind} {d : Directory k} (hd : ds.get? k = some d) :
    ds.set d = ds := by
  cases k <;> cases ds <;> cases hd <;> rfl

theorem set_set (ds : Directories) {k : Kind} (d d' : Directory k) :
    (ds.set d).set d' = ds.set d' := by
  cases k <;> rfl

theorem contains_stored_set {ds : Directories} {j k : Kind} {d : Directory j} {o : j.Object}
    {i n : String} (hd : ds.get? j = some d) (hin : (ds.stored k).contains i) :
    ((ds.set { d with objects := d.objects.put n o }).stored k).contains i := by
  by_cases hk : k = j
  · subst hk
    rw [stored_eq hd] at hin
    rw [stored_set_self, Table.contains, Table.get?_put]
    split
    · rfl
    · exact hin
  · rwa [stored_set_ne _ _ hk]

def WellKeyed (ds : Directories) : Prop := ∀ k d, ds.get? k = some d → d.WellKeyed

theorem WellKeyed.set {ds : Directories} (h : ds.WellKeyed) {k : Kind} {d : Directory k}
    (hd : d.WellKeyed) : (ds.set d).WellKeyed := by
  intro j b hb
  by_cases hj : j = k
  · subst hj
    rw [get?_set_self] at hb
    cases hb
    exact hd
  · rw [get?_set_ne ds d hj] at hb
    exact h j b hb

theorem wellKeyed_iff_stored {ds : Directories} : ds.WellKeyed ↔
    ∀ k i (o : k.Object), (ds.stored k).get? i = some o → o.identifier = some i := by
  constructor
  · intro h k i o ho
    obtain ⟨d, hd, ho⟩ := get?_stored_eq_some.1 ho
    exact h k d hd i o ho
  · intro h k d hd i o ho
    rw [← stored_eq hd] at ho
    exact h k i o ho

theorem WellKeyed.of_stored {ds : Directories} (h : ds.WellKeyed) {k : Kind} {i : String}
    {o : k.Object} (ho : (ds.stored k).get? i = some o) : o.identifier = some i :=
  wellKeyed_iff_stored.1 h k i o ho

def Faultless (ds : Directories) : Prop :=
  ∀ k d, ds.get? k = some d → ∀ method, d.outage method = none

theorem Faultless.set {ds : Directories} (h : ds.Faultless) {k : Kind} {d d' : Directory k}
    (hd : ds.get? k = some d) (ho : d'.outage = d.outage) : (ds.set d').Faultless := by
  intro j b hb
  by_cases hj : j = k
  · subst hj
    rw [get?_set_self] at hb
    cases hb
    rw [ho]
    exact h j d hd
  · rw [get?_set_ne ds d' hj] at hb
    exact h j b hb

end Directories

end AccessDirectory

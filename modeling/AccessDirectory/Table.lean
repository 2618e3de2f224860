/-! Finite maps with texts as keys. The entries stand in the order in which their keys first arrived;
a value put under a known key takes the place of the old one. -/

namespace AccessDirectory

def putEntry {α : Type} (key : String) (value : α) : List (String × α) → List (String × α)
  | [] => [(key, value)]
  | entry :: rest =>
    if entry.1 = key then (key, value) :: rest else entry :: putEntry key value rest

section
variable {α : Type}

theorem putEntry_keys_of_mem {key : String} {value : α} {entries : List (String × α)}
    (h : key ∈ entries.map (·.1)) : (putEntry key value entries).map (·.1) = entries.map (·.1) := by
  induction entries with
  | nil => simp at h
  | cons entry rest ih =>
    rw [putEntry]
    split
    · simp_all
    · simp_all only [List.map_cons, List.mem_cons]
      rcases h with h | h
      · simp_all
      · rw [ih h]

theorem putEntry_keys_of_not_mem {key : String} {value : α} {entries : List (String × α)}
    (h : key ∉ entries.map (·.1)) :
    (putEntry key value entries).map (·.1) = entries.map (·.1) ++ [key] := by
  induction entries with
  | nil => rfl
  | cons entry rest ih =>
    rw [putEntry]
    simp only [List.map_cons, List.mem_cons, not_or] at h
    rw [if_neg (Ne.symm h.1)]
    simp [ih h.2]

theorem putEntry_of_not_mem {key : String} {value : α} {entries : List (String × α)}
    (h : key ∉ entries.map (·.1)) : putEntry key value entries = entries ++ [(key, value)] := by
  induction entries with
  | nil => rfl
  | cons entry rest ih =>
    simp only [List.map_cons, List.mem_cons, not_or] at h
    rw [putEntry, if_neg (Ne.symm h.1), ih h.2, List.cons_append]

theorem putEntry_nodup {key : String} {value : α} {entries : List (String × α)}
    (h : (entries.map (·.1)).Nodup) : ((putEntry key value entries).map (·.1)).Nodup := by
  by_cases hk : key ∈ entries.map (·.1)
  · rwa [putEntry_keys_of_mem hk]
  · rw [putEntry_keys_of_not_mem hk]
    exact List.nodup_append.2 ⟨h, by simp, by
      intro a ha b hb hab
      simp at hb
      exact hk (hb ▸ hab ▸ ha)⟩

theorem putEntry_of_lookup {key : String} {value : α} {entries : List (String × α)}
    (h : entries.lookup key = some value) : putEntry key value entries = entries := by
  induction entries with
  | nil => simp at h
  | cons entry rest ih => grind [putEntry]

theorem map_putEntry {β : Type} (f : α → β) (key : String) (value : α)
    (entries : List (String × α)) :
    (putEntry key value entries).map (fun e => (e.1, f e.2)) =
      putEntry key (f value) (entries.map fun e => (e.1, f e.2)) := by
  induction entries with
  | nil => rfl
  | cons entry rest ih =>
    rw [putEntry, List.map_cons, putEntry]
    split
    · rfl
    · rw [List.map_cons, ih]

theorem lookup_map {β : Type} (f : String → α → β) (key : String) (entries : List (String × α)) :
    (entries.map fun e => (e.1, f e.1 e.2)).lookup key = (entries.lookup key).map (f key) := by
  induction entries with
  | nil => rfl
  | cons entry rest ih => grind

theorem lookup_filter (p : String → Bool) (key : String) (entries : List (String × α)) :
    (entries.filter fun e => p e.1).lookup key = if p key then entries.lookup key else none := by
  induction entries with
  | nil => simp
  | cons entry rest ih => grind [List.filter]

theorem lookup_putEntry (key k : String) (value : α) (entries : List (String × α)) :
    (putEntry key value entries).lookup k = if k = key then some value else entries.lookup k := by
  induction entries with
  | nil => grind [putEntry]
  | cons entry rest ih => grind [putEntry]

end

structure Table (α : Type) where
  entries : List (String × α)
  distinct : (entries.map (·.1)).Nodup
deriving DecidableEq

namespace Table
variable {α β : Type}

theorem ext {s t : Table α} (h : s.entries = t.entries) : s = t := by
  cases s; cases t; cases h; rfl

def empty : Table α := ⟨[], List.nodup_nil⟩

instance : EmptyCollection (Table α) := ⟨empty⟩
instance : Inhabited (Table α) := ⟨empty⟩

def keys (t : Table α) : List String := t.entries.map (·.1)

def get? (t : Table α) (key : String) : Option α := t.entries.lookup key

def contains (t : Table α) (key : String) : Bool := (t.get? key).isSome

def size (t : Table α) : Nat := t.entries.length

def put (t : Table α) (key : String) (value : α) : Table α :=
  ⟨putEntry key value t.entries, putEntry_nodup t.distinct⟩

def erase (t : Table α) (key : String) : Table α :=
  ⟨t.entries.filter (·.1 ≠ key), t.distinct.sublist (List.filter_sublist.map _)⟩

def filter (t : Table α) (p : String → α → Bool) : Table α :=
  ⟨t.entries.filter fun e => p e.1 e.2, t.distinct.sublist (List.filter_sublist.map _)⟩

def map (f : α → β) (t : Table α) : Table β :=
  ⟨t.entries.map fun e => (e.1, f e.2), by
    rw [List.map_map]; exact t.distinct⟩

def ofList (entries : List (String × α)) : Table α :=
  entries.foldl (fun t e => t.put e.1 e.2) empty

def override (t s : Table α) : Table α :=
  s.entries.foldl (fun r e => r.put e.1 e.2) t

@[simp] theorem get?_empty (key : String) : (empty : Table α).get? key = none := rfl

theorem get?_put (t : Table α) (key k : String) (value : α) :
    (t.put key value).get? k = if k = key then some value else t.get? k :=
  lookup_putEntry key k value t.entries

theorem get?_put_self (t : Table α) (key : String) (value : α) :
    (t.put key value).get? key = some value := by simp [get?_put]

theorem get?_put_ne (t : Table α) {key k : String} (value : α) (h : k ≠ key) :
    (t.put key value).get? k = t.get? k := by simp [get?_put, h]

theorem get?_foldl_put {key : String} {entries : List (String × α)}
    (h : key ∉ entries.map (·.1)) (t : Table α) :
    (entries.foldl (fun r e => r.put e.1 e.2) t).get? key = t.get? key := by
  induction entries generalizing t with
  | nil => rfl
  | cons entry rest ih =>
    simp only [List.map_cons, List.mem_cons, not_or] at h
    rw [List.foldl_cons, ih h.2, get?_put_ne _ _ h.1]

theorem entries_foldl_put {entries : List (String × α)} (h : (entries.map (·.1)).Nodup)
    {t : Table α} (ht : ∀ e ∈ entries, e.1 ∉ t.keys) :
    (entries.foldl (fun r e => r.put e.1 e.2) t).entries = t.entries ++ entries := by
  induction entries generalizing t with
  | nil => simp
  | cons entry rest ih =>
    obtain ⟨hfirst, hrest⟩ := List.nodup_cons.1 h
    have hput : (t.put entry.1 entry.2).entries = t.entries ++ [entry] :=
      putEntry_of_not_mem (ht entry List.mem_cons_self)
    have hnew : ∀ e ∈ rest, e.1 ∉ (t.put entry.1 entry.2).keys := by
      intro e he
      have hne : e.1 ≠ entry.1 := by
        intro heq
        exact hfirst (List.mem_map.2 ⟨e, he, heq⟩)
      have hold := ht e (List.mem_cons_of_mem _ he)
      rw [keys] at hold ⊢
      rw [hput, List.map_append, List.mem_append]
      simpa [hne] using hold
    rw [List.foldl_cons, ih hrest hnew, hput, List.append_assoc, List.singleton_append]

theorem ofList_entries (t : Table α) : ofList t.entries = t :=
  ext (entries_foldl_put t.distinct fun _ _ => List.not_mem_nil)

theorem get?_erase (t : Table α) (key k : String) :
    (t.erase key).get? k = if k = key then none else t.get? k := by
  unfold get? erase
  simp only
  induction t.entries with
  | nil => simp
  | cons entry rest ih => grind [List.filter]

theorem put_of_get? {t : Table α} {key : String} {value : α} (h : t.get? key = some value) :
    t.put key value = t := ext (putEntry_of_lookup h)

theorem get?_eq_none_iff (t : Table α) (key : String) : t.get? key = none ↔ key ∉ t.keys := by
  unfold get? keys
  induction t.entries with
  | nil => simp
  | cons entry rest ih => grind

theorem get?_override_of_none {s : Table α} {key : String} (h : s.get? key = none) (t : Table α) :
    (t.override s).get? key = t.get? key := get?_foldl_put ((get?_eq_none_iff s key).1 h) t

theorem get?_eq_some_iff (t : Table α) (key : String) (value : α) :
    t.get? key = some value ↔ (key, value) ∈ t.entries := by
  obtain ⟨entries, h⟩ := t
  unfold get?
  induction entries with
  | nil => simp
  | cons entry rest ih => grind

theorem get?_map (f : α → β) (t : Table α) (key : String) :
    (t.map f).get? key = (t.get? key).map f := lookup_map (fun _ => f) key t.entries

theorem map_put (f : α → β) (t : Table α) (key : String) (value : α) :
    (t.put key value).map f = (t.map f).put key (f value) := ext (map_putEntry f key value t.entries)

theorem map_erase (f : α → β) (t : Table α) (key : String) :
    (t.erase key).map f = (t.map f).erase key := by
  refine ext ?_
  simp only [map, erase, List.filter_map]
  rfl

@[simp] theorem keys_map (f : α → β) (t : Table α) : (t.map f).keys = t.keys := by
  simp [keys, map]

@[simp] theorem size_map (f : α → β) (t : Table α) : (t.map f).size = t.size := List.length_map ..

@[simp] theorem contains_map (f : α → β) (t : Table α) (key : String) :
    (t.map f).contains key = t.contains key := by simp [contains, get?_map]

theorem map_id (t : Table α) : t.map (fun a => a) = t := ext (List.map_id' _)

theorem contains_iff (t : Table α) (key : String) : t.contains key ↔ key ∈ t.keys := by
  rw [contains, Option.isSome_iff_ne_none, ne_eq, get?_eq_none_iff, Decidable.not_not]

end Table

end AccessDirectory

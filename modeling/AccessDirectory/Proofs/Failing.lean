import Mathlib.Data.List.Forall2

/-! Computations that may fail. Steps one after the other succeed if each does, and a sort of failures
that no step leaves is one that the whole does not leave. -/

namespace AccessDirectory

theorem bind_eq_ok {ε α β : Type} {x : Except ε α} {f : α → Except ε β} {b : β} :
    x >>= f = .ok b ↔ ∃ a, x = .ok a ∧ f a = .ok b := by
  cases x <;> simp [bind, Except.bind]

theorem map_eq_ok {ε α β : Type} {x : Except ε α} {f : α → β} {b : β} :
    x.map f = .ok b ↔ ∃ a, x = .ok a ∧ f a = b := by
  cases x <;> simp [Except.map]

theorem map_eq_error {ε α β : Type} {x : Except ε α} {f : α → β} {e : ε} :
    x.map f = .error e ↔ x = .error e := by
  cases x <;> simp [Except.map]

theorem mapM_eq_ok {ε α β : Type} {f : α → Except ε β} {xs : List α} {ys : List β} :
    xs.mapM f = .ok ys ↔ List.Forall₂ (fun x y => f x = .ok y) xs ys := by
  constructor
  · intro h
    induction xs generalizing ys with
    | nil =>
      cases h
      exact .nil
    | cons x rest ih =>
      rw [List.mapM_cons] at h
      obtain ⟨y, hy, h⟩ := bind_eq_ok.1 h
      obtain ⟨later, hlater, h⟩ := bind_eq_ok.1 h
      cases h
      exact .cons hy (ih hlater)
  · intro h
    induction h with
    | nil => rfl
    | cons hy _ ih =>
      rw [List.mapM_cons]
      exact bind_eq_ok.2 ⟨_, hy, bind_eq_ok.2 ⟨_, ih, rfl⟩⟩

theorem exists_of_mem_mapM {ε α β : Type} {f : α → Except ε β} {xs : List α} {ys : List β}
    (h : xs.mapM f = .ok ys) {y : β} (hy : y ∈ ys) : ∃ x ∈ xs, f x = .ok y := by
  induction xs generalizing ys with
  | nil =>
    cases h
    cases hy
  | cons x rest ih =>
    rw [List.mapM_cons] at h
    obtain ⟨first, hfirst, h⟩ := bind_eq_ok.1 h
    obtain ⟨others, hothers, h⟩ := bind_eq_ok.1 h
    cases h
    obtain rfl | hy := List.mem_cons.1 hy
    · exact ⟨x, List.mem_cons_self, hfirst⟩
    · obtain ⟨x', hx', hf⟩ := ih hothers hy
      exact ⟨x', List.mem_cons_of_mem _ hx', hf⟩

theorem exists_mapM_ok {ε α β : Type} {f : α → Except ε β} {xs : List α}
    (h : ∀ x ∈ xs, ∃ y, f x = .ok y) :
    ∃ ys, xs.mapM f = .ok ys ∧ ∀ y, y ∈ ys ↔ ∃ x ∈ xs, f x = .ok y := by
  induction xs with
  | nil => exact ⟨[], rfl, by simp⟩
  | cons x rest ih =>
    obtain ⟨y, hy⟩ := h x List.mem_cons_self
    obtain ⟨ys, hys, hmem⟩ := ih fun x' hx' => h x' (List.mem_cons_of_mem _ hx')
    refine ⟨y :: ys, ?_, fun z => ?_⟩
    · rw [List.mapM_cons]
      exact bind_eq_ok.2 ⟨y, hy, bind_eq_ok.2 ⟨ys, hys, rfl⟩⟩
    · simp [hmem, hy, eq_comm]

theorem exists_of_mapM_eq_ok {ε α β : Type} {f : α → Except ε β} {xs : List α} {ys : List β}
    (h : xs.mapM f = .ok ys) {x : α} (hx : x ∈ xs) : ∃ y, f x = .ok y := by
  induction mapM_eq_ok.1 h with
  | nil => cases hx
  | cons hy hrest ih =>
    obtain rfl | hx := List.mem_cons.1 hx
    · exact ⟨_, hy⟩
    · exact ih (mapM_eq_ok.2 hrest) hx

structure SucceedsIf {ε α : Type} (condition : Prop) (sort : α → Prop) (result : Except ε α) :
    Prop where
  success : condition → ∃ a, result = .ok a ∧ sort a
  failure : ¬ condition → ∃ f, result = .error f

namespace SucceedsIf
variable {ε α β : Type} {P P' : Prop} {Q : α → Prop} {Q' : β → Prop} {result : Except ε α}

theorem ok {a : α} (hP : P) (h : Q a) : SucceedsIf P Q (.ok a : Except ε α) :=
  ⟨fun _ => ⟨a, rfl, h⟩, fun hno => absurd hP hno⟩

theorem error {f : ε} (hP : ¬ P) : SucceedsIf P Q (.error f : Except ε α) :=
  ⟨fun h => absurd h hP, fun _ => ⟨f, rfl⟩⟩

theorem of_iff {P₂ : Prop} (h : SucceedsIf P Q result) (hiff : P₂ ↔ P) : SucceedsIf P₂ Q result :=
  ⟨fun hP => h.success (hiff.1 hP), fun hno => h.failure (mt hiff.2 hno)⟩

theorem map (h : SucceedsIf P Q result) {f : α → β} (hf : ∀ a, Q a → Q' (f a)) :
    SucceedsIf P Q' (result.map f) where
  success hP := by
    obtain ⟨a, ha, hQ⟩ := h.success hP
    exact ⟨f a, map_eq_ok.2 ⟨a, ha, rfl⟩, hf a hQ⟩
  failure hno := by
    obtain ⟨e, he⟩ := h.failure hno
    exact ⟨e, map_eq_error.2 he⟩

theorem bind {next : α → Except ε β} (h : SucceedsIf P Q result)
    (hn : ∀ a, Q a → SucceedsIf P' Q' (next a)) : SucceedsIf (P ∧ P') Q' (result >>= next) where
  success hP := by
    obtain ⟨a, ha, hQ⟩ := h.success hP.1
    obtain ⟨b, hb, hQ'⟩ := (hn a hQ).success hP.2
    exact ⟨b, bind_eq_ok.2 ⟨a, ha, hb⟩, hQ'⟩
  failure hno := by
    by_cases hP : P
    · obtain ⟨a, rfl, hQ⟩ := h.success hP
      exact (hn a hQ).failure fun hP' => hno ⟨hP, hP'⟩
    · obtain ⟨f, rfl⟩ := h.failure hP
      exact ⟨f, rfl⟩

end SucceedsIf

def FailsOnly {ε α : Type} (sort : ε → Prop) (result : Except ε α) : Prop :=
  ∀ f, result = .error f → sort f

namespace FailsOnly
variable {ε α β : Type} {sort : ε → Prop} {result : Except ε α}

theorem ok (x : α) : FailsOnly sort (.ok x) := by
  intro f h
  cases h

theorem error {f : ε} (h : sort f) : FailsOnly sort (.error f : Except ε α) := by
  intro g hg
  cases hg
  exact h

theorem bind {next : α → Except ε β} (h : FailsOnly sort result)
    (hn : ∀ x, FailsOnly sort (next x)) : FailsOnly sort (result >>= next) := by
  cases result with
  | error f => exact error (h f rfl)
  | ok x => exact hn x

theorem map (h : FailsOnly sort result) (f : α → β) : FailsOnly sort (result.map f) := by
  cases result with
  | error g => exact error (h g rfl)
  | ok x => exact ok (f x)

theorem mapM {f : α → Except ε β} (h : ∀ x, FailsOnly sort (f x)) (xs : List α) :
    FailsOnly sort (xs.mapM f) := by
  induction xs with
  | nil => exact ok []
  | cons x rest ih =>
    rw [List.mapM_cons]
    exact (h x).bind fun _ => ih.bind fun _ => ok _

end FailsOnly

end AccessDirectory

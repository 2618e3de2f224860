import AccessDirectory.Proofs.Json.RoundTrip

/-! Canonical texts tell values apart: those of two values without floating point are the same just when
the values differ in nothing but the order of members. -/

namespace AccessDirectory.Json

/-- Equality up to the order of the members of objects, at any depth. -/
inductive Reordered : Json → Json → Prop
  | refl (v : Json) : Reordered v v
  | trans {u v w : Json} (h : Reordered u v) (h' : Reordered v w) : Reordered u w
  | members {ms ns : List (String × Json)} (h : ms.Perm ns) : Reordered (obj ms) (obj ns)
  | item (before after : List Json) {v w : Json} (h : Reordered v w) :
      Reordered (arr (before ++ v :: after)) (arr (before ++ w :: after))
  | member (before after : List (String × Json)) (key : String) {v w : Json}
      (h : Reordered v w) :
      Reordered (obj (before ++ (key, v) :: after)) (obj (before ++ (key, w) :: after))

namespace Reordered
variable {v w : Json}

theorem symm (h : Reordered v w) : Reordered w v := by
  induction h with
  | refl => exact .refl _
  | trans _ _ ih ih' => exact ih'.trans ih
  | members h => exact .members h.symm
  | item before after _ ih => exact .item before after ih
  | member before after key _ ih => exact .member before after key ih

end Reordered

variable {v w : Json}

theorem Exact.of_reordered (h : Reordered v w) (hv : Exact v) : Exact w := by
  induction h with
  | refl => exact hv
  | trans _ _ ih ih' => exact ih' (ih hv)
  | members h =>
    cases hv with
    | obj distinct hms =>
      exact .obj ((h.map _).nodup_iff.1 distinct) fun m hm => hms m (h.mem_iff.2 hm)
  | item before after _ ih =>
    cases hv with
    | arr hitems =>
      refine .arr fun x hx => ?_
      have hw := ih (hitems _ (by simp))
      rcases List.mem_append.1 hx with hx | hx
      · exact hitems x (by simp [hx])
      · rcases List.mem_cons.1 hx with rfl | hx
        · exact hw
        · exact hitems x (by simp [hx])
  | member before after key _ ih =>
    cases hv with
    | obj distinct hms =>
      refine .obj (by simpa using distinct) fun m hm => ?_
      have hw := ih (hms (key, _) (by simp))
      rcases List.mem_append.1 hm with hm | hm
      · exact hms m (by simp [hm])
      · rcases List.mem_cons.1 hm with rfl | hm
        · exact hw
        · exact hms m (by simp [hm])

theorem Exact.distinct {ms : List (String × Json)} (h : Exact (Json.obj ms)) :
    (ms.map (·.1)).Nodup := by
  cases h with
  | obj distinct _ => exact distinct

theorem mergeSort_eq_of_perm {ms ns : List (String × Json)} (distinct : (ms.map (·.1)).Nodup)
    (h : ms.Perm ns) :
    ms.mergeSort (fun a b => a.1 ≤ b.1) = ns.mergeSort (fun a b => a.1 ≤ b.1) := by
  have htrans : ∀ a b c : String × Json,
      decide (a.1 ≤ b.1) = true → decide (b.1 ≤ c.1) = true → decide (a.1 ≤ c.1) = true := by
    intro a b c hab hbc
    simp only [decide_eq_true_eq] at hab hbc ⊢
    exact String.le_trans hab hbc
  have htotal : ∀ a b : String × Json, (decide (a.1 ≤ b.1) || decide (b.1 ≤ a.1)) = true := by
    intro a b
    simpa using String.le_total a.1 b.1
  have hsorted : ∀ xs : List (String × Json),
      (xs.mergeSort (fun a b => a.1 ≤ b.1)).Pairwise fun a b => a.1 ≤ b.1 := by
    intro xs
    simpa using List.pairwise_mergeSort htrans htotal xs
  have hperm := (List.mergeSort_perm ms fun a b => decide (a.1 ≤ b.1)).trans
    (h.trans (List.mergeSort_perm ns fun a b => decide (a.1 ≤ b.1)).symm)
  -- Distinct keys leave no room for two members that are each not behind the other.
  refine List.Perm.eq_of_pairwise ?_ (hsorted ms) (hsorted ns) hperm
  intro a b ha hb hab hba
  have ham : a ∈ ms := (List.mergeSort_perm ms _).mem_iff.1 ha
  have hbm : b ∈ ms := h.mem_iff.2 ((List.mergeSort_perm ns _).mem_iff.1 hb)
  exact List.inj_on_of_nodup_map distinct ham hbm (String.le_antisymm hab hba)

theorem Exact.sortedMembers_distinct {ms : List (String × Json)} (h : Exact (Json.obj ms)) :
    ((sortedMembers ms).map (·.1)).Nodup := by
  rw [sortedMembers_eq_map, List.map_map]
  exact h.distinct

theorem Reordered.sorted_eq (h : Reordered v w) (hv : Exact v) :
    v.sorted = w.sorted := by
  induction h with
  | refl => rfl
  | trans h _ ih ih' => exact (ih hv).trans (ih' (hv.of_reordered h))
  | @members ms ns h =>
    have hperm : (sortedMembers ms).Perm (sortedMembers ns) := by
      rw [sortedMembers_eq_map, sortedMembers_eq_map]
      exact h.map _
    rw [sorted, sorted, mergeSort_eq_of_perm hv.sortedMembers_distinct hperm]
  | item before after _ ih =>
    cases hv with
    | arr hitems =>
      have hvw := ih (hitems _ (by simp))
      simp only [sorted, sortedItems_eq_map, List.map_append, List.map_cons, hvw]
  | member before after key _ ih =>
    cases hv with
    | obj _ hms =>
      have hvw := ih (hms (key, _) (by simp))
      simp only [sorted, sortedMembers_eq_map, List.map_append, List.map_cons, hvw]

theorem reordered_arr_map {f : Json → Json} {items : List Json}
    (h : ∀ v ∈ items, Reordered v (f v)) (before : List Json) :
    Reordered (arr (before ++ items)) (arr (before ++ items.map f)) := by
  induction items generalizing before with
  | nil => exact .refl _
  | cons v rest ih =>
    have first : Reordered (arr (before ++ v :: rest)) (arr (before ++ f v :: rest)) :=
      .item before rest (h v List.mem_cons_self)
    have others := ih (fun x hx => h x (List.mem_cons_of_mem _ hx)) (before ++ [f v])
    rw [List.append_assoc, List.append_assoc] at others
    exact first.trans others

theorem reordered_obj_map {f : Json → Json} {ms : List (String × Json)}
    (h : ∀ m ∈ ms, Reordered m.2 (f m.2)) (before : List (String × Json)) :
    Reordered (obj (before ++ ms)) (obj (before ++ ms.map fun m => (m.1, f m.2))) := by
  induction ms generalizing before with
  | nil => exact .refl _
  | cons m rest ih =>
    have first : Reordered (obj (before ++ m :: rest)) (obj (before ++ (m.1, f m.2) :: rest)) :=
      .member before rest m.1 (h m List.mem_cons_self)
    have others := ih (fun x hx => h x (List.mem_cons_of_mem _ hx)) (before ++ [(m.1, f m.2)])
    rw [List.append_assoc, List.append_assoc] at others
    exact first.trans others

theorem Exact.reordered_sorted (h : Exact v) : Reordered v v.sorted := by
  induction h with
  | arr _ ih =>
    rw [sorted, sortedItems_eq_map]
    exact reordered_arr_map ih []
  | @obj ms _ _ ih =>
    -- First every value is brought into sorted form where it stands, then the members.
    have values : Reordered (Json.obj ms) (Json.obj (sortedMembers ms)) := by
      rw [sortedMembers_eq_map]
      exact reordered_obj_map ih []
    rw [sorted]
    exact values.trans (.members (List.mergeSort_perm _ _).symm)
  | _ => exact .refl _

theorem Exact.write_injective {style : Style} (hs : style.Lawful) (hv : Exact v)
    (hw : Exact w) (h : write style v = write style w) : v = w := by
  have nothing : ∀ c ∈ ([] : List Char), isSpace c := by simp
  have readv := readUnmarked_write hs hv nothing
  have readw := readUnmarked_write hs hw nothing
  rw [h, readw] at readv
  exact (Except.ok.inj readv).symm

theorem reordered_iff_sorted_eq (hv : Exact v) (hw : Exact w) :
    Reordered v w ↔ v.sorted = w.sorted := by
  constructor
  · intro h
    exact h.sorted_eq hv
  · intro h
    have hvs := hv.reordered_sorted
    rw [h] at hvs
    exact hvs.trans hw.reordered_sorted.symm

theorem canonical_eq_iff (hv : Exact v) (hw : Exact w) :
    v.canonical = w.canonical ↔ Reordered v w := by
  rw [reordered_iff_sorted_eq hv hw]
  constructor
  · intro h
    have hv' := hv.of_reordered hv.reordered_sorted
    have hw' := hw.of_reordered hw.reordered_sorted
    exact hv'.write_injective Style.lawful_compact hw' (String.ofList_inj.1 h)
  · intro h
    rw [canonical, canonical, h]

theorem reordered_obj_iff {ms ns : List (String × Json)} (hm : Exact (obj ms))
    (hn : Exact (obj ns)) :
    Reordered (obj ms) (obj ns) ↔ (sortedMembers ms).Perm (sortedMembers ns) := by
  rw [reordered_iff_sorted_eq hm hn, sorted, sorted]
  constructor
  · intro h
    have hsame := obj.inj h
    have hms := List.mergeSort_perm (sortedMembers ms) fun a b => decide (a.1 ≤ b.1)
    have hns := List.mergeSort_perm (sortedMembers ns) fun a b => decide (a.1 ≤ b.1)
    rw [hsame] at hms
    exact hms.symm.trans hns
  · intro h
    rw [mergeSort_eq_of_perm hm.sortedMembers_distinct h]

end AccessDirectory.Json

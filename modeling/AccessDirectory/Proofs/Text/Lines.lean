import AccessDirectory.Text.Line

/-! Lines of a text in two parts, of which the first breaks off behind a line feed. They are the lines of
the parts, since no ending and no line stands across the break. -/

namespace AccessDirectory.Text

theorem unifyEndings_return {c : Char} (h : c ≠ '\n') (rest : List Char) :
    unifyEndings ('\r' :: c :: rest) = '\n' :: unifyEndings (c :: rest) := by
  rw [unifyEndings]
  rintro more heq
  exact h (List.cons.inj heq).1

theorem unifyEndings_cons {c : Char} (h : c ≠ '\r') (rest : List Char) :
    unifyEndings (c :: rest) = c :: unifyEndings rest := by
  rw [unifyEndings]
  · rintro more heq -
    exact h heq
  · exact h

theorem exists_unifyEndings_newline (before : List Char) :
    ∃ as, ∀ rest, unifyEndings (before ++ '\n' :: rest) = as ++ '\n' :: unifyEndings rest := by
  fun_induction unifyEndings before with
  | case1 => exact ⟨[], fun rest => unifyEndings_cons (by decide) rest⟩
  | case2 before ih =>
    obtain ⟨as, h⟩ := ih
    exact ⟨'\n' :: as, fun rest => by simp only [List.cons_append, unifyEndings, h]⟩
  | case3 before hnext ih =>
    cases before with
    | nil => exact ⟨[], fun rest => by simp [unifyEndings]⟩
    | cons c before =>
      have hc : c ≠ '\n' := by
        rintro rfl
        exact hnext before rfl
      obtain ⟨as, h⟩ := ih
      refine ⟨'\n' :: as, fun rest => ?_⟩
      have hrest := h rest
      simp only [List.cons_append, unifyEndings_return hc] at hrest ⊢
      rw [hrest]
  | case4 c before _ hc ih =>
    obtain ⟨as, h⟩ := ih
    exact ⟨c :: as, fun rest => by simp only [List.cons_append, unifyEndings_cons hc, h]⟩

def Ended (cs : List Char) : Prop := cs = [] ∨ ∃ before, cs = before ++ ['\n']

theorem Ended.unifyEndings {cs : List Char} (h : Ended cs) : Ended (unifyEndings cs) := by
  rcases h with rfl | ⟨before, rfl⟩
  · exact .inl rfl
  · obtain ⟨as, has⟩ := exists_unifyEndings_newline before
    exact .inr ⟨as, has []⟩

theorem unifyEndings_append {cs : List Char} (h : Ended cs) (rest : List Char) :
    unifyEndings (cs ++ rest) = unifyEndings cs ++ unifyEndings rest := by
  rcases h with rfl | ⟨before, rfl⟩
  · rfl
  · obtain ⟨as, has⟩ := exists_unifyEndings_newline before
    rw [List.append_assoc, List.singleton_append, has, has, List.append_assoc]
    rfl

theorem unifyEndings_of_not_mem {cs : List Char} (h : '\r' ∉ cs) : unifyEndings cs = cs := by
  induction cs with
  | nil => rfl
  | cons c rest ih =>
    obtain ⟨hc, hrest⟩ := not_or.1 (mt List.mem_cons.2 h)
    rw [unifyEndings_cons (Ne.symm hc), ih hrest]

theorem splitLines_append {cs : List Char} (h : Ended cs) (rest : List Char) :
    splitLines (cs ++ rest) = splitLines cs ++ splitLines rest := by
  rcases h with rfl | ⟨before, rfl⟩
  · rfl
  induction before with
  | nil => simp [splitLines]
  | cons c before ih =>
    have hne : splitLines (before ++ ['\n']) ≠ [] := by
      intro heq
      have hflat := splitLines_flatten (before ++ ['\n'])
      rw [heq] at hflat
      simp at hflat
    obtain ⟨line, lines, hlines⟩ := List.exists_cons_of_ne_nil hne
    rw [List.cons_append, List.cons_append, splitLines, splitLines, ih, hlines]
    split <;> rfl

theorem splitLines_flatMap {lines : List (List Char)} (h : ∀ line ∈ lines, '\n' ∉ line) :
    splitLines (lines.flatMap (· ++ ['\n'])) = lines.map (· ++ ['\n']) := by
  induction lines with
  | nil => rfl
  | cons line rest ih =>
    rw [List.flatMap_cons, List.append_assoc, List.singleton_append,
      splitLines_append_newline _ _ (h line List.mem_cons_self),
      ih fun l hl => h l (List.mem_cons_of_mem _ hl), List.map_cons]

end AccessDirectory.Text

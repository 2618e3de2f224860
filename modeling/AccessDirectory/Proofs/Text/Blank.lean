import AccessDirectory.Proofs.Text.Lines
import AccessDirectory.Text.Blank
import Mathlib.Data.List.TakeWhile

/-! Texts trimmed at their ends. Nothing is left of a text just if all its characters may go, and what is
left begins and ends with one that may not. -/

namespace AccessDirectory.Text
variable {p : Char → Bool}

theorem trimBy_eq_nil_iff {cs : List Char} : trimBy p cs = [] ↔ ∀ c ∈ cs, p c := by
  rw [trimBy, List.reverse_eq_nil_iff, List.dropWhile_eq_nil_iff]
  constructor
  · intro h
    by_contra hsome
    have hne : cs.dropWhile p ≠ [] := mt List.dropWhile_eq_nil_iff.1 hsome
    -- The character that stops the first pass is still there for the second.
    have hgoes := h _ (List.mem_reverse.2 (List.head_mem hne))
    simp [List.head_dropWhile_not p hne] at hgoes
  · intro h c hc
    exact h c ((List.dropWhile_sublist p).mem (List.mem_reverse.1 hc))

theorem strip_eq_empty_iff {s : String} : strip s = "" ↔ isBlankText s := by
  rw [strip, ← String.toList_inj, String.toList_ofList, String.toList_empty, trimBy_eq_nil_iff,
    isBlankText, List.all_eq_true]

theorem head?_dropWhile_ne {cs : List Char} {c : Char} (h : (cs.dropWhile p).head? = some c) :
    p c = false := by
  have hhead := List.head?_dropWhile_not p cs
  rw [h] at hhead
  simpa using hhead

theorem getLast?_trimBy {cs : List Char} {c : Char} (h : (trimBy p cs).getLast? = some c) :
    p c = false := by
  rw [trimBy, List.getLast?_reverse] at h
  exact head?_dropWhile_ne h

theorem head?_trimBy {cs : List Char} {c : Char} (h : (trimBy p cs).head? = some c) :
    p c = false := by
  rw [trimBy, List.head?_reverse] at h
  obtain ⟨dropped, hdropped⟩ := List.dropWhile_suffix p (l := (cs.dropWhile p).reverse)
  have hhead : (cs.dropWhile p).head? = some c := by
    rw [← List.getLast?_reverse, ← hdropped, List.getLast?_append, h, Option.some_or]
  exact head?_dropWhile_ne hhead

theorem all_isBlank_unifyEndings (cs : List Char) :
    (unifyEndings cs).all isBlank = cs.all isBlank := by
  have hline : isBlank '\n' = true := by decide
  have hreturn : isBlank '\r' = true := by decide
  fun_induction unifyEndings cs with
  | case1 => rfl
  | case2 rest ih => simp [hline, hreturn, ih]
  | case3 rest _ ih => simp [hline, hreturn, ih]
  | case4 c rest _ _ ih => simp [ih]

end AccessDirectory.Text

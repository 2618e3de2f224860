import AccessDirectory.Json.Reader
import AccessDirectory.Json.Writer

/-! Texts in quotes: reading undoes writing, in every style. A character is written as itself, by a short
escape or by the escapes of its UTF-16 units, and each of these is read as the units it stands for. -/

namespace AccessDirectory.Json
open Text

theorem four?_fixed {n : Nat} (h : n < 0x10000) (rest : List Char) :
    ∃ a b c d, Hex.fixed 4 n ++ rest = a :: b :: c :: d :: rest ∧ Hex.four? a b c d = some n := by
  refine ⟨Hex.digit (n / 16 / 16 / 16 % 16), Hex.digit (n / 16 / 16 % 16), Hex.digit (n / 16 % 16),
    Hex.digit (n % 16), by simp [Hex.fixed], ?_⟩
  have hv := fun m => Hex.value?_digit (m % 16) (Nat.mod_lt m (by omega))
  simp only [Hex.four?, hv, bind, Option.bind, pure, Option.some.injEq]
  omega

def unitsOf (style : Style) (c : Char) : List Nat :=
  if style.asciiOnly && 0x10000 ≤ c.toNat then
    [0xd800 + (c.toNat - 0x10000) / 0x400, 0xdc00 + (c.toNat - 0x10000) % 0x400]
  else [c.toNat]

def prepend (units : List Nat) (r : Except Fault (List Nat × List Char)) :
    Except Fault (List Nat × List Char) := r.map fun (more, rest) => (units ++ more, rest)

variable {start rest : List Char}

theorem readUnits_unicodeEscape {n : Nat} (h : n < 0x10000) (hr : rest ≠ []) :
    readUnits start (unicodeEscape n ++ rest) = prepend [n] (readUnits start rest) := by
  obtain ⟨a, b, c, d, heq, hn⟩ := four?_fixed h rest
  obtain ⟨next, more, rfl⟩ := List.exists_cons_of_ne_nil hr
  rw [unicodeEscape, List.cons_append, List.cons_append, heq, readUnits,
    if_neg (by decide), if_pos rfl]
  simp only [if_true, hn]
  cases readUnits start (next :: more) <;> rfl

theorem readUnits_shortEscape {e : Char} {n : Nat} (he : e ≠ 'u') (hn : shortEscape? e = some n) :
    readUnits start ('\\' :: e :: rest) = prepend [n] (readUnits start rest) := by
  rw [readUnits.eq_def]
  simp only [if_neg (show '\\' ≠ Quoted.doubleQuote by decide), if_true, if_neg he, hn]
  cases readUnits start rest <;> rfl

theorem readUnits_plain {c : Char} (hq : c ≠ Quoted.doubleQuote) (hb : c ≠ '\\')
    (hc : ¬ c.toNat < 0x20) :
    readUnits start (c :: rest) = prepend [c.toNat] (readUnits start rest) := by
  rw [readUnits.eq_def]
  simp only [if_neg hq, if_neg hb, if_neg hc]
  cases readUnits start rest <;> rfl

theorem prepend_prepend (as bs : List Nat) (r : Except Fault (List Nat × List Char)) :
    prepend as (prepend bs r) = prepend (as ++ bs) r := by
  cases r <;> simp [prepend, Except.map]

theorem unitsOf_of_lt {style : Style} {c : Char} (h : c.toNat < 0x10000) :
    unitsOf style c = [c.toNat] := by simp [unitsOf, Nat.not_le.2 h]

theorem readUnits_short (style : Style) {c e : Char} (he : e ≠ 'u')
    (hs : shortEscape? e = some c.toNat) (hc : c.toNat < 0x10000) :
    readUnits start (['\\', e] ++ rest) = prepend (unitsOf style c) (readUnits start rest) := by
  rw [unitsOf_of_lt hc]
  exact readUnits_shortEscape he hs

theorem readUnits_unitEscapes {style : Style} (ha : style.asciiOnly) (c : Char) (hr : rest ≠ []) :
    readUnits start (unitEscapes c.toNat ++ rest) =
      prepend (unitsOf style c) (readUnits start rest) := by
  have hscalar : c.toNat < 0xd800 ∨ 0xdfff < c.toNat ∧ c.toNat < 0x110000 := c.valid
  unfold unitEscapes
  split
  next h =>
    rw [unitsOf_of_lt h]
    exact readUnits_unicodeEscape h hr
  next h =>
    have hunits : unitsOf style c = [0xd800 + (c.toNat - 0x10000) / 0x400] ++
        [0xdc00 + (c.toNat - 0x10000) % 0x400] := by simp [unitsOf, ha, Nat.not_lt.1 h]
    rw [List.append_assoc, readUnits_unicodeEscape (by omega) (by simp [unicodeEscape]),
      readUnits_unicodeEscape (by omega) hr, prepend_prepend, hunits]

theorem unitsOf_of_plain {style : Style} {c : Char} (h : ¬ (style.asciiOnly && 0x7f ≤ c.toNat)) :
    unitsOf style c = [c.toNat] := by
  simp only [Bool.and_eq_true, decide_eq_true_eq, not_and] at h
  refine if_neg ?_
  simp only [Bool.and_eq_true, decide_eq_true_eq, not_and]
  intro ha
  have := h ha
  omega

theorem readUnits_writeChar (style : Style) (c : Char) (hr : rest ≠ []) :
    readUnits start (writeChar style c ++ rest) =
      prepend (unitsOf style c) (readUnits start rest) := by
  -- The cases are those of the writer, in its order.
  unfold writeChar
  split
  next h =>
    subst h
    exact readUnits_short style (by decide) (by decide) (by decide)
  next hq =>
  split
  next h =>
    subst h
    exact readUnits_short style (by decide) (by decide) (by decide)
  next hb =>
  split
  next h =>
    subst h
    exact readUnits_short style (by decide) (by decide) (by decide)
  split
  next h =>
    subst h
    exact readUnits_short style (by decide) (by decide) (by decide)
  split
  next h =>
    subst h
    exact readUnits_short style (by decide) (by decide) (by decide)
  split
  next h =>
    apply readUnits_short style (by decide) _ (by omega)
    rw [h]
    decide
  split
  next h =>
    apply readUnits_short style (by decide) _ (by omega)
    rw [h]
    decide
  split
  next h =>
    rw [unitsOf_of_lt (by omega)]
    exact readUnits_unicodeEscape (by omega) hr
  next hc =>
  split
  next hascii =>
    simp only [Bool.and_eq_true] at hascii
    exact readUnits_unitEscapes hascii.1 c hr
  next hplain =>
    rw [unitsOf_of_plain hplain]
    exact readUnits_plain hq hb hc

theorem readUnits_flatMap (style : Style) (cs : List Char) :
    readUnits start (cs.flatMap (writeChar style) ++ Quoted.doubleQuote :: rest) =
      .ok (cs.flatMap (unitsOf style), rest) := by
  induction cs with
  | nil =>
    rw [readUnits.eq_def]
    rfl
  | cons c cs ih =>
    rw [List.flatMap_cons, List.append_assoc, readUnits_writeChar style c (by simp), ih,
      List.flatMap_cons]
    rfl

/-- Units are joined to the character that they came from: no character is itself a surrogate. -/
theorem joinPairs_unitsOf (style : Style) (c : Char) (units : List Nat) :
    Encoding.joinPairs (unitsOf style c ++ units) = c :: Encoding.joinPairs units := by
  have hscalar : c.toNat < 0xd800 ∨ 0xdfff < c.toNat ∧ c.toNat < 0x110000 := c.valid
  unfold unitsOf
  split
  next h =>
    simp only [Bool.and_eq_true, decide_eq_true_eq] at h
    have hjoin : 0x10000 + (0xd800 + (c.toNat - 0x10000) / 0x400 - 0xd800) * 0x400 +
        (0xdc00 + (c.toNat - 0x10000) % 0x400 - 0xdc00) = c.toNat := by omega
    rw [List.cons_append, List.cons_append, List.nil_append, Encoding.joinPairs, if_pos, hjoin,
      Char.ofNat_toNat]
    simp only [Bool.and_eq_true, decide_eq_true_eq]
    omega
  next =>
    have hunit : Encoding.ofUnit c.toNat = c := by
      rw [Encoding.ofUnit, if_neg, Char.ofNat_toNat]
      simp only [Bool.and_eq_true, decide_eq_true_eq]
      omega
    cases units with
    | nil => simp [Encoding.joinPairs, hunit]
    | cons u more =>
      rw [List.cons_append, List.nil_append, Encoding.joinPairs, if_neg, hunit]
      simp only [Bool.and_eq_true, decide_eq_true_eq]
      omega

theorem readString_writeString (style : Style) (s : String) (rest : List Char) :
    readString (writeString style s ++ rest) = .ok (s, rest) := by
  have hjoin : ∀ cs : List Char, Encoding.joinPairs (cs.flatMap (unitsOf style)) = cs := by
    intro cs
    induction cs with
    | nil => rfl
    | cons c cs ih => rw [List.flatMap_cons, joinPairs_unitsOf, ih]
  unfold readString writeString
  simp only [List.cons_append, List.append_assoc, List.nil_append, List.drop_succ_cons,
    List.drop_zero, readUnits_flatMap]
  simp [bind, Except.bind, pure, Except.pure, hjoin]

end AccessDirectory.Json

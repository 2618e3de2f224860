import AccessDirectory.Proofs.Json.RoundTrip

/-! Written values hold no control character, so that each stands on one line of a text. Texts have
their control characters escaped, and nothing else writes one. -/

namespace AccessDirectory.Json
open Text

def Printed (cs : List Char) : Prop := ∀ c ∈ cs, 0x20 ≤ c.toNat

instance : DecidablePred Printed := fun cs =>
  decidable_of_iff (cs.all fun c => 0x20 ≤ c.toNat) (by simp [Printed])

theorem Printed.append {as bs : List Char} (ha : Printed as) (hb : Printed bs) :
    Printed (as ++ bs) := by
  intro c hc
  rcases List.mem_append.1 hc with hc | hc
  · exact ha c hc
  · exact hb c hc

theorem Printed.cons {c : Char} {cs : List Char} (hc : 0x20 ≤ c.toNat) (h : Printed cs) :
    Printed (c :: cs) := List.forall_mem_cons.2 ⟨hc, h⟩

theorem Printed.not_mem {cs : List Char} (h : Printed cs) {c : Char} (hc : c.toNat < 0x20) :
    c ∉ cs := by
  intro hmem
  have := h c hmem
  omega

theorem printed_unicodeEscape (unit : Nat) : Printed (unicodeEscape unit) := by
  have hdigit : ∀ m < 16, 0x20 ≤ (Hex.digit m).toNat := by decide
  refine Printed.cons (by decide) (Printed.cons (by decide) fun c hc => ?_)
  obtain ⟨m, hm, rfl⟩ := Hex.exists_digit_of_mem_fixed hc
  exact hdigit m hm

theorem printed_unitEscapes (n : Nat) : Printed (unitEscapes n) := by
  unfold unitEscapes
  split
  · exact printed_unicodeEscape _
  · exact (printed_unicodeEscape _).append (printed_unicodeEscape _)

theorem printed_writeChar (style : Style) (c : Char) : Printed (writeChar style c) := by
  unfold writeChar
  split
  next h =>
    subst h
    decide
  split
  · decide
  split
  · decide
  split
  · decide
  split
  · decide
  split
  · decide
  split
  · decide
  split
  · exact printed_unicodeEscape _
  split
  · exact printed_unitEscapes _
  next hc _ => simpa [Printed] using hc

theorem printed_writeString (style : Style) (s : String) : Printed (writeString style s) := by
  have hbody : Printed (s.toList.flatMap (writeChar style)) := by
    intro c hc
    obtain ⟨d, -, hd⟩ := List.mem_flatMap.1 hc
    exact printed_writeChar style d c hd
  exact Printed.append (Printed.cons (by decide) hbody) (by decide)

theorem printed_digits {ds : List Char} (h : ∀ c ∈ ds, c.isDigit) : Printed ds := by
  intro c hc
  have hd := h c hc
  simp only [Char.isDigit, Bool.and_eq_true, decide_eq_true_eq] at hd
  have : 48 ≤ c.toNat := hd.1
  omega

theorem printed_int (style : Style) (n : Int) : Printed (write style (int n)) := by
  have hdigits : ∀ m, Printed (Nat.toDigits 10 m) := fun m =>
    printed_digits fun c hc => Nat.isDigit_of_mem_toDigits (by decide) (by decide) hc
  rcases write_int style n with ⟨-, h⟩ | ⟨-, h⟩
  · exact h ▸ hdigits _
  · exact h ▸ Printed.cons (by decide) (hdigits _)

variable {style : Style}

theorem printed_nil : Printed [] := by decide

theorem printed_writeItems (hcomma : Printed style.comma) {items : List Json}
    (h : ∀ v ∈ items, Printed (write style v)) : Printed (writeItems style items) := by
  induction items with
  | nil => exact printed_nil
  | cons v more ih =>
    have hv := h v List.mem_cons_self
    cases more with
    | nil => rwa [writeItems]
    | cons w others =>
      rw [writeItems_cons_cons]
      exact hv.append (hcomma.append (ih fun x hx => h x (List.mem_cons_of_mem _ hx)))

theorem printed_writeMembers (hcomma : Printed style.comma) (hcolon : Printed style.colon)
    {members : List (String × Json)} (h : ∀ m ∈ members, Printed (write style m.2)) :
    Printed (writeMembers style members) := by
  induction members with
  | nil => exact printed_nil
  | cons m more ih =>
    obtain ⟨key, v⟩ := m
    have hv := h (key, v) List.mem_cons_self
    have hkey := printed_writeString style key
    cases more with
    | nil =>
      rw [writeMembers]
      exact (hkey.append hcolon).append hv
    | cons n others =>
      have hmore := ih fun x hx => h x (List.mem_cons_of_mem _ hx)
      rw [← List.append_nil (writeMembers _ _), writeMembers_cons_cons, List.append_nil]
      exact hkey.append (hcolon.append (hv.append (hcomma.append hmore)))

theorem Exact.printed (hcomma : Printed style.comma) (hcolon : Printed style.colon) {v : Json}
    (h : Exact v) : Printed (write style v) := by
  induction h with
  | null =>
    rw [write]
    decide
  | bool b => cases b <;> rw [write] <;> decide
  | int n => exact printed_int style n
  | str s =>
    rw [write]
    exact printed_writeString style s
  | arr _ ih =>
    rw [write]
    exact (Printed.cons (by decide) (printed_writeItems hcomma ih)).append (by decide)
  | obj _ _ ih =>
    rw [write]
    exact (Printed.cons (by decide) (printed_writeMembers hcomma hcolon ih)).append (by decide)

theorem Exact.printed_spacedText {v : Json} (h : Exact v) : Printed v.spacedText.toList := by
  rw [spacedText, String.toList_ofList]
  exact h.printed (by decide) (by decide)

end AccessDirectory.Json

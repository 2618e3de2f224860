import AccessDirectory.Proofs.Json.Texts
import Mathlib.Data.List.Nodup

/-! Values that are written without loss: reading undoes writing, in every style whose separators are a
sign and blanks behind it. What follows a value must not continue a number. -/

namespace AccessDirectory.Json
open Text

/-- Values without floating point whose objects have no key twice. -/
inductive Exact : Json → Prop
  | null : Exact null
  | bool (b : Bool) : Exact (bool b)
  | int (n : Int) : Exact (int n)
  | str (s : String) : Exact (str s)
  | arr {items : List Json} (h : ∀ v ∈ items, Exact v) : Exact (arr items)
  | obj {members : List (String × Json)} (distinct : (members.map (·.1)).Nodup)
      (h : ∀ m ∈ members, Exact m.2) : Exact (obj members)

structure Style.Lawful (style : Style) : Prop where
  comma : ∃ blanks, style.comma = ',' :: blanks ∧ ∀ c ∈ blanks, isSpace c
  colon : ∃ blanks, style.colon = ':' :: blanks ∧ ∀ c ∈ blanks, isSpace c

theorem Style.lawful_spaced : Style.spaced.Lawful :=
  ⟨⟨[' '], rfl, by simp [isSpace]⟩, ⟨[' '], rfl, by simp [isSpace]⟩⟩

theorem Style.lawful_compact : Style.compact.Lawful := ⟨⟨[], rfl, by simp⟩, ⟨[], rfl, by simp⟩⟩

def Stops (rest : List Char) : Prop :=
  ∀ c, rest.head? = some c → ¬ c.isDigit ∧ c ≠ '.' ∧ c ≠ 'e' ∧ c ≠ 'E'

theorem stops_nil : Stops [] := by
  intro c hc
  cases hc

theorem stops_cons {c : Char} {rest : List Char}
    (h : ¬ c.isDigit ∧ c ≠ '.' ∧ c ≠ 'e' ∧ c ≠ 'E') : Stops (c :: rest) := by
  intro d hd
  cases hd
  exact h

section Numbers
variable {rest : List Char}

theorem takeWhile_isDigit (h : Stops rest) : rest.takeWhile Char.isDigit = [] := by
  cases rest with
  | nil => rfl
  | cons c rest => rw [List.takeWhile_cons_of_neg (h c rfl).1]

theorem readFraction_of_stops (h : Stops rest) : readFraction rest = ([], rest) := by
  unfold readFraction
  split
  · exact absurd rfl (h '.' rfl).2.1
  · rfl

theorem readExponent_of_stops (h : Stops rest) : readExponent rest = (none, rest) := by
  unfold readExponent
  cases rest with
  | nil => rfl
  | cons c rest =>
    obtain ⟨-, -, he, hE⟩ := h c rfl
    simp [he, hE]

theorem digitsValue_toDigits (n : Nat) : digitsValue (Nat.toDigits 10 n) = n := by
  have h := @Nat.ofDigitChars_eq_foldl 10 (Nat.toDigits 10 n) 0
  rw [Nat.ofDigitChars_ten_toDigits] at h
  exact h.symm

theorem head?_toDigits {n : Nat} (h : 0 < n) : (Nat.toDigits 10 n).head? ≠ some '0' := by
  induction n using Nat.strongRecOn with
  | ind n ih =>
    rw [Nat.toDigits_eq_if (by decide)]
    split
    next hn =>
      have hall : ∀ m < 10, 0 < m → m.digitChar ≠ '0' := by decide
      simpa using hall n hn h
    next hn =>
      rw [List.head?_append_of_ne_nil _ Nat.toDigits_ne_nil]
      exact ih (n / 10) (by omega) (by omega)

theorem readNumber?_toDigits (negative : Bool) (n : Nat) (h : Stops rest) :
    readNumber? negative (Nat.toDigits 10 n ++ rest) =
      some (int (if negative then -n else n), rest) := by
  have hrun : (Nat.toDigits 10 n ++ rest).takeWhile Char.isDigit = Nat.toDigits 10 n := by
    rw [List.takeWhile_append_of_pos fun c hc =>
      Nat.isDigit_of_mem_toDigits (by decide) (by decide) hc, takeWhile_isDigit h, List.append_nil]
  have hwhole : (if (Nat.toDigits 10 n).head? = some '0' then ['0'] else Nat.toDigits 10 n) =
      Nat.toDigits 10 n := by
    rcases Nat.eq_zero_or_pos n with rfl | hn
    · rw [Nat.toDigits_zero]
      rfl
    · rw [if_neg (head?_toDigits hn)]
  unfold readNumber?
  simp only [hrun, hwhole, List.isEmpty_iff, Nat.toDigits_ne_nil, if_false, List.drop_left,
    readFraction_of_stops h, readExponent_of_stops h, digitsValue_toDigits]
  rfl

theorem isDigit_ne {c d : Char} (hc : c.isDigit) (hd : ¬ d.isDigit) : d ≠ c := by
  rintro rfl
  exact hd hc

theorem readWord?_of_isDigit {c : Char} (hc : c.isDigit) : readWord? (c :: rest) = none := by
  have hne := fun d hd => isDigit_ne (d := d) hc hd
  simp [readWord?, wordValues, hne 'n' (by decide), hne 't' (by decide), hne 'f' (by decide),
    hne 'N' (by decide), hne 'I' (by decide), hne '-' (by decide)]

theorem readWord?_minus {c : Char} (hc : c.isDigit) : readWord? ('-' :: c :: rest) = none := by
  simp [readWord?, wordValues, isDigit_ne (d := 'I') hc (by decide)]

theorem exists_toDigits_eq_cons (n : Nat) :
    ∃ c cs, Nat.toDigits 10 n = c :: cs ∧ c.isDigit := by
  obtain ⟨c, cs, h⟩ := List.exists_cons_of_ne_nil (Nat.toDigits_ne_nil (n := n) (b := 10))
  refine ⟨c, cs, h, ?_⟩
  exact Nat.isDigit_of_mem_toDigits (b := 10) (n := n) (by decide) (by decide) (by simp [h])

theorem readScalar_toDigits (n : Nat) (h : Stops rest) :
    readScalar (Nat.toDigits 10 n ++ rest) = .ok (int n, rest) := by
  obtain ⟨c, cs, hcs, hc⟩ := exists_toDigits_eq_cons n
  have hnumber := readNumber?_toDigits false n h
  have hminus : '-' ≠ c := isDigit_ne hc (by decide)
  rw [hcs, List.cons_append] at hnumber ⊢
  simp [readScalar, readWord?_of_isDigit hc, hminus.symm, hnumber]

theorem readScalar_minus (n : Nat) (h : Stops rest) :
    readScalar ('-' :: Nat.toDigits 10 n ++ rest) = .ok (int (-n), rest) := by
  obtain ⟨c, cs, hcs, hc⟩ := exists_toDigits_eq_cons n
  have hnumber := readNumber?_toDigits true n h
  rw [hcs, List.cons_append] at hnumber
  rw [hcs, List.cons_append, List.cons_append]
  simp [readScalar, readWord?_minus hc, hnumber]

end Numbers

theorem write_int (style : Style) (n : Int) :
    0 ≤ n ∧ write style (int n) = Nat.toDigits 10 n.toNat ∨
      n < 0 ∧ write style (int n) = '-' :: Nat.toDigits 10 (-n).toNat := by
  rw [write, Int.toString_eq_repr, Int.repr_eq_if]
  split
  next hn => exact .inl ⟨hn, Nat.toList_repr⟩
  next hn => exact .inr ⟨by omega, by simp [Nat.toList_repr]⟩

variable {style : Style}

/-- Every written value begins with a sign that is no blank, closes no list and marks no byte order. -/
theorem write_eq_cons (style : Style) {v : Json} (h : Exact v) :
    ∃ c cs, write style v = c :: cs ∧ isSpace c = false ∧ c ≠ ']' ∧ c ≠ '\ufeff' := by
  cases h with
  | null => exact ⟨_, _, by rw [write], by decide⟩
  | bool b =>
    cases b with
    | true => exact ⟨_, _, by rw [write], by decide⟩
    | false => exact ⟨_, _, by rw [write], by decide⟩
  | int n =>
    obtain ⟨c, cs, hcs, hc⟩ := exists_toDigits_eq_cons n.toNat
    rcases write_int style n with ⟨-, h⟩ | ⟨-, h⟩
    · have hne := fun d hd => (isDigit_ne (d := d) hc hd).symm
      refine ⟨c, cs, h.trans hcs, ?_, hne _ (by decide), hne _ (by decide)⟩
      simp [isSpace, hne ' ' (by decide), hne '\t' (by decide), hne '\n' (by decide),
        hne '\r' (by decide)]
    · exact ⟨_, _, h, by decide⟩
  | str s => exact ⟨_, _, by rw [write, writeString, List.cons_append], by decide⟩
  | arr => exact ⟨_, _, by rw [write, List.cons_append], by decide⟩
  | obj => exact ⟨_, _, by rw [write, List.cons_append], by decide⟩

theorem skipSpace_cons {c : Char} {rest : List Char} (h : isSpace c = false) :
    skipSpace (c :: rest) = c :: rest := by
  rw [skipSpace, List.dropWhile_cons_of_neg (by simp [h])]

theorem skipSpace_append {blanks rest : List Char} (h : ∀ c ∈ blanks, isSpace c) :
    skipSpace (blanks ++ rest) = skipSpace rest := List.dropWhile_append_of_pos h

theorem skipSpace_write {v : Json} (h : Exact v) (rest : List Char) :
    skipSpace (write style v ++ rest) = write style v ++ rest := by
  obtain ⟨c, cs, hw, hc, -, -⟩ := write_eq_cons style h
  rw [hw, List.cons_append, skipSpace_cons hc]

def ReadsBack (style : Style) (v : Json) : Prop :=
  ∀ fuel rest, (write style v).length ≤ fuel → Stops rest →
    readValue fuel (write style v ++ rest) = .ok (v, rest)

theorem readsBack_scalar {v : Json} {c : Char} {cs : List Char} (hw : write style v = c :: cs)
    (hc : c ≠ Quoted.doubleQuote ∧ c ≠ '\x7b' ∧ c ≠ '[')
    (hv : ∀ rest, Stops rest → readScalar (c :: cs ++ rest) = .ok (v, rest)) :
    ReadsBack style v := by
  intro fuel rest hf hr
  have hread := hv rest hr
  rw [hw] at hf ⊢
  cases fuel with
  | zero => simp at hf
  | succ fuel =>
    rw [List.cons_append] at hread ⊢
    rw [readValue]
    simp only [if_neg hc.1, if_neg hc.2.1, if_neg hc.2.2, hread]

theorem readsBack_int (style : Style) (n : Int) : ReadsBack style (int n) := by
  rcases write_int style n with ⟨hn, h⟩ | ⟨hn, h⟩
  · obtain ⟨c, cs, hcs, hc⟩ := exists_toDigits_eq_cons n.toNat
    have hne := fun d hd => (isDigit_ne (d := d) hc hd).symm
    refine readsBack_scalar (h.trans hcs) ⟨hne _ (by decide), hne _ (by decide), hne _ (by decide)⟩ ?_
    intro rest hr
    rw [← hcs, readScalar_toDigits _ hr, Int.toNat_of_nonneg hn]
  · refine readsBack_scalar h (by decide) ?_
    intro rest hr
    rw [readScalar_minus _ hr, Int.toNat_of_nonneg (by omega), Int.neg_neg]

theorem readsBack_str (style : Style) (s : String) : ReadsBack style (str s) := by
  intro fuel rest hf _
  have hread := readString_writeString style s rest
  rw [write] at hf ⊢
  cases fuel with
  | zero => simp [writeString] at hf
  | succ fuel =>
    simp only [writeString, List.cons_append, List.append_assoc, List.nil_append] at hread ⊢
    rw [readValue, if_pos rfl, hread]
    rfl

theorem stops_of_mem {c : Char} (h : c ∈ [',', ']', '\x7d']) (rest : List Char) :
    Stops (c :: rest) := by
  simp only [List.mem_cons, List.not_mem_nil, or_false] at h
  refine stops_cons ?_
  rcases h with rfl | rfl | rfl <;> decide

theorem writeItems_cons_cons (v w : Json) (more : List Json) :
    writeItems style (v :: w :: more) =
      write style v ++ (style.comma ++ writeItems style (w :: more)) := by
  rw [writeItems, List.append_assoc]
  exact List.cons_ne_nil w more

theorem exists_writeItems_cons (style : Style) (v : Json) (more : List Json) :
    ∃ behind, writeItems style (v :: more) = write style v ++ behind := by
  cases more with
  | nil => exact ⟨[], by rw [writeItems, List.append_nil]⟩
  | cons w more => exact ⟨_, writeItems_cons_cons v w more⟩

theorem readItems_writeItems (hs : style.Lawful) {items : List Json} (hne : items ≠ [])
    (h : ∀ v ∈ items, Exact v ∧ ReadsBack style v) {fuel : Nat}
    (hf : (writeItems style items).length < fuel) (rest : List Char) :
    readItems fuel (writeItems style items ++ ']' :: rest) = .ok (items, rest) := by
  obtain ⟨blanks, hcomma, hblanks⟩ := hs.comma
  induction items generalizing fuel with
  | nil => exact absurd rfl hne
  | cons v more ih =>
    obtain ⟨-, hv⟩ := h v List.mem_cons_self
    obtain ⟨fuel, rfl⟩ := Nat.exists_eq_succ_of_ne_zero (Nat.ne_zero_of_lt hf)
    cases more with
    | nil =>
      rw [writeItems] at hf ⊢
      rw [readItems, hv fuel _ (by omega) (stops_of_mem (by decide) _)]
      rfl
    | cons w others =>
      obtain ⟨behind, hbehind⟩ := exists_writeItems_cons style w others
      have hskip : skipSpace (blanks ++ (writeItems style (w :: others) ++ ']' :: rest)) =
          writeItems style (w :: others) ++ ']' :: rest := by
        rw [skipSpace_append hblanks, hbehind, List.append_assoc,
          skipSpace_write (h w (by simp)).1]
      rw [writeItems_cons_cons, hcomma] at hf ⊢
      simp only [List.length_append, List.length_cons] at hf
      -- The first value and its comma take two characters, which pays for the call behind them.
      have hnext : readItems fuel (writeItems style (w :: others) ++ ']' :: rest) =
          .ok (w :: others, rest) :=
        ih (List.cons_ne_nil _ _) (fun x hx => h x (List.mem_cons_of_mem _ hx)) (by omega)
      rw [List.append_assoc, List.append_assoc, List.cons_append, readItems,
        hv fuel _ (by omega) (stops_of_mem (by decide) _)]
      simp only [bind, Except.bind, skipSpace_cons (show isSpace ',' = false by decide), hskip, hnext]
      rfl

theorem readMembers_member (hs : style.Lawful) {v : Json} (hexact : Exact v)
    (hv : ReadsBack style v) {fuel : Nat} (hf : (write style v).length ≤ fuel) (key : String)
    (before : List (String × Json)) {tail : List Char} (ht : Stops tail) :
    readMembers (fuel + 1) before
        (writeString style key ++ (style.colon ++ (write style v ++ tail))) =
      match skipSpace tail with
      | '\x7d' :: after => .ok (putEntry key v before, after)
      | ',' :: more => readMembers fuel (putEntry key v before) (skipSpace more)
      | other => .error ⟨.comma, other⟩ := by
  obtain ⟨blanks, hcolon, hblanks⟩ := hs.colon
  have hkey := readString_writeString style key (style.colon ++ (write style v ++ tail))
  have hskip : skipSpace (blanks ++ (write style v ++ tail)) = write style v ++ tail := by
    rw [skipSpace_append hblanks, skipSpace_write hexact]
  rw [hcolon, writeString, List.cons_append, List.cons_append] at hkey ⊢
  rw [readMembers, if_pos rfl, hkey]
  simp only [bind, Except.bind, List.cons_append, skipSpace_cons (show isSpace ':' = false by decide),
    hskip, hv fuel tail hf ht]
  rfl

theorem writeMembers_singleton (style : Style) (key : String) (v : Json) (rest : List Char) :
    writeMembers style [(key, v)] ++ rest =
      writeString style key ++ (style.colon ++ (write style v ++ rest)) := by
  simp [writeMembers]

theorem writeMembers_cons_cons (style : Style) (key : String) (v : Json) (m : String × Json)
    (more : List (String × Json)) (rest : List Char) :
    writeMembers style ((key, v) :: m :: more) ++ rest =
      writeString style key ++ (style.colon ++ (write style v ++
        (style.comma ++ (writeMembers style (m :: more) ++ rest)))) := by
  rw [writeMembers]
  · simp only [List.append_assoc]
  · exact List.cons_ne_nil m more

theorem exists_writeMembers_cons (style : Style) (m : String × Json) (more : List (String × Json)) :
    ∃ behind, writeMembers style (m :: more) = Quoted.doubleQuote :: behind := by
  cases more with
  | nil =>
    have h := writeMembers_singleton style m.1 m.2 []
    rw [List.append_nil, writeString, List.cons_append, List.cons_append] at h
    exact ⟨_, h⟩
  | cons n more =>
    have h := writeMembers_cons_cons style m.1 m.2 n more []
    rw [List.append_nil, writeString, List.cons_append, List.cons_append] at h
    exact ⟨_, h⟩

theorem skipSpace_writeMembers (m : String × Json) (more : List (String × Json))
    (rest : List Char) :
    skipSpace (writeMembers style (m :: more) ++ rest) = writeMembers style (m :: more) ++ rest := by
  obtain ⟨behind, h⟩ := exists_writeMembers_cons style m more
  rw [h, List.cons_append, skipSpace_cons (by decide)]

theorem readMembers_writeMembers (hs : style.Lawful) {before members : List (String × Json)}
    (hne : members ≠ []) (distinct : ((before ++ members).map (·.1)).Nodup)
    (h : ∀ m ∈ members, Exact m.2 ∧ ReadsBack style m.2) {fuel : Nat}
    (hf : (writeMembers style members).length < fuel) (rest : List Char) :
    readMembers fuel before (writeMembers style members ++ '\x7d' :: rest) =
      .ok (before ++ members, rest) := by
  obtain ⟨blanks, hcomma, hblanks⟩ := hs.comma
  induction members generalizing before fuel with
  | nil => exact absurd rfl hne
  | cons m more ih =>
    obtain ⟨key, v⟩ := m
    obtain ⟨hexact, hv⟩ : Exact v ∧ ReadsBack style v := h (key, v) List.mem_cons_self
    obtain ⟨fuel, rfl⟩ := Nat.exists_eq_succ_of_ne_zero (Nat.ne_zero_of_lt hf)
    have hput : putEntry key v before = before ++ [(key, v)] := by
      refine putEntry_of_not_mem fun hmem => ?_
      rw [List.map_append, List.nodup_append] at distinct
      exact distinct.2.2 key hmem key (by simp) rfl
    cases more with
    | nil =>
      have hlength := congrArg List.length (writeMembers_singleton style key v [])
      simp only [List.append_nil, List.length_append] at hlength
      rw [writeMembers_singleton, readMembers_member hs hexact hv (by omega) key before
        (stops_of_mem (by decide) _), skipSpace_cons (by decide), hput]
      rfl
    | cons n others =>
      have hlength := congrArg List.length (writeMembers_cons_cons style key v n others [])
      simp only [List.append_nil, List.length_append, hcomma, List.length_cons] at hlength
      rw [writeMembers_cons_cons, hcomma, List.cons_append, readMembers_member hs hexact hv (by omega)
        key before (stops_of_mem (by decide) _), skipSpace_cons (by decide)]
      simp only [skipSpace_append hblanks, skipSpace_writeMembers, hput]
      rw [ih (List.cons_ne_nil _ _) (by simpa using distinct)
        (fun x hx => h x (List.mem_cons_of_mem _ hx)) (by omega), List.append_assoc]
      rfl

theorem readsBack_arr (hs : style.Lawful) {items : List Json}
    (h : ∀ v ∈ items, Exact v ∧ ReadsBack style v) : ReadsBack style (arr items) := by
  intro fuel rest hf _
  -- The brackets leave one character of fuel more than the items need.
  rw [write] at hf ⊢
  simp only [List.length_append, List.length_cons, List.length_nil] at hf
  obtain ⟨fuel, rfl⟩ := Nat.exists_eq_succ_of_ne_zero (n := fuel) (by omega)
  rw [List.cons_append, List.cons_append, List.append_assoc, readValue, if_neg (by decide),
    if_neg (by decide), if_pos rfl]
  cases items with
  | nil => rfl
  | cons v more =>
    obtain ⟨behind, hbehind⟩ := exists_writeItems_cons style v more
    obtain ⟨c, cs, hw, hc, hclose, -⟩ := write_eq_cons style (h v List.mem_cons_self).1
    have hlength : (writeItems style (v :: more)).length < fuel := by omega
    have hread := readItems_writeItems hs (List.cons_ne_nil v more) h hlength rest
    rw [hbehind, hw] at hread ⊢
    simp only [List.cons_append, List.nil_append, skipSpace_cons hc] at hread ⊢
    split
    next heq => exact absurd (List.cons.inj heq).1 hclose
    next =>
      rw [hread]
      rfl

theorem readsBack_obj (hs : style.Lawful) {members : List (String × Json)}
    (distinct : (members.map (·.1)).Nodup) (h : ∀ m ∈ members, Exact m.2 ∧ ReadsBack style m.2) :
    ReadsBack style (obj members) := by
  intro fuel rest hf _
  rw [write] at hf ⊢
  simp only [List.length_append, List.length_cons, List.length_nil] at hf
  obtain ⟨fuel, rfl⟩ := Nat.exists_eq_succ_of_ne_zero (n := fuel) (by omega)
  rw [List.cons_append, List.cons_append, List.append_assoc, readValue, if_neg (by decide),
    if_pos rfl]
  cases members with
  | nil => rfl
  | cons m more =>
    have hlength : (writeMembers style (m :: more)).length < fuel := by omega
    have hread : readMembers fuel [] (writeMembers style (m :: more) ++ '\x7d' :: rest) =
        .ok (m :: more, rest) :=
      readMembers_writeMembers hs (List.cons_ne_nil m more) distinct h hlength rest
    simp only [List.cons_append, List.nil_append, skipSpace_writeMembers] at hread ⊢
    split
    next heq =>
      obtain ⟨behind, hquote⟩ := exists_writeMembers_cons style m more
      rw [hquote, List.cons_append] at heq
      exact absurd (List.cons.inj heq).1 (by decide)
    next =>
      rw [hread]
      rfl

theorem Exact.readsBack (hs : style.Lawful) {v : Json} (h : Exact v) : ReadsBack style v := by
  induction h with
  | null => exact readsBack_scalar (by rw [write]) (by decide) fun rest _ => rfl
  | bool b =>
    cases b with
    | true => exact readsBack_scalar (by rw [write]) (by decide) fun rest _ => rfl
    | false => exact readsBack_scalar (by rw [write]) (by decide) fun rest _ => rfl
  | int n => exact readsBack_int style n
  | str s => exact readsBack_str style s
  | arr h ih => exact readsBack_arr hs fun v hv => ⟨h v hv, ih v hv⟩
  | obj distinct h ih => exact readsBack_obj hs distinct fun m hm => ⟨h m hm, ih m hm⟩

theorem stops_of_isSpace {blanks : List Char} (h : ∀ c ∈ blanks, isSpace c) : Stops blanks := by
  cases blanks with
  | nil => exact stops_nil
  | cons c blanks =>
    have hc := h c List.mem_cons_self
    simp only [isSpace, Bool.or_eq_true, decide_eq_true_eq] at hc
    refine stops_cons ?_
    rcases hc with ((rfl | rfl) | rfl) | rfl <;> decide

theorem readUnmarked_write (hs : style.Lawful) {v : Json} (h : Exact v) {blanks : List Char}
    (hb : ∀ c ∈ blanks, isSpace c) : readUnmarked (write style v ++ blanks) = .ok v := by
  have hskip : skipSpace blanks = [] := by
    have hdrop := @skipSpace_append blanks [] hb
    rwa [List.append_nil] at hdrop
  have hvalue := h.readsBack hs (2 * (write style v ++ blanks).length + 2) blanks
    (by rw [List.length_append]; omega) (stops_of_isSpace hb)
  obtain ⟨c, cs, hw, -, -, hmark⟩ := write_eq_cons style h
  have hhead : (write style v ++ blanks).head? ≠ some '\ufeff' := by
    rw [hw, List.cons_append, List.head?_cons]
    exact fun heq => hmark (Option.some.inj heq)
  rw [readUnmarked, if_neg hhead, read, skipSpace_write h, hvalue]
  simp only [bind, Except.bind, hskip]
  rfl

end AccessDirectory.Json

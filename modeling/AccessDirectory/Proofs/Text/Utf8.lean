import AccessDirectory.Text.Utf8

/-! Reading undoes writing in UTF-8: the bytes of a text are read back as its characters, without a
flaw, whatever follows them. -/

namespace AccessDirectory.Text.Utf8

theorem toNat_byte {n : Nat} (h : n < 256) : (UInt8.ofNat n).toNat = n := UInt8.toNat_ofNat_of_lt' h

theorem lead?_byte {n : Nat} (h : n < 256) :
    lead? (UInt8.ofNat n) =
      if n < 0xc2 then none
      else if n < 0xe0 then some (1, 0x80, 0xbf)
      else if n = 0xe0 then some (2, 0xa0, 0xbf)
      else if n = 0xed then some (2, 0x80, 0x9f)
      else if n < 0xf0 then some (2, 0x80, 0xbf)
      else if n = 0xf0 then some (3, 0x90, 0xbf)
      else if n < 0xf4 then some (3, 0x80, 0xbf)
      else if n = 0xf4 then some (3, 0x80, 0x8f)
      else none := by
  simp only [lead?, UInt8.lt_iff_toNat_lt, ← UInt8.toNat_inj, toNat_byte h]
  rfl

theorem readTails_tail {value m : Nat} {seen rest : Bytes} {owed : Nat} {low high : UInt8}
    (hl : low.toNat ≤ m % 64 + 128) (hh : m % 64 + 128 ≤ high.toNat) :
    readTails value seen (owed + 1) low high (UInt8.ofNat (m % 64 + 128) :: rest) =
      readTails (value * 64 + m % 64) (UInt8.ofNat (m % 64 + 128) :: seen) owed 0x80 0xbf rest := by
  have hn := toNat_byte (n := m % 64 + 128) (by omega)
  rw [readTails, if_pos ⟨by rwa [UInt8.le_iff_toNat_le, hn], by rwa [UInt8.le_iff_toNat_le, hn]⟩, hn,
    Nat.add_sub_cancel]

theorem readTails_inner {value m : Nat} {seen rest : Bytes} {owed : Nat} :
    readTails value seen (owed + 1) 0x80 0xbf (UInt8.ofNat (m % 64 + 128) :: rest) =
      readTails (value * 64 + m % 64) (UInt8.ofNat (m % 64 + 128) :: seen) owed 0x80 0xbf rest :=
  readTails_tail (show 128 ≤ m % 64 + 128 by omega) (show m % 64 + 128 ≤ 191 by omega)

theorem readPiece_lead {n owed : Nat} {low high : UInt8} (h : 0x80 ≤ n) (hn : n < 256)
    (hl : lead? (UInt8.ofNat n) = some (owed, low, high)) (rest : Bytes) :
    readPiece (UInt8.ofNat n) rest =
      readTails (n % Nat.pow 2 (6 - owed)) [UInt8.ofNat n] owed low high rest := by
  have hlt : ¬ UInt8.ofNat n < 0x80 := by
    rw [UInt8.lt_iff_toNat_lt, toNat_byte hn]
    exact Nat.not_lt.2 h
  rw [readPiece, if_neg hlt, hl, toNat_byte hn]

theorem readPiece_two {v : Nat} (h : 0x80 ≤ v) (hv : v ≤ 0x7ff) (rest : Bytes) :
    readPiece (UInt8.ofNat (v / 64 % 32 + 192)) (UInt8.ofNat (v % 64 + 128) :: rest) =
      (.char (Char.ofNat v), rest) := by
  have hl : lead? (UInt8.ofNat (v / 64 % 32 + 192)) = some (1, 0x80, 0xbf) := by
    rw [lead?_byte (by omega), if_neg (by omega), if_pos (by omega)]
  rw [readPiece_lead (by omega) (by omega) hl, show Nat.pow 2 (6 - 1) = 32 from rfl,
    readTails_inner, readTails]
  congr 3
  omega

/-- A character of three bytes. The first tail is bounded so that the character could not have been
written in two, and is no surrogate. -/
theorem readPiece_three {v : Nat} (h : 0x800 ≤ v) (hv : v ≤ 0xffff)
    (hs : v < 0xd800 ∨ 0xe000 ≤ v) (rest : Bytes) :
    readPiece (UInt8.ofNat (v / 4096 % 16 + 224))
        (UInt8.ofNat (v / 64 % 64 + 128) :: UInt8.ofNat (v % 64 + 128) :: rest) =
      (.char (Char.ofNat v), rest) := by
  obtain ⟨low, high, hl, hlow, hhigh⟩ : ∃ low high : UInt8,
      lead? (UInt8.ofNat (v / 4096 % 16 + 224)) = some (2, low, high) ∧
        low.toNat ≤ v / 64 % 64 + 128 ∧ v / 64 % 64 + 128 ≤ high.toNat := by
    rw [lead?_byte (by omega), if_neg (by omega), if_neg (by omega)]
    split
    · exact ⟨0xa0, 0xbf, rfl, show 160 ≤ _ by omega, show _ ≤ 191 by omega⟩
    · split
      · exact ⟨0x80, 0x9f, rfl, show 128 ≤ _ by omega, show _ ≤ 159 by omega⟩
      · rw [if_pos (by omega)]
        exact ⟨0x80, 0xbf, rfl, show 128 ≤ _ by omega, show _ ≤ 191 by omega⟩
  rw [readPiece_lead (by omega) (by omega) hl, show Nat.pow 2 (6 - 2) = 16 from rfl,
    readTails_tail hlow hhigh, readTails_inner, readTails]
  congr 3
  omega

theorem readPiece_four {v : Nat} (h : 0x10000 ≤ v) (hv : v ≤ 0x10ffff) (rest : Bytes) :
    readPiece (UInt8.ofNat (v / 262144 % 8 + 240))
        (UInt8.ofNat (v / 4096 % 64 + 128) :: UInt8.ofNat (v / 64 % 64 + 128) ::
          UInt8.ofNat (v % 64 + 128) :: rest) =
      (.char (Char.ofNat v), rest) := by
  obtain ⟨low, high, hl, hlow, hhigh⟩ : ∃ low high : UInt8,
      lead? (UInt8.ofNat (v / 262144 % 8 + 240)) = some (3, low, high) ∧
        low.toNat ≤ v / 4096 % 64 + 128 ∧ v / 4096 % 64 + 128 ≤ high.toNat := by
    rw [lead?_byte (by omega), if_neg (by omega), if_neg (by omega), if_neg (by omega),
      if_neg (by omega), if_neg (by omega)]
    split
    · exact ⟨0x90, 0xbf, rfl, show 144 ≤ _ by omega, show _ ≤ 191 by omega⟩
    · split
      · exact ⟨0x80, 0xbf, rfl, show 128 ≤ _ by omega, show _ ≤ 191 by omega⟩
      · rw [if_pos (by omega)]
        exact ⟨0x80, 0x8f, rfl, show 128 ≤ _ by omega, show _ ≤ 143 by omega⟩
  rw [readPiece_lead (by omega) (by omega) hl, show Nat.pow 2 (6 - 3) = 8 from rfl,
    readTails_tail hlow hhigh, readTails_inner,
    readTails_inner, readTails]
  congr 3
  omega

theorem pieces_encodeChar (c : Char) (rest : Bytes) :
    pieces (String.utf8EncodeChar c ++ rest) = .char c :: pieces rest := by
  have hofNat : Char.ofNat c.val.toNat = c := Char.ofNat_toNat c
  have hscalar : c.val.toNat < 0xd800 ∨ 0xdfff < c.val.toNat ∧ c.val.toNat < 0x110000 := c.valid
  unfold String.utf8EncodeChar
  generalize c.val.toNat = v at hofNat hscalar
  dsimp only
  split
  · have hlt : UInt8.ofNat v < 0x80 := by
      rw [UInt8.lt_iff_toNat_lt, toNat_byte (by omega)]
      exact show v < 128 by omega
    simp only [List.cons_append, List.nil_append]
    rw [pieces, readPiece, if_pos hlt, toNat_byte (by omega), hofNat]
  split
  · simp only [List.cons_append, List.nil_append]
    rw [pieces, readPiece_two (by omega) (by omega), hofNat]
  split
  · simp only [List.cons_append, List.nil_append]
    rw [pieces, readPiece_three (by omega) (by omega) (by omega), hofNat]
  · simp only [List.cons_append, List.nil_append]
    rw [pieces, readPiece_four (by omega) (by omega), hofNat]

theorem pieces_encode (s : String) : pieces (encode s) = s.toList.map .char := by
  unfold encode
  induction s.toList with
  | nil => simp [pieces]
  | cons c rest ih => rw [List.flatMap_cons, pieces_encodeChar, ih, List.map_cons]

theorem decode?_encode (s : String) : decode? (encode s) = some s := by
  have chars : ∀ cs : List Char, Piece.chars? (cs.map .char) = some cs := by
    intro cs
    induction cs with
    | nil => rfl
    | cons c rest ih => simp [Piece.chars?, ih]
  rw [decode?, pieces_encode, chars, Option.map_some, String.ofList_toList]

theorem encode_append (s t : String) : encode (s ++ t) = encode s ++ encode t := by
  simp [encode]

end AccessDirectory.Text.Utf8

import AccessDirectory.Proofs.Text.Utf8
import AccessDirectory.Text.Percent

/-! Reading undoes writing in percent escapes, and what is written has no other characters than letters,
digits, a few marks and percent signs. -/

namespace AccessDirectory.Text.Percent

def IsPlain (c : Char) : Prop := isUnreserved c ∨ c = '%'

instance : DecidablePred IsPlain := fun c => inferInstanceAs (Decidable (isUnreserved c ∨ c = '%'))

theorem toBytes_cons {c : Char} (h : c ≠ '%') (rest : List Char) :
    toBytes (c :: rest) = String.utf8EncodeChar c ++ toBytes rest := by
  match rest with
  | [] => simp [toBytes]
  | [d] => simp [toBytes]
  | a :: b :: rest => rw [toBytes, if_neg h]

def upperDigit (n : Nat) : Char := Char.ofNat (if n < 10 then 0x30 + n else 0x37 + n)

theorem upperDigit_spec :
    ∀ n < 16, Hex.value? (upperDigit n) = some n ∧ isUnreserved (upperDigit n) := by
  decide

theorem escape_eq (b : UInt8) :
    escape b = ['%', upperDigit (b.toNat / 16), upperDigit (b.toNat % 16)] := rfl

theorem toBytes_escape (b : UInt8) (rest : List Char) :
    toBytes (escape b ++ rest) = b :: toBytes rest := by
  have hb : b.toNat < 256 := b.toNat_lt
  have hhigh := (upperDigit_spec (b.toNat / 16) (by omega)).1
  have hlow := (upperDigit_spec (b.toNat % 16) (by omega)).1
  have hbyte : UInt8.ofNat (16 * (b.toNat / 16) + b.toNat % 16) = b := by
    rw [Nat.div_add_mod]
    exact UInt8.ofNat_toNat
  rw [escape_eq]
  simp only [List.cons_append, List.nil_append, toBytes, hhigh, hlow, hbyte, if_true]

theorem toBytes_flatMap_escape (bs : List UInt8) (rest : List Char) :
    toBytes (bs.flatMap escape ++ rest) = bs ++ toBytes rest := by
  induction bs with
  | nil => rfl
  | cons b more ih => rw [List.flatMap_cons, List.append_assoc, toBytes_escape, ih, List.cons_append]

def encodeChar (c : Char) : List Char :=
  if isUnreserved c then [c] else (String.utf8EncodeChar c).flatMap escape

theorem toList_encodeSegment (s : String) :
    (encodeSegment s).toList = s.toList.flatMap encodeChar := String.toList_ofList

theorem toBytes_encodeChar (c : Char) (rest : List Char) :
    toBytes (encodeChar c ++ rest) = String.utf8EncodeChar c ++ toBytes rest := by
  unfold encodeChar
  split
  next h =>
    refine toBytes_cons ?_ rest
    rintro rfl
    exact absurd h (by decide)
  next => exact toBytes_flatMap_escape _ rest

theorem toBytes_encodeSegment (s : String) : toBytes (encodeSegment s).toList = Utf8.encode s := by
  rw [toList_encodeSegment, Utf8.encode]
  induction s.toList with
  | nil => rfl
  | cons c rest ih => rw [List.flatMap_cons, List.flatMap_cons, toBytes_encodeChar, ih]

theorem toBytes_append {cs : List Char} (h : '%' ∉ cs) (rest : List Char) :
    toBytes (cs ++ rest) = cs.flatMap String.utf8EncodeChar ++ toBytes rest := by
  induction cs with
  | nil => rfl
  | cons c more ih =>
    obtain ⟨hc, hmore⟩ := not_or.1 (mt List.mem_cons.2 h)
    rw [List.cons_append, toBytes_cons (Ne.symm hc), ih hmore, List.flatMap_cons, List.append_assoc]

theorem decodeLossy_encode (s : String) : Utf8.decodeLossy (Utf8.encode s) = s := by
  rw [Utf8.decodeLossy, Utf8.pieces_encode, List.map_map]
  exact (congrArg String.ofList (List.map_id _)).trans String.ofList_toList

theorem decode_append_encodeSegment {s : String} (h : '%' ∉ s.toList) (t : String) :
    decode (s ++ encodeSegment t) = s ++ t := by
  rw [decode, String.toList_append, toBytes_append h, toBytes_encodeSegment]
  change Utf8.decodeLossy (Utf8.encode s ++ Utf8.encode t) = s ++ t
  rw [← Utf8.encode_append, decodeLossy_encode]

theorem decode_of_not_mem {s : String} (h : '%' ∉ s.toList) : decode s = s := by
  have hnone : encodeSegment "" = "" := rfl
  simpa [hnone] using decode_append_encodeSegment h ""

theorem isPlain_of_mem_encodeSegment {s : String} {c : Char} (h : c ∈ (encodeSegment s).toList) :
    IsPlain c := by
  rw [toList_encodeSegment] at h
  obtain ⟨d, -, h⟩ := List.mem_flatMap.1 h
  unfold encodeChar at h
  split at h
  next hd =>
    obtain rfl := List.mem_singleton.1 h
    exact .inl hd
  next =>
    obtain ⟨b, -, h⟩ := List.mem_flatMap.1 h
    have hb : b.toNat < 256 := b.toNat_lt
    have hhigh := (upperDigit_spec (b.toNat / 16) (by omega)).2
    have hlow := (upperDigit_spec (b.toNat % 16) (by omega)).2
    rw [escape_eq] at h
    simp only [List.mem_cons, List.not_mem_nil, or_false] at h
    obtain rfl | rfl | rfl := h
    · exact .inr rfl
    · exact .inl hhigh
    · exact .inl hlow

end AccessDirectory.Text.Percent

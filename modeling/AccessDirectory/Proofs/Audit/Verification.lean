import AccessDirectory.Audit.Store
import AccessDirectory.Proofs.Audit.Signature
import AccessDirectory.Proofs.Text.Utf8

/-! What verification makes of any text. It counts the records and the rightly signed ones among them,
unless a record is JSON of a kind that it does not expect: the first such record stops it. -/

namespace AccessDirectory.Audit
open Text

def filled (lines : List (List Char)) : List (List Char) :=
  lines.filter fun line => !line.all isBlank

def records (text : List Char) : List (List Char) := filled (splitLines (unifyEndings text))

/-- Whether a line is an object with a signature, which is the digest of its other members. -/
def Signed (key : String) (line : List Char) : Prop :=
  key ≠ "" ∧ ∃ members s, Json.readUnmarked line = .ok (.obj members) ∧
    members.lookup "signature" = some (.str s) ∧ s ≠ "" ∧ s = digest key (.obj (unsigned members))

def comparable (key : String) (signature : Json) : Bool :=
  key.isEmpty || !signature.isTruthy ||
    match signature with
    | .str s => isAscii s
    | _ => false

/-- What keeps a line from being judged, if anything does. -/
def obstacle? (key : String) (line : List Char) : Option Fault :=
  match Json.readUnmarked line with
  | .error _ => none
  | .ok (.obj members) =>
    if (members.lookup "signature").all (comparable key) then none else some .signatureUnfit
  | .ok (.arr _) => some .arrayRecord
  | .ok _ => some .scalarRecord

variable {key : String} {line : List Char} {members : Fields}

theorem signed_iff (h : Json.readUnmarked line = .ok (.obj members)) :
    Signed key line ↔ key ≠ "" ∧
      members.lookup "signature" = some (.str (digest key (.obj (unsigned members)))) := by
  refine and_congr_right fun _ => ⟨?_, ?_⟩
  · rintro ⟨others, s, hread, hs, -, rfl⟩
    rw [h] at hread
    cases hread
    exact hs
  · intro hs
    exact ⟨members, _, h, hs, digest_ne_empty _ _, rfl⟩

theorem sign_ne_empty (hkey : key ≠ "") (value : Json) : ¬ (sign key value).isEmpty := by
  rw [sign_eq_digest hkey, String.isEmpty_iff]
  exact digest_ne_empty _ _

theorem matchesRecord_str (hkey : key ≠ "") (s : String) :
    matchesRecord key members (.str s) =
      if isAscii s then .ok (s = digest key (.obj (unsigned members)))
      else .error .signatureUnfit := by
  rw [← sign_eq_digest hkey]
  exact if_neg (sign_ne_empty hkey _)

theorem matchesRecord_of_ne_str (hkey : key ≠ "") {signature : Json} (h : ∀ s, signature ≠ .str s) :
    matchesRecord key members signature = .error .signatureUnfit := by
  cases signature with
  | str s => exact absurd rfl (h s)
  | _ => exact if_neg (sign_ne_empty hkey _)

theorem checkRecord_of_not_comparable {signature : Json}
    (h : members.lookup "signature" = some signature) (hc : comparable key signature = false) :
    checkRecord key (.obj members) = .error .signatureUnfit := by
  simp only [comparable, Bool.or_eq_false_iff, Bool.not_eq_eq_eq_not, Bool.not_false] at hc
  obtain ⟨⟨hkey, htruthy⟩, hascii⟩ := hc
  have hne : key ≠ "" := by simpa using hkey
  simp only [checkRecord, h, Option.getD_some, if_pos htruthy]
  cases signature with
  | str s => rw [matchesRecord_str hne, if_neg (by simpa using hascii)]
  | _ => exact matchesRecord_of_ne_str hne fun s => by simp

theorem checkRecord_of_comparable (hc : (members.lookup "signature").all (comparable key)) :
    ∃ b, checkRecord key (.obj members) = .ok b ∧ (b ↔ key ≠ "" ∧
      members.lookup "signature" = some (.str (digest key (.obj (unsigned members))))) := by
  by_cases hkey : key = ""
  · subst hkey
    refine ⟨false, ?_, by simp⟩
    simp only [checkRecord, matchesRecord, sign_empty]
    split <;> rfl
  -- A missing signature counts as an empty text, which is passed over.
  cases hs : members.lookup "signature" with
  | none => exact ⟨false, by simp [checkRecord, hs, Json.isTruthy], by simp⟩
  | some signature =>
    have hne := digest_ne_empty key (.obj (unsigned members))
    rw [hs, Option.all_some] at hc
    simp only [checkRecord, hs, Option.getD_some]
    by_cases htruthy : signature.isTruthy = true
    · rw [if_pos htruthy]
      cases signature with
      | str s =>
        have hascii : isAscii s := by simpa [comparable, hkey, htruthy] using hc
        refine ⟨_, (matchesRecord_str hkey s).trans (if_pos hascii), ?_⟩
        simp [hkey]
      | _ => simp [comparable, hkey, htruthy] at hc
    · refine ⟨false, if_neg htruthy, ?_⟩
      -- A digest is not empty, so a signature that counts as missing is none.
      have hother : signature ≠ .str (digest key (.obj (unsigned members))) := by
        rintro rfl
        exact htruthy (by simpa [Json.isTruthy] using hne)
      simp [hother]

theorem checkLine_of_obstacle {f : Fault} (h : obstacle? key line = some f) :
    checkLine key line = .error f := by
  unfold obstacle? at h
  unfold checkLine
  split at h
  · cases h
  next members hread =>
    rw [hread]
    split at h
    next => cases h
    next hall =>
      cases hs : members.lookup "signature" with
      | none => simp [hs] at hall
      | some signature =>
        rw [hs, Option.all_some, Bool.not_eq_true] at hall
        cases h
        exact checkRecord_of_not_comparable hs hall
  next hread =>
    rw [hread]
    cases h
    rfl
  next value hobj harr hread =>
    rw [hread]
    cases h
    cases value with
    | obj members => exact absurd rfl (hobj members)
    | arr items => exact absurd rfl (harr items)
    | _ => rfl

theorem checkLine_of_no_obstacle (h : obstacle? key line = none) :
    ∃ b, checkLine key line = .ok b ∧ (b ↔ Signed key line) := by
  unfold obstacle? at h
  unfold checkLine
  split at h
  next fault hread =>
    refine ⟨false, by rw [hread], ?_⟩
    simp [Signed, hread]
  next members hread =>
    rw [hread, signed_iff hread]
    split at h
    next hall => exact checkRecord_of_comparable hall
    next => cases h
  next => cases h
  next => cases h

theorem obstacle?_of_signed (h : Signed key line) : obstacle? key line = none := by
  obtain ⟨-, members, s, hread, hs, -, rfl⟩ := h
  have hascii : comparable key (.str (digest key (.obj (unsigned members)))) := by
    simp [comparable, isAscii_digest]
  simp [obstacle?, hread, hs, hascii]

theorem checkLine_eq_ok_true : checkLine key line = .ok true ↔ Signed key line := by
  constructor
  · intro h
    cases ho : obstacle? key line with
    | some f =>
      rw [checkLine_of_obstacle ho] at h
      cases h
    | none =>
      obtain ⟨b, hb, hiff⟩ := checkLine_of_no_obstacle ho
      rw [hb] at h
      cases h
      exact hiff.1 rfl
  · intro h
    obtain ⟨b, hb, hiff⟩ := checkLine_of_no_obstacle (obstacle?_of_signed h)
    rw [hb, hiff.2 h]

instance (key : String) (line : List Char) : Decidable (Signed key line) :=
  match h : checkLine key line with
  | .ok true => isTrue (checkLine_eq_ok_true.1 h)
  | .ok false | .error _ => isFalse fun hs => by cases h.symm.trans (checkLine_eq_ok_true.2 hs)

theorem checkLine_eq (key : String) (line : List Char) :
    checkLine key line = match obstacle? key line with
      | some f => .error f
      | none => .ok (decide (Signed key line)) := by
  cases ho : obstacle? key line with
  | some f => exact checkLine_of_obstacle ho
  | none =>
    obtain ⟨b, hb, hiff⟩ := checkLine_of_no_obstacle ho
    rw [hb]
    refine congrArg _ ?_
    rw [← Bool.decide_coe b, decide_eq_decide]
    exact hiff

theorem tally_eq (key : String) (lines : List (List Char)) :
    tally key lines = match (filled lines).findSome? (obstacle? key) with
      | some f => .error f
      | none => .ok ((filled lines).length, (filled lines).countP (Signed key)) := by
  induction lines with
  | nil => rfl
  | cons line rest ih =>
    rw [tally]
    split
    next hblank =>
      have hskip : filled (line :: rest) = filled rest :=
        List.filter_cons_of_neg (by simp [hblank])
      rw [hskip, ih]
    next hblank =>
      have hkeep : filled (line :: rest) = line :: filled rest :=
        List.filter_cons_of_pos (by simp [hblank])
      rw [hkeep, checkLine_eq, List.findSome?_cons, ih]
      cases obstacle? key line with
      | some f => rfl
      | none =>
        -- A line is judged before those behind it, so its obstacle is the first.
        cases (filled rest).findSome? (obstacle? key) with
        | some f => rfl
        | none =>
          simp only [bind, Except.bind, List.length_cons, List.countP_cons]
          split <;> rfl

theorem tally_eq_ok {lines : List (List Char)} {t v : Nat} :
    tally key lines = .ok (t, v) ↔ (filled lines).findSome? (obstacle? key) = none ∧
      (filled lines).length = t ∧ (filled lines).countP (Signed key) = v := by
  rw [tally_eq]
  cases (filled lines).findSome? (obstacle? key) <;> simp

theorem verifyBytes_encode (key text : String) :
    verifyBytes key (Utf8.encode text) = verify key text.toList := by
  rw [verifyBytes, Utf8.decode?_encode]

namespace Store

/-- A trail of any text is verified to the number of its records and that of the signed ones, unless
a record is an obstacle: then to the fault of the first. -/
theorem verify_file_encode (key text : String) :
    Store.verify key (.file (Utf8.encode text)) =
      match (records text.toList).findSome? (obstacle? (strip key)) with
      | some f => .error f
      | none => .ok ((records text.toList).length,
          (records text.toList).countP (Signed (strip key))) := by
  rw [Store.verify, verifyBytes_encode]
  exact tally_eq _ _

/-- An array among the records keeps the trail from being verified. -/
theorem verify_array_record :
    Store.verify "key" (.file (Utf8.encode "[]\n")) = .error .arrayRecord ∧
      records "[]\n".toList = ["[]\n".toList] := by
  refine ⟨?_, by decide⟩
  rw [Store.verify, verifyBytes_encode]
  rfl

end Store

end AccessDirectory.Audit

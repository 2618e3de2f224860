import AccessDirectory.Audit.Trail

/-! Signatures are not empty and are written in ASCII, whatever is signed with whatever key. -/

namespace AccessDirectory

namespace Hash

theorem bigEndian_length (width n : Nat) : (bigEndian width n).length = width := by
  induction width generalizing n with
  | zero => rfl
  | succ width ih => simp [bigEndian, ih]

theorem sha256_length (message : Bytes) : (sha256 message).length = 32 := by
  simp [sha256, State.bytes, bigEndian_length]

theorem hmac_length (key message : Bytes) : (hmac key message).length = 32 := sha256_length _

end Hash

namespace Text.Hex

theorem ofBytes_ne_empty {bs : List UInt8} (h : bs ≠ []) : ofBytes bs ≠ "" := by
  obtain ⟨b, bs, rfl⟩ := List.exists_cons_of_ne_nil h
  intro heq
  have hlist := congrArg String.toList heq
  simp [ofBytes, fixed] at hlist

end Text.Hex

namespace Audit
open Text

theorem isAscii_ofBytes (bs : Bytes) : isAscii (Hex.ofBytes bs) := by
  have hdigit : ∀ m < 16, (Hex.digit m).toNat < 0x80 := by decide
  rw [isAscii, Hex.ofBytes, String.toList_ofList, List.all_eq_true]
  intro c hc
  obtain ⟨b, -, hb⟩ := List.mem_flatMap.1 hc
  obtain ⟨m, hm, rfl⟩ := Hex.exists_digit_of_mem_fixed hb
  exact decide_eq_true (hdigit m hm)

def digest (key : String) (value : Json) : String :=
  Hex.ofBytes (Hash.hmac (Utf8.encode key) (Utf8.encode value.canonical))

theorem sign_eq_digest {key : String} (h : key ≠ "") (value : Json) :
    sign key value = digest key value := by
  rw [sign, if_neg (by simpa using h), digest]

theorem sign_empty (value : Json) : sign "" value = "" := rfl

theorem digest_ne_empty (key : String) (value : Json) : digest key value ≠ "" := by
  refine Hex.ofBytes_ne_empty fun h => ?_
  have hlength := Hash.hmac_length (Utf8.encode key) (Utf8.encode value.canonical)
  rw [h] at hlength
  cases hlength

theorem isAscii_digest (key : String) (value : Json) : isAscii (digest key value) :=
  isAscii_ofBytes _

end Audit

end AccessDirectory

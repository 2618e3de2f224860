import AccessDirectory.Proofs.Directory.Changes
import AccessDirectory.Proofs.Json.RoundTrip
import AccessDirectory.Proofs.Number.Whole
import AccessDirectory.Proofs.Text.Base64Url
import AccessDirectory.Proofs.Text.Utf8
import AccessDirectory.Proofs.Token.Validation

/-! Issued tokens are accepted exactly during their lifetime. What was put together is taken apart again,
so that the claims of an issued token are read as they were written, and the instants in them decide. -/

namespace AccessDirectory

namespace Text.Encoding

theorem charsOfPieces_map (place : Nat) (cs : List Char) :
    charsOfPieces place (cs.map .char) = .ok cs := by
  induction cs generalizing place with
  | nil => rfl
  | cons c rest ih =>
    rw [List.map_cons, charsOfPieces, ih]
    rfl

theorem decode_encode {s : String} (h : detect (Utf8.encode s) = (utf8, 0)) :
    decode (Utf8.encode s) = .ok s.toList := by
  rw [decode, h]
  dsimp only
  rw [List.drop_zero, Utf8.pieces_encode, charsOfPieces_map]

theorem detect_brace (rest : List Char) :
    detect (Utf8.encode (String.ofList ('\x7b' :: '\x22' :: rest))) = (utf8, 0) := by
  have hbytes : Utf8.encode (String.ofList ('\x7b' :: '\x22' :: rest)) =
      0x7b :: 0x22 :: rest.flatMap String.utf8EncodeChar := by
    simp only [Utf8.encode, String.toList_ofList, List.flatMap_cons]
    rfl
  rw [hbytes]
  cases rest.flatMap String.utf8EncodeChar with
  | nil => rfl
  | cons b bs => cases bs <;> rfl

end Text.Encoding

namespace Token
open Text

theorem takeWhile_point {start tail : List Char} (h : '.' ∉ start) :
    (start ++ '.' :: tail).takeWhile (· ≠ '.') = start := by
  have hbefore : ∀ c ∈ start, decide (c ≠ '.') = true := by
    intro c hc
    rw [decide_eq_true_eq]
    rintro rfl
    exact h hc
  rw [List.takeWhile_append_of_pos hbefore]
  simp

theorem cutLast?_append {start tail : List Char} (h : '.' ∉ tail) :
    cutLast? (start ++ '.' :: tail) = some (start, tail) := by
  have hreverse : (start ++ '.' :: tail).reverse = tail.reverse ++ '.' :: start.reverse := by simp
  have htail : ((start ++ '.' :: tail).reverse.takeWhile (· ≠ '.')).reverse = tail := by
    rw [hreverse, takeWhile_point (by rwa [List.mem_reverse]), List.reverse_reverse]
  have hlength : (start ++ '.' :: tail).length = start.length + 1 + tail.length := by
    rw [List.length_append, List.length_cons]
    omega
  simp only [cutLast?, htail, hlength]
  rw [if_pos (by omega), Nat.add_sub_cancel, Nat.add_sub_cancel, List.take_left]

theorem cutFirst?_append {start tail : List Char} (h : '.' ∉ start) :
    cutFirst? (start ++ '.' :: tail) = some (start, tail) := by
  have hlength : (start ++ '.' :: tail).length = start.length + 1 + tail.length := by
    rw [List.length_append, List.length_cons]
    omega
  have hdrop : (start ++ '.' :: tail).drop (start.length + 1) = tail := by
    rw [← List.drop_drop, List.drop_left]
    rfl
  simp only [cutFirst?, takeWhile_point h, hlength, hdrop]
  rw [if_pos (by omega)]

def signedText (claims : Fields) : List Char := segment header ++ '.' :: segment (.obj claims)

theorem not_mem_segment (v : Json) : '.' ∉ segment v := Base64Url.not_mem_encode (by decide) _

theorem segments?_assemble (key : String) (claims : Fields) :
    segments? (assemble key claims) = some {
      signed := signedText claims
      header := segment header
      payload := segment (.obj claims)
      signature := Base64Url.encode (signature key (signedText claims)) } := by
  have hlast : cutLast? (assemble key claims) =
      some (signedText claims, Base64Url.encode (signature key (signedText claims))) :=
    cutLast?_append (Base64Url.not_mem_encode (by decide) _)
  have hfirst : cutFirst? (signedText claims) = some (segment header, segment (.obj claims)) :=
    cutFirst?_append (not_mem_segment header)
  simp only [segments?, hlast, Option.bind_eq_bind, Option.bind_some, hfirst]
  rfl

theorem decodeSegment_encode (part : Part) (bytes : Bytes) :
    decodeSegment part (Base64Url.encode bytes) = .ok bytes := by
  rw [decodeSegment, Base64Url.decode?_encode]

theorem readObject_compactText (part : Part) {m : String × Json} {more : Fields}
    (h : Json.Exact (.obj (m :: more))) :
    readObject part (Utf8.encode (Json.obj (m :: more)).compactText) = .ok (m :: more) := by
  obtain ⟨behind, hmembers⟩ := Json.exists_writeMembers_cons .compact m more
  have htext : Json.write .compact (.obj (m :: more)) =
      '\x7b' :: '\x22' :: (behind ++ ['\x7d']) := by
    rw [Json.write, hmembers]
    rfl
  have hdecode : Encoding.decode (Utf8.encode (Json.obj (m :: more)).compactText) =
      .ok (Json.write .compact (.obj (m :: more))) := by
    -- The text begins like an object, so its bytes are not taken for another encoding.
    have hdetect := Encoding.detect_brace (behind ++ ['\x7d'])
    rw [← htext] at hdetect
    have hchars := Encoding.decode_encode hdetect
    rwa [String.toList_ofList] at hchars
  have hread : Json.read (Json.write .compact (.obj (m :: more))) = .ok (.obj (m :: more)) := by
    have hunmarked : Json.readUnmarked (Json.write .compact (.obj (m :: more)) ++ []) =
        .ok (.obj (m :: more)) := Json.readUnmarked_write Json.Style.lawful_compact h (by simp)
    rw [List.append_nil, Json.readUnmarked] at hunmarked
    split at hunmarked
    · cases hunmarked
    · exact hunmarked
  simp only [readObject, hdecode, hread]

def headerFields : Fields := [("alg", .str algorithm), ("typ", .str "JWT")]

theorem readObject_header : readObject .header (Utf8.encode header.compactText) = .ok headerFields :=
  readObject_compactText .header (.obj (by decide) (by
    simp only [List.forall_mem_cons]
    exact ⟨.str _, .str _, by simp⟩))

theorem exact_claims (username : String) (issued expires : Int) :
    Json.Exact (.obj (claims username issued expires)) := by
  refine .obj (by simp [claims]) ?_
  simp only [claims, List.forall_mem_cons]
  exact ⟨.str _, .int _, .int _, by simp⟩

theorem openParts_assemble (key : String) (claims : Fields) :
    openParts (assemble key claims) = .ok {
      header := headerFields
      payload := Utf8.encode (Json.obj claims).compactText
      signed := signedText claims
      signature := signature key (signedText claims) } := by
  have hpayload : openPayload headerFields (segment (.obj claims)) =
      .ok (Utf8.encode (Json.obj claims).compactText) := by
    -- Nothing in the header says that the payload is handed over apart.
    have hplain : isDetached headerFields = false := by decide
    rw [openPayload, hplain, Bool.false_and, if_neg Bool.false_ne_true]
    exact decodeSegment_encode _ _
  have hheader : decodeSegment .header (segment header) = .ok (Utf8.encode header.compactText) :=
    decodeSegment_encode _ _
  simp only [openParts, segments?_assemble, hheader, decodeSegment_encode, bind, Except.bind,
    readObject_header, hpayload]
  rfl

theorem checkHeader_headerFields : checkHeader headerFields = .ok () := by rfl

theorem validate_assemble (key : String) (claims : Fields) (other : String) (now : Clock.Instant) :
    validate (String.ofList (assemble key claims)) other now =
      match checkKey other with
      | .error fault => .error (.unfitKey fault)
      | .ok other =>
        if signature key (signedText claims) ≠ signature other (signedText claims) then
          .error (.rejected .signature)
        else do
          let claims ← rejecting (readObject .payload (Utf8.encode (Json.obj claims).compactText))
          rejecting (requireClaims claims)
          if !Clock.inRange now then throw .beyondCalendar
          let subject ← rejecting (checkClaims claims now)
          return { subject, claims } := by
  unfold validate
  rw [String.toList_ofList, openParts_assemble]
  simp only [rejecting, bind, Except.bind, checkHeader_headerFields]
  -- The form is in order, so first the key decides, then the signature, and only then the claims.
  cases checkKey other with
  | error fault => rfl
  | ok other =>
    dsimp only
    split <;> rfl

section
variable {username : String} {issued expires s : Int}

theorem checkStarted_issued (hs : Clock.inRange (s * 1000000)) (hissued : issued ≤ s) :
    checkStarted (claims username issued expires) (Clock.realSeconds (s * 1000000)) .issued =
      .ok () := by
  have hclaim : timeClaim (claims username issued expires) .issued = .ok (some issued) := rfl
  have hle := Clock.intLe_realSeconds hs issued
  rw [decide_eq_true hissued] at hle
  simp only [checkStarted, hclaim, bind, Except.bind, hle]
  rfl

theorem checkExpiry_claims (hs : Clock.inRange (s * 1000000)) :
    checkExpiry (claims username issued expires) (Clock.realSeconds (s * 1000000)) =
      if s < expires then .ok () else .error .expired := by
  have hclaim : timeClaim (claims username issued expires) .expires = .ok (some expires) := rfl
  simp only [checkExpiry, hclaim, bind, Except.bind, Clock.intLe_realSeconds hs]
  by_cases h : s < expires
  · rw [if_pos h, decide_eq_false (by omega)]
    rfl
  · rw [if_neg h, decide_eq_true (by omega)]
    rfl

/-- The claims of an issued token hold from the second of its issue to the last second before the one at
which it expires. -/
theorem checkClaims_claims (hu : username ≠ "") (hs : Clock.inRange (s * 1000000))
    (hissued : issued ≤ s) :
    checkClaims (claims username issued expires) (s * 1000000) =
      if s < expires then .ok username else .error .expired := by
  have hnotBefore : checkStarted (claims username issued expires)
      (Clock.realSeconds (s * 1000000)) .notBefore = .ok () := rfl
  have haudience : (((claims username issued expires).lookup "aud").getD .null).isTruthy = false := rfl
  have hsubject : (claims username issued expires).lookup "sub" = some (.str username) := rfl
  have hidentifier : (claims username issued expires).lookup "jti" = none := rfl
  have hempty : username.isEmpty = false := by simpa using hu
  simp only [checkClaims, checkStarted_issued hs hissued, hnotBefore, checkExpiry_claims hs,
    haudience, hsubject, hidentifier, hempty, bind, Except.bind]
  by_cases h : s < expires
  · simp only [if_pos h]
    rfl
  · simp only [if_neg h]

end

theorem seconds_eq (t : Clock.Instant) : Clock.seconds t = t / 1000000 :=
  Int.fdiv_eq_ediv_of_nonneg t (by decide)

theorem seconds_add (t : Clock.Instant) (lifetime : Int) :
    Clock.seconds (t + lifetime * 1000000) = Clock.seconds t + lifetime := by
  have hadd := Int.add_mul_fdiv_right t lifetime (c := 1000000) (by decide)
  exact hadd

theorem issue_eq_ok {username key fit : String} {lifetime : Int} {t : Clock.Instant}
    (hkey : checkKey key = .ok fit) (ht : Clock.inRange t)
    (hexpires : Clock.inRange (t + lifetime * 1000000)) :
    issue username key lifetime t = .ok (String.ofList (assemble key
      (claims username (Clock.seconds t) (Clock.seconds t + lifetime)))) := by
  obtain rfl := eq_of_checkKey hkey
  simp only [issue, ht, hexpires, hkey, seconds_add]
  rfl

theorem validate_assemble_claims {username key fit : String} {issued expires s : Int}
    (hu : username ≠ "") (hkey : checkKey key = .ok fit) (hs : Clock.inRange (s * 1000000))
    (hissued : issued ≤ s) :
    validate (String.ofList (assemble key (claims username issued expires))) key (s * 1000000) =
      if s < expires then .ok ⟨username, claims username issued expires⟩
      else .error (.rejected .expired) := by
  have hread : readObject .payload
      (Utf8.encode (Json.obj (claims username issued expires)).compactText) =
        .ok (claims username issued expires) :=
    readObject_compactText .payload (exact_claims username issued expires)
  have hrequire : requireClaims (claims username issued expires) = .ok () := rfl
  obtain rfl := eq_of_checkKey hkey
  rw [validate_assemble, hkey]
  dsimp only
  rw [if_neg (by simp), hread]
  simp only [rejecting, hrequire, hs, checkClaims_claims hu hs hissued, bind, Except.bind]
  by_cases h : s < expires
  · simp only [if_pos h]
    rfl
  · simp only [if_neg h]
    rfl

/-- A token that was issued is accepted under its key in every second of its lifetime and has expired in
every later one. Under a key that signs it differently it is rejected at any time, unless that is no
key at all. -/
theorem validate_issue {username key fit : String} {lifetime : Int} {t : Clock.Instant}
    (hu : username ≠ "") (hkey : checkKey key = .ok fit) (ht : Clock.inRange t)
    (hexpires : Clock.inRange (t + lifetime * 1000000)) :
    ∃ token, issue username key lifetime t = .ok token ∧
      (∀ s : Int, t / 1000000 ≤ s → Clock.inRange (s * 1000000) →
        (s < t / 1000000 + lifetime → validate token key (s * 1000000) = .ok {
          subject := username
          claims := [("sub", .str username), ("iat", .int (t / 1000000)),
            ("exp", .int (t / 1000000 + lifetime))] }) ∧
        (t / 1000000 + lifetime ≤ s → ∃ r : Rejection, r.message = "Token has expired" ∧
          validate token key (s * 1000000) = .error (.rejected r))) ∧
      ∀ parts, segments? token.toList = some parts → ∀ other now,
        signature other parts.signed ≠ signature key parts.signed →
        (∀ fit, checkKey other = .ok fit →
          validate token other now = .error (.rejected .signature)) ∧
        ∀ fault, checkKey other = .error fault →
          validate token other now = .error (.unfitKey fault) := by
  refine ⟨_, issue_eq_ok hkey ht hexpires, fun s hissued hs => ?_, ?_⟩
  · rw [← seconds_eq] at hissued ⊢
    rw [validate_assemble_claims hu hkey hs hissued]
    exact ⟨fun hlt => if_pos hlt, fun hle => ⟨.expired, rfl, if_neg (Int.not_lt.2 hle)⟩⟩
  · rw [String.toList_ofList, segments?_assemble]
    rintro parts hparts other now hne
    cases hparts
    refine ⟨fun fit hfit => ?_, fun fault hfault => ?_⟩
    · obtain rfl := eq_of_checkKey hfit
      rw [validate_assemble, hfit]
      exact if_pos (Ne.symm hne)
    · rw [validate_assemble, hfault]

theorem validate_issue_hour : ∃ token, issue "alice" "secret" 3600 500000 = .ok token ∧
    validate token "secret" (3599 * 1000000) =
      .ok ⟨"alice", [("sub", .str "alice"), ("iat", .int 0), ("exp", .int 3600)]⟩ ∧
    (∃ r : Rejection, r.message = "Token has expired" ∧
      validate token "secret" (3600 * 1000000) = .error (.rejected r)) ∧
    validate token "other" 500000 = .error (.rejected .signature) := by
  obtain ⟨token, hissue, hlifetime, hother⟩ := @validate_issue "alice" "secret" "secret" 3600 500000
    (by decide) checkKey_secret (by decide) (by decide)
  obtain ⟨haccepted, -⟩ := hlifetime 3599 (by decide) (by decide)
  obtain ⟨-, hexpired⟩ := hlifetime 3600 (by decide) (by decide)
  have htoken : token = String.ofList (assemble "secret" (claims "alice" 0 3600)) := by
    have hsame := @issue_eq_ok "alice" "secret" "secret" 3600 500000 checkKey_secret (by decide)
      (by decide)
    exact Except.ok.inj (hissue.symm.trans hsame)
  have hparts := segments?_assemble "secret" (claims "alice" 0 3600)
  rw [← @String.toList_ofList (assemble "secret" (claims "alice" 0 3600)), ← htoken] at hparts
  have hdiffers : signature "other" (signedText (claims "alice" 0 3600)) ≠
      signature "secret" (signedText (claims "alice" 0 3600)) := by decide +kernel
  have hfit : checkKey "other" = .ok "other" :=
    checkKey_of_plain (by decide) (by decide +kernel) (by decide +kernel)
  exact ⟨token, hissue, haccepted (by decide), hexpired (by decide),
    (hother _ hparts "other" 500000 hdiffers).1 "other" hfit⟩

/-- The empty text signs differently, but is no key under which a token could be rejected. -/
theorem not_rejected_without_key : ∃ token parts, issue "alice" "secret" 3600 0 = .ok token ∧
    segments? token.toList = some parts ∧
    signature "" parts.signed ≠ signature "secret" parts.signed ∧
    ∀ r, validate token "" 0 ≠ .error (.rejected r) := by
  have hissue := @issue_eq_ok "alice" "secret" "secret" 3600 0 checkKey_secret (by decide) (by decide)
  have hparts := segments?_assemble "secret" (claims "alice" 0 3600)
  rw [← @String.toList_ofList (assemble "secret" (claims "alice" 0 3600))] at hparts
  have hdiffers : signature "" (signedText (claims "alice" 0 3600)) ≠
      signature "secret" (signedText (claims "alice" 0 3600)) := by decide +kernel
  have hnone : checkKey "" = .error .empty := rfl
  refine ⟨_, _, hissue, hparts, hdiffers, fun r h => ?_⟩
  have hvalidate := validate_assemble "secret" (claims "alice" 0 3600) "" 0
  rw [hnone] at hvalidate
  cases hvalidate.symm.trans h

end Token

end AccessDirectory

import AccessDirectory.Proofs.Audit.Verification
import AccessDirectory.Proofs.Json.Controls
import AccessDirectory.Proofs.Text.Lines

/-! What is recorded is verified. The line of an event reads back as the fields of the event and their
signature, and it keeps to itself: recording behind a verified trail adds one record and one right
signature for each event, under every key that differs in outer blanks alone. -/

namespace AccessDirectory.Audit
open Text

variable {key : String}

theorem signedFields_eq (hkey : key ≠ "") (fs : Fields) :
    signedFields key fs = fs ++ [("signature", .str (digest key (.obj fs)))] := by
  have hne := digest_ne_empty key (.obj fs)
  simp only [signedFields, sign_eq_digest hkey, String.isEmpty_iff, if_neg hne]

theorem unsigned_signedFields (hkey : key ≠ "") {fs : Fields} (hfs : "signature" ∉ fs.map (·.1)) :
    unsigned (signedFields key fs) = fs := by
  have hkeep : fs.filter (·.1 ≠ "signature") = fs := by
    refine List.filter_eq_self.2 fun m hm => ?_
    have hne : m.1 ≠ "signature" := fun heq => hfs (heq ▸ List.mem_map_of_mem hm)
    simpa using hne
  rw [signedFields_eq hkey, unsigned, List.filter_append, hkeep]
  simp

theorem lookup_signedFields (hkey : key ≠ "") {fs : Fields} (hfs : "signature" ∉ fs.map (·.1)) :
    (signedFields key fs).lookup "signature" = some (.str (digest key (.obj fs))) := by
  have hnone : fs.lookup "signature" = none := by
    refine List.lookup_eq_none_iff.2 fun m hm => ?_
    have hne : "signature" ≠ m.1 := fun heq => hfs (heq ▸ List.mem_map_of_mem hm)
    simpa using hne
  rw [signedFields_eq hkey, List.lookup_append, hnone]
  rfl

theorem fields_eq (now : Clock.Instant) (e : Event) :
    fields now e = [
      ("timestamp", .str (Clock.stamp now)),
      ("directory_type", .str (match e.kind with
        | .user => "USER" | .userGroup => "USER_GROUP" | .connection => "CONNECTION")),
      ("operation", .str (match e.action with
        | .add => "ADD" | .get => "GET" | .update => "UPDATE" | .remove => "REMOVE")),
      ("identifier", match e.identifier with | none => .null | some i => .str i),
      ("username", .str e.user),
      ("authentication_provider", .str e.provider),
      ("success", .bool e.failure.isNone),
      ("failure", match e.failure with
        | none => .null
        | some f => .obj [("type", .str f.kind.label), ("message", .str f.message)])] := by
  have hkind : e.kind.name = match e.kind with
      | .user => "USER" | .userGroup => "USER_GROUP" | .connection => "CONNECTION" := by
    cases e.kind <;> rfl
  have haction : e.action.name = match e.action with
      | .add => "ADD" | .get => "GET" | .update => "UPDATE" | .remove => "REMOVE" := by
    cases e.action <;> rfl
  have hidentifier : Json.ofOption e.identifier =
      match e.identifier with | none => .null | some i => .str i := by
    cases e.identifier <;> rfl
  have hfailure : failureJson e.failure = match e.failure with
      | none => .null
      | some f => .obj [("type", .str f.kind.label), ("message", .str f.message)] := by
    cases e.failure <;> rfl
  rw [fields, hkind, haction, hidentifier, hfailure, Event.succeeded]

theorem keys_fields (now : Clock.Instant) (e : Event) :
    (fields now e).map (·.1) = ["timestamp", "directory_type", "operation", "identifier", "username",
      "authentication_provider", "success", "failure"] := rfl

theorem exact_failureJson (f : Option Failure) : (failureJson f).Exact := by
  cases f with
  | none => exact .null
  | some f =>
    refine .obj (by simp) fun m hm => ?_
    simp only [List.mem_cons, List.not_mem_nil, or_false] at hm
    rcases hm with rfl | rfl <;> exact .str _

theorem exact_ofOption (s : Option String) : (Json.ofOption s).Exact := by
  cases s with
  | none => exact .null
  | some s => exact .str s

theorem exact_fields (now : Clock.Instant) (e : Event) : ∀ m ∈ fields now e, m.2.Exact := by
  intro m hm
  simp only [fields, List.mem_cons, List.not_mem_nil, or_false] at hm
  rcases hm with rfl | rfl | rfl | rfl | rfl | rfl | rfl | rfl
  · exact .str _
  · exact .str _
  · exact .str _
  · exact exact_ofOption _
  · exact .str _
  · exact .str _
  · exact .bool _
  · exact exact_failureJson _

theorem exact_signedFields (hkey : key ≠ "") (now : Clock.Instant) (e : Event) :
    (Json.obj (signedFields key (fields now e))).Exact := by
  rw [signedFields_eq hkey]
  refine .obj ?_ fun m hm => ?_
  · simp [keys_fields]
  · rcases List.mem_append.1 hm with hm | hm
    · exact exact_fields now e m hm
    · rw [List.mem_singleton.1 hm]
      exact .str _

theorem readUnmarked_line (hkey : strip key ≠ "") (now : Clock.Instant) (e : Event)
    {blanks : List Char} (hb : ∀ c ∈ blanks, Json.isSpace c) :
    Json.readUnmarked ((line key now e).toList ++ blanks) =
      .ok (.obj (signedFields (strip key) (fields now e))) := by
  rw [line, Json.spacedText, String.toList_ofList]
  exact Json.readUnmarked_write Json.Style.lawful_spaced (exact_signedFields hkey now e) hb

theorem printed_line (hkey : strip key ≠ "") (now : Clock.Instant) (e : Event) :
    Json.Printed (line key now e).toList := (exact_signedFields hkey now e).printed_spacedText

theorem signed_line (hkey : strip key ≠ "") (now : Clock.Instant) (e : Event) :
    Signed (strip key) ((line key now e).toList ++ ['\n']) := by
  have hfs : "signature" ∉ (fields now e).map (·.1) := by
    rw [keys_fields]
    decide
  have hread := readUnmarked_line hkey now e (show ∀ c ∈ ['\n'], Json.isSpace c by simp [Json.isSpace])
  rw [signed_iff hread, unsigned_signedFields hkey hfs]
  exact ⟨hkey, lookup_signedFields hkey hfs⟩

theorem line_not_blank (key : String) (now : Clock.Instant) (e : Event) :
    ((line key now e).toList ++ ['\n']).all isBlank = false := by
  rw [line, Json.spacedText, String.toList_ofList, Json.write, List.cons_append, List.cons_append,
    List.all_cons]
  rfl

theorem tally_append {ls ms : List (List Char)} {t v t' v' : Nat}
    (hl : tally key ls = .ok (t, v)) (hm : tally key ms = .ok (t', v')) :
    tally key (ls ++ ms) = .ok (t + t', v + v') := by
  obtain ⟨hls, rfl, rfl⟩ := tally_eq_ok.1 hl
  obtain ⟨hms, rfl, rfl⟩ := tally_eq_ok.1 hm
  have happ : filled (ls ++ ms) = filled ls ++ filled ms := List.filter_append ..
  rw [tally_eq_ok, happ, List.findSome?_append, hls, List.length_append, List.countP_append]
  exact ⟨hms, rfl, rfl⟩

theorem tally_of_signed {lines : List (List Char)} (hsigned : ∀ line ∈ lines, Signed key line)
    (hfull : ∀ line ∈ lines, line.all isBlank = false) :
    tally key lines = .ok (lines.length, lines.length) := by
  have hall : filled lines = lines :=
    List.filter_eq_self.2 fun line hline => by simp [hfull line hline]
  rw [tally_eq_ok, hall]
  refine ⟨List.findSome?_eq_none_iff.2 fun line hline => ?_, rfl, ?_⟩
  · exact obstacle?_of_signed (hsigned line hline)
  · exact List.countP_eq_length.2 fun line hline => decide_eq_true (hsigned line hline)

def written (key : String) (events : List (Clock.Instant × Event)) : String :=
  String.join (events.map fun e => line key e.1 e.2 ++ "\n")

theorem toList_written (key : String) (events : List (Clock.Instant × Event)) :
    (written key events).toList =
      (events.map fun e => (line key e.1 e.2).toList).flatMap (· ++ ['\n']) := by
  simp [written, String.toList_join, List.flatMap_map]

theorem splitLines_written (hkey : strip key ≠ "") (events : List (Clock.Instant × Event)) :
    splitLines (unifyEndings (written key events).toList) =
      events.map fun e => (line key e.1 e.2).toList ++ ['\n'] := by
  have hlines : ∀ l ∈ events.map fun e => (line key e.1 e.2).toList, Json.Printed l :=
    List.forall_mem_map.2 fun e _ => printed_line hkey e.1 e.2
  -- Every control character in a line is escaped, so no ending is written but one behind each line.
  have hreturn : '\r' ∉ (written key events).toList := by
    rw [toList_written]
    intro hmem
    obtain ⟨l, hl, hmem⟩ := List.mem_flatMap.1 hmem
    rcases List.mem_append.1 hmem with hmem | hmem
    · exact (hlines l hl).not_mem (by decide) hmem
    · cases List.mem_singleton.1 hmem
  rw [unifyEndings_of_not_mem hreturn, toList_written,
    splitLines_flatMap fun l hl => (hlines l hl).not_mem (by decide), List.map_map]
  rfl

theorem verify_written (hkey : strip key ≠ "") (events : List (Clock.Instant × Event)) :
    verify key (written key events).toList = .ok (events.length, events.length) := by
  have hsigned : ∀ l ∈ events.map fun e => (line key e.1 e.2).toList ++ ['\n'],
      Signed (strip key) l := List.forall_mem_map.2 fun e _ => signed_line hkey e.1 e.2
  have hfull : ∀ l ∈ events.map fun e => (line key e.1 e.2).toList ++ ['\n'],
      l.all isBlank = false := List.forall_mem_map.2 fun e _ => line_not_blank key e.1 e.2
  have hcount := tally_of_signed hsigned hfull
  rw [List.length_map] at hcount
  rw [verify, splitLines_written hkey, hcount]

theorem verify_append {text more : List Char} (hended : Ended text) {t v t' v' : Nat}
    (ht : verify key text = .ok (t, v)) (hm : verify key more = .ok (t', v')) :
    verify key (text ++ more) = .ok (t + t', v + v') := by
  rw [verify, unifyEndings_append hended, splitLines_append hended.unifyEndings]
  exact tally_append ht hm

namespace Store

/-- What a place holds as text. Where nothing stands yet there is no text. -/
def Holds (text : String) : Store → Prop
  | vacant => text = ""
  | blocked => False
  | file contents => contents = Utf8.encode text

variable {s : Store} {text : String}

theorem verify_of_holds (h : s.Holds text) (key : String) :
    s.verify key = Audit.verify key text.toList := by
  cases s with
  | vacant =>
    cases h
    rfl
  | blocked => cases h
  | file contents =>
    cases h
    rw [Store.verify, verifyBytes_encode]

theorem appendLine_of_holds (h : s.Holds text) (line : String) :
    ∃ s', s.appendLine line = .ok s' ∧ s'.Holds (text ++ (line ++ "\n")) := by
  have hbytes : Utf8.encode (line ++ "\n") = Utf8.encode line ++ [0x0a] := Utf8.encode_append ..
  cases s with
  | vacant =>
    cases h
    refine ⟨_, rfl, ?_⟩
    rw [Holds, String.empty_append, hbytes]
  | blocked => cases h
  | file contents =>
    cases h
    refine ⟨_, rfl, ?_⟩
    rw [Holds, Utf8.encode_append, hbytes]

def recordAll (key : String) (events : List (Clock.Instant × Event)) (s : Store) :
    Except FailureClass Store :=
  events.foldlM (fun s e => s.record key e.1 e.2) s

theorem recordAll_of_holds (key : String) (h : s.Holds text) {events : List (Clock.Instant × Event)}
    (hnow : ∀ e ∈ events, Clock.inRange e.1) :
    ∃ s', s.recordAll key events = .ok s' ∧ s'.Holds (text ++ written key events) := by
  induction events generalizing s text with
  | nil => exact ⟨s, rfl, by simpa [written, String.join] using h⟩
  | cons e rest ih =>
    obtain ⟨next, hnext, hholds⟩ := appendLine_of_holds h (line key e.1 e.2)
    obtain ⟨last, hlast, hholds⟩ := ih hholds fun x hx => hnow x (List.mem_cons_of_mem _ hx)
    have hrecord : s.record key e.1 e.2 = .ok next := by
      rw [record, if_pos (hnow e List.mem_cons_self), hnext]
    refine ⟨last, ?_, ?_⟩
    · rw [recordAll, List.foldlM_cons, hrecord]
      exact hlast
    · rwa [written, List.map_cons, String.join_cons, ← written, ← String.append_assoc]

/-- Behind a trail that ends with a line, events at instants that have a date are recorded on a line
each. The line reads back as the fields of its event and their signature, and under every key that
differs in outer blanks alone as many more records and right signatures are verified. -/
theorem verify_recordAll (hkey : strip key ≠ "") (h : s.Holds text) (hended : Ended text.toList)
    {t v : Nat} (hv : s.verify key = .ok (t, v)) {events : List (Clock.Instant × Event)}
    (hnow : ∀ e ∈ events, Clock.inRange e.1) :
    ∃ s', s.recordAll key events = .ok s' ∧ s'.Holds (text ++ written key events) ∧
      (∀ e ∈ events, '\n' ∉ (line key e.1 e.2).toList ∧ '\r' ∉ (line key e.1 e.2).toList ∧
        let members : Fields := [
          ("timestamp", .str (Clock.stamp e.1)),
          ("directory_type", .str (match e.2.kind with
            | .user => "USER" | .userGroup => "USER_GROUP" | .connection => "CONNECTION")),
          ("operation", .str (match e.2.action with
            | .add => "ADD" | .get => "GET" | .update => "UPDATE" | .remove => "REMOVE")),
          ("identifier", match e.2.identifier with | none => .null | some i => .str i),
          ("username", .str e.2.user),
          ("authentication_provider", .str e.2.provider),
          ("success", .bool e.2.failure.isNone),
          ("failure", match e.2.failure with
            | none => .null
            | some f => .obj [("type", .str f.kind.label), ("message", .str f.message)])]
        Json.parse (line key e.1 e.2) =
          .ok (.obj (members ++ [("signature", .str (digest (strip key) (.obj members)))]))) ∧
      ∀ other, strip other = strip key →
        s'.verify other = .ok (t + events.length, v + events.length) := by
  obtain ⟨s', hs', hholds⟩ := recordAll_of_holds key h hnow
  refine ⟨s', hs', hholds, ?_, ?_⟩
  · intro e _
    have hprinted := printed_line hkey e.1 e.2
    have hread := readUnmarked_line hkey e.1 e.2 (show ∀ c ∈ [], Json.isSpace c by simp)
    rw [List.append_nil, signedFields_eq hkey, fields_eq] at hread
    exact ⟨hprinted.not_mem (by decide), hprinted.not_mem (by decide), hread⟩
  · intro other hother
    rw [verify_of_holds h] at hv
    rw [verify_of_holds hholds, String.toList_append, Audit.verify, hother]
    -- The text ended with a line, so the lines behind it are judged apart from it.
    exact verify_append hended hv (verify_written hkey events)

def failedRead : Event :=
  { kind := .userGroup, action := .get, identifier := none, user := "\\", provider := "",
    failure := some (.notFound none) }

def escapedEvents : List (Clock.Instant × Event) := [
  (0, { kind := .user, action := .add, identifier := some "\"\r\u2028", user := "\t",
        provider := "default" }),
  (1, failedRead)]

theorem verify_recordAll_escapedEvents : ∃ (s' : Store) (signature : String),
    (Store.file (Utf8.encode "none\n")).recordAll " key\n" escapedEvents = .ok s' ∧
      s'.verify "key" = .ok (3, 2) ∧
      Json.parse (line " key\n" 1 failedRead) = .ok (.obj [
        ("timestamp", .str "1970-01-01T00:00:00.000001+00:00"), ("directory_type", .str "USER_GROUP"),
        ("operation", .str "GET"), ("identifier", .null), ("username", .str "\\"),
        ("authentication_provider", .str ""), ("success", .bool false),
        ("failure", .obj [("type", .str "NotFoundError"), ("message", .str "Not found: \"None\"")]),
        ("signature", .str signature)]) := by
  have hholds : (Store.file (Utf8.encode "none\n")).Holds "none\n" := rfl
  have hv : (Store.file (Utf8.encode "none\n")).verify " key\n" = .ok (1, 0) := by
    rw [verify_of_holds hholds]
    rfl
  have hstamp : Clock.stamp 1 = "1970-01-01T00:00:00.000001+00:00" := by decide
  obtain ⟨s', hs', -, hlines, hverify⟩ := verify_recordAll (by decide) hholds
    (.inr ⟨"none".toList, by decide⟩) hv (by decide : ∀ e ∈ escapedEvents, Clock.inRange e.1)
  have hread := (hlines (1, failedRead) (by simp [escapedEvents])).2.2
  rw [hstamp] at hread
  exact ⟨s', _, hs', hverify "key" (by decide), hread⟩

end Store

end AccessDirectory.Audit

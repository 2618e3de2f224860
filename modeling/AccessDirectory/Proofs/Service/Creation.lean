import AccessDirectory.Proofs.Directory.Numbering
import AccessDirectory.Proofs.Representation.Creation
import AccessDirectory.Proofs.Service.Amendment

/-! A creation adds the object that it shows and changes nothing else. What is no object or does not pass
the checks is told to nobody; an identifier that is taken, or one that nobody can assign, is told of as
one failure. -/

namespace AccessDirectory

namespace Directory
variable {k : Kind}

/-- The identifier that a new object gets: the one chosen by the submission or, for a connection, the next
number of the directory. -/
def granted? (d : Directory k) (fields : Fields) : Option String :=
  match k with
  | .connection => d.counter.map fun n => toString (d.nextNumber n)
  | k => fields.chosen? k

def receiving (d : Directory k) (i : String) (o : k.Object) : Directory k :=
  { d with
    objects := d.objects.put i o
    counter := match k with
      | .connection => d.counter.map fun n => d.nextNumber n + 1
      | _ => d.counter }

theorem add_described {d : Directory k} {fields : Fields} {declared : List String} {o : k.Object}
    (hout : d.outage .add = none) (hc : fields.Creatable declared k)
    (ho : fields.Describes declared (fields.chosen? k) o) :
    d.add o = match d.granted? fields with
      | none => .error .identifierRequired
      | some i =>
        if d.objects.contains i then .error (.alreadyExists i)
        else .ok (Kind.Object.setIdentifier o (some i),
          d.receiving i (Kind.Object.setIdentifier o (some i))) := by
  have hi := ho.identifier_eq
  cases k with
  | user | userGroup =>
    obtain ⟨i, hlookup, c, hin, -⟩ := hc.texts _ (List.mem_singleton.2 rfl)
    have hchosen := Fields.text?_eq_some.2 hlookup
    have hne : i ≠ "" := by
      rintro rfl
      cases hin
    rw [Fields.chosen?, hchosen] at hi
    rw [add_of_named hout (ownIdentifier?_of_ne_empty hi hne)]
    simp only [granted?, Fields.chosen?, hchosen, Kind.Object.setIdentifier_self hi, receiving]
  | connection =>
    have hown : ownIdentifier? o = none := by rw [ownIdentifier?, hi, Fields.chosen?]
    cases hcounter : d.counter with
    | none => simp only [add, guarded, hout, hown, hcounter, granted?, Option.map_none]
    | some n =>
      have hfree := eq_false_of_ne_true (d.not_contains_nextNumber n)
      simp only [add_of_nameless hout hcounter hown, granted?, hcounter, Option.map_some, hfree,
        Bool.false_eq_true, if_false, receiving]

theorem chosen?_of_granted?_eq_none {d : Directory k} {fields : Fields}
    (h : d.granted? fields = none) : fields.chosen? k = none := by
  cases k with
  | user | userGroup => exact h
  | connection => rfl

theorem chosen?_of_contains {d : Directory k} {fields : Fields} {i : String}
    (hi : d.granted? fields = some i) (hin : d.objects.contains i) : fields.chosen? k = some i := by
  cases k with
  | user | userGroup => exact hi
  | connection =>
    obtain ⟨n, -, rfl⟩ := Option.map_eq_some_iff.1 hi
    exact absurd hin (d.not_contains_nextNumber n)

end Directory

namespace World
variable {w : World} {k : Kind} {d : Directory k} {fields : Fields}

theorem submitted_obj (w : World) (k : Kind) (fields : Fields) :
    w.submitted k (.obj fields) = k.construct (k.sanitize (w.declared k) fields) := rfl

theorem Quiet.add_eq (h : w.Quiet) (s : Session) (d : Directory k) (o : k.Object) :
    w.add s d o = match d.add o with
      | .error f => (.error f, w.tellAll [(s.event k .add (Kind.Object.identifier o) (some o)).failed f])
      | .ok (o', d') => (.ok o', ({ w with directories := w.directories.set d' } : World).tellAll
          [s.event k .add (Kind.Object.identifier o') (some o')]) := by
  rw [World.add]
  cases d.add o with
  | error f =>
    simp only [h.refuse_eq]
    rfl
  | ok added =>
    simp only [h.commit_eq]
    rfl

theorem Quiet.create_eq (h : w.Quiet) (hd : w.directories.get? k = some d)
    (hout : d.outage .add = none) (s : Session) (hc : fields.Creatable (w.declared k) k) :
    ∃ o, fields.Describes (w.declared k) (fields.chosen? k) o ∧
      w.create s k (.obj fields) = match d.granted? fields with
        | none => (.error .identifierRequired, w.tellAll
            [(s.event k .add (fields.chosen? k) (some o)).failed .identifierRequired])
        | some i =>
          let o' := Kind.Object.setIdentifier o (some i)
          if d.objects.contains i then (.error (.alreadyExists i),
            w.tellAll [(s.event k .add (fields.chosen? k) (some o)).failed (.alreadyExists i)])
          else (.ok (Kind.represent o'),
            ({ w with directories := w.directories.set (d.receiving i o') } : World).tellAll
              [s.event k .add (some i) (some o')]) := by
  obtain ⟨o, ho, hmade⟩ := Kind.exists_construct hc
  refine ⟨o, ho, ?_⟩
  have hadd := Directory.add_described hout hc ho
  simp only [create, Directories.find_eq_ok.2 hd, submitted_obj, hmade, h.add_eq, hadd,
    ho.identifier_eq]
  cases d.granted? fields with
  | none => rfl
  | some i =>
    by_cases hin : d.objects.contains i
    · simp only [if_pos hin]
      rfl
    · simp only [if_neg hin, Kind.Object.identifier_setIdentifier]
      rfl

/-- What a creation comes to that succeeds: the object that the submission describes is put under an
identifier that was free, the listeners are told of just that, and whoever opens it sees what was shown. -/
structure Created (w : World) (s : Session) (d : Directory k) (fields : Fields) (i : String)
    (o : k.Object) (w' : World) : Prop where
  granted : d.granted? fields = some i
  free : d.objects.get? i = none
  described : fields.Describes (w.declared k) (some i) o
  became : w.Became (w.directories.set (d.receiving i o)) [s.event k .add (some i) (some o)] w'
  opened : ∀ reader, (w'.fetch reader k i).1.map Opened.shown = .ok (Kind.represent o)

theorem Quiet.created (h : w.Quiet) (hout : ∀ method, d.outage method = none) (s : Session)
    {i : String} {o : k.Object} (hi : d.granted? fields = some i) (hfree : d.objects.contains i = false)
    (ho : fields.Describes (w.declared k) (some i) o) :
    w.Created s d fields i o (({ w with directories := w.directories.set (d.receiving i o) } :
      World).tellAll [s.event k .add (some i) (some o)]) where
  granted := hi
  free := Option.isNone_iff_eq_none.1 (Option.isSome_eq_false_iff.1 hfree)
  described := ho
  became := h.became _ _
  opened reader := by
    have hbecame := h.became (w.directories.set (d.receiving i o)) [s.event k .add (some i) (some o)]
    have hd' := Directories.get?_set_self w.directories (d.receiving i o)
    rw [← hbecame.directories] at hd'
    rw [(hbecame.quiet h).fetch_eq reader hd' (hout .get) (Table.get?_put_self d.objects i o)]
    rfl

theorem failsOnly_submitted (w : World) (k : Kind) (submission : Json) :
    FailsOnly Failure.IsClients (w.submitted k submission) := by
  cases submission with
  | obj fields => exact Kind.failsOnly_construct _ _
  | _ => exact .error rfl

theorem creatable_of_submitted {submission : Json} {o : k.Object}
    (h : w.submitted k submission = .ok o) :
    ∃ fields : Fields, submission = .obj fields ∧ fields.Creatable (w.declared k) k := by
  cases submission with
  | obj fields => exact ⟨fields, rfl, (Kind.construct_sanitize_eq_ok.1 h).1⟩
  | _ => cases h

/-- A creation that succeeds has added the object that it shows. One that fails has changed no directory,
and is told to nobody unless the submission passes the checks. -/
theorem Quiet.create_exact (h : w.Quiet) (hd : w.directories.get? k = some d)
    (hout : ∀ method, d.outage method = none) (s : Session) (submission : Json) :
    (∀ shown w', w.create s k submission = (.ok shown, w') → ∃ (fields : Fields) (i : String)
      (o : k.Object), submission = .obj fields ∧ shown = Kind.represent o ∧
      w.Created s d fields i o w') ∧
    (∀ f w', w.create s k submission = (.error f, w') → w'.directories = w.directories) ∧
    ((∀ fields : Fields, submission = .obj fields → ¬fields.Creatable (w.declared k) k) →
      ∃ f, f.kind = .client ∧ w.create s k submission = (.error f, w)) ∧
    ∀ fields : Fields, submission = .obj fields → fields.Creatable (w.declared k) k →
      (d.granted? fields = none → ∃ (o : k.Object) (w' : World),
        fields.Describes (w.declared k) none o ∧
        w.create s k submission = (.error .identifierRequired, w') ∧
        w.Became w.directories [(s.event k .add none (some o)).failed .identifierRequired] w') ∧
      ∀ i, d.granted? fields = some i →
        (d.objects.contains i → ∃ (o : k.Object) (w' : World),
          fields.Describes (w.declared k) (some i) o ∧
          w.create s k submission = (.error (.alreadyExists i), w') ∧
          w.Became w.directories [(s.event k .add (some i) (some o)).failed (.alreadyExists i)] w') ∧
        (d.objects.contains i = false → ∃ shown w', w.create s k submission = (.ok shown, w')) := by
  have hrefused : ∀ f, w.submitted k submission = .error f → w.create s k submission = (.error f, w) := by
    intro f hf
    simp only [create, Directories.find_eq_ok.2 hd, hf]
  refine ⟨fun shown w' hcreate => ?_, fun f w' hcreate => ?_, fun hbad => ?_, ?_⟩
  · cases hsubmitted : w.submitted k submission with
    | error f => exact absurd (hcreate.symm.trans (hrefused f hsubmitted)) nofun
    | ok o =>
      obtain ⟨fields, rfl, hc⟩ := creatable_of_submitted hsubmitted
      obtain ⟨o, ho, heq⟩ := h.create_eq hd (hout .add) s hc
      rw [hcreate] at heq
      split at heq
      · cases heq
      next i hi =>
        split at heq
        · cases heq
        next hfree =>
          cases heq
          exact ⟨fields, i, _, rfl, rfl, h.created hout s hi (eq_false_of_ne_true hfree) ho.setIdentifier⟩
  · -- Whatever the cause, a creation that fails has not reached storage.
    have hspares := h.spares_create s k submission
    rw [hcreate] at hspares
    exact hspares f rfl
  · cases hsubmitted : w.submitted k submission with
    | error f => exact ⟨f, failsOnly_submitted w k submission f hsubmitted, hrefused f hsubmitted⟩
    | ok o =>
      obtain ⟨fields, hfields, hc⟩ := creatable_of_submitted hsubmitted
      exact absurd hc (hbad fields hfields)
  · rintro fields rfl hc
    obtain ⟨o, ho, heq⟩ := h.create_eq hd (hout .add) s hc
    refine ⟨fun hnone => ?_, fun i hi => ⟨fun hin => ?_, fun hfree => ?_⟩⟩
    · have hchosen := Directory.chosen?_of_granted?_eq_none hnone
      rw [hchosen] at ho
      refine ⟨o, _, ho, ?_, h.became _ _⟩
      simp only [heq, hnone, hchosen]
    · -- An identifier that is assigned is free, so one that is taken was chosen.
      have hchosen := Directory.chosen?_of_contains hi hin
      rw [hchosen] at ho
      refine ⟨o, _, ho, ?_, h.became _ _⟩
      simp only [heq, hi, hin, if_true, hchosen]
    · simp only [heq, hi, hfree, Bool.false_eq_true, if_false]
      exact ⟨_, _, rfl⟩

end World

namespace Demo

def installed : Connection := { rebuilt with identifier := some "3" }

theorem construct_rebuilding : Kind.construct .connection
    (Kind.sanitize .connection (declared .connection) rebuilding) =
      .ok { rebuilt with identifier := none } := rfl

def namesake : Fields := [("username", .str member), ("password", .str "secret")]

theorem construct_namesake : Kind.construct .user
    (Kind.sanitize .user (declared .user) namesake) =
      .ok { identifier := some member, password := some "secret" } := rfl

end Demo

theorem World.create_exact_installed : ∃ f w₁ w₂,
    let s := Demo.session Demo.administrator
    let w := Demo.quiet.world
    let taken : User := { identifier := some Demo.member, password := some "secret" }
    w.create s .connection .null = (.error f, w) ∧
    w.create s .user (.obj Demo.namesake) = (.error (.alreadyExists Demo.member), w₁) ∧
    w₁.directories = w.directories ∧
    w₁.journal.received 1 = [(s.event .user .add (some Demo.member) (some taken)).failed
      (.alreadyExists Demo.member)] ∧
    w.create s .connection (.obj Demo.rebuilding) =
      (.ok (Kind.represent (k := .connection) Demo.installed), w₂) ∧
    (w₂.directories.stored .connection).get? "3" = some Demo.installed ∧
    w₂.journal.received 1 =
      [s.event .connection .add (some "3") (some Demo.installed)] := by
  have hexact : ∀ (k : Kind) d, Demo.directories.get? k = some d → (∀ method, d.outage method = none) →
      ∀ submission, _ := fun k d hd hout => Demo.orderly_quiet.quiet.create_exact hd hout
        (Demo.session Demo.administrator)
  obtain ⟨f, -, hf⟩ := (hexact .connection _ rfl (fun _ => rfl) .null).2.2.1 nofun
  obtain ⟨hnamesake, hdescribed⟩ := Kind.construct_sanitize_eq_ok.1 Demo.construct_namesake
  obtain ⟨o₁, w₁, ho₁, hw₁, hleft₁⟩ := (((hexact .user _ rfl (fun _ => rfl) _).2.2.2
    Demo.namesake rfl hnamesake).2 Demo.member rfl).1 rfl
  obtain rfl := ho₁.unique hdescribed
  obtain ⟨hrebuilding, hdescribed⟩ := Kind.construct_sanitize_eq_ok.1 Demo.construct_rebuilding
  obtain ⟨shown, w₂, hw₂⟩ := (((hexact .connection _ rfl (fun _ => rfl) _).2.2.2
    Demo.rebuilding rfl hrebuilding).2 "3" rfl).2 (by decide)
  obtain ⟨fields, i, o, hfields, rfl, hcreated⟩ :=
    (hexact .connection _ rfl (fun _ => rfl) _).1 shown w₂ hw₂
  cases hfields
  obtain rfl : "3" = i := Option.some.inj hcreated.granted
  obtain rfl : o = Demo.installed := hcreated.described.unique hdescribed.setIdentifier
  refine ⟨f, w₁, w₂, hf, hw₁, hleft₁.directories, hleft₁.heard 1 (by decide), hw₂, ?_,
    hcreated.became.heard 1 (by decide)⟩
  rw [hcreated.became.directories]
  rfl

end AccessDirectory

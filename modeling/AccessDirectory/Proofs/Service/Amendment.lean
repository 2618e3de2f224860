import AccessDirectory.Proofs.Representation.Amendment
import AccessDirectory.Proofs.Service.Quiet

/-! An update is stored as a whole or not at all. What is no object is refused outright; a submission that
does not pass the checks, or an object that is not stored, is told of as one failure; else the object
that the client holds is stored as it was amended. -/

namespace AccessDirectory

namespace World
variable {w : World} {k : Kind} {d : Directory k} {c c' : k.Object} {i : String}

theorem failsOnly_ofSubmission (submission : Json) :
    FailsOnly Failure.IsClients (Fields.ofSubmission .nothingToUpdate submission) := by
  cases submission with
  | obj fields => exact .ok fields
  | _ => exact .error rfl

theorem Quiet.store_eq (h : w.Quiet) (hd : w.directories.get? k = some d)
    (hout : d.outage .update = none) (s : Session) (hi : Kind.Object.identifier c = some i) :
    w.store ⟨k, c, s⟩ =
      if d.objects.contains i then
        let stored : Directory k := { d with objects := d.objects.put i c }
        (.ok (), ({ w with directories := w.directories.set stored } : World).tellAll
          [s.event k .update (some i) (some c)])
      else (.error (.notFound (some i)),
        w.tellAll [(s.event k .update (some i) (some c)).failed (.notFound (some i))]) := by
  have hupdate : d.update c =
      if d.objects.contains i then .ok { d with objects := d.objects.put i c }
      else .error (.notFound (some i)) := by
    rw [Directory.update, Directory.guarded, hout, hi]
  simp only [store, Directories.find_eq_ok.2 hd, Opened.identifier, hupdate, hi]
  by_cases hin : d.objects.contains i
  · simp only [if_pos hin, h.commit_eq]
  · simp only [if_neg hin, h.refuse_eq]

/-- How an update ends, what the client holds afterwards, what is stored and what the listeners are told. -/
theorem Quiet.update_exact (h : w.Quiet) (hd : w.directories.get? k = some d)
    (hout : d.outage .update = none) (s : Session) (hi : Kind.Object.identifier c = some i)
    (submission : Json) :
    ((∀ fields, submission ≠ .obj fields) →
      ∃ f, f.kind = .client ∧ w.update ⟨k, c, s⟩ submission = (.error f, ⟨k, c, s⟩, w)) ∧
    ∀ fields : Fields, submission = .obj fields →
      (¬fields.Acceptable (w.declared k) k →
        ∃ f w', f.kind = .client ∧ w.update ⟨k, c, s⟩ submission = (.error f, ⟨k, c, s⟩, w') ∧
          w.Became w.directories [(s.event k .update (some i) (some c)).failed f] w') ∧
      (fields.Acceptable (w.declared k) k → ∃ c', fields.Amended (w.declared k) c c' ∧
        (d.objects.contains i = false → ∃ w',
          w.update ⟨k, c, s⟩ submission = (.error (.notFound (some i)), ⟨k, c', s⟩, w') ∧
          w.Became w.directories
            [(s.event k .update (some i) (some c')).failed (.notFound (some i))] w') ∧
        (d.objects.contains i → ∃ w', w.update ⟨k, c, s⟩ submission = (.ok (), ⟨k, c', s⟩, w') ∧
          w.Became (w.directories.set { d with objects := d.objects.put i c' })
            [s.event k .update (some i) (some c')] w')) := by
  refine ⟨fun hno => ?_, ?_⟩
  · cases hf : Fields.ofSubmission .nothingToUpdate submission with
    | ok fields =>
      cases submission <;> cases hf
      exact absurd rfl (hno _)
    | error f => exact ⟨f, failsOnly_ofSubmission submission f hf, by simp only [update, hf]⟩
  rintro fields rfl
  refine ⟨fun hbad => ?_, fun hgood => ?_⟩
  · cases hr : Kind.revise c (k.sanitize (w.declared k) fields) with
    | ok c' => exact absurd (Kind.revise_sanitize_eq_ok.1 hr).1 hbad
    | error f =>
      refine ⟨f, _, Kind.failsOnly_revise c _ f hr, ?_, h.became _ _⟩
      simp only [update, Fields.ofSubmission, hr, h.refuse_eq, Opened.identifier, hi]
  · obtain ⟨c', hamended, hr⟩ := Kind.exists_revise hgood c
    -- No submission moves an object to another identifier, so it is stored in its own place.
    have hi' : Kind.Object.identifier c' = some i := (Kind.of_revise_eq_ok hr).1.trans hi
    have hstore := h.store_eq hd hout s hi'
    refine ⟨c', hamended, fun hmiss => ⟨_, ?_, h.became _ _⟩, fun hin => ⟨_, ?_, h.became _ _⟩⟩
    · simp only [update, Fields.ofSubmission, hr, hstore, hmiss, Bool.false_eq_true, if_false]
    · simp only [update, Fields.ofSubmission, hr, hstore, if_pos hin]

end World

namespace Demo

def web : Connection where
  identifier := some "1"
  name := "web-01"
  protocol := "ssh"
  parameters := .ofList [("hostname", "web-01.internal"), ("port", "22")]

def rebuilding : Fields := [("identifier", .str "9"), ("name", .str "web-02"), ("protocol", .str "rdp"),
  ("parentIdentifier", .str ""), ("parameters", .obj [("hostname", .str "web-02.internal")]),
  ("attributes", .obj [("weight", .str "5"), ("rank", .str "1")])]

def rebuilt : Connection where
  identifier := some "1"
  name := "web-02"
  protocol := "rdp"
  parameters := .ofList [("hostname", "web-02.internal")]
  attributes := .ofList [("weight", some "5")]

def emptied : World :=
  { quiet.world with directories := { directories with connections := some {} } }

theorem revise_rebuilding : Kind.revise (k := .connection) web
    (Kind.sanitize .connection (declared .connection) rebuilding) = .ok rebuilt := rfl

end Demo

theorem World.update_exact_rebuilt : ∃ f f' w₁ w₂ w₃,
    let s := Demo.session Demo.administrator
    let w := Demo.quiet.world
    let e := fun c : Connection => s.event .connection .update (some "1") (some c)
    w.update ⟨.connection, Demo.web, s⟩ .null = (.error f, ⟨.connection, Demo.web, s⟩, w) ∧
    w.update ⟨.connection, Demo.web, s⟩ (.obj [("name", .str "web-02")]) =
      (.error f', ⟨.connection, Demo.web, s⟩, w₁) ∧
    w₁.directories = w.directories ∧ w₁.journal.received 1 = [(e Demo.web).failed f'] ∧
    Demo.emptied.update ⟨.connection, Demo.web, s⟩ (.obj Demo.rebuilding) =
      (.error (.notFound (some "1")), ⟨.connection, Demo.rebuilt, s⟩, w₂) ∧
    w₂.directories = Demo.emptied.directories ∧
    w.update ⟨.connection, Demo.web, s⟩ (.obj Demo.rebuilding) =
      (.ok (), ⟨.connection, Demo.rebuilt, s⟩, w₃) ∧
    (w₃.directories.stored .connection).get? "1" = some Demo.rebuilt ∧
    w₃.journal.received 1 = [e Demo.rebuilt] := by
  have hexact : ∀ (w : World) d, w.Quiet → w.directories.get? .connection = some d →
      d.outage .update = none → _ := fun w d h hd hout =>
    h.update_exact hd hout (Demo.session Demo.administrator) (c := Demo.web) (i := "1") rfl
  obtain ⟨hacceptable, hamended⟩ := Kind.revise_sanitize_eq_ok.1 Demo.revise_rebuilding
  obtain ⟨f, -, hf⟩ := (hexact Demo.quiet.world _ Demo.orderly_quiet.quiet rfl rfl .null).1 nofun
  obtain ⟨f', w₁, -, hf', hw₁⟩ := ((hexact Demo.quiet.world _ Demo.orderly_quiet.quiet rfl rfl _).2
    [("name", .str "web-02")] rfl).1 fun h => by
      obtain ⟨s, hs, -⟩ := h.texts rfl "protocol" (by simp)
      cases hs
  obtain ⟨c₂, hc₂, hmiss, -⟩ := ((hexact Demo.emptied _ Demo.orderly_quiet.quiet rfl rfl _).2
    Demo.rebuilding rfl).2 hacceptable
  obtain rfl : c₂ = Demo.rebuilt := hc₂.unique hamended
  obtain ⟨w₂, hw₂, hleft₂⟩ := hmiss rfl
  obtain ⟨c₃, hc₃, -, hin⟩ := ((hexact Demo.quiet.world _ Demo.orderly_quiet.quiet rfl rfl _).2
    Demo.rebuilding rfl).2 hacceptable
  obtain rfl : c₃ = Demo.rebuilt := hc₃.unique hamended
  obtain ⟨w₃, hw₃, hleft₃⟩ := hin (by decide)
  refine ⟨f, f', w₁, w₂, w₃, hf, hf', ?_, hw₁.heard 1 (by decide), hw₂, ?_, hw₃, ?_,
    hleft₃.heard 1 (by decide)⟩
  · exact hw₁.eq ▸ rfl
  · exact hleft₂.eq ▸ rfl
  · exact hleft₃.eq ▸ rfl

end AccessDirectory

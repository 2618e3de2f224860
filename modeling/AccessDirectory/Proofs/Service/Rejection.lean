import AccessDirectory.Proofs.Representation.Shape
import AccessDirectory.Proofs.Service.Outcome

/-! Malformed submissions are refused. Nothing is created or stored from them, and a client that submits
one keeps what it holds. -/

namespace AccessDirectory

namespace World
variable {w : World} {k : Kind} {d : Directory k} {fields : Fields}

theorem create_of_malformed (hd : w.directories.get? k = some d) (s : Session)
    (h : fields.Malformed (w.declared k) k) :
    ∃ f, f.kind = .client ∧ w.create s k (.obj fields) = (.error f, w) := by
  cases hc : k.construct (k.sanitize (w.declared k) fields) with
  | ok o => exact absurd h (Kind.reads_of_construct hc).not_malformed
  | error f =>
    have hsubmitted : w.submitted k (.obj fields) = .error f := hc
    refine ⟨f, Kind.failsOnly_construct _ _ f hc, ?_⟩
    simp only [create, Directories.find_eq_ok.2 hd, hsubmitted]

theorem update_of_malformed (s : Session) (o : k.Object)
    (h : fields.Malformed (w.declared k) k) :
    ∃ f, f.kind = .client ∧ w.update ⟨k, o, s⟩ (.obj fields) =
      let e := s.event k .update (Kind.Object.identifier o) (some o)
      (.error (w.reportFailure e f).1, ⟨k, o, s⟩, (w.notify (e.failed f)).2) := by
  cases hr : Kind.revise o (k.sanitize (w.declared k) fields) with
  | ok o' => exact absurd h (Kind.reads_of_revise hr).not_malformed
  | error f =>
    refine ⟨f, Kind.failsOnly_revise o _ f hr, ?_⟩
    simp only [update, Fields.ofSubmission, hr, refuse_eq]
    rfl

theorem create_considered (w : World) (s : Session) (k : Kind) (fields : Fields) :
    w.create s k (.obj (k.considered (w.declared k) fields)) = w.create s k (.obj fields) := by
  have hsubmitted : w.submitted k (.obj (k.considered (w.declared k) fields)) =
      w.submitted k (.obj fields) :=
    Kind.construct_congr fun _ => Kind.lookup_sanitize_considered
  simp only [create, hsubmitted]

theorem update_considered (w : World) (c : Opened) (fields : Fields) :
    w.update c (.obj (c.kind.considered (w.declared c.kind) fields)) = w.update c (.obj fields) := by
  simp only [update, Fields.ofSubmission,
    Kind.revise_congr fun _ => Kind.lookup_sanitize_considered]

/-- Malformed submissions end in a failure of the client's, unless a listener fails on being told of it,
and every submission counts as what is read of it. -/
theorem refused_of_malformed (hd : w.directories.get? k = some d) (s : Session) (o : k.Object) :
    (∀ fields : Fields, fields.Malformed (w.declared k) k →
      (∃ f, f.kind = .client ∧ w.create s k (.obj fields) = (.error f, w)) ∧
      ∃ f g w', f.kind = .client ∧
        w.update ⟨k, o, s⟩ (.obj fields) = (.error g, ⟨k, o, s⟩, w') ∧
        w'.directories = w.directories ∧
        let report := (s.event k .update (Kind.Object.identifier o) (some o)).failed f
        w.Raises report g ∨ g = f ∧ ∀ f', ¬w.Raises report f') ∧
    ∀ fields : Fields,
      w.create s k (.obj (k.considered (w.declared k) fields)) = w.create s k (.obj fields) ∧
      w.update ⟨k, o, s⟩ (.obj (k.considered (w.declared k) fields)) =
        w.update ⟨k, o, s⟩ (.obj fields) := by
  refine ⟨fun fields h => ⟨create_of_malformed hd s h, ?_⟩,
    fun fields => ⟨create_considered .., update_considered ..⟩⟩
  obtain ⟨f, hf, hu⟩ := update_of_malformed s o h
  exact ⟨f, _, _, hf, hu, directories_notify .., reportFailure_fst ..⟩

end World

namespace Demo

def misshapen : Fields :=
  [("name", .str "web-01"), ("protocol", .str "ssh"), ("parameters", .obj [("port", .int 22)])]

theorem malformed_misshapen : misshapen.Malformed (declared .connection) .connection := by
  refine .parameters rfl (by simp) fun members h => ?_
  cases h
  exact ⟨("port", .int 22), by simp, by simp⟩

end Demo

theorem World.refused_misshapen : ∃ f g w', f.kind = .client ∧ g.kind = .client ∧
    Demo.contested.create (Demo.session Demo.administrator) .connection (.obj Demo.misshapen) =
      (.error f, Demo.contested) ∧
    Demo.contested.update
        ⟨.connection, { identifier := some "1" }, Demo.session Demo.administrator⟩
        (.obj Demo.misshapen) =
      (.error g, ⟨.connection, { identifier := some "1" }, Demo.session Demo.administrator⟩, w') ∧
    w'.directories = Demo.directories := by
  have hd : Demo.contested.directories.get? .connection = some Demo.connections := rfl
  obtain ⟨hrefused, -⟩ := World.refused_of_malformed hd (Demo.session Demo.administrator)
    ({ identifier := some "1" } : Connection)
  obtain ⟨⟨f, hf, hcreate⟩, f', g, w', hf', hupdate, hw', hg⟩ :=
    hrefused Demo.misshapen Demo.malformed_misshapen
  refine ⟨f, g, w', hf, ?_, hcreate, hupdate, hw'⟩
  -- The only listener that fails does so on successes.
  obtain hr | ⟨rfl, -⟩ := hg
  · have hraised := World.notify_eq_some.2 hr
    cases hraised
  · exact hf'

/-- What is not read may have any shape, and a listener that fails on a report of failure has the last
word. -/
theorem World.accepts_unread :
    let w : World := { directories := Demo.directories, declared := Demo.declared }
    let admin := Demo.session Demo.administrator
    let account : Opened := ⟨.user, { identifier := some Demo.member }, admin⟩
    (w.create admin .user (.obj [("username", .str "bob"), ("attributes", .str "none")])).1 =
      .ok [("username", .str "bob"), ("attributes", .obj [])] ∧
    (w.create admin .user
      (.obj [("username", .str "bob"), ("attributes", .obj [("room", .int 5)])])).1 =
      .ok [("username", .str "bob"), ("attributes", .obj [])] ∧
    (w.update account (.obj [("attributes", .arr [.str "room"])])).1 = .ok () ∧
    (w.update account (.obj [("parentIdentifier", .int 5)])).1 = .ok () ∧
    (({ w with listeners := [.failing .onFailure (.foreign .runtime "out of reach")] } : World).update
      account (.obj [("password", .int 5)])).1 = .error (.foreign .runtime "out of reach") :=
  ⟨rfl, rfl, rfl, rfl, rfl⟩

end AccessDirectory

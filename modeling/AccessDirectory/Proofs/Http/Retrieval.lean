import AccessDirectory.Proofs.Directory.Desk
import AccessDirectory.Proofs.Http.Atomicity
import AccessDirectory.Proofs.Http.Locator
import AccessDirectory.Proofs.Service.Quiet

/-! Objects that were created can be got. A request for the object that the last request created is
answered with what that was answered with, unless there is a slash in the identifier. -/

namespace AccessDirectory

def Kind.identifierField : Kind → String
  | .user => "username"
  | .userGroup | .connection => "identifier"

theorem Kind.lookup_identifierField {k : Kind} (o : k.Object) :
    (represent o).lookup k.identifierField = some (Json.ofOption (Object.identifier o)) := by
  cases k <;> rfl

namespace World
variable {w : World} {s : Session} {k : Kind}

theorem create_eq_ok {submission : Json} {fields : Fields}
    (h : (w.create s k submission).1 = .ok fields) :
    ∃ d d' i, ∃ o : k.Object, w.directories.get? k = some d ∧
      (w.create s k submission).2.directories.get? k = some d' ∧ d'.outage = d.outage ∧
      d'.objects.get? i = some o ∧ o.identifier = some i ∧ i ≠ "" ∧ fields = Kind.represent o := by
  unfold World.create at h ⊢
  cases hd : w.directories.find k with
  | error f =>
    rw [hd] at h
    cases h
  | ok d =>
    cases ho : w.submitted k submission with
    | error f =>
      rw [hd, ho] at h
      cases h
    | ok o =>
      cases hadd : d.add o with
      | error f =>
        simp only [hd, ho, World.add, hadd, World.refuse] at h
        cases h
      | ok added =>
        obtain ⟨o', d'⟩ := added
        simp only [hd, ho, World.add, hadd] at h ⊢
        obtain ⟨-, hout, i, hi, hput⟩ := Directory.of_add_eq_ok hadd
        obtain ⟨j, hj, hne⟩ := Directory.identifier_of_add hadd
        have hidentifier : o'.identifier = some i := by
          rw [hi]
          exact Kind.Object.identifier_setIdentifier ..
        obtain rfl := Option.some.inj (hj.symm.trans hidentifier)
        refine ⟨d, d', j, o', Directories.find_eq_ok.1 hd, ?_, hout, ?_, hidentifier, hne, ?_⟩
        · rw [directories_commit, Directories.get?_set_self]
        · rw [hput, Table.get?_put_self]
        · generalize (w.commit (s.event k .add o'.identifier (some o')) d').1 = result at h
          cases result with
          | error f => cases h
          | ok _ =>
            cases h
            rfl

end World

namespace Http
open Text

theorem status_respond (limit : Option Int) (p : Problem) : 400 ≤ (p.respond limit).1.status := by
  have hreport : ∀ kind : FailureClass, ∀ status type, kind.report? = some (status, type) →
      400 ≤ status := by
    intro kind status type h
    cases kind <;> cases h <;> decide
  have hfailed : ∀ f : Failure, 400 ≤ (respondFailure f).1.status := by
    intro f
    unfold respondFailure
    split
    next status type h => exact hreport f.kind status type h
    next => exact Nat.le_of_ble_eq_true rfl
  have habort : ∀ status ∈ abortStatuses, 400 ≤ status.toNat := by decide
  cases p with
  | failed f => exact hfailed f
  | aborted status description =>
    simp only [Problem.respond, respondAborted]
    split
    · exact Nat.le_refl _
    · split
      · exact Nat.le_of_ble_eq_true rfl
      · split
        · exact Nat.le_of_ble_eq_true rfl
        · split
          · exact Nat.le_of_ble_eq_true rfl
          · split
            · exact Nat.le_of_ble_eq_true rfl
            · split
              next hin => exact habort status (by simpa using hin)
              next => exact hfailed _

theorem refuseUpgrade_ne (found : List Destination) (m : Method) (d : Destination) :
    refuseUpgrade found m ≠ .destination d := by
  intro h
  unfold refuseUpgrade at h
  dsimp only at h
  split at h
  · cases h
  · split at h <;> cases h

theorem route_of_upgrade (base : Pattern) (m : Method) (path : String) (d : Destination) :
    route base m true path ≠ .destination d := by
  intro h
  simp only [route, if_true] at h
  split at h
  · cases h
  · exact refuseUpgrade_ne _ m d h

theorem route_collection {name : String} {k : Kind} (h : collectionKind? name = some k) :
    route usualBase .post false ("/api/" ++ name) =
      .destination { endpoint := .collection name } := by
  obtain ⟨rfl, -⟩ | ⟨rfl, -⟩ | ⟨rfl, -⟩ := of_collectionKind? h <;> decide +kernel

namespace Application
variable {a : Application} {r : Request} {d : Destination}

theorem exists_admits (h : (a.handle r).1.status < 400) (hd : a.Leads r d) : ∃ s, a.Admits r s := by
  rw [handle_of_leads hd] at h
  simp only [status_sent] at h
  cases hauth : (authenticate a.settings.secretKey a.sessions a.world.given.now r.target.path
      (r.header? "Authorization")).1 with
  | ok s => exact ⟨s, authenticate_eq_ok.1 hauth⟩
  | error f =>
    simp only [guardedReply, hauth, conclude] at h
    exact absurd (status_respond _ (.failed f)) (Nat.not_le.2 h)

theorem conclude_of_status {reply : Except Problem Response} {w : World}
    (h : (a.conclude reply w).1.status < 400) :
    ∃ response, reply = .ok response ∧ a.conclude reply w = (response, w) := by
  cases reply with
  | ok response => exact ⟨response, rfl, rfl⟩
  | error p => exact absurd (status_respond _ p) (Nat.not_le.2 h)

theorem handle_of_created {name : String} {k : Kind} {s : Session}
    (hd : a.Leads r { endpoint := .collection name }) (hname : collectionKind? name = some k)
    (hpost : r.method = .post) (hs : a.Admits r s) (h : (a.handle r).1.status < 400) :
    ∃ submission fields, (a.world.create s k submission).1 = .ok fields ∧
      a.handle r =
        (sent r (shown fields), { a with world := (a.world.create s k submission).2 }) := by
  have hserved : a.served r { endpoint := .collection name } s =
      directoryReply a.settings.maxBodySize a.world s r.target r (.collection name) := by
    simp only [served, hpost]
    rfl
  rw [handle_of_admits hd hs, answered, hserved] at h ⊢
  rw [status_sent] at h
  obtain ⟨response, hreply, hconclude⟩ := conclude_of_status h
  rw [hconclude]
  rw [directoryReply] at hreply ⊢
  cases hfound : findCollection a.world name with
  | error f =>
    rw [hfound] at hreply
    cases hreply
  | ok j =>
    obtain ⟨hj, -⟩ := findCollection_eq_ok.1 hfound
    obtain rfl := Option.some.inj (hname.symm.trans hj)
    simp only [hfound, collectionReply, hpost] at hreply ⊢
    cases hbody : readBody a.settings.maxBodySize r.content with
    | error p =>
      rw [hbody] at hreply
      cases hreply
    | ok submission =>
      simp only [hbody] at hreply ⊢
      cases hcreate : (a.world.create s k submission).1 with
      | error f =>
        rw [hcreate] at hreply
        cases hreply
      | ok fields =>
        rw [hcreate] at hreply
        cases hreply
        exact ⟨submission, fields, hcreate, rfl⟩

theorem handle_of_stored {name i : String} {k : Kind} {s : Session} {dir : Directory k}
    {o : k.Object} (hd : a.Leads r { endpoint := .object name i })
    (hname : collectionKind? name = some k) (hget : r.method = .get) (hs : a.Admits r s)
    (hquiet : a.world.Quiet) (hdir : a.world.directories.get? k = some dir)
    (hout : dir.outage .get = none) (ho : dir.objects.get? i = some o) :
    (a.handle r).1 = sent r (shown (Kind.represent o)) := by
  have hserved : a.served r { endpoint := .object name i } s =
      directoryReply a.settings.maxBodySize a.world s r.target r (.object name i) := by
    simp only [served, hget]
    rfl
  have hfound : findCollection a.world name = .ok k :=
    findCollection_eq_ok.2 ⟨hname, by rw [hdir]; rfl⟩
  rw [handle_of_admits hd hs, answered, hserved, directoryReply, hfound]
  simp only [objectReply, hquiet.fetch_eq s hdir hout ho, openedReply, hget]
  rfl

theorem status_handle (a : Application) (r : Request) :
    (a.handle r).1.status = (a.respond r).1.status := by
  unfold handle
  dsimp only
  split <;> rfl

theorem content_sent (r : Request) (response : Response) : (sent r response).content =
    if r.methodName = bareMethodName then .empty else response.content := by
  unfold sent
  dsimp only
  split <;> rfl

theorem leads_of_status {name : String} {k : Kind} (hbase : a.base = usualBase)
    (hname : collectionKind? name = some k) (hpost : r.method = .post)
    (htarget : r.target = .ofPath ("/api/" ++ name)) (h : (a.handle r).1.status = 200) :
    a.Leads r { endpoint := .collection name } := by
  have hpath : r.soughtPath = "/api/" ++ name := by
    rw [Request.soughtPath, htarget]
    rfl
  -- Whatever else a request may come to is answered with another status.
  have herror : ∀ p w, (a.conclude (.error p) w).1.status ≠ 200 := by
    intro p w hp
    have hstatus := status_respond (some a.settings.maxBodySize) p
    rw [show (p.respond (some a.settings.maxBodySize)).1.status = 200 from hp] at hstatus
    exact absurd hstatus (by decide)
  have hhost : r.hasBadHost = false := by
    cases hb : r.hasBadHost with
    | false => rfl
    | true =>
      rw [status_handle, respond, if_pos hb] at h
      exact absurd h (herror _ _)
  have hupgrade : r.isUpgrade = false := by
    cases hu : r.isUpgrade with
    | false => rfl
    | true =>
      rw [status_handle, respond, if_neg (by simp [hhost]), hu] at h
      split at h
      next => exact absurd h (herror _ _)
      next => exact absurd h (herror _ _)
      next => exact absurd h (herror _ _)
      next => exact absurd h (herror _ _)
      next => cases h
      next d hd => exact absurd hd (route_of_upgrade _ _ _ d)
  refine ⟨hhost, ?_, rfl⟩
  rw [hbase, hpost, hupgrade, hpath]
  exact route_collection hname

theorem of_created {name i : String} {k : Kind} {fields : Fields} (hbase : a.base = usualBase)
    (hfaultless : a.world.directories.Faultless) (hquiet : a.world.Quiet)
    (hname : collectionKind? name = some k) (hpost : r.method = .post)
    (htarget : r.target = .ofPath ("/api/" ++ name)) (hstatus : (a.handle r).1.status = 200)
    (hcontent : (a.handle r).1.content = .json (.obj fields))
    (hi : fields.lookup k.identifierField = some (.str i)) :
    (a.handle r).2.world.Quiet ∧ i ≠ "" ∧
      (∃ s, a.Admits r s ∧ ∀ r' : Request,
        r'.header? "Authorization" = r.header? "Authorization" → (a.handle r).2.Admits r' s) ∧
      ∃ d, ∃ o : k.Object, (a.handle r).2.world.directories.get? k = some d ∧
        d.outage .get = none ∧ d.objects.get? i = some o ∧ fields = Kind.represent o := by
  have hd := leads_of_status hbase hname hpost htarget hstatus
  have hsuccess : (a.handle r).1.status < 400 := by
    rw [hstatus]
    decide
  obtain ⟨s, hs⟩ := exists_admits hsuccess hd
  obtain ⟨submission, shownFields, hcreate, hhandle⟩ :=
    handle_of_created hd hname hpost hs hsuccess
  have hfields : shownFields = fields := by
    rw [hhandle, content_sent] at hcontent
    split at hcontent <;> cases hcontent
    rfl
  subst hfields
  obtain ⟨d, d', j, o, hdir, hdir', hout, ho, hidentifier, hne, rfl⟩ := World.create_eq_ok hcreate
  have hij : j = i := by
    rw [Kind.lookup_identifierField, hidentifier] at hi
    simpa [Json.ofOption] using hi
  subst hij
  have hacts := Stage.Acts.create { world := a.world } s k submission
  have hgiven : (a.world.create s k submission).2.given = a.world.given := hacts.given
  rw [hhandle]
  refine ⟨hquiet.acts hacts, hne, ⟨s, hs, ?_⟩,
    d', o, hdir', ?_, ho, rfl⟩
  · intro r' hcaller
    obtain ⟨rest, validated, table, hheader, hvalid, hsessions, hsession⟩ := hs
    exact ⟨rest, validated, table, hcaller.trans hheader, hgiven.symm ▸ hvalid, hsessions, hsession⟩
  · rw [hout]
    exact hfaultless k d hdir .get

/-- After a request that created an object, the object can be got under its identifier, unless a slash
is in it: then the path leads nowhere, or to where it would without slashes in a row. -/
theorem get_created {r' : Request} {name i : String} {k : Kind} {fields : Fields}
    (hbase : basePattern "/api" = .ok a.base) (hfaultless : a.world.directories.Faultless)
    (hquiet : a.world.Quiet) (hname : collectionKind? name = some k)
    (hpost : r.method = .post) (htarget : Target.read ("/api/" ++ name) = .ok r.target)
    (hstatus : (a.handle r).1.status = 200)
    (hcontent : (a.handle r).1.content = .json (.obj fields))
    (hi : fields.lookup k.identifierField = some (.str i))
    (hget : r'.method = .get)
    (htarget' : Target.read (objectPath name (Percent.encodeSegment i)) = .ok r'.target)
    (hhost : r'.hasBadHost = false) (hupgrade : r'.isUpgrade = false)
    (hcaller : r'.header? "Authorization" = r.header? "Authorization") :
    ('/' ∉ i.toList → ((a.handle r).2.handle r').1.status = 200 ∧
      ((a.handle r).2.handle r').1.content = .json (.obj fields)) ∧
    ('/' ∈ i.toList → ((a.handle r).2.handle r').1.status = 308 ∨
      ((a.handle r).2.handle r').1.status = 404) := by
  have husual : a.base = usualBase := Except.ok.inj (hbase.symm.trans basePattern_usual)
  have htarget : r.target = .ofPath ("/api/" ++ name) :=
    Except.ok.inj (htarget.symm.trans (Target.read_collectionPath hname))
  have htarget' : r'.target = .ofPath (objectPath name i) :=
    Except.ok.inj (htarget'.symm.trans (Target.read_objectPath hname i))
  obtain ⟨hquiet', hne, ⟨s, -, hadmits⟩, d, o, hdir, hout, ho, rfl⟩ :=
    of_created husual hfaultless hquiet hname hpost htarget hstatus hcontent hi
  have husual' : (a.handle r).2.base = usualBase := husual
  have hpath : r'.soughtPath = objectPath name i := by
    rw [Request.soughtPath, htarget']
    rfl
  have hbare : r'.methodName ≠ bareMethodName := by
    intro hhead
    rw [Request.method, hhead] at hget
    exact absurd hget (by decide)
  obtain ⟨hslash, hsome, -⟩ := slash_not_mem hname
  constructor
  · intro hj
    -- The second request leads to the object, its caller is admitted as before, and nothing fails.
    have hd' : (a.handle r).2.Leads r' { endpoint := .object name i } := by
      refine ⟨hhost, ?_, rfl⟩
      rw [husual', hget, hupgrade, hpath]
      exact route_objectPath hslash hsome hj hne
    have hanswer := handle_of_stored hd' hname hget (hadmits r' hcaller) hquiet' hdir hout ho
    rw [hanswer, status_sent, content_sent, if_neg hbare]
    exact ⟨rfl, rfl⟩
  · intro hj
    -- Whoever calls, the path is turned away before the caller is looked at.
    rw [status_handle, respond, if_neg (by simp [hhost]), husual', hget, hupgrade, hpath]
    obtain hredirect | hunknown := route_objectPath_of_mem hslash hj
    · rw [hredirect]
      exact .inl rfl
    · rw [hunknown]
      exact .inr rfl

end Application
end Http

namespace Demo
open Http

def enrolment (username : String) : Request where
  methodName := "POST"
  target := { scheme := "", path := "/api/users", query := [] }
  headers := [("Authorization", "Bearer " ++ token)]
  body := Text.Utf8.encode ("\x7b\"username\":\"" ++ username ++ "\"\x7d")

def inquiry (username : String) : Request where
  methodName := "GET"
  target := .ofPath (objectPath "users" username)
  headers := [("Authorization", "Bearer " ++ token)]

theorem handle_enrolment (username : String) : site.handle (enrolment username) =
    site.answered (enrolment username) { endpoint := .collection "users" } (session member) := by
  have hroute : route site.base (.ofName "POST") false "/api/users" =
      .destination { endpoint := .collection "users" } := by decide +kernel
  obtain ⟨hhost, hupgrade⟩ := plain_of_headers (r := enrolment username) rfl rfl rfl
  refine Application.handle_of_admits ⟨hhost, ?_, rfl⟩ admits_token
  rw [hupgrade]
  exact hroute

def shownUsername? : Content → Option String
  | .json (.obj fields) => (fields.lookup "username").bind Fields.textValue?
  | _ => none

theorem shownUsername?_eq_some {c : Content} {username : String}
    (h : shownUsername? c = some username) :
    ∃ fields, c = .json (.obj fields) ∧ fields.lookup "username" = some (.str username) := by
  unfold shownUsername? at h
  split at h
  next fields =>
    obtain ⟨v, hv, hs⟩ := Option.bind_eq_some_iff.1 h
    unfold Fields.textValue? at hs
    split at hs <;> cases hs
    exact ⟨fields, rfl, hv⟩
  next => cases h

theorem of_enrolment (username : String) (h : username ∈ ["50% off.", "a/b"]) :
    (site.handle (enrolment username)).1.status = 200 ∧
    ∃ fields, (site.handle (enrolment username)).1.content = .json (.obj fields) ∧
      fields.lookup "username" = some (.str username) := by
  rw [handle_enrolment]
  simp only [List.mem_cons, List.not_mem_nil, or_false] at h
  obtain rfl | rfl := h
  · exact ⟨by decide +kernel, shownUsername?_eq_some (by decide +kernel)⟩
  · exact ⟨by decide +kernel, shownUsername?_eq_some (by decide +kernel)⟩

end Demo

theorem Http.Application.get_created_enrolment : ∃ fields,
    fields.lookup "username" = some (.str "50% off.") ∧
    (Demo.site.handle (Demo.enrolment "50% off.")).1.content = .json (.obj fields) ∧
    ((Demo.site.handle (Demo.enrolment "50% off.")).2.handle
      (Demo.inquiry "50% off.")).1.content = .json (.obj fields) := by
  obtain ⟨hstatus, fields, hcontent, hi⟩ := Demo.of_enrolment "50% off." (by simp)
  obtain ⟨hhost, hupgrade⟩ := Demo.plain_of_headers (r := Demo.inquiry "50% off.") rfl rfl rfl
  have hname : collectionKind? "users" = some .user := rfl
  have hget : (Demo.inquiry "50% off.").method = .get := by decide +kernel
  have hgot := (Application.get_created basePattern_usual Demo.faultless_directories
    (fun _ _ => rfl) hname (by decide +kernel) (Target.read_collectionPath hname) hstatus hcontent
    hi hget (Target.read_objectPath hname "50% off.") hhost hupgrade rfl).1 (by decide)
  exact ⟨fields, hi, hcontent, hgot.2⟩

/-- Where no method and no listener fails, a user is created with a slash in the name and cannot be got. -/
theorem Http.Application.not_found_after_creation : ∃ fields,
    basePattern "/api" = .ok Demo.site.base ∧ Demo.site.world.directories.Faultless ∧
    Demo.site.world.Quiet ∧
    (Demo.site.handle (Demo.enrolment "a/b")).1.status = 200 ∧
    (Demo.site.handle (Demo.enrolment "a/b")).1.content = .json (.obj fields) ∧
    fields.lookup "username" = some (.str "a/b") ∧
    Target.read (objectPath "users" (Text.Percent.encodeSegment "a/b")) =
      .ok (Demo.inquiry "a/b").target ∧
    (Demo.inquiry "a/b").headers = (Demo.enrolment "a/b").headers ∧
    ((Demo.site.handle (Demo.enrolment "a/b")).2.handle (Demo.inquiry "a/b")).1.status = 404 := by
  obtain ⟨hstatus, fields, hcontent, hi⟩ := Demo.of_enrolment "a/b" (by simp)
  have hname : collectionKind? "users" = some .user := rfl
  exact ⟨fields, basePattern_usual, Demo.faultless_directories, fun _ _ => rfl, hstatus, hcontent,
    hi, Target.read_objectPath hname "a/b", rfl, by decide +kernel⟩

end AccessDirectory

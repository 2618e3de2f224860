import AccessDirectory.Proofs.Http.Atomicity

/-! The failures that end requests about the collections: the gate lets nobody in, or the operation that is
asked for fails. The response is made of that failure and of nothing else. -/

namespace AccessDirectory.Http

inductive Endpoint.Fails (limit : Int) (w : World) (s : Session) (r : Request) :
    Endpoint → Failure → Prop
  | noCollection {name : String} {f : Failure} (h : findCollection w name = .error f) :
    Fails limit w s r (.collection name) f
  | filter {name : String} {k : Kind} {f : Failure} (hk : findCollection w name = .ok k)
    (hpatch : r.method ≠ .patch) (hpost : r.method ≠ .post)
    (h : requestedPermissions r.target = .error f) : Fails limit w s r (.collection name) f
  | list {name : String} {k : Kind} {names : List Json} {f : Failure}
    (hk : findCollection w name = .ok k) (hpatch : r.method ≠ .patch) (hpost : r.method ≠ .post)
    (hnames : requestedPermissions r.target = .ok names) (h : w.list s k names = .error f) :
    Fails limit w s r (.collection name) f
  | patch {name : String} {k : Kind} {submission : Json} {f : Failure}
    (hk : findCollection w name = .ok k) (hpatch : r.method = .patch)
    (hbody : readBody limit r.content = .ok submission)
    (h : (w.patch s k submission).1 = .error f) : Fails limit w s r (.collection name) f
  | create {name : String} {k : Kind} {submission : Json} {f : Failure}
    (hk : findCollection w name = .ok k) (hpost : r.method = .post)
    (hbody : readBody limit r.content = .ok submission)
    (h : (w.create s k submission).1 = .error f) : Fails limit w s r (.collection name) f
  | noCollectionOf {name i : String} {f : Failure} (h : findCollection w name = .error f) :
    Fails limit w s r (.object name i) f
  | fetch {name i : String} {k : Kind} {f : Failure} (hk : findCollection w name = .ok k)
    (h : (w.fetch s k i).1 = .error f) : Fails limit w s r (.object name i) f
  | update {name i : String} {k : Kind} {c : Opened} {w' : World} {submission : Json} {f : Failure}
    (hk : findCollection w name = .ok k) (hc : w.fetch s k i = (.ok c, w')) (hput : r.method = .put)
    (hbody : readBody limit r.content = .ok submission)
    (h : (w'.update c submission).1 = .error f) : Fails limit w s r (.object name i) f
  | delete {name i : String} {k : Kind} {c : Opened} {w' : World} {f : Failure}
    (hk : findCollection w name = .ok k) (hc : w.fetch s k i = (.ok c, w'))
    (hdelete : r.method = .delete) (h : (w'.delete c).1 = .error f) :
    Fails limit w s r (.object name i) f

section
variable {limit : Int} {w : World} {s : Session} {k : Kind} {r : Request} {f : Failure}

theorem replying_eq_failed {α : Type} {reply : α → Response} {result : Except Failure α} :
    replying reply result = .error (.failed f) ↔ result = .error f := by
  cases result <;> simp [replying]

theorem readBody_eq_error {body : List UInt8} {p : Problem} (h : readBody limit body = .error p) :
    p = .aborted 413 none ∨ p = .aborted 400 none := by
  unfold readBody at h
  split at h
  · cases h
  · split at h
    · cases h
      exact .inl rfl
    · split at h
      · cases h
        exact .inr rfl
      · split at h <;> cases h
        exact .inr rfl

theorem readBody_ne_failed {body : List UInt8} : readBody limit body ≠ .error (.failed f) := by
  intro h
  obtain h | h := readBody_eq_error h <;> cases h

theorem listReply_eq_failed {t : Target} : listReply w s k t = .error (.failed f) ↔
    requestedPermissions t = .error f ∨
      ∃ names, requestedPermissions t = .ok names ∧ w.list s k names = .error f := by
  rw [listReply, replying_eq_failed]
  cases requestedPermissions t with
  | error g => simp [bind, Except.bind]
  | ok names => simp [bind, Except.bind]

theorem collectionReply_of_ne {t : Target} (hpatch : r.method ≠ .patch) (hpost : r.method ≠ .post) :
    collectionReply limit w s k t r = (listReply w s k t, w) := by
  unfold collectionReply
  split
  next h => exact absurd h hpatch
  next h => exact absurd h hpost
  next => rfl

theorem Endpoint.fails_of_collectionReply {name : String} (hk : findCollection w name = .ok k)
    (h : (collectionReply limit w s k r.target r).1 = .error (.failed f)) :
    Fails limit w s r (.collection name) f := by
  by_cases hpatch : r.method = .patch
  · simp only [collectionReply, hpatch] at h
    split at h
    next hbody =>
      cases h
      exact absurd hbody readBody_ne_failed
    next hbody => exact .patch hk hpatch hbody (replying_eq_failed.1 h)
  · by_cases hpost : r.method = .post
    · simp only [collectionReply, hpost] at h
      split at h
      next hbody =>
        cases h
        exact absurd hbody readBody_ne_failed
      next hbody => exact .create hk hpost hbody (replying_eq_failed.1 h)
    · rw [collectionReply_of_ne hpatch hpost] at h
      obtain h | ⟨names, hnames, h⟩ := listReply_eq_failed.1 h
      · exact .filter hk hpatch hpost h
      · exact .list hk hpatch hpost hnames h

theorem Endpoint.fails_of_objectReply {name i : String} (hk : findCollection w name = .ok k)
    (h : (objectReply limit w s k i r).1 = .error (.failed f)) :
    Fails limit w s r (.object name i) f := by
  unfold objectReply at h
  split at h
  next g w' hfetch =>
    cases h
    exact .fetch hk (congrArg Prod.fst hfetch)
  next c w' hfetch =>
    unfold openedReply at h
    split at h
    next hput =>
      split at h
      next hbody =>
        cases h
        exact absurd hbody readBody_ne_failed
      next hbody => exact .update hk hfetch hput hbody (replying_eq_failed.1 h)
    next hdelete => exact .delete hk hfetch hdelete (replying_eq_failed.1 h)
    next => cases h

theorem Endpoint.Fails.directoryReply {e : Endpoint} (h : e.Fails limit w s r f) :
    (directoryReply limit w s r.target r e).1 = .error (.failed f) := by
  cases h with
  | noCollection h => rw [Http.directoryReply, h]
  | filter hk hpatch hpost h =>
    simp only [Http.directoryReply, hk, collectionReply_of_ne hpatch hpost]
    exact listReply_eq_failed.2 (.inl h)
  | list hk hpatch hpost hnames h =>
    simp only [Http.directoryReply, hk, collectionReply_of_ne hpatch hpost]
    exact listReply_eq_failed.2 (.inr ⟨_, hnames, h⟩)
  | patch hk hpatch hbody h =>
    simp only [Http.directoryReply, hk, collectionReply, hpatch, hbody, h]
    rfl
  | create hk hpost hbody h =>
    simp only [Http.directoryReply, hk, collectionReply, hpost, hbody, h]
    rfl
  | noCollectionOf h => rw [Http.directoryReply, h]
  | @fetch name i k f hk h =>
    simp only [Http.directoryReply, hk, objectReply]
    generalize w.fetch s k i = ended at h
    obtain ⟨result, w'⟩ := ended
    cases h
    rfl
  | update hk hc hput hbody h =>
    simp only [Http.directoryReply, hk, objectReply, hc, openedReply, hput, hbody, h]
    rfl
  | delete hk hc hdelete h =>
    simp only [Http.directoryReply, hk, objectReply, hc, openedReply, hdelete, h]
    rfl

theorem directoryReply_eq_failed {e : Endpoint} :
    (directoryReply limit w s r.target r e).1 = .error (.failed f) ↔ e.Fails limit w s r f := by
  refine ⟨fun h => ?_, fun h => h.directoryReply⟩
  unfold directoryReply at h
  split at h
  · split at h
    next hk =>
      cases h
      exact .noCollection hk
    next hk => exact Endpoint.fails_of_collectionReply hk h
  · split at h
    next hk =>
      cases h
      exact .noCollectionOf hk
    next hk => exact Endpoint.fails_of_objectReply hk h
  · cases h

end

namespace Application
variable {a : Application} {r : Request} {d : Destination} {f : Failure}

/-- The failures that can end a request about the collections: the gate lets nobody in, the handler has
no name for a variable of the base path, or what is asked for fails. -/
inductive Escapes (a : Application) (r : Request) (d : Destination) : Failure → Prop
  | refused {f : Failure}
    (h : (authenticate a.settings.secretKey a.sessions a.world.given.now r.target.path
      (r.header? "Authorization")).1 = .error f) : Escapes a r d f
  | stray {s : Session} {name : String} (hs : a.Admits r s) (hmethod : r.method ≠ .options)
    (h : d.stray = some name) :
    Escapes a r d (.unknownArgument (handlerName d.endpoint r.method) name)
  | operation {s : Session} {f : Failure} (hs : a.Admits r s) (hmethod : r.method ≠ .options)
    (hstray : d.stray = none) (h : d.endpoint.Fails a.settings.maxBodySize a.world s r f) :
    Escapes a r d f

theorem Escapes.guardedReply (h : a.Escapes r d f) :
    (a.guardedReply r d).1 = .error (.failed f) := by
  cases h with
  | refused h => simp only [Application.guardedReply, h]
  | stray hs hmethod h =>
    rw [guardedReply_of_admits hs]
    simp only [served, hmethod, h, if_false]
  | operation hs hmethod hstray h =>
    rw [guardedReply_of_admits hs]
    simp only [served, hmethod, hstray, if_false]
    exact h.directoryReply

theorem guardedReply_eq_failed : (a.guardedReply r d).1 = .error (.failed f) ↔ a.Escapes r d f := by
  refine ⟨fun h => ?_, fun h => h.guardedReply⟩
  cases hauth : (authenticate a.settings.secretKey a.sessions a.world.given.now r.target.path
      (r.header? "Authorization")).1 with
  | error g =>
    simp only [guardedReply, hauth] at h
    cases h
    exact .refused hauth
  | ok s =>
    have hs : a.Admits r s := authenticate_eq_ok.1 hauth
    rw [guardedReply_of_admits hs] at h
    unfold served at h
    split at h
    · cases h
    next hmethod =>
      split at h
      next hstray =>
        cases h
        exact .stray hs hmethod hstray
      next hstray => exact .operation hs hmethod hstray (directoryReply_eq_failed.1 h)

theorem handle_of_escapes (hd : a.Leads r d) (h : a.Escapes r d f) :
    (a.handle r).1 = sent r (respondFailure f).1 := by
  rw [handle_of_leads hd]
  simp only [conclude, h.guardedReply, Problem.respond]

end Application
end AccessDirectory.Http

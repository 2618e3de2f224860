import AccessDirectory.Proofs.Http.Admission
import AccessDirectory.Proofs.Service.Atomicity

/-! Requests that fail. Under listeners that never fail, a response with the status of an error means that
the directories are as they were. The exception are patches of a collection that are answered with
404: the objects that they name may be gone. -/

namespace AccessDirectory

namespace Http
open Stage

def Request.Removes (limit : Int) (r : Request) (i : String) : Prop :=
  ∃ submission, readBody limit r.content = .ok submission ∧ submission.Removes i

theorem acts_collectionReply (limit : Int) (w : World) (s : Session) (k : Kind) (t : Target)
    (r : Request) : Acts { world := w } { world := (collectionReply limit w s k t r).2 } := by
  unfold collectionReply
  split
  · split
    · exact .refl _
    · exact .patch { world := w } s k _
  · split
    · exact .refl _
    · exact .create { world := w } s k _
  · exact .refl _

theorem acts_openedReply (limit : Int) {g : Stage} {handle : String} {c : Opened}
    (hc : g.held.get? handle = some c) (r : Request) :
    ∃ held, Acts g { world := (openedReply limit g.world c r).2, held } := by
  unfold openedReply
  split
  · split
    · exact ⟨g.held, .refl _⟩
    · exact ⟨_, .update hc _⟩
  · exact ⟨g.held, .remove g c.session c.kind c.identifier⟩
  · exact ⟨g.held, .refl _⟩

theorem acts_directoryReply (limit : Int) (w : World) (s : Session) (t : Target) (r : Request)
    (e : Endpoint) :
    ∃ held, Acts { world := w } { world := (directoryReply limit w s t r e).2, held } := by
  cases e with
  | collection name =>
    rw [directoryReply]
    split
    · exact ⟨∅, .refl _⟩
    · exact ⟨∅, acts_collectionReply ..⟩
  | object name identifier =>
    rw [directoryReply]
    split
    · exact ⟨∅, .refl _⟩
    next k _ =>
      have hfetch := Acts.fetch { world := w } s k identifier ""
      rw [Stage.perform] at hfetch
      unfold objectReply
      cases hf : w.fetch s k identifier with
      | mk result w' =>
        rw [hf] at hfetch
        cases result with
        | error f => exact ⟨∅, hfetch⟩
        | ok c =>
          -- A request holds the object for as long as it is answered, under whatever handle.
          obtain ⟨held, hopened⟩ := acts_openedReply limit (Table.get?_put_self _ "" c) r
            (g := { world := w', held := Table.put ∅ "" c })
          exact ⟨held, hfetch.trans hopened⟩
  | _ => exact ⟨∅, .refl _⟩

theorem listeners_directoryReply (limit : Int) (w : World) (s : Session) (t : Target) (r : Request)
    (e : Endpoint) : (directoryReply limit w s t r e).2.listeners = w.listeners := by
  obtain ⟨held, hacts⟩ := acts_directoryReply limit w s t r e
  exact hacts.listeners

/-- A reply without the status of an error, or a failure that leaves the directories as they were, or
one of patches that have removed nothing but objects that they name. -/
inductive Sparing (limit : Int) (w : World) (r : Request) (e : Endpoint) :
    Except Problem Response × World → Prop
  | answered {response : Response} {w' : World} (h : response.status < 400) :
      Sparing limit w r e (.ok response, w')
  | same {p : Problem} {w' : World} (h : w'.directories = w.directories) :
      Sparing limit w r e (.error p, w')
  | trimmed {f : Failure} {w' : World} {name : String} {k : Kind} (hmethod : r.method = .patch)
      (hkind : f.kind = .notFound) (he : e = .collection name) (hname : collectionKind? name = some k)
      (h : w.directories.Trimmed (r.Removes limit) k w'.directories) :
      Sparing limit w r e (.error (.failed f), w')

section
variable {limit : Int} {w w' : World} {r : Request} {e : Endpoint}

theorem Sparing.of_same {ended : Except Problem Response × World}
    (h : Sparing limit w' r e ended) (hsame : w'.directories = w.directories) :
    Sparing limit w r e ended := by
  cases h with
  | answered h => exact .answered h
  | same h => exact .same (h.trans hsame)
  | trimmed hmethod hkind he hname h => exact .trimmed hmethod hkind he hname (hsame ▸ h)

theorem Sparing.replying {α : Type} {result : Except Failure α} {reply : α → Response}
    (h : w.Spares (result, w')) (hreply : ∀ x, (reply x).status < 400) :
    Sparing limit w r e (replying reply result, w') := by
  cases result with
  | error f => exact .same (h f rfl)
  | ok x => exact .answered (hreply x)

theorem status_shown_lt (fields : Fields) : (shown fields).status < 400 := by
  change 200 < 400
  decide

theorem status_done_lt : done.status < 400 := by decide

theorem sparing_collectionReply (h : w.Quiet) (limit : Int) (s : Session) {name : String} {k : Kind}
    (hname : collectionKind? name = some k) (hk : (w.directories.get? k).isSome) (t : Target)
    (r : Request) :
    Sparing limit w r (.collection name) (collectionReply limit w s k t r) := by
  obtain ⟨d, hd⟩ := Option.isSome_iff_exists.1 hk
  unfold collectionReply
  split
  next hmethod =>
    split
    · exact .same rfl
    next submission hbody =>
      cases hended : (w.patch s k submission).1 with
      | ok _ =>
        simp only [replying, hended]
        exact .answered status_done_lt
      | error f =>
        simp only [replying, hended]
        obtain hsame | ⟨hkind, htrimmed⟩ := h.patch hd hended
        · exact .same hsame
        · exact .trimmed hmethod hkind rfl hname
            (htrimmed.mono fun i hi => ⟨submission, hbody, hi⟩)
  · split
    · exact .same rfl
    · exact .replying (h.spares_create s k _) status_shown_lt
  · change Sparing limit w r _ (replying shown (requestedPermissions t >>= w.list s k), w)
    exact .replying .same status_shown_lt

theorem sparing_openedReply (h : w.Quiet) (limit : Int) (c : Opened) (r : Request) (e : Endpoint) :
    Sparing limit w r e (openedReply limit w c r) := by
  unfold openedReply
  split
  · split
    · exact .same rfl
    · exact .replying (h.spares_update c _) fun _ => status_done_lt
  · exact .replying (h.spares_remove _ _ _) fun _ => status_done_lt
  · exact .answered (status_shown_lt _)

theorem findCollection_eq_ok {name : String} {k : Kind} :
    findCollection w name = .ok k ↔
      collectionKind? name = some k ∧ (w.directories.get? k).isSome := by
  unfold findCollection
  cases collectionKind? name with
  | none => simp
  | some j =>
    by_cases hj : (w.directories.get? j).isSome
    · simp only [hj, if_true, Except.ok.injEq, Option.some.injEq]
      grind
    · simp only [hj]
      grind

theorem sparing_objectReply (h : w.Quiet) (limit : Int) (s : Session) (k : Kind)
    (identifier : String) (r : Request) (e : Endpoint) :
    Sparing limit w r e (objectReply limit w s k identifier r) := by
  -- Whether it succeeds or not, opening an object changes no directory and no listener.
  have hsame := World.directories_fetch w s k identifier
  have hquiet := h.fetch s k identifier
  unfold objectReply
  cases hf : w.fetch s k identifier with
  | mk result w' =>
    rw [hf] at hsame hquiet
    cases result with
    | error f => exact .same hsame
    | ok c => exact (sparing_openedReply hquiet limit c r e).of_same hsame

theorem sparing_directoryReply (h : w.Quiet) (limit : Int) (s : Session) (t : Target) (r : Request)
    (e : Endpoint) : Sparing limit w r e (directoryReply limit w s t r e) := by
  cases e with
  | collection name =>
    rw [directoryReply]
    cases hfound : findCollection w name with
    | error f => exact .same rfl
    | ok k =>
      obtain ⟨hname, hk⟩ := findCollection_eq_ok.1 hfound
      exact sparing_collectionReply h limit s hname hk t r
  | object name identifier =>
    rw [directoryReply]
    cases findCollection w name with
    | error f => exact .same rfl
    | ok k => exact sparing_objectReply h limit s k identifier r _
  | _ => exact .same rfl

end

namespace Application
variable {a : Application} {r : Request} {d : Destination}

theorem listeners_note (w : World) (line : Option LogLine) :
    (note w line).listeners = w.listeners := by
  unfold note
  split <;> rfl

theorem quiet_note {w : World} (h : w.Quiet) (line : Option LogLine) : (note w line).Quiet := by
  unfold note
  split <;> exact h

theorem directories_conclude (a : Application) (reply : Except Problem Response) (w : World) :
    (a.conclude reply w).2.directories = w.directories := by
  unfold conclude
  split
  · rfl
  · exact directories_note ..

theorem listeners_conclude (a : Application) (reply : Except Problem Response) (w : World) :
    (a.conclude reply w).2.listeners = w.listeners := by
  unfold conclude
  split
  · rfl
  · exact listeners_note ..

theorem listeners_guardedReply (a : Application) (r : Request) (d : Destination) :
    (a.guardedReply r d).2.listeners = a.world.listeners := by
  unfold guardedReply
  dsimp only
  split
  · exact listeners_note ..
  · split
    · exact listeners_note ..
    · split
      · exact listeners_note ..
      · exact (listeners_directoryReply ..).trans (listeners_note ..)

theorem handle_of_not_leads (h : ∀ d, ¬a.Leads r d) :
    ∃ reply, (a.handle r).2.world = (a.conclude reply a.world).2 := by
  unfold handle respond
  split
  · exact ⟨_, rfl⟩
  next hhost =>
    split
    · exact ⟨_, rfl⟩
    · exact ⟨_, rfl⟩
    · exact ⟨_, rfl⟩
    · exact ⟨_, rfl⟩
    · exact ⟨.ok done, rfl⟩
    next d hroute =>
      split
      next hguarded => exact absurd ⟨by simpa using hhost, hroute, hguarded⟩ (h d)
      next => exact ⟨_, rfl⟩

theorem listeners_handle (a : Application) (r : Request) :
    (a.handle r).2.world.listeners = a.world.listeners := by
  by_cases h : ∃ d, a.Leads r d
  · obtain ⟨d, hd⟩ := h
    rw [handle_of_leads hd]
    exact (listeners_conclude ..).trans (listeners_guardedReply a r d)
  · obtain ⟨reply, hworld⟩ := handle_of_not_leads (not_exists.1 h)
    rw [hworld]
    exact listeners_conclude ..

theorem sparing_guardedReply (h : a.world.Quiet) (r : Request) (d : Destination) :
    Sparing a.settings.maxBodySize a.world r d.endpoint (a.guardedReply r d) := by
  unfold guardedReply
  generalize authenticate a.settings.secretKey a.sessions a.world.given.now r.target.path
    (r.header? "Authorization") = entered
  have hsame := directories_note a.world entered.2
  have hquiet := quiet_note h entered.2
  dsimp only
  split
  · exact .same hsame
  next s _ =>
    split
    · exact .answered (by decide)
    · split
      · exact .same hsame
      · exact (sparing_directoryReply hquiet _ s r.target r d.endpoint).of_same hsame

theorem status_sent (r : Request) (response : Response) : (sent r response).status = response.status := by
  unfold sent
  dsimp only
  split <;> rfl

theorem directories_handle (h : a.world.Quiet) (hstatus : 400 ≤ (a.handle r).1.status) :
    (a.handle r).2.world.directories = a.world.directories ∨
      r.method = .patch ∧ (a.handle r).1.status = 404 ∧ ∃ d name k, a.Leads r d ∧
        d.endpoint = .collection name ∧ collectionKind? name = some k ∧
        a.world.directories.Trimmed (r.Removes a.settings.maxBodySize) k
          (a.handle r).2.world.directories := by
  by_cases hleads : ∃ d, a.Leads r d
  · obtain ⟨d, hd⟩ := hleads
    have hreply := sparing_guardedReply h r d
    rw [handle_of_leads hd] at hstatus ⊢
    simp only [status_sent, directories_conclude] at hstatus ⊢
    -- How a request ends decides its status: only failures have that of an error.
    generalize a.guardedReply r d = ended at hreply hstatus
    cases hreply with
    | answered hlt => exact absurd hlt (Nat.not_lt.2 hstatus)
    | same hsame => exact .inl hsame
    | @trimmed f w' name k hmethod hkind he hname htrimmed =>
      refine .inr ⟨hmethod, ?_, d, name, k, hd, he, hname, htrimmed⟩
      simp only [conclude, Problem.respond, respondFailure, hkind]
      rfl
  · obtain ⟨reply, hworld⟩ := handle_of_not_leads (not_exists.1 hleads)
    rw [hworld]
    exact .inl (directories_conclude ..)

def visit (a : Application) (given : Conditions) (r : Request) : Response × Application :=
  { a with world := { a.world with given } }.handle r

def visitAll (a : Application) : List (Conditions × Request) → Application
  | [] => a
  | (given, r) :: rest => (a.visit given r).2.visitAll rest

theorem listeners_visitAll (a : Application) (visits : List (Conditions × Request)) :
    (a.visitAll visits).world.listeners = a.world.listeners := by
  induction visits generalizing a with
  | nil => rfl
  | cons visit rest ih => exact (ih _).trans (listeners_handle ..)

/-- After any requests, whatever came of them, the next one that is answered with the status of an
error leaves the directories as they were, unless it is a patch that is answered with 404: that has
removed nothing but what it names, and from its own collection. -/
theorem directories_visit (a : Application) (visits : List (Conditions × Request))
    {given : Conditions} {r : Request} (hquiet : World.Quiet { a.world with given })
    (hstatus : 400 ≤ ((a.visitAll visits).visit given r).1.status) :
    ((a.visitAll visits).visit given r).2.world.directories =
        (a.visitAll visits).world.directories ∨
      r.method = .patch ∧ ((a.visitAll visits).visit given r).1.status = 404 ∧
        ∃ d name k, (a.visitAll visits).Leads r d ∧
          d.endpoint = .collection name ∧ collectionKind? name = some k ∧
          (a.visitAll visits).world.directories.Trimmed
            (r.Removes (a.visitAll visits).settings.maxBodySize) k
            ((a.visitAll visits).visit given r).2.world.directories := by
  -- No request changes the listeners, so those that never fail at first never fail later.
  have hbefore : World.Quiet { (a.visitAll visits).world with given } := by
    have hlisteners := listeners_visitAll a visits
    intro e j
    change (deliver given e 0 (a.visitAll visits).world.listeners j).1 = none
    rw [hlisteners]
    exact hquiet e j
  exact directories_handle hbefore hstatus

end Application
end Http

namespace Demo
open Http

def purge : Request where
  methodName := "PATCH"
  target := { scheme := "", path := "/api/users", query := [] }
  headers := [("Authorization", "Bearer " ++ token)]
  body := Text.Utf8.encode
    "[\x7b\"op\":\"remove\",\"path\":\"/guacadmin\"\x7d,\x7b\"op\":\"remove\",\"path\":\"/nobody\"\x7d]"

theorem handle_purge : site.handle purge =
    site.answered purge { endpoint := .collection "users" } (session member) := by
  have hroute : route site.base (.ofName "PATCH") false "/api/users" =
      .destination { endpoint := .collection "users" } := by decide +kernel
  obtain ⟨hhost, hupgrade⟩ := plain_of_headers (r := purge) rfl rfl rfl
  refine Application.handle_of_admits ⟨hhost, ?_, rfl⟩ admits_token
  rw [hupgrade]
  exact hroute

end Demo

theorem Http.Application.directories_purge :
    (Demo.site.visit {} Demo.purge).1.status = 404 ∧
    ((Demo.site.visit {} Demo.purge).2.world.directories.stored .user).get?
      Demo.administrator = none ∧
    ∃ d name k, Demo.site.Leads Demo.purge d ∧ d.endpoint = .collection name ∧
      collectionKind? name = some k ∧
      Demo.site.world.directories.Trimmed (Demo.purge.Removes Demo.site.settings.maxBodySize) k
        (Demo.site.visit {} Demo.purge).2.world.directories := by
  have hvisit : Demo.site.visit {} Demo.purge = _ := Demo.handle_purge
  have hstatus : (Demo.site.visit {} Demo.purge).1.status = 404 := by
    rw [hvisit]
    decide +kernel
  have hgone : ((Demo.site.visit {} Demo.purge).2.world.directories.stored .user).get?
      Demo.administrator = none := by
    rw [hvisit]
    decide +kernel
  have hquiet : World.Quiet { Demo.site.world with given := {} } := fun _ _ => rfl
  have herror : 400 ≤ ((Demo.site.visitAll []).visit {} Demo.purge).1.status := by
    rw [Application.visitAll, hstatus]
    decide
  obtain hsame | ⟨-, -, htrimmed⟩ :=
    Http.Application.directories_visit Demo.site [] hquiet herror
  · rw [Application.visitAll] at hsame
    rw [hsame] at hgone
    cases hgone
  · exact ⟨hstatus, hgone, htrimmed⟩

end AccessDirectory

import AccessDirectory.Http.Start
import AccessDirectory.Proofs.Http.Escape
import AccessDirectory.Proofs.Http.Likeness

/-! What clients are told of what goes wrong. Of a failure of the service they are told its own text and
status. Of all others they are told nothing: applications that differ only in the texts of these answer
every request alike. -/

namespace AccessDirectory.Http

def Response.IsError (response : Response) : Prop :=
  ∃ message type, response.content = .json (.obj [
    ("message", .str message), ("type", .str type), ("statusCode", .int response.status)])

def Response.IsTold (response : Response) : Prop := 400 ≤ response.status → response.IsError

def ownStatuses : List Int := [400, 404, 405, 413, 500]

/-- A reply that is no error in content only where it is none by its status. -/
inductive Settled : Except Problem Response → Prop
  | answered {response : Response} (h : response.status < 400) : Settled (.ok response)
  | failed (f : Failure) : Settled (.error (.failed f))
  | aborted {status : Int} {description : Option String} (h : status ∈ ownStatuses) :
    Settled (.error (.aborted status description))

theorem isError_respondFailure (f : Failure) : (respondFailure f).1.IsError := by
  unfold respondFailure
  split
  next status type _ => exact ⟨f.message, type, rfl⟩
  next => exact ⟨_, internalType, rfl⟩

theorem isError_respondAborted (limit : Option Int) {status : Int} (h : status ∈ ownStatuses)
    (description : Option String) : (respondAborted limit status description).1.IsError := by
  simp only [ownStatuses, List.mem_cons, List.not_mem_nil, or_false] at h
  obtain rfl | rfl | rfl | rfl | rfl := h <;> exact ⟨_, _, rfl⟩

namespace Settled
theorem of_readBody {limit : Int} {body : List UInt8} {p : Problem}
    (h : readBody limit body = .error p) : Settled (.error p) := by
  obtain rfl | rfl := readBody_eq_error h
  · exact .aborted (by decide)
  · exact .aborted (by decide)

theorem replying {α : Type} {reply : α → Response} (h : ∀ x, (reply x).status < 400)
    (result : Except Failure α) : Settled (replying reply result) := by
  cases result with
  | error f => exact .failed f
  | ok x => exact .answered (h x)

theorem collectionReply (limit : Int) (w : World) (s : Session) (k : Kind) (t : Target)
    (r : Request) : Settled (collectionReply limit w s k t r).1 := by
  unfold Http.collectionReply
  split
  · split
    next hbody => exact .of_readBody hbody
    next => exact .replying (fun _ => status_done_lt) _
  · split
    next hbody => exact .of_readBody hbody
    next => exact .replying status_shown_lt _
  · exact .replying status_shown_lt _

theorem openedReply (limit : Int) (w : World) (c : Opened) (r : Request) :
    Settled (openedReply limit w c r).1 := by
  unfold Http.openedReply
  split
  · split
    next hbody => exact .of_readBody hbody
    next => exact .replying (fun _ => status_done_lt) _
  · exact .replying (fun _ => status_done_lt) _
  · exact .answered (status_shown_lt _)

theorem directoryReply (limit : Int) (w : World) (s : Session) (t : Target) (r : Request)
    (e : Endpoint) : Settled (directoryReply limit w s t r e).1 := by
  unfold Http.directoryReply
  split
  · split
    · exact .failed _
    · exact .collectionReply ..
  · split
    · exact .failed _
    · unfold objectReply
      split
      · exact .failed _
      · exact .openedReply ..
  · exact .aborted (by decide)

theorem guardedReply (a : Application) (r : Request) (d : Destination) :
    Settled (a.guardedReply r d).1 := by
  unfold Application.guardedReply
  dsimp only
  split
  · exact .failed _
  · split
    · exact .answered (by decide)
    · split
      · exact .failed _
      · exact .directoryReply ..

theorem siteReply {a : Application} {e : Endpoint} (h : e = .ready → a.isReady) (r : Request) :
    Settled (a.siteReply r e) := by
  unfold Application.siteReply
  split
  · exact .answered (by decide)
  · split
    · exact .answered (by decide)
    · rw [if_pos (h rfl)]
      exact .answered (by decide)
    · exact .aborted (by decide)

theorem isTold_conclude {reply : Except Problem Response} (h : Settled reply) (a : Application)
    (w : World) : (a.conclude reply w).1.IsTold := by
  cases h with
  | answered hlt => exact fun hstatus => absurd hlt (Nat.not_lt.2 hstatus)
  | failed f => exact fun _ => isError_respondFailure f
  | aborted hown => exact fun _ => isError_respondAborted _ hown _

end Settled

namespace Application
variable {a : Application} {r : Request}

def Unready (a : Application) (r : Request) : Prop :=
  a.isReady = false ∧
    ∃ d, route a.base r.method r.isUpgrade r.soughtPath = .destination d ∧ d.endpoint = .ready

theorem isTold_respond (h : ¬a.Unready r) : (a.respond r).1.IsTold := by
  have habort : ∀ status ∈ ownStatuses, ∀ w,
      (a.conclude (.error (.aborted status none)) w).1.IsTold :=
    fun status hown w => (Settled.aborted hown).isTold_conclude a w
  unfold respond
  split
  · exact habort 400 (by decide) _
  · split
    · exact habort 404 (by decide) _
    · exact habort 405 (by decide) _
    · exact habort 400 (by decide) _
    · exact habort 500 (by decide) _
    · intro hstatus
      change 400 ≤ 308 at hstatus
      exact absurd hstatus (by decide)
    next d hroute =>
      split
      · exact (Settled.guardedReply a r d).isTold_conclude a _
      · -- Of the site, only whether it is ready may be answered in plain text.
        have hready : d.endpoint = .ready → a.isReady := by
          intro hd
          by_contra hnot
          exact h ⟨by simpa using hnot, d, hroute, hd⟩
        exact (Settled.siteReply hready r).isTold_conclude a _

def notReady : Response := { status := 503, content := .text "not ready" }

theorem respond_of_unready (h : a.Unready r) :
    (a.respond r).1.IsTold ∨ (a.respond r).1 = notReady := by
  obtain ⟨hready, d, hroute, hd⟩ := h
  have hsite : d.endpoint.isGuarded = false := by
    rw [hd]
    rfl
  unfold respond
  split
  · exact .inl ((Settled.aborted (by decide)).isTold_conclude a _)
  · simp only [hroute, hsite, Bool.false_eq_true, if_false]
    -- A request for the methods alone is answered before anything is asked about the application.
    by_cases hoptions : r.method = .options
    · have hreply : a.siteReply r d.endpoint = .ok { status := 200 } := if_pos hoptions
      rw [hreply]
      exact .inl ((Settled.answered (by decide)).isTold_conclude a _)
    · have hreply : a.siteReply r d.endpoint = .ok notReady := by
        simp [siteReply, hoptions, hd, hready, notReady]
      rw [hreply]
      exact .inr rfl

theorem handle_of_status (hname : r.methodName ≠ bareMethodName) (h : 400 ≤ (a.handle r).1.status) :
    (a.handle r).1.IsError ∨ a.Unready r ∧ (a.handle r).1 = notReady := by
  have hhandle : (a.handle r).1 = (a.respond r).1 := if_neg hname
  rw [hhandle] at h ⊢
  by_cases hunready : a.Unready r
  · obtain htold | hnot := respond_of_unready hunready
    · exact .inl (htold h)
    · exact .inr ⟨hunready, hnot⟩
  · exact .inl (isTold_respond hunready h)

/-- Texts that clients are not told make no difference to any response. What is answered with the status
of an error is an error in content, unless it is that the application is not ready. Where a request about
the collections fails, the gate or the operation has failed so, and the client is told that failure if it
may be told, and otherwise only that something failed. -/
theorem discreet (a : Application) :
    (∀ a' : Application, a.Alike a' → ∀ visits, a.responses visits = a'.responses visits) ∧
    (∀ r : Request, r.methodName ≠ bareMethodName → 400 ≤ (a.handle r).1.status →
      (a.handle r).1.IsError ∨ a.Unready r ∧ (a.handle r).1 = notReady) ∧
    ∀ r d f, a.Leads r d →
      ((a.guardedReply r d).1 = .error (.failed f) ↔ a.Escapes r d f) ∧
      (a.Escapes r d f →
        (∀ status type, f.kind.report? = some (status, type) →
          (a.handle r).1 = sent r {
            status
            content := .json (.obj [
              ("message", .str f.message), ("type", .str type), ("statusCode", .int status)]) }) ∧
        (f.kind.report? = none →
          (a.handle r).1 = sent r {
            status := 500
            content := .json (.obj [("message", .str "An unexpected error occurred"),
              ("type", .str "INTERNAL_ERROR"), ("statusCode", .int 500)]) })) := by
  refine ⟨fun a' h visits => h.responses visits, fun r hname h => handle_of_status hname h, ?_⟩
  refine fun r d f hd => ⟨guardedReply_eq_failed, fun h => ?_⟩
  rw [handle_of_escapes hd h]
  refine ⟨fun status type hreport => ?_, fun hnone => ?_⟩
  · simp only [respondFailure, hreport]
    rfl
  · simp only [respondFailure, hnone]
    rfl

end Application
end Http

namespace Demo
open Http

def memberListing : Request := listing [("Authorization", "Bearer " ++ token)]

def failers (text : String) : List Listener :=
  let failure := .foreign .runtime text
  [.failing .onFailure failure, .failing .onSuccess failure, .failing (.after 2) failure,
    .failing .always failure]

def troubled (text : String) : Application :=
  { site with
    world := { site.world with
      directories := { directories with
        users := some { users with
          outage := fun method => if method = .getAll then some (.foreign .system text) else none } }
      listeners := .logger :: failers text } }

theorem alike_troubled (text text' : String) : (troubled text).Alike (troubled text') := by
  have hfailure : ∀ kind : FailureClass, kind.report? = none →
      (Failure.foreign kind text).Alike (.foreign kind text') := fun _ hnone => .inr ⟨rfl, hnone⟩
  refine ⟨rfl, rfl, rfl, ⟨?_, rfl, ?_, rfl, fun _ => rfl⟩, rfl⟩
  · intro k
    cases k with
    | user =>
      refine .some ⟨rfl, rfl, fun method => ?_⟩
      cases method with
      | getAll => exact .some (hfailure .system rfl)
      | _ => exact .none
    | userGroup | connection => exact .some ⟨rfl, rfl, fun _ => .none⟩
  · have hfails : ∀ {trigger : Trigger}, trigger.Alike trigger →
        Listener.Alike (.failing trigger (.foreign .runtime text))
          (.failing trigger (.foreign .runtime text')) :=
      fun ht => .failing ht (hfailure .runtime rfl)
    exact .cons .logger (.cons (hfails Trigger.alike_onFailure) (.cons (hfails Trigger.alike_onSuccess)
      (.cons (hfails (Trigger.alike_after 2)) (.cons (hfails Trigger.alike_always) .nil))))

end Demo

theorem Http.Application.discreet_troubled :
    (Demo.troubled "first").responses [({}, Demo.memberListing)] =
      (Demo.troubled "second").responses [({}, Demo.memberListing)] ∧
    ((Demo.troubled "first").handle Demo.memberListing).1 =
      { status := 500
        content := .json (.obj [("message", .str "An unexpected error occurred"),
          ("type", .str "INTERNAL_ERROR"), ("statusCode", .int 500)])
        correlation := none } ∧
    ((Demo.troubled "first").handle (Demo.listing [])).1 =
      { status := 401
        content := .json (.obj [
          ("message",
            .str "Authorization header missing. Provide 'Authorization: Bearer <token>'."),
          ("type", .str "UNAUTHORIZED"), ("statusCode", .int 401)])
        correlation := none } ∧
    ((Demo.troubled "first").handle (Demo.listing [])).1.IsError := by
  obtain ⟨hsame, herror, hescape⟩ := Http.Application.discreet (Demo.troubled "first")
  have hnone := Demo.leads_listing [] (by decide +kernel) (by decide +kernel)
  have hsome := Demo.leads_listing [("Authorization", "Bearer " ++ Demo.token)]
    (by decide +kernel) (by decide +kernel)
  have hmissing : (Demo.listing []).header? "Authorization" = none := by decide +kernel
  have hrefused : (Demo.troubled "first").Escapes (Demo.listing [])
      { endpoint := .collection "users" } .authorizationMissing := by
    refine .refused ?_
    rw [hmissing]
    rfl
  have hfound : Http.findCollection (Demo.troubled "first").world "users" = .ok .user := rfl
  have hfilter : Http.requestedPermissions Demo.memberListing.target = .ok [] := rfl
  have hlist : (Demo.troubled "first").world.list (Demo.session Demo.member) .user [] =
      .error (.foreign .system "first") := rfl
  have hfails : (Demo.troubled "first").Escapes Demo.memberListing
      { endpoint := .collection "users" } (.foreign .system "first") :=
    .operation Demo.admits_token (by decide) rfl
      (.list hfound (by decide) (by decide) hfilter hlist)
  have hopaque := ((hescape _ _ _ hsome).2 hfails).2 rfl
  have htold := ((hescape _ _ _ hnone).2 hrefused).1 401 "UNAUTHORIZED" rfl
  have hstatus : 400 ≤ ((Demo.troubled "first").handle (Demo.listing [])).1.status := by
    rw [htold, Http.Application.status_sent]
    decide
  refine ⟨hsame _ (Demo.alike_troubled ..) _, hopaque, htold, ?_⟩
  obtain hcontent | ⟨⟨hready, -⟩, -⟩ := herror _ (by decide) hstatus
  · exact hcontent
  · cases hready

def Demo.readiness : Http.Request where
  methodName := "GET"
  target := { scheme := "", path := "/ready", query := [] }

/-- That an application is not ready is told in plain text, with the status of an error. What gives a
request up on purpose may say why: two descriptions make two responses. -/
theorem Http.Application.not_isError_of_unready :
    Demo.readiness.methodName ≠ Http.Application.bareMethodName ∧
    400 ≤ (Demo.site.withoutSessions.handle Demo.readiness).1.status ∧
    ¬(Demo.site.withoutSessions.handle Demo.readiness).1.IsError ∧
    ((Http.Problem.aborted 400 (some "first")).respond none).1 ≠
      ((Http.Problem.aborted 400 (some "second")).respond none).1 := by
  have hhost : Demo.readiness.hasBadHost = false := by decide +kernel
  have hroute : Http.route Demo.site.withoutSessions.base Demo.readiness.method
      Demo.readiness.isUpgrade Demo.readiness.soughtPath = .destination { endpoint := .ready } := by
    decide +kernel
  have hresponse : (Demo.site.withoutSessions.handle Demo.readiness).1 = notReady := by
    have hrespond : (Demo.site.withoutSessions.respond Demo.readiness).1 = notReady := by
      rw [respond, hhost, hroute]
      rfl
    exact hrespond
  refine ⟨by decide, ?_, ?_, ?_⟩
  · rw [hresponse]
    decide
  · rw [hresponse]
    rintro ⟨type, message, h⟩
    cases h
  · simp [Http.Problem.respond, Http.respondAborted, Http.errorResponse, Http.errorJson]

end AccessDirectory

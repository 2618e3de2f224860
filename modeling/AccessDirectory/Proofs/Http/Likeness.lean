import AccessDirectory.Proofs.Http.Atomicity
import AccessDirectory.Proofs.Secrecy.Likeness

/-! Applications that are alike: their worlds are, and the rest is the same. They answer the same requests
with the same responses, one after the other, since of failures that are alike but not the same clients
are told that something failed. -/

namespace AccessDirectory.Http

inductive Akin : Except Problem Response → Except Problem Response → Prop
  | same (reply : Except Problem Response) : Akin reply reply
  | failed {f g : Failure} (h : f.Alike g) : Akin (.error (.failed f)) (.error (.failed g))

section
open World
variable {w w' : World} (h : w.Alike w')

theorem akin_replying {α : Type} (reply : α → Response) {x y : Except Failure α}
    (h : Parallel Eq x y) : Akin (replying reply x) (replying reply y) := by
  obtain ⟨f, g, rfl, rfl, hf⟩ | ⟨a, _, rfl, rfl, rfl⟩ := h.ends
  · exact .failed hf
  · exact .same _

theorem inStep_replying {α : Type} (reply : α → Response) {x y : Except Failure α × World}
    (h : InStep (Parallel Eq) x y) :
    InStep Akin (replying reply x.1, x.2) (replying reply y.1, y.2) :=
  ⟨akin_replying reply h.result, h.world⟩

include h

theorem inStep_same (reply : Except Problem Response) : InStep Akin (reply, w) (reply, w') :=
  ⟨.same reply, h⟩

theorem inStep_collectionReply (limit : Int) (s : Session) (k : Kind) (t : Target) (r : Request) :
    InStep Akin (collectionReply limit w s k t r) (collectionReply limit w' s k t r) := by
  unfold collectionReply
  split
  · split
    · exact inStep_same h _
    · exact inStep_replying _ (h.patch s k _)
  · split
    · exact inStep_same h _
    · exact inStep_replying shown (h.create s k _)
  · refine ⟨akin_replying shown ?_, h⟩
    refine (Parallel.refl (requestedPermissions t)).bind ?_
    rintro names _ rfl
    exact h.list s k names

theorem inStep_openedReply (limit : Int) (c : Opened) (r : Request) :
    InStep Akin (openedReply limit w c r) (openedReply limit w' c r) := by
  unfold openedReply
  split
  · split
    · exact inStep_same h _
    · exact inStep_replying _ (h.update c _)
  · exact inStep_replying _ (h.delete c)
  · exact inStep_same h _

theorem inStep_objectReply (limit : Int) (s : Session) (k : Kind) (i : String) (r : Request) :
    InStep Akin (objectReply limit w s k i r) (objectReply limit w' s k i r) := by
  unfold objectReply
  obtain ⟨f, g, v, v', hx, hy, hf, hv⟩ | ⟨c, _, v, v', hx, hy, rfl, hv⟩ := (h.fetch s k i).ends <;>
    rw [hx, hy]
  · exact ⟨.failed hf, hv⟩
  · exact inStep_openedReply hv limit c r

theorem findCollection_alike (name : String) : findCollection w name = findCollection w' name := by
  unfold findCollection
  cases collectionKind? name with
  | none => rfl
  | some k =>
    have hsome : (w.directories.get? k).isSome = (w'.directories.get? k).isSome := by
      have hk := h.directories k
      generalize w.directories.get? k = found at hk
      generalize w'.directories.get? k = found' at hk
      cases hk <;> rfl
    dsimp only
    rw [hsome]

theorem inStep_directoryReply (limit : Int) (s : Session) (t : Target) (r : Request) (e : Endpoint) :
    InStep Akin (directoryReply limit w s t r e) (directoryReply limit w' s t r e) := by
  unfold directoryReply
  split
  · rw [findCollection_alike h]
    split
    · exact inStep_same h _
    · exact inStep_collectionReply h ..
  · rw [findCollection_alike h]
    split
    · exact inStep_same h _
    · exact inStep_objectReply h ..
  · exact inStep_same h _

end

theorem respondFailure_alike {f g : Failure} (h : f.Alike g) :
    (respondFailure f).1 = (respondFailure g).1 := by
  obtain rfl | ⟨hkind, hnone⟩ := h
  · rfl
  · have hnone' : g.kind.report? = none := hkind ▸ hnone
    simp only [respondFailure, hnone, hnone']

namespace Application
open World

structure Alike (a a' : Application) : Prop where
  settings : a.settings = a'.settings
  sessions : a.sessions = a'.sessions
  base : a.base = a'.base
  world : a.world.Alike a'.world
  hasListeners : a.hasListeners = a'.hasListeners

theorem alike_note {w w' : World} (h : w.Alike w') (line line' : Option LogLine) :
    (note w line).Alike (note w' line') := by
  -- Nothing but the log changes, which worlds that are alike need not share.
  cases line <;> cases line' <;>
    exact ⟨h.directories, h.declared, h.listeners, h.given, h.journal⟩

namespace Alike
variable {a a' : Application} (h : a.Alike a')
include h

theorem conclude {x y : Except Problem Response × World} (hxy : InStep Akin x y) :
    InStep Eq (a.conclude x.1 x.2) (a'.conclude y.1 y.2) := by
  obtain ⟨reply, w⟩ := x
  obtain ⟨reply', w'⟩ := y
  obtain ⟨hreply, hworld⟩ := hxy
  cases hreply with
  | same =>
    cases reply with
    | ok response => exact ⟨rfl, hworld⟩
    | error p =>
      unfold Application.conclude
      rw [h.settings]
      exact ⟨rfl, alike_note hworld _ _⟩
  | failed hf => exact ⟨respondFailure_alike hf, alike_note hworld _ _⟩

theorem guardedReply (r : Request) (d : Destination) :
    InStep Akin (a.guardedReply r d) (a'.guardedReply r d) := by
  unfold Application.guardedReply
  rw [h.settings, h.sessions, h.world.given]
  generalize authenticate a'.settings.secretKey a'.sessions a'.world.given.now r.target.path
    (r.header? "Authorization") = entered
  have hnote := alike_note h.world entered.2 entered.2
  dsimp only
  split
  · exact inStep_same hnote _
  · split
    · exact inStep_same hnote _
    · split
      · exact inStep_same hnote _
      · exact inStep_directoryReply hnote ..

theorem siteReply (r : Request) (e : Endpoint) : a.siteReply r e = a'.siteReply r e := by
  unfold Application.siteReply isReady
  rw [h.sessions, h.hasListeners]

theorem respond (r : Request) : InStep Eq (a.respond r) (a'.respond r) := by
  have hsame : ∀ reply, InStep Eq (a.conclude reply a.world) (a'.conclude reply a'.world) :=
    fun reply => h.conclude (inStep_same h.world reply)
  unfold Application.respond
  rw [h.base]
  split
  · exact hsame _
  · split
    · exact hsame _
    · exact hsame _
    · exact hsame _
    · exact hsame _
    · exact ⟨rfl, h.world⟩
    next d _ =>
      split
      · have hended := h.conclude (h.guardedReply r d)
        exact ⟨congrArg (fun response : Response => { response with correlation := correlationOf r })
          hended.result, hended.world⟩
      · rw [h.siteReply]
        exact hsame _

theorem handle (r : Request) :
    (a.handle r).1 = (a'.handle r).1 ∧ (a.handle r).2.Alike (a'.handle r).2 := by
  have hrespond := h.respond r
  refine ⟨?_, h.settings, h.sessions, h.base, hrespond.world, h.hasListeners⟩
  unfold Application.handle
  dsimp only
  rw [hrespond.result]

theorem visit (given : Conditions) (r : Request) :
    (a.visit given r).1 = (a'.visit given r).1 ∧ (a.visit given r).2.Alike (a'.visit given r).2 := by
  have hgiven : Alike { a with world := { a.world with given } }
      { a' with world := { a'.world with given } } :=
    ⟨h.settings, h.sessions, h.base,
      ⟨h.world.directories, h.world.declared, h.world.listeners, rfl, h.world.journal⟩,
      h.hasListeners⟩
  exact hgiven.handle r

end Alike

def responses (a : Application) : List (Conditions × Request) → List Response
  | [] => []
  | (given, r) :: rest => (a.visit given r).1 :: (a.visit given r).2.responses rest

theorem Alike.responses {a a' : Application} (h : a.Alike a') (visits : List (Conditions × Request)) :
    a.responses visits = a'.responses visits := by
  induction visits generalizing a a' with
  | nil => rfl
  | cons visit rest ih =>
    obtain ⟨hresponse, halike⟩ := h.visit visit.1 visit.2
    rw [Application.responses, Application.responses, hresponse, ih halike]

end Application
end AccessDirectory.Http

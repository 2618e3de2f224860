import AccessDirectory.Proofs.Representation.Item
import AccessDirectory.Proofs.Representation.Revision
import AccessDirectory.Proofs.Service.Upkeep

/-! An update stores the whole object that the client holds. What the submission leaves out therefore
becomes what it was when the client last got it from storage or gave it to storage, and what others made
of it since is lost. -/

namespace AccessDirectory

theorem isOk_map {ε α β : Type} (f : α → β) (result : Except ε α) :
    (result.map f).isOk = result.isOk := by cases result <;> rfl

namespace World
variable {w : World}

theorem Quiet.reportSuccess (h : w.Quiet) (e : Event) : (w.reportSuccess e).1 = .ok () := by
  have hnone : (w.notify e).1 = none := h e w.journal
  unfold World.reportSuccess
  split
  next => rfl
  next hw =>
    rw [hw] at hnone
    cases hnone

@[simp] theorem directories_fetch (w : World) (s : Session) (k : Kind) (i : String) :
    (w.fetch s k i).2.directories = w.directories := by
  cases hd : w.directories.find k with
  | error f => simp only [World.fetch, hd]
  | ok d =>
    cases hr : d.require i with
    | error f => simp only [World.fetch, hd, hr, directories_reportFailure]
    | ok o =>
      have hw := directories_notify w (s.event k .get (some i) (some o))
      rw [fetch_of_require hd hr]
      split <;> rename_i hn <;> rw [hn] at hw <;> exact hw

theorem fetch_eq_ok {s : Session} {k : Kind} {i : String} {c : Opened}
    (h : (w.fetch s k i).1 = .ok c) :
    ∃ o, c = ⟨k, o, s⟩ ∧ (w.directories.stored k).get? i = some o := by
  cases hd : w.directories.find k with
  | error f =>
    simp only [World.fetch, hd] at h
    cases h
  | ok d =>
    cases hr : d.require i with
    | error f =>
      simp only [World.fetch, hd, hr] at h
      cases h
    | ok o =>
      rw [fetch_of_require hd hr] at h
      split at h
      · cases h
      · cases h
        refine ⟨o, rfl, ?_⟩
        rw [Directories.stored_eq (Directories.find_eq_ok.1 hd)]
        exact (Directory.require_eq_ok.1 hr).2

theorem directories_store (w : World) (c : Opened) :
    (w.store c).2.directories = w.directories ∨
      ∃ d d', w.directories.get? c.kind = some d ∧ d.update c.object = .ok d' ∧
        (w.store c).2.directories = w.directories.set d' := by
  unfold World.store
  split
  · exact .inl rfl
  next d hd =>
    split
    · exact .inl (by simp)
    next d' hu => exact .inr ⟨d, d', Directories.find_eq_ok.1 hd, hu, by simp⟩

theorem Orderly.store (h : w.Orderly) {c : Opened} {i : String} (hi : c.identifier = some i)
    (hin : (w.directories.stored c.kind).contains i) :
    (w.store c).1 = .ok () ∧
      ((w.store c).2.directories.stored c.kind).get? i = some c.object := by
  cases hd : w.directories.get? c.kind with
  | none =>
    simp only [Directories.stored, hd] at hin
    cases hin
  | some d =>
    rw [Directories.stored_eq hd] at hin
    have hu : d.update c.object = .ok { d with objects := d.objects.put i c.object } :=
      Directory.update_eq_ok.2 ⟨h.faultless _ d hd .update, i, hi, hin, rfl⟩
    simp only [World.store, Directories.find_eq_ok.2 hd, hu]
    refine ⟨Quiet.reportSuccess ?_ _, ?_⟩
    · -- The directories have changed, but the listeners are the same.
      exact h.quiet
    · rw [directories_commit, Directories.stored_set_self, Table.get?_put_self]

theorem contains_update (w : World) (c : Opened) (submission : Json) {k : Kind} {i : String}
    (hin : (w.directories.stored k).contains i) :
    ((w.update c submission).2.2.directories.stored k).contains i := by
  have hstore : ∀ c : Opened, ((w.store c).2.directories.stored k).contains i := by
    intro c
    rcases directories_store w c with h | ⟨d, d', hd, hu, h⟩
    · rwa [h]
    · obtain ⟨-, n, -, -, rfl⟩ := Directory.update_eq_ok.1 hu
      rw [h]
      exact Directories.contains_stored_set hd hin
  unfold World.update
  split
  · exact hin
  · split
    · simpa using hin
    · exact hstore _

theorem Orderly.update (h : w.Orderly) {c : Opened} {i : String} (hi : c.identifier = some i)
    (hin : (w.directories.stored c.kind).contains i) (submission : Json) :
    ((w.update c submission).1.isOk = false ∧ (w.update c submission).2.1 = c) ∨
      ∃ fields o, submission = .obj fields ∧
        Kind.revise c.object (c.kind.sanitize (w.declared c.kind) fields) = .ok o ∧
        (w.update c submission).1 = .ok () ∧
        (w.update c submission).2.1 = { c with object := o } ∧
        ((w.update c submission).2.2.directories.stored c.kind).get? i = some o := by
  cases hs : Fields.ofSubmission .nothingToUpdate submission with
  | error f => exact .inl (by simp [World.update, hs, Except.isOk, Except.toBool])
  | ok fields =>
    have hobj : submission = .obj fields := by
      cases submission <;> cases hs
      rfl
    cases hr : Kind.revise c.object (c.kind.sanitize (w.declared c.kind) fields) with
    | error f => exact .inl (by simp [World.update, hs, hr, refuse, Except.isOk, Except.toBool])
    | ok o =>
      have hi' : Opened.identifier { c with object := o } = some i :=
        (Kind.of_revise_eq_ok hr).1.trans hi
      obtain ⟨hok, hget⟩ := h.store hi' hin
      refine .inr ⟨fields, o, hobj, hr, ?_, ?_, ?_⟩
      · simpa [World.update, hs, hr] using hok
      · simp [World.update, hs, hr]
      · simpa [World.update, hs, hr] using hget

end World

def Operation.interleaves (handle : String) : Operation → Bool
  | fetch _ _ _ name => name ≠ handle
  | update .. | await _ => true
  | _ => false

def Operation.submits {k : Kind} (handle : String) (x : Item k) : Operation → Bool
  | update name submission => name = handle && !x.omitted submission
  | _ => false

namespace Stage
variable {k : Kind} {handle i : String} {x : Item k} {last g : Stage}

/-- The stage after the last successful operation that submitted an item through a handle. -/
def lastSubmitted (handle : String) (x : Item k) : (last g : Stage) → List Operation → Stage
  | last, _, [] => last
  | last, g, operation :: rest =>
    let ended := g.perform operation
    lastSubmitted handle x
      (if operation.submits handle x && ended.1.isOk then ended.2 else last) ended.2 rest

@[simp] theorem directories_perform_fetch (g : Stage) (s : Session) (k : Kind) (i handle : String) :
    (g.perform (.fetch s k i handle)).2.world.directories = g.world.directories := by
  have hd := World.directories_fetch g.world s k i
  simp only [perform]
  split <;> rename_i hf <;> rw [hf] at hd <;> exact hd

theorem held_perform_fetch_ne (g : Stage) (s : Session) (k : Kind) (i : String) {name handle : String}
    (h : handle ≠ name) :
    (g.perform (.fetch s k i name)).2.held.get? handle = g.held.get? handle := by
  simp only [perform]
  split
  · rfl
  · exact Table.get?_put_ne _ _ h

theorem held_of_perform_fetch {s : Session} {v : Json}
    (h : (g.perform (.fetch s k i handle)).1 = .ok v) :
    ∃ o, (g.world.directories.stored k).get? i = some o ∧
      (g.perform (.fetch s k i handle)).2.held.get? handle = some ⟨k, o, s⟩ := by
  cases hf : g.world.fetch s k i with
  | mk result w =>
    cases result with
    | error f =>
      simp only [perform, hf] at h
      cases h
    | ok c =>
      obtain ⟨o, rfl, ho⟩ := World.fetch_eq_ok (congrArg (·.1) hf)
      refine ⟨o, ho, ?_⟩
      simp only [perform, hf, Table.get?_put_self]

theorem perform_update {c : Opened} (hc : g.held.get? handle = some c) (submission : Json) :
    g.perform (.update handle submission) =
      ((g.world.update c submission).1.map fun _ => .null,
        { world := (g.world.update c submission).2.2
          held := g.held.put handle (g.world.update c submission).2.1 }) := by
  simp only [perform, onHeld, hc]

/-- What is held under a handle has an item as it stood in storage at an earlier stage. -/
structure Carries (handle i : String) (x : Item k) (last g : Stage) : Prop where
  orderly : g.world.Orderly
  inUse : (g.world.directories.stored k).contains i
  held : ∃ o s p, g.held.get? handle = some ⟨k, o, s⟩ ∧ Kind.Object.identifier o = some i ∧
    (last.world.directories.stored k).get? i = some p ∧ x.of o = x.of p

theorem Carries.start {s : Session} {v : Json} (h : g.world.Orderly)
    (hopen : (g.perform (.fetch s k i handle)).1 = .ok v) (x : Item k) :
    Carries handle i x (g.perform (.fetch s k i handle)).2 (g.perform (.fetch s k i handle)).2 := by
  obtain ⟨o, ho, hc⟩ := held_of_perform_fetch hopen
  refine ⟨h.perform (.single _ nofun), ?_, o, s, o, hc, h.keyed.of_stored ho, ?_, rfl⟩
  · rw [directories_perform_fetch, Table.contains, ho]
    rfl
  · rw [directories_perform_fetch, ho]

theorem Carries.update (h : Carries handle i x last g) (submission : Json) :
    Carries handle i x
      (if !x.omitted submission && (g.perform (.update handle submission)).1.isOk then
        (g.perform (.update handle submission)).2 else last)
      (g.perform (.update handle submission)).2 := by
  have horderly : (g.perform (.update handle submission)).2.world.Orderly :=
    h.orderly.perform (.single _ nofun)
  obtain ⟨o, s, p, hc, hi, hp, hx⟩ := h.held
  have hin := World.contains_update g.world ⟨k, o, s⟩ submission h.inUse
  rw [perform_update hc] at horderly ⊢
  rcases h.orderly.update (c := ⟨k, o, s⟩) hi h.inUse submission with
    ⟨hfail, hkept⟩ | ⟨fields, o', rfl, hr, hok, hheld, hstored⟩
  · rw [isOk_map, hfail, Bool.and_false, if_neg Bool.false_ne_true]
    exact ⟨horderly, hin, o, s, p, by rw [hkept, Table.get?_put_self], hi, hp, hx⟩
  · have hi' : Kind.Object.identifier o' = some i := (Kind.of_revise_eq_ok hr).1.trans hi
    rw [isOk_map, hok]
    cases hsubmitted : x.omitted (.obj fields) with
    | true =>
      -- Storage takes the item over as it was held, whatever others have made of it.
      have hkeep : x.of o' = x.of p := (Kind.of_revise hsubmitted hr).trans hx
      exact ⟨horderly, hin, o', s, p, by rw [hheld, Table.get?_put_self], hi', hp, hkeep⟩
    | false => exact ⟨horderly, hin, o', s, o', by rw [hheld, Table.get?_put_self], hi', hstored, rfl⟩

theorem Carries.step (h : Carries handle i x last g) {operation : Operation}
    (hs : operation.interleaves handle) (hq : g.world.StaysQuiet [operation]) :
    Carries handle i x
      (if operation.submits handle x && (g.perform operation).1.isOk then (g.perform operation).2
        else last) (g.perform operation).2 := by
  have horderly := h.orderly.perform hq
  obtain ⟨o, s, p, hc, hrest⟩ := h.held
  cases operation with
  | fetch s' j n name =>
    have hname : handle ≠ name := Ne.symm (of_decide_eq_true hs)
    have hd := directories_perform_fetch g s' j n name
    have hheld := held_perform_fetch_ne g s' j n hname
    exact ⟨horderly, by rw [hd]; exact h.inUse, o, s, p, hheld.trans hc, hrest⟩
  | update name submission =>
    by_cases hname : name = handle
    · subst hname
      simpa [Operation.submits] using h.update submission
    · have hsubmits : (Operation.update name submission).submits handle x = false := by
        simp [Operation.submits, hname]
      rw [hsubmits, Bool.false_and, if_neg Bool.false_ne_true]
      cases hother : g.held.get? name with
      | none =>
        simp only [perform, onHeld, hother]
        exact h
      | some c' =>
        have hin := World.contains_update g.world c' submission h.inUse
        rw [perform_update hother] at horderly ⊢
        refine ⟨horderly, hin, o, s, p, ?_, hrest⟩
        rw [Table.get?_put_ne _ _ (Ne.symm hname), hc]
  | await given => exact ⟨horderly, h.inUse, h.held⟩
  | _ => cases hs

theorem Carries.run (h : Carries handle i x last g) {steps : List Operation}
    (hs : ∀ p ∈ steps, p.interleaves handle) (hq : g.world.StaysQuiet steps) :
    Carries handle i x (lastSubmitted handle x last g steps) (g.run steps) := by
  induction steps generalizing last g with
  | nil => exact h
  | cons operation rest ih =>
    obtain ⟨hfirst, hrest⟩ := hq.of_cons
    exact ih (h.step (hs operation List.mem_cons_self) hfirst)
      (fun p hp => hs p (List.mem_cons_of_mem _ hp)) (hrest.congr (listeners_perform g operation))

/-- A successful update sets what it leaves out to what was stored when the client last submitted it, or
opened the object if it did not since; so it leaves that unchanged just if nobody has changed it
meanwhile. -/
theorem of_update_omitting {opened updated : Stage} (hg : g.world.Orderly) {s : Session} {v u : Json}
    (hopen : g.perform (.fetch s k i handle) = (.ok v, opened)) {steps : List Operation}
    (hs : ∀ p ∈ steps, p.interleaves handle) (hq : g.world.StaysQuiet steps) {submission : Json}
    (hx : x.omitted submission)
    (hu : (opened.run steps).perform (.update handle submission) = (.ok u, updated)) :
    ∃ o₀ o₁ o₂,
      ((lastSubmitted handle x opened opened steps).world.directories.stored k).get? i = some o₀ ∧
      ((opened.run steps).world.directories.stored k).get? i = some o₁ ∧
      (updated.world.directories.stored k).get? i = some o₂ ∧
      x.of o₂ = x.of o₀ ∧ (x.of o₂ = x.of o₁ ↔ x.of o₁ = x.of o₀) := by
  have hstart : Carries handle i x opened opened := by
    have h := Carries.start hg (congrArg (·.1) hopen) x
    rwa [hopen] at h
  have hlisteners : opened.world.listeners = g.world.listeners := by
    have hkept := listeners_perform g (.fetch s k i handle)
    rwa [hopen] at hkept
  have h := hstart.run hs (hq.congr hlisteners)
  obtain ⟨o, s', p, hc, hi, hp, hxo⟩ := h.held
  obtain ⟨o₁, ho₁⟩ := Option.isSome_iff_exists.1 h.inUse
  rw [perform_update hc] at hu
  obtain ⟨hanswer, rfl⟩ := Prod.mk.inj hu
  -- The update succeeded, so it stored the revised object, with the item as the client held it.
  rcases h.orderly.update (c := ⟨k, o, s'⟩) hi h.inUse submission with
    ⟨hfail, -⟩ | ⟨fields, o', rfl, hr, -, -, hstored⟩
  · rw [← isOk_map fun _ => Json.null, hanswer] at hfail
    cases hfail
  · have hkeep : x.of o' = x.of p := (Kind.of_revise hx hr).trans hxo
    exact ⟨p, o₁, o', hp, ho₁, hstored, hkeep, by rw [hkeep, eq_comm]⟩

end Stage

namespace Demo

def quiet : Stage where
  world := { directories, declared, listeners := [.recorder, .logger] }

theorem orderly_quiet : quiet.world.Orderly where
  keyed := wellKeyed_directories
  faultless := faultless_directories
  quiet := fun _ _ => rfl

def opening : List Operation := [
  .fetch (session administrator) .connection "1" "connection",
  .fetch (session administrator) .user member "account"]

def rivalry : List Operation := [
  .fetch (session member) .user member "own account",
  .update "own account" (.obj [("password", .str "new"),
    ("attributes", .obj [("guac-full-name", .str "Alice B.")])]),
  .await { now := 3600000000 },
  .fetch (session member) .connection "1" "same connection",
  .update "same connection" (.obj [("name", .str "web-01"), ("protocol", .str "ssh"),
    ("parameters", .obj [("port", .str "2222")])])]

theorem staysQuiet_rivalry : quiet.world.StaysQuiet rivalry := fun _ _ _ _ => rfl

end Demo

theorem Stage.password_of_rivalry : ∃ opened updated o₀ o₁ o₂,
    (Demo.quiet.perform (.fetch (Demo.session Demo.administrator) .user Demo.member "account")) =
      (.ok (.str Demo.member), opened) ∧
    (opened.run Demo.rivalry).perform (.update "account" (.obj [])) = (.ok .null, updated) ∧
    ((lastSubmitted "account" .password opened opened Demo.rivalry).world.directories.stored
      .user).get? Demo.member = some o₀ ∧
    ((opened.run Demo.rivalry).world.directories.stored .user).get? Demo.member = some o₁ ∧
    (updated.world.directories.stored .user).get? Demo.member = some o₂ ∧
    Item.password.of o₂ = Item.password.of o₀ ∧
    (Item.password.of o₂ = Item.password.of o₁ ↔ Item.password.of o₁ = Item.password.of o₀) := by
  obtain ⟨opened, hopen⟩ : ∃ opened,
      Demo.quiet.perform (.fetch (Demo.session Demo.administrator) .user Demo.member "account") =
        (.ok (.str Demo.member), opened) := ⟨_, rfl⟩
  obtain ⟨updated, hu⟩ : ∃ updated,
      (opened.run Demo.rivalry).perform (.update "account" (.obj [])) = (.ok .null, updated) := by
    cases hopen
    exact ⟨_, rfl⟩
  obtain ⟨o₀, o₁, o₂, h⟩ := of_update_omitting (x := .password) Demo.orderly_quiet hopen
    (by decide) Demo.staysQuiet_rivalry (by decide) hu
  exact ⟨opened, updated, o₀, o₁, o₂, hopen, hu, h⟩

/-- An update that leaves out a password, an attribute or parameters takes back what another client has
made of them in the meantime. -/
theorem Stage.update_takes_back : ∃ account connection o₁ o₂ c₁ c₂,
    ((Demo.quiet.run Demo.opening).run Demo.rivalry).perform (.update "account" (.obj [])) =
      (.ok .null, account) ∧
    ((Demo.quiet.run Demo.opening).run Demo.rivalry).perform
      (.update "connection" (.obj [("name", .str "web-01"), ("protocol", .str "ssh")])) =
      (.ok .null, connection) ∧
    (((Demo.quiet.run Demo.opening).run Demo.rivalry).world.directories.stored .user).get?
      Demo.member = some o₁ ∧
    (account.world.directories.stored .user).get? Demo.member = some o₂ ∧
    o₁.password = some "new" ∧ o₂.password = none ∧
    o₁.attributes.get? "guac-full-name" = some (some "Alice B.") ∧
    o₂.attributes.get? "guac-full-name" = some (some "Alice") ∧
    (((Demo.quiet.run Demo.opening).run Demo.rivalry).world.directories.stored .connection).get?
      "1" = some c₁ ∧
    (connection.world.directories.stored .connection).get? "1" = some c₂ ∧
    c₁.parameters.get? "port" = some "2222" ∧ c₂.parameters.get? "port" = some "22" :=
  ⟨_, _, _, _, _, _, rfl, rfl, rfl, rfl, rfl, rfl, rfl, rfl, rfl, rfl, rfl, rfl⟩

end AccessDirectory

import AccessDirectory.Proofs.Service.Locality

/-! Operations that name different objects do not notice each other. Where no listener fails, two of them
that are carried out one after the other are answered alike and leave the same in either order, also if
they are patches that stop in the middle or updates of objects that were opened long before. -/

namespace AccessDirectory

namespace Operation

/-- Whether an operation removes, creates or updates objects under identifiers that it names, or opens
one. The connections that are created have no names. -/
def isNaming : Operation → Bool
  | create _ k _ => k ≠ .connection
  | patch .. | fetch .. | update .. | delete .. => true
  | _ => false

def handle? : Operation → Option String
  | fetch _ _ _ handle | read handle | update handle _ | delete handle => some handle
  | _ => none

def opens : Operation → Bool
  | fetch .. => true
  | _ => false

/-- Neither operation acts on what the other holds. Two may open objects under the same handle. -/
def Apart (p q : Operation) : Prop :=
  ∀ handle, p.handle? = some handle → q.handle? = some handle → p.opens ∧ q.opens

theorem Apart.symm {p q : Operation} (h : p.Apart q) : q.Apart p :=
  fun handle hq hp => (h handle hp hq).symm

def on (held : Table Opened) (p : Operation) (w : World) : Except Failure Json × World :=
  let ended := ({ world := w, held } : Stage).perform p
  (ended.1, ended.2.world)

end Operation

namespace Stage
variable {g : Stage} {p q : Operation}

def Names (g : Stage) : Operation → Kind → String → Prop
  | .patch _ k submission, j, i => j = k ∧ submission.Removes i
  | .create _ k submission, j, i => j = k ∧ ∃ o : k.Object,
      g.world.submitted k submission = .ok o ∧ Kind.Object.identifier o = some i
  | .fetch _ k n _, j, i => j = k ∧ i = n
  | .update handle _, j, i | .delete handle, j, i => ∃ c, g.held.get? handle = some c ∧
      j = c.kind ∧ c.identifier = some i
  | _, _, _ => False

theorem local_on (g : Stage) (hq : g.world.Quiet) (hp : p.isNaming) :
    World.Local g.world.declared (g.Names p) (p.on g.held) := by
  have hcalm : g.world.Calm g.world.declared := ⟨hq, rfl⟩
  cases p with
  | patch s k submission => exact (World.local_patch s k submission).map _
  | create s k submission =>
    exact (hcalm.local_create s (by simpa [Operation.isNaming] using hp) submission).map _
  | fetch s k i handle =>
    refine ((World.local_fetch s k i).map fun c => Json.ofOption c.identifier).congr fun w _ => ?_
    simp only [Operation.on, perform]
    split <;> rename_i hf <;> rw [hf] <;> rfl
  | update handle submission =>
    cases hc : g.held.get? handle with
    | none =>
      refine (World.Local.answering (.ok .null)).congr fun w _ => ?_
      simp only [Operation.on, perform, onHeld, hc]
    | some c =>
      refine (((World.local_update c submission).map fun _ => Json.null).mono
        fun j i hi => ⟨c, hc, hi⟩).congr fun w _ => ?_
      simp only [Operation.on, perform, onHeld, hc]
  | delete handle =>
    cases hc : g.held.get? handle with
    | none =>
      refine (World.Local.answering (.ok .null)).congr fun w _ => ?_
      simp only [Operation.on, perform, onHeld, hc]
    | some c =>
      refine (((World.local_remove c.session c.kind c.identifier).map fun _ => Json.null).mono
        fun j i hi => ⟨c, hc, hi⟩).congr fun w _ => ?_
      simp only [Operation.on, perform, onHeld, hc]
      rfl
  | _ => cases hp

theorem on_congr {held held' : Table Opened}
    (h : ∀ handle, p.handle? = some handle → p.opens = false → held'.get? handle = held.get? handle)
    (hp : p.isNaming) : p.on held' = p.on held := by
  funext w
  cases p with
  | patch | create => rfl
  | fetch s k i handle =>
    simp only [Operation.on, perform]
    split <;> rfl
  | update handle | delete handle =>
    simp only [Operation.on, perform, onHeld, h handle rfl rfl]
    split <;> rfl
  | _ => cases hp

theorem held_perform_of_ne (g : Stage) (q : Operation) {handle : String}
    (h : q.handle? ≠ some handle) : (g.perform q).2.held.get? handle = g.held.get? handle := by
  have hne : ∀ {name : String}, some name ≠ some handle → handle ≠ name :=
    fun hname heq => hname (congrArg some heq.symm)
  cases q with
  | list | patch | create | await => rfl
  | fetch s k i name => exact held_perform_fetch_ne g s k i (hne h)
  | read name =>
    simp only [perform, onHeld]
    split <;> rfl
  | update name submission =>
    simp only [perform, onHeld]
    split
    · exact Table.get?_put_ne _ _ (hne h)
    · rfl
  | delete name =>
    simp only [perform, onHeld]
    split <;> rfl
  | insert | overwrite | discard =>
    simp only [perform, onDirectory]
    split <;> rfl

def opened? (g : Stage) : Operation → Option (Except Failure Opened)
  | .fetch s k i _ => some (g.world.fetch s k i).1
  | _ => none

theorem perform_perform (g : Stage) (hp : p.isNaming) (happart : p.Apart q) :
    (((g.perform q).2.perform p).1, ((g.perform q).2.perform p).2.world) =
      p.on g.held (q.on g.held g.world).2 := by
  have hheld : p.on (g.perform q).2.held = p.on g.held := by
    refine on_congr (fun handle hhandle hopens => held_perform_of_ne g q fun hq => ?_) hp
    rw [(happart handle hhandle hq).1] at hopens
    cases hopens
  rw [← hheld]
  rfl

theorem opened?_perform (hquiet : g.world.Quiet) (hq : q.isNaming)
    (hdisjoint : ∀ k i, g.Names p k i → ¬g.Names q k i) :
    (g.perform q).2.opened? p = g.opened? p := by
  cases p with
  | fetch s k i handle =>
    obtain ⟨hanswer, -, -⟩ := (World.local_fetch s k i).comm (local_on g hquiet hq) hdisjoint
      ⟨hquiet, rfl⟩
    exact congrArg some hanswer
  | _ => rfl

/-- Under listeners that never fail, two operations that name no object in common have the same answers
and open the same in either order, and leave the same in every directory. -/
theorem perform_comm (hquiet : g.world.Quiet) (hp : p.isNaming) (hq : q.isNaming)
    (happart : p.Apart q) (hdisjoint : ∀ k i, g.Names p k i → ¬g.Names q k i) :
    (((g.perform q).2.perform p).1 = (g.perform p).1 ∧
      ((g.perform p).2.perform q).1 = (g.perform q).1) ∧
    ((g.perform q).2.opened? p = g.opened? p ∧ (g.perform p).2.opened? q = g.opened? q) ∧
    ((g.perform p).2.perform q).2.world.directories.Agree (fun _ _ => True)
      ((g.perform q).2.perform p).2.world.directories := by
  obtain ⟨hanswer, hanswer', hleft⟩ :=
    (local_on g hquiet hp).comm (local_on g hquiet hq) hdisjoint ⟨hquiet, rfl⟩
  -- What one leaves to hold does not concern the other, so both may be taken as acts on the world.
  rw [← perform_perform g hp happart] at hanswer hleft
  rw [← perform_perform g hq happart.symm] at hanswer' hleft
  have hopened := opened?_perform hquiet hq hdisjoint
  have hopened' := opened?_perform hquiet hp fun k i hi hn => hdisjoint k i hn hi
  exact ⟨⟨hanswer, hanswer'⟩, ⟨hopened, hopened'⟩, hleft⟩

end Stage

namespace Demo

def ownAccount : Stage :=
  (quiet.perform (.fetch (session administrator) .user administrator "own account")).2

def retitling : Operation :=
  .update "own account" (.obj [("attributes", .obj [("guac-full-name", .str "Root")])])

def dismissal : Operation :=
  let removal := Json.obj [("op", .str "remove"), ("path", .str ("/" ++ member))]
  .patch (session administrator) .user (.arr [removal, removal])

theorem disjoint_dismissal (k : Kind) (i : String) (h : ownAccount.Names dismissal k i) :
    ¬ownAccount.Names retitling k i := by
  obtain ⟨-, items, members, hitems, hmember, -, hpath⟩ := h
  rintro ⟨c, hc, -, hi⟩
  cases hitems
  have hmembers : members = [("op", .str "remove"), ("path", .str ("/" ++ member))] := by
    simpa using hmember
  subst hmembers
  have hi' : i = member := by
    simpa [List.lookup_cons, String.append_right_inj, eq_comm] using hpath
  cases hc
  rw [hi'] at hi
  exact absurd hi (by decide)

end Demo

theorem Stage.perform_dismissal_comm :
    ((Demo.ownAccount.perform Demo.retitling).2.perform Demo.dismissal).1 =
      .error (.notFound (some Demo.member)) ∧
    ((Demo.ownAccount.perform Demo.dismissal).2.perform Demo.retitling).1 = .ok .null ∧
    ((Demo.ownAccount.perform Demo.dismissal).2.perform Demo.retitling).2.world.directories.Agree
      (fun _ _ => True)
      ((Demo.ownAccount.perform Demo.retitling).2.perform Demo.dismissal).2.world.directories := by
  obtain ⟨⟨hanswer, hanswer'⟩, -, hleft⟩ := Stage.perform_comm (g := Demo.ownAccount)
    (p := Demo.dismissal) (q := Demo.retitling) (fun _ _ => rfl) rfl rfl
    (by rintro _ ⟨⟩) Demo.disjoint_dismissal
  exact ⟨hanswer, hanswer', hleft⟩

end AccessDirectory

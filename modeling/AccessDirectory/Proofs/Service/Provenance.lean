import AccessDirectory.Proofs.Representation.Item
import AccessDirectory.Proofs.Representation.Revision
import AccessDirectory.Proofs.Service.Lasting

/-! Where that comes from which clients cannot set: an attribute with an undeclared name, when a user was
last active, and what an object lends. An object has it from what first stood under its identifier. -/

namespace AccessDirectory

/-- An object has what clients cannot set from the object that first stood under its identifier, if it
has it at all. -/
structure Directories.Furnishes (first : Directories) (declared : Kind → List String) (k : Kind)
    (o : k.Object) : Prop where
  attributes : ∀ name value, name ∉ declared k →
    (Kind.Object.attributes o).get? name = some value →
    ∃ i o₀, o.identifier = some i ∧ (first.stored k).get? i = some o₀ ∧
      (Kind.Object.attributes o₀).get? name = some value
  managed : (o.lastActive = none ∧ o.standing = {}) ∨
    ∃ i o₀, o.identifier = some i ∧ (first.stored k).get? i = some o₀ ∧
      o.lastActive = o₀.lastActive ∧ o.standing = o₀.standing

theorem Directories.WellKeyed.furnishes {first : Directories} (h : first.WellKeyed)
    (declared : Kind → List String) {k : Kind} {i : String} {o : k.Object}
    (ho : (first.stored k).get? i = some o) : first.Furnishes declared k o where
  attributes _ _ _ hvalue := ⟨i, o, h.of_stored ho, ho, hvalue⟩
  managed := .inr ⟨i, o, h.of_stored ho, ho, rfl, rfl⟩

theorem Directories.lasting_furnishes (first : Directories) (declared : Kind → List String) :
    Lasting declared (first.Furnishes declared) where
  added := by
    intro k fields d d' o o' hc hadd
    obtain ⟨-, -, i, rfl, -⟩ := Directory.of_add_eq_ok hadd
    refine ⟨fun name value hname hvalue => ?_, .inl ⟨?_, ?_⟩⟩
    · have hnone := Kind.get?_attributes_construct (Kind.member?_sanitize_of_undeclared hname) hc
      rw [Kind.Object.attributes_setIdentifier, hnone] at hvalue
      cases hvalue
    · rw [Kind.lastActive_setIdentifier, Kind.lastActive_construct hc]
    · rw [Kind.standing_setIdentifier, Kind.standing_construct hc]
  revised := by
    intro k fields o o' h hr
    obtain ⟨hi, hs⟩ := Kind.of_revise_eq_ok hr
    refine ⟨fun name value hname hvalue => ?_, ?_⟩
    · -- An undeclared name is not among those that are merged in.
      have hkept := Kind.get?_attributes_revise (Kind.member?_sanitize_of_undeclared hname) hr
      rw [hi]
      exact h.attributes name value hname (hkept ▸ hvalue)
    · rw [Kind.lastActive_revise hr, hs, hi]
      exact h.managed

namespace World
variable (w : World) (c : Opened) (submission : Json)

theorem held_update : (w.update c submission).2.1 = c ∨ ∃ fields o,
    Kind.revise c.object (c.kind.sanitize (w.declared c.kind) fields) = .ok o ∧
      (w.update c submission).2.1 = { c with object := o } := by
  unfold update
  split
  · exact .inl rfl
  next fields _ =>
    split
    · exact .inl rfl
    next o ho => exact .inr ⟨fields, o, ho, rfl⟩

theorem get?_attributes_update {name : String} (hname : name ∉ w.declared c.kind) :
    (Kind.Object.attributes (w.update c submission).2.1.object).get? name =
      (Kind.Object.attributes c.object).get? name := by
  obtain h | ⟨fields, o, ho, h⟩ := w.held_update c submission
  · rw [h]
  · rw [h]
    exact Kind.get?_attributes_revise (Kind.member?_sanitize_of_undeclared hname) ho

end World

/-- After a run every stored object has its undeclared attributes, its last activity and its standing
from the object that was first stored under its identifier, or not at all, and no update changes an
undeclared attribute of what a client holds. -/
theorem Stage.undeclared_run {w : World} (hk : w.directories.WellKeyed)
    {operations : List Operation} (hs : ∀ p ∈ operations, p.byService) :
    (∀ k i (o : k.Object),
      ((({ world := w } : Stage).run operations).world.directories.stored k).get? i = some o →
      (∀ name value, name ∉ w.declared k → (Kind.Object.attributes o).get? name = some value →
        ∃ o₀, (w.directories.stored k).get? i = some o₀ ∧
          (Kind.Object.attributes o₀).get? name = some value) ∧
      ((o.lastActive = none ∧ o.standing = {}) ∨
        ∃ o₀, (w.directories.stored k).get? i = some o₀ ∧ o.lastActive = o₀.lastActive ∧
          o.standing = o₀.standing)) ∧
    ∀ (w : World) (c : Opened) submission name, name ∉ w.declared c.kind →
      (Kind.Object.attributes (w.update c submission).2.1.object).get? name =
        (Kind.Object.attributes c.object).get? name := by
  refine ⟨fun k i o ho => ?_, fun w c submission name => w.get?_attributes_update c submission⟩
  have hall : All (w.directories.Furnishes w.declared) (({ world := w } : Stage).run operations) :=
    (All.start fun k i o ho => hk.furnishes w.declared ho).run
      (w.directories.lasting_furnishes w.declared) hs
  have h := hall.stored k i o ho
  -- What the object has it from stood under the object's own identifier, and that is where it stands.
  have hi : o.identifier = some i := (wellKeyed_run hk hs).of_stored ho
  refine ⟨fun name value hname hvalue => ?_, h.managed.imp_right ?_⟩
  · obtain ⟨j, o₀, hj, ho₀, hvalue₀⟩ := h.attributes name value hname hvalue
    obtain rfl := Option.some.inj (hj.symm.trans hi)
    exact ⟨o₀, ho₀, hvalue₀⟩
  · rintro ⟨j, o₀, hj, ho₀, hsame⟩
    obtain rfl := Option.some.inj (hj.symm.trans hi)
    exact ⟨o₀, ho₀, hsame⟩

namespace Demo

def strict : World := { world with declared := fun _ => [] }

def renamed : Json :=
  .obj [("username", .str member), ("attributes", .obj [("guac-full-name", .str "Mallory")])]

def intrusion : List Operation := [
  .fetch (session administrator) .user member "old",
  .patch (session administrator) .user
    (.arr [.obj [("op", .str "remove"), ("path", .str ("/" ++ member))]]),
  .create (session administrator) .user renamed,
  .update "old" renamed]

end Demo

theorem Stage.undeclared_intrusion : ∃ o o₀ : User,
    ((({ world := Demo.strict } : Stage).run Demo.intrusion).world.directories.stored
      .user).get? Demo.member = some o ∧
    (Demo.strict.directories.stored .user).get? Demo.member = some o₀ ∧
    o.attributes.get? "guac-full-name" = some (some "Alice") ∧
    o₀.attributes.get? "guac-full-name" = some (some "Alice") ∧
    (Kind.Object.attributes (Demo.strict.update
        ⟨.user, o, Demo.session Demo.administrator⟩ Demo.renamed).2.1.object).get?
      "guac-full-name" = some (some "Alice") := by
  have hservice : ∀ p ∈ Demo.intrusion, p.byService := by decide
  obtain ⟨hstored, hupdate⟩ := Stage.undeclared_run (w := Demo.strict)
    Demo.wellKeyed_directories hservice
  obtain ⟨o, ho, hname⟩ : ∃ o : User,
      ((({ world := Demo.strict } : Stage).run Demo.intrusion).world.directories.stored
        .user).get? Demo.member = some o ∧
      o.attributes.get? "guac-full-name" = some (some "Alice") := ⟨_, rfl, rfl⟩
  have hundeclared : "guac-full-name" ∉ Demo.strict.declared .user := by decide
  obtain ⟨o₀, ho₀, hname₀⟩ := (hstored .user Demo.member o ho).1 _ _ hundeclared hname
  refine ⟨o, o₀, ho, ho₀, hname, hname₀, ?_⟩
  rw [hupdate Demo.strict ⟨.user, o, _⟩ Demo.renamed _ hundeclared]
  exact hname

end AccessDirectory

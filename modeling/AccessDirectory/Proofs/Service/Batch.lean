import AccessDirectory.Proofs.Directory.Presence
import AccessDirectory.Proofs.Failing
import AccessDirectory.Proofs.Service.Quiet

/-! Batches of removals. A submission is read as a whole before anything is removed, and then carried out
up to the first identifier that is not there, or no longer. -/

namespace AccessDirectory

def Json.Patches (submission : Json) (patches : List Patch) : Prop :=
  ∃ items, submission = .arr items ∧ List.Forall₂ (fun item p => ∃ members, item = .obj members ∧
    members.lookup "op" = some (.str p.verb.name) ∧ members.lookup "path" = some (.str p.path) ∧
    p.value = (members.lookup "value").getD .null) items patches

def Patch.Removes (p : Patch) (i : String) : Prop := p.verb = .remove ∧ p.path = "/" ++ i

def Patch.objection (p : Patch) : Failure :=
  if p.verb = .remove then .patchPathUnrooted else .removalOnly p.verb.name

namespace Table
variable {α : Type}

/-- The place of the first identifier under which nothing stands or that is repeated, or the number of
them if there is none. -/
def firstMiss (t : Table α) (ids : List String) : Nat :=
  ids.zipIdx.findIdx fun e => !t.contains e.1 || (ids.take e.2).contains e.1

theorem firstMiss_cons (t : Table α) (i : String) (rest : List String) :
    t.firstMiss (i :: rest) =
      if t.contains i then (t.erase i).firstMiss rest + 1 else 0 := by
  have hlater : ∀ e : String × Nat,
      (!t.contains e.1 || ((i :: rest).take (e.2 + 1)).contains e.1) =
        (!(t.erase i).contains e.1 || (rest.take e.2).contains e.1) := by
    intro e
    rw [contains_erase, List.take_succ_cons, List.contains_cons]
    by_cases h : e.1 = i
    · simp [h]
    · simp [h, beq_false_of_ne h]
  have hshift : rest.zipIdx 1 = rest.zipIdx.map fun e => (e.1, e.2 + 1) := by
    rw [List.zipIdx_succ]
  rw [firstMiss, List.zipIdx_cons, List.findIdx_cons, Nat.zero_add, hshift, List.findIdx_map]
  simp only [Function.comp_def, hlater]
  cases t.contains i with
  | false => rfl
  | true => rfl

end Table

def Directory.without {k : Kind} (d : Directory k) (ids : List String) : Directory k :=
  { d with objects := d.objects.filter fun i _ => !ids.contains i }

namespace Directory
variable {k : Kind}

@[simp] theorem without_nil (d : Directory k) : d.without [] = d := by
  have hall : (d.objects.filter fun i _ => !([] : List String).contains i) = d.objects := by
    apply Table.ext
    simp [Table.filter]
  rw [without, hall]

theorem without_singleton (d : Directory k) (i : String) :
    d.without [i] = { d with objects := d.objects.erase i } := by
  have hsame : (d.objects.filter fun j _ => !([i] : List String).contains j) = d.objects.erase i := by
    apply Table.ext
    simp [Table.filter, Table.erase]
  rw [without, hsame]

theorem without_without (d : Directory k) (ids more : List String) :
    (d.without ids).without more = d.without (ids ++ more) := by
  have hboth : ((d.objects.filter fun i _ => !ids.contains i).filter fun i _ => !more.contains i) =
      d.objects.filter fun i _ => !(ids ++ more).contains i := by
    apply Table.ext
    simp [Table.filter, List.filter_filter, Bool.and_comm]
  simp only [without, hboth]

end Directory

namespace Patch

theorem failsOnly_ofJson (item : Json) :
    FailsOnly (fun f => f.kind = .client ∨ f.kind = .unsupported) (ofJson item) := by
  unfold ofJson
  split
  · dsimp only
    split
    · exact .error (.inr rfl)
    · split
      · exact .ok _
      · exact .error (.inl rfl)
  · exact .error (.inl rfl)

theorem failsOnly_parse (submission : Json) :
    FailsOnly (fun f => f.kind = .client ∨ f.kind = .unsupported) (parse submission) := by
  unfold parse
  split
  next items =>
    induction items with
    | nil => exact .ok _
    | cons item rest ih =>
      rw [List.mapM_cons]
      exact (failsOnly_ofJson item).bind fun _ => ih.bind fun _ => .ok _
  next => exact .error (.inl rfl)

theorem parse_eq_ok {submission : Json} {patches : List Patch} :
    parse submission = .ok patches ↔ submission.Patches patches := by
  constructor
  · intro h
    cases submission with
    | arr items => exact ⟨items, rfl, (mapM_eq_ok.1 h).imp fun _ _ => ofJson_eq_ok.1⟩
    | _ => cases h
  · rintro ⟨items, rfl, hall⟩
    exact mapM_eq_ok.2 (hall.imp fun _ _ => ofJson_eq_ok.2)

theorem targets_eq_ok {patches : List Patch} {ids : List String} :
    targets patches = .ok ids ↔ List.Forall₂ Removes patches ids := by
  constructor
  · exact fun h => (mapM_eq_ok.1 h).imp fun _ _ => target_eq_ok.1
  · exact fun h => mapM_eq_ok.2 (h.imp fun _ _ => target_eq_ok.2)

theorem target_of_not_removes {p : Patch} (h : ∀ i, ¬p.Removes i) : p.target = .error p.objection := by
  cases ht : p.target with
  | ok i => exact absurd (target_eq_ok.1 ht) (h i)
  | error f =>
    unfold target at ht
    unfold objection
    split at ht
    next hv =>
      cases ht
      rw [if_neg hv]
    next hv =>
      rw [if_pos (Decidable.not_not.1 hv)]
      split at ht
      · cases ht
      · cases ht
        rfl

theorem targets_of_not_removes {before after : List Patch} {p : Patch}
    (hbefore : ∀ q ∈ before, ∃ i, q.Removes i) (hp : ∀ i, ¬p.Removes i) :
    targets (before ++ p :: after) = .error p.objection := by
  induction before with
  | nil =>
    rw [List.nil_append, targets, List.mapM_cons, target_of_not_removes hp]
    rfl
  | cons q rest ih =>
    obtain ⟨i, hi⟩ := hbefore q List.mem_cons_self
    have hrest : (rest ++ p :: after).mapM target = .error p.objection :=
      ih fun q hq => hbefore q (List.mem_cons_of_mem _ hq)
    rw [List.cons_append, targets, List.mapM_cons, target_eq_ok.2 hi, hrest]
    rfl

end Patch

namespace World
variable {w : World} {k : Kind} {d : Directory k}

/-- The events of a batch: the removals up to a place and, unless it is the end, one that fails. -/
def told (s : Session) (k : Kind) (ids : List String) (place : Nat) : List Event :=
  (ids.take place).map (fun i => s.event k .remove (some i)) ++
    (ids[place]?.map fun i => (s.event k .remove (some i)).failed (.notFound (some i))).toList

def ending (ids : List String) (place : Nat) : Except Failure Unit :=
  match ids[place]? with
  | some i => .error (.notFound (some i))
  | none => .ok ()

theorem Quiet.remove_eq (h : w.Quiet) (hd : w.directories.get? k = some d)
    (hout : d.outage .remove = none) (s : Session) (i : String) :
    w.remove s k (some i) =
      if d.objects.contains i then
        (.ok (), ({ w with directories := w.directories.set (d.without [i]) } : World).tellAll
          [s.event k .remove (some i)])
      else (.error (.notFound (some i)),
        w.tellAll [(s.event k .remove (some i)).failed (.notFound (some i))]) := by
  have hremove : d.remove (some i) =
      if d.objects.contains i then .ok (d.without [i]) else .error (.notFound (some i)) := by
    rw [Directory.remove, Directory.guarded, hout, Directory.without_singleton]
  rw [World.remove, Directories.find_eq_ok.2 hd]
  simp only [hremove]
  by_cases hin : d.objects.contains i
  · simp only [if_pos hin, h.commit_eq]
  · simp only [if_neg hin, h.refuse_eq]

theorem tellAll_tellAll_with (w : World) (ds ds' : Directories) (e : Event) (events : List Event) :
    ({ ({ w with directories := ds } : World).tellAll [e] with directories := ds' } : World).tellAll
      events = ({ w with directories := ds' } : World).tellAll (e :: events) := rfl

theorem Quiet.removeEach_eq (h : w.Quiet) (hd : w.directories.get? k = some d)
    (hout : d.outage .remove = none) (s : Session) (ids : List String) :
    w.removeEach s k ids = (ending ids (d.objects.firstMiss ids),
      ({ w with directories := w.directories.set (d.without (ids.take (d.objects.firstMiss ids))) } :
        World).tellAll (told s k ids (d.objects.firstMiss ids))) := by
  induction ids generalizing w d with
  | nil =>
    rw [List.take_nil, Directory.without_nil, Directories.set_self hd]
    rfl
  | cons i rest ih =>
    have hleft : (d.without [i]).objects = d.objects.erase i := by rw [Directory.without_singleton]
    rw [World.removeEach, h.remove_eq hd hout, Table.firstMiss_cons]
    by_cases hin : d.objects.contains i
    · -- The rest of the batch meets a directory without this object, so that a repeated name misses.
      have hrest := ih (d := d.without [i]) (w := World.tellAll
        { w with directories := w.directories.set (d.without [i]) } [s.event k .remove (some i)])
        (Quiet.tellAll (w := { w with directories := w.directories.set (d.without [i]) }) h _)
        (Directories.get?_set_self ..) hout
      simp only [if_pos hin]
      rw [hrest, tellAll_tellAll_with, directories_tellAll, Directories.set_set,
        Directory.without_without, hleft]
      rfl
    · simp only [if_neg hin, List.take_zero, Directory.without_nil, Directories.set_self hd]
      rfl

/-- A submission that cannot be read, or has a patch that removes nothing, changes nothing and is told to
nobody. Otherwise the objects are removed up to the first that is missing, in order, and the listeners
are told of just these removals and of the one that fails. -/
theorem Quiet.patch_exact (h : w.Quiet) (hd : w.directories.get? k = some d)
    (hout : d.outage .remove = none) (s : Session) (submission : Json) :
    ((∀ patches, ¬submission.Patches patches) →
      ∃ f, (f.kind = .client ∨ f.kind = .unsupported) ∧ w.patch s k submission = (.error f, w)) ∧
    (∀ before p after, submission.Patches (before ++ p :: after) →
      (∀ q ∈ before, ∃ i, q.Removes i) → (∀ i, ¬p.Removes i) →
      w.patch s k submission = (.error p.objection, w)) ∧
    ∀ patches ids, submission.Patches patches → List.Forall₂ Patch.Removes patches ids →
      let place := d.objects.firstMiss ids
      ∃ w', w.patch s k submission = (ending ids place, w') ∧
        w.Became (w.directories.set (d.without (ids.take place))) (told s k ids place) w' := by
  have hpatch : ∀ result, Patch.parse submission >>= Patch.targets = result →
      w.patch s k submission = match result with
        | .error f => (.error f, w)
        | .ok ids => w.removeEach s k ids := by
    rintro result rfl
    rw [World.patch, Directories.find_eq_ok.2 hd]
    cases Patch.parse submission >>= Patch.targets with
    | error f => rfl
    | ok ids => rfl
  refine ⟨fun hunread => ?_, fun before p after hread hbefore hp => ?_,
    fun patches ids hread hids => ⟨_, ?_, h.became _ _⟩⟩
  · cases hparse : Patch.parse submission with
    | ok patches => exact absurd (Patch.parse_eq_ok.1 hparse) (hunread patches)
    | error f =>
      exact ⟨f, Patch.failsOnly_parse submission f hparse, hpatch (.error f) (by rw [hparse]; rfl)⟩
  · refine hpatch (.error p.objection) ?_
    rw [Patch.parse_eq_ok.2 hread]
    exact Patch.targets_of_not_removes hbefore hp
  · rw [hpatch (.ok ids) (bind_eq_ok.2 ⟨patches, Patch.parse_eq_ok.2 hread,
      Patch.targets_eq_ok.2 hids⟩)]
    exact h.removeEach_eq hd hout s ids

end World

namespace Demo

def removal (i : String) : Patch := ⟨.remove, "/" ++ i, .null⟩

def batch (patches : List Patch) : Json :=
  .arr (patches.map fun p => .obj [("op", .str p.verb.name), ("path", .str p.path)])

theorem patches_batch {patches : List Patch} (h : ∀ p ∈ patches, p.value = .null) :
    (batch patches).Patches patches := by
  refine ⟨_, rfl, List.forall₂_map_left_iff.2 ?_⟩
  exact List.forall₂_same.2 fun p hp => ⟨_, rfl, rfl, rfl, h p hp⟩

end Demo

theorem World.patch_exact_repeated : ∃ f w',
    (f.kind = .client ∨ f.kind = .unsupported) ∧
    Demo.quiet.world.patch (Demo.session Demo.administrator) .user (.str "remove") =
      (.error f, Demo.quiet.world) ∧
    Demo.quiet.world.patch (Demo.session Demo.administrator) .user
        (Demo.batch [Demo.removal Demo.member, ⟨.move, Demo.member, .null⟩]) =
      (.error (.removalOnly "move"), Demo.quiet.world) ∧
    Demo.quiet.world.patch (Demo.session Demo.administrator) .user
        (Demo.batch [Demo.removal Demo.member, Demo.removal Demo.member,
          Demo.removal Demo.administrator]) =
      (.error (.notFound (some Demo.member)), w') ∧
    (w'.directories.stored .user).keys = [Demo.administrator] ∧
    (w'.journal.received 1).map (·.succeeded) = [true, false] := by
  have hd : Demo.quiet.world.directories.get? .user = some Demo.users := rfl
  have hexact := Demo.orderly_quiet.quiet.patch_exact hd rfl (Demo.session Demo.administrator)
  obtain ⟨hunread, -, -⟩ := hexact (.str "remove")
  obtain ⟨f, hkind, hf⟩ := hunread (by rintro patches ⟨items, ⟨⟩, -⟩)
  obtain ⟨-, hoffending, -⟩ := hexact
    (Demo.batch [Demo.removal Demo.member, ⟨.move, Demo.member, .null⟩])
  have hmove := hoffending [Demo.removal Demo.member] ⟨.move, Demo.member, .null⟩ []
    (Demo.patches_batch (by simp [Demo.removal])) (by simp [Demo.removal, Patch.Removes])
    (by rintro i ⟨⟨⟩, -⟩)
  obtain ⟨-, -, hremovals⟩ := hexact (Demo.batch [Demo.removal Demo.member,
    Demo.removal Demo.member, Demo.removal Demo.administrator])
  obtain ⟨w', hbatch, hbecame⟩ := hremovals _ [Demo.member, Demo.member, Demo.administrator]
    (Demo.patches_batch (by simp [Demo.removal]))
    (.cons ⟨rfl, rfl⟩ (.cons ⟨rfl, rfl⟩ (.cons ⟨rfl, rfl⟩ .nil)))
  refine ⟨f, w', hkind, hf, hmove, hbatch, ?_, ?_⟩
  · rw [hbecame.eq]
    rfl
  · rw [hbecame.heard 1 (by decide)]
    rfl

end AccessDirectory

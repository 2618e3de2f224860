import AccessDirectory.Proofs.Service.Dispatch
import AccessDirectory.Service.Opened

/-! Whose events the listeners are told. An operation tells of nothing but attempts of the session that
it is carried out for. -/

namespace AccessDirectory

def Event.IsOf (e : Event) (s : Session) : Prop := e.user = s.username ∧ e.provider = s.provider

theorem Event.IsOf.failed {e : Event} {s : Session} (h : e.IsOf s) (f : Failure) :
    (e.failed f).IsOf s := h

theorem Session.isOf_event (s : Session) (k : Kind) (action : Action) (identifier : Option String)
    (object : Option k.Object) : (s.event k action identifier object).IsOf s := ⟨rfl, rfl⟩

theorem Listener.deliveries_handle (given : Conditions) (place : Nat) (j : Journal) (e : Event)
    (l : Listener) :
    (l.handle given place j e).2.deliveries = j.deliveries ++ [(place, e)] := by
  cases l with
  | auditor key =>
    rw [handle]
    split <;> rfl
  | _ => rfl

theorem exists_deliveries_deliver (given : Conditions) (e : Event) (place : Nat) (ls : List Listener)
    (j : Journal) : ∃ places : List Nat,
    (deliver given e place ls j).2.deliveries = j.deliveries ++ places.map (·, e) := by
  induction ls generalizing place j with
  | nil => exact ⟨[], by simp [deliver]⟩
  | cons l rest ih =>
    have hone := l.deliveries_handle given place j e
    rw [deliver]
    split <;> rename_i j' hl <;> rw [hl] at hone
    · exact ⟨[place], hone⟩
    · obtain ⟨places, hrest⟩ := ih (place + 1) j'
      refine ⟨place :: places, ?_⟩
      rw [hrest, hone, List.append_assoc]
      rfl

def World.TellsOf (s : Session) (w w' : World) : Prop :=
  ∃ told, w'.journal.deliveries = w.journal.deliveries ++ told ∧ ∀ t ∈ told, t.2.IsOf s

namespace World.TellsOf
variable {s : Session} {w w' w'' : World}

theorem refl (s : Session) (w : World) : TellsOf s w w := ⟨[], by simp, by simp⟩

theorem trans (h : TellsOf s w w') (h' : TellsOf s w' w'') : TellsOf s w w'' := by
  obtain ⟨told, hd, ht⟩ := h
  obtain ⟨told', hd', ht'⟩ := h'
  refine ⟨told ++ told', by rw [hd', hd, List.append_assoc], fun t hm => ?_⟩
  rcases List.mem_append.1 hm with hm | hm
  · exact ht t hm
  · exact ht' t hm

theorem notify (w : World) {e : Event} (he : e.IsOf s) : TellsOf s w (w.notify e).2 := by
  obtain ⟨places, hd⟩ := exists_deliveries_deliver w.given e 0 w.listeners w.journal
  refine ⟨places.map (·, e), hd, fun t ht => ?_⟩
  obtain ⟨place, -, rfl⟩ := List.mem_map.1 ht
  exact he

theorem reportFailure (w : World) {e : Event} (he : e.IsOf s) (f : Failure) :
    TellsOf s w (w.reportFailure e f).2 := by
  rw [reportFailure_snd]
  exact notify w (he.failed f)

theorem commit (w : World) {e : Event} (he : e.IsOf s) {k : Kind} (d : Directory k) :
    TellsOf s w (w.commit e d).2 := by
  have hfirst : TellsOf s w ({ w with directories := w.directories.set d }.notify e).2 :=
    notify { w with directories := w.directories.set d } he
  unfold World.commit World.reportSuccess
  split <;> rename_i hn <;> rw [hn] at hfirst
  · exact hfirst
  · exact hfirst.trans (reportFailure _ he _)

theorem remove (w : World) (s : Session) (k : Kind) (identifier : Option String) :
    TellsOf s w (w.remove s k identifier).2 := by
  unfold World.remove
  split
  · exact refl s w
  · dsimp only
    split
    · exact reportFailure w (s.isOf_event ..) _
    · exact commit w (s.isOf_event ..) _

theorem removeEach (w : World) (s : Session) (k : Kind) (identifiers : List String) :
    TellsOf s w (w.removeEach s k identifiers).2 := by
  induction identifiers generalizing w with
  | nil => exact refl s w
  | cons identifier rest ih =>
    have hfirst := remove w s k (some identifier)
    unfold World.removeEach
    split <;> rename_i hr <;> rw [hr] at hfirst
    · exact hfirst
    · exact hfirst.trans (ih _)

theorem patch (w : World) (s : Session) (k : Kind) (submission : Json) :
    TellsOf s w (w.patch s k submission).2 := by
  unfold World.patch
  split
  · exact refl s w
  · exact refl s w
  · exact removeEach w s k _

theorem create (w : World) (s : Session) (k : Kind) (submission : Json) :
    TellsOf s w (w.create s k submission).2 := by
  unfold World.create
  split
  · exact refl s w
  · exact refl s w
  next d o _ _ =>
    unfold World.add
    dsimp only
    split
    · exact reportFailure w (s.isOf_event ..) _
    · exact commit w (s.isOf_event ..) _

theorem fetch (w : World) (s : Session) (k : Kind) (identifier : String) :
    TellsOf s w (w.fetch s k identifier).2 ∧
      ∀ c, (w.fetch s k identifier).1 = .ok c → c.session = s := by
  cases hd : w.directories.find k with
  | error f =>
    simp only [World.fetch, hd]
    exact ⟨refl s w, fun c hc => by cases hc⟩
  | ok d =>
    cases ho : d.require identifier with
    | error f =>
      simp only [World.fetch, hd, ho]
      exact ⟨reportFailure w (s.isOf_event ..) f, fun c hc => by cases hc⟩
    | ok o =>
      have htold := notify w (s.isOf_event k .get (some identifier) (some o))
      rw [fetch_of_require hd ho]
      split <;> rename_i hn <;> rw [hn] at htold
      · exact ⟨htold, fun c hc => by cases hc⟩
      · exact ⟨htold, fun c hc => by cases hc; rfl⟩

theorem store (w : World) (c : Opened) : TellsOf c.session w (w.store c).2 := by
  unfold World.store
  dsimp only
  split
  · exact refl _ w
  · split
    · exact reportFailure w (c.session.isOf_event ..) _
    · exact commit w (c.session.isOf_event ..) _

theorem update (w : World) (c : Opened) (submission : Json) :
    TellsOf c.session w (w.update c submission).2.2 := by
  unfold World.update
  split
  · exact refl _ w
  · split
    · exact reportFailure w (c.session.isOf_event ..) _
    next o _ => exact store w { c with object := o }

theorem delete (w : World) (c : Opened) : TellsOf c.session w (w.delete c).2 :=
  remove w c.session c.kind c.identifier

end World.TellsOf

end AccessDirectory

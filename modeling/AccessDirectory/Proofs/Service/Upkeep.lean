import AccessDirectory.Proofs.Service.Lasting

/-! What runs do not disturb: objects stand under their own identifiers, directories that are in order
stay so, and listeners that never fail go on not to. -/

namespace AccessDirectory

theorem Stage.Act.faultless {g g' : Stage} (h : g.world.directories.Faultless) (ha : Act g g') :
    g'.world.directories.Faultless := by
  cases ha with
  | tell | take | revise => exact h
  | add s hd ho hadd =>
    obtain ⟨-, hout, -⟩ := Directory.of_add_eq_ok hadd
    exact h.set hd hout
  | remove s hd hr =>
    obtain ⟨-, i, -, -, rfl⟩ := Directory.remove_eq_ok.1 hr
    exact h.set hd rfl
  | store hc hd hu =>
    obtain ⟨-, i, -, -, rfl⟩ := Directory.update_eq_ok.1 hu
    exact h.set hd rfl

def World.Quiet (w : World) : Prop := ∀ e j, (deliver w.given e 0 w.listeners j).1 = none

theorem World.Quiet.congr {w w' : World} (h : w.Quiet) (hl : w'.listeners = w.listeners)
    (hg : w'.given = w.given) : w'.Quiet := by
  intro e j
  rw [hl, hg]
  exact h e j

theorem World.Quiet.acts {g g' : Stage} (h : g.world.Quiet) (ha : Stage.Acts g g') :
    g'.world.Quiet :=
  h.congr ha.listeners ha.given

/-- The listeners do not fail under the conditions that operations wait for either. -/
def World.StaysQuiet (w : World) (operations : List Operation) : Prop :=
  ∀ given, Operation.await given ∈ operations → ({ w with given } : World).Quiet

theorem World.StaysQuiet.single (w : World) {operation : Operation}
    (h : ∀ given, operation ≠ .await given) : w.StaysQuiet [operation] :=
  fun given hg => absurd (List.mem_singleton.1 hg).symm (h given)

theorem World.StaysQuiet.of_append {w : World} {operations later : List Operation}
    (h : w.StaysQuiet (operations ++ later)) : w.StaysQuiet operations ∧ w.StaysQuiet later :=
  ⟨fun given hg => h given (List.mem_append_left _ hg),
    fun given hg => h given (List.mem_append_right _ hg)⟩

theorem World.StaysQuiet.of_cons {w : World} {operation : Operation} {rest : List Operation}
    (h : w.StaysQuiet (operation :: rest)) : w.StaysQuiet [operation] ∧ w.StaysQuiet rest := by
  rw [← List.singleton_append] at h
  exact h.of_append

theorem World.StaysQuiet.congr {w w' : World} {operations : List Operation}
    (h : w.StaysQuiet operations) (hl : w'.listeners = w.listeners) : w'.StaysQuiet operations :=
  fun given hg => (h given hg).congr hl rfl

namespace Stage

theorem onDirectory_cases (g : Stage) {k : Kind} {change : Directory k → Except Failure (Directory k)}
    (hc : ∀ d d', change d = .ok d' → (d.WellKeyed → d'.WellKeyed) ∧ d'.outage = d.outage) :
    (g.onDirectory k change).2 = g ∨ ∃ d d' : Directory k, g.world.directories.get? k = some d ∧
      (d.WellKeyed → d'.WellKeyed) ∧ d'.outage = d.outage ∧ (g.onDirectory k change).2 =
        { g with world := { g.world with directories := g.world.directories.set d' } } := by
  unfold onDirectory
  split
  · exact .inl rfl
  next d' hd' =>
    obtain ⟨d, hd, hd'⟩ := bind_eq_ok.1 hd'
    obtain ⟨hk, hout⟩ := hc d d' hd'
    exact .inr ⟨d, d', Directories.find_eq_ok.1 hd, hk, hout, rfl⟩

theorem perform_directly (g : Stage) {operation : Operation} (hs : operation.byService = false) :
    (g.perform operation).2 = g ∨ ∃ (k : Kind) (d d' : Directory k),
      g.world.directories.get? k = some d ∧ (d.WellKeyed → d'.WellKeyed) ∧ d'.outage = d.outage ∧
      (g.perform operation).2 =
        { g with world := { g.world with directories := g.world.directories.set d' } } := by
  cases operation with
  | insert k o =>
    refine (g.onDirectory_cases fun d d' hd' => ?_).imp_right fun h => ⟨k, h⟩
    cases hadd : d.add o with
    | error f =>
      rw [hadd] at hd'
      cases hd'
    | ok added =>
      rw [hadd] at hd'
      cases hd'
      obtain ⟨-, hout, -⟩ := Directory.of_add_eq_ok hadd
      exact ⟨fun hk => hk.add hadd, hout⟩
  | overwrite k o =>
    refine (g.onDirectory_cases fun d d' hd' => ⟨fun hk => hk.update hd', ?_⟩).imp_right
      fun h => ⟨k, h⟩
    obtain ⟨-, i, -, -, rfl⟩ := Directory.update_eq_ok.1 hd'
    rfl
  | discard k identifier =>
    refine (g.onDirectory_cases fun d d' hd' => ⟨fun hk => hk.remove hd', ?_⟩).imp_right
      fun h => ⟨k, h⟩
    obtain ⟨-, i, -, -, rfl⟩ := Directory.remove_eq_ok.1 hd'
    rfl
  | _ => cases hs

theorem perform_cases (g : Stage) (operation : Operation) :
    Acts g (g.perform operation).2 ∨ (∃ given, operation = .await given) ∨
      ∃ (k : Kind) (d d' : Directory k), g.world.directories.get? k = some d ∧
        (d.WellKeyed → d'.WellKeyed) ∧ d'.outage = d.outage ∧ (g.perform operation).2 =
          { g with world := { g.world with directories := g.world.directories.set d' } } := by
  by_cases hs : operation.byService
  · exact (Acts.perform g hs).imp_right .inl
  · obtain hsame | hchanged := perform_directly g (eq_false_of_ne_true hs)
    · rw [hsame]
      exact .inl (.refl g)
    · exact .inr (.inr hchanged)

theorem listeners_perform (g : Stage) (operation : Operation) :
    (g.perform operation).2.world.listeners = g.world.listeners := by
  obtain hacts | ⟨given, rfl⟩ | ⟨k, d, d', -, -, -, hchanged⟩ := g.perform_cases operation
  · exact hacts.listeners
  · rfl
  · rw [hchanged]

theorem given_perform (g : Stage) (operation : Operation) :
    (g.perform operation).2.world.given = g.world.given ∨
      operation = .await (g.perform operation).2.world.given := by
  obtain hacts | ⟨given, rfl⟩ | ⟨k, d, d', -, -, -, hchanged⟩ := g.perform_cases operation
  · exact .inl hacts.given
  · exact .inr rfl
  · rw [hchanged]
    exact .inl rfl

end Stage

theorem World.listeners_remove (w : World) (s : Session) (k : Kind) (identifier : Option String) :
    (w.remove s k identifier).2.listeners = w.listeners :=
  (Stage.Acts.remove { world := w } s k identifier).listeners

structure World.Orderly (w : World) : Prop where
  keyed : w.directories.WellKeyed
  faultless : w.directories.Faultless
  quiet : w.Quiet

namespace World.Orderly
open Stage
variable {g g' : Stage}

theorem act (h : g.world.Orderly) (ha : Act g g') : g'.world.Orderly :=
  ⟨ha.wellKeyed h.keyed, ha.faultless h.faultless, h.quiet.congr ha.listeners ha.given⟩

theorem perform (h : g.world.Orderly) {operation : Operation}
    (hq : g.world.StaysQuiet [operation]) : (g.perform operation).2.world.Orderly := by
  obtain hacts | ⟨given, rfl⟩ | ⟨k, d, d', hd, hk, hout, hchanged⟩ := g.perform_cases operation
  · exact hacts.invariant act h
  · exact ⟨h.keyed, h.faultless, hq given List.mem_cons_self⟩
  · rw [hchanged]
    exact ⟨h.keyed.set (hk (h.keyed k d hd)), h.faultless.set hd hout, h.quiet⟩

theorem run (h : g.world.Orderly) {operations : List Operation}
    (hq : g.world.StaysQuiet operations) : (g.run operations).world.Orderly := by
  induction operations generalizing g with
  | nil => exact h
  | cons operation rest ih =>
    obtain ⟨hfirst, hrest⟩ := hq.of_cons
    exact ih (h.perform hfirst) (hrest.congr (listeners_perform g operation))

end World.Orderly

end AccessDirectory

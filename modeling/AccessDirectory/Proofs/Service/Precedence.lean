import AccessDirectory.Proofs.Service.Dispatch
import AccessDirectory.Proofs.Service.Upkeep

/-! Earlier listeners never know less than later ones. Events are handed out one after the other, each
from the first listener on to some listener where it stops, so what reaches a listener has reached all
that stand before it. -/

namespace AccessDirectory
variable {given : Conditions} {e : Event}

theorem exists_reach_deliver (given : Conditions) (e : Event) (place : Nat) (ls : List Listener)
    (j : Journal) : ∃ reach, place ≤ reach ∧ ∀ i, (deliver given e place ls j).2.received i =
      j.received i ++ if place ≤ i ∧ i < reach then [e] else [] := by
  induction ls generalizing place j with
  | nil =>
    refine ⟨place, Nat.le_refl _, fun i => ?_⟩
    rw [if_neg (by omega), List.append_nil]
    rfl
  | cons l rest ih =>
    have hself := l.received_handle_self given place j e
    have hskip := fun i (hi : i ≠ place) => l.received_handle_of_ne given hi j e
    rw [deliver]
    split <;> rename_i j' hl <;> rw [hl] at hself <;> simp only [hl] at hskip
    · refine ⟨place + 1, Nat.le_succ _, fun i => ?_⟩
      by_cases hi : i = place
      · subst hi
        rw [hself, if_pos (by omega)]
      · rw [hskip i hi, if_neg (by omega), List.append_nil]
    · obtain ⟨reach, hle, hr⟩ := ih (place + 1) j'
      refine ⟨reach, by omega, fun i => ?_⟩
      rw [hr i]
      by_cases hi : i = place
      · subst hi
        rw [hself, if_neg (by omega), if_pos (by omega), List.append_nil]
      · rw [hskip i hi]
        have hiff : place + 1 ≤ i ∧ i < reach ↔ place ≤ i ∧ i < reach := by omega
        simp only [hiff]

namespace World
variable {w w' w'' : World}

def tellEach (w : World) (told : List (Conditions × Event)) : World :=
  told.foldl (fun w x => (({ w with given := x.1 } : World).notify x.2).2) w

def Untroubled (w : World) (told : List (Conditions × Event)) : Prop :=
  ∀ before x after, told = before ++ x :: after →
    ∀ f, ¬({ w.tellEach before with given := x.1 } : World).Raises x.2 f

theorem Untroubled.head {x : Conditions × Event} {told : List (Conditions × Event)}
    (h : w.Untroubled (x :: told)) (f : Failure) : ¬({ w with given := x.1 } : World).Raises x.2 f :=
  h [] x told rfl f

theorem Untroubled.tail {x : Conditions × Event} {told : List (Conditions × Event)}
    (h : w.Untroubled (x :: told)) :
    (({ w with given := x.1 } : World).notify x.2).2.Untroubled told := by
  intro before y after htold
  exact h (x :: before) y after (by rw [htold, List.cons_append])

/-- What further reaches the listeners is for each a part of what is told, and for a later one a part of
what reaches an earlier one. -/
theorem exists_news_tellEach (w : World) (told : List (Conditions × Event)) :
    ∃ news : Nat → List Event,
      (∀ i, (w.tellEach told).journal.received i = w.journal.received i ++ news i) ∧
      (∀ i, (news i).Sublist (told.map (·.2))) ∧ ∀ i j, i ≤ j → (news j).Sublist (news i) := by
  induction told generalizing w with
  | nil => exact ⟨fun _ => [], by simp [tellEach], by simp, by simp⟩
  | cons x rest ih =>
    obtain ⟨given, e⟩ := x
    obtain ⟨reach, -, hone⟩ := exists_reach_deliver given e 0 w.listeners w.journal
    obtain ⟨news, hreceived, hpart, hnested⟩ := ih (({ w with given } : World).notify e).2
    refine ⟨fun i => (if i < reach then [e] else []) ++ news i, fun i => ?_, fun i => ?_,
      fun i j hij => ?_⟩
    · have hfirst : (({ w with given } : World).notify e).2.journal.received i =
          w.journal.received i ++ if i < reach then [e] else [] := by
        have := hone i
        simp only [Nat.zero_le, true_and] at this
        exact this
      rw [← List.append_assoc, ← hfirst]
      exact hreceived i
    · have hhead : (if i < reach then [e] else []).Sublist [e] := by
        split
        · exact List.Sublist.refl _
        · exact List.nil_sublist _
      exact hhead.append (hpart i)
    · refine List.Sublist.append ?_ (hnested i j hij)
      -- An event that reaches the later place has reached the earlier one.
      split
      next hj =>
        have hsame : (if i < reach then [e] else []) = [e] := if_pos (Nat.lt_of_le_of_lt hij hj)
        exact hsame.symm ▸ List.Sublist.refl [e]
      next => exact List.nil_sublist _

theorem received_tellEach_of_untroubled {told : List (Conditions × Event)} (h : w.Untroubled told)
    {place : Nat} (hp : place < w.listeners.length) :
    (w.tellEach told).journal.received place =
      w.journal.received place ++ told.map (·.2) := by
  induction told generalizing w with
  | nil => simp [tellEach]
  | cons x rest ih =>
    have hone : (({ w with given := x.1 } : World).notify x.2).2.journal.received place =
        w.journal.received place ++ [x.2] := received_tellAll_of_not_raises h.head hp
    have hrest := ih h.tail hp
    rw [hone, List.append_assoc] at hrest
    exact hrest

theorem journal_tellEach_congr (hl : w'.listeners = w.listeners) (hj : w'.journal = w.journal)
    (told : List (Conditions × Event)) : (w'.tellEach told).journal = (w.tellEach told).journal := by
  induction told generalizing w w' with
  | nil => exact hj
  | cons x rest ih =>
    have hone : (({ w' with given := x.1 } : World).notify x.2).2.journal =
        (({ w with given := x.1 } : World).notify x.2).2.journal := by
      simp only [notify, hl, hj]
    exact ih hl hone

theorem tellEach_append (w : World) (told later : List (Conditions × Event)) :
    w.tellEach (told ++ later) = (w.tellEach told).tellEach later :=
  List.foldl_append ..

theorem listeners_tellEach (w : World) (told : List (Conditions × Event)) :
    (w.tellEach told).listeners = w.listeners := by
  induction told generalizing w with
  | nil => rfl
  | cons x rest ih => exact ih (({ w with given := x.1 } : World).notify x.2).2

/-- From one world to another the listeners stay and are told of events, one after the other, each under
conditions of which something is known. -/
def Tells (P : Conditions → Prop) (w w' : World) : Prop :=
  (∃ told, w'.journal = (w.tellEach told).journal ∧ ∀ x ∈ told, P x.1) ∧ w'.listeners = w.listeners

namespace Tells
variable {P Q : Conditions → Prop}

theorem of_journal (hj : w'.journal = w.journal) (hl : w'.listeners = w.listeners) : Tells P w w' :=
  ⟨⟨[], hj, by simp⟩, hl⟩

theorem notify (w : World) (e : Event) (h : P w.given) : Tells P w (w.notify e).2 :=
  ⟨⟨[(w.given, e)], rfl, by simpa using h⟩, rfl⟩

theorem mono (h : Tells P w w') (hpq : ∀ given, P given → Q given) : Tells Q w w' := by
  obtain ⟨⟨told, hj, hp⟩, hl⟩ := h
  exact ⟨⟨told, hj, fun x hx => hpq _ (hp x hx)⟩, hl⟩

theorem trans (h : Tells P w w') (h' : Tells P w' w'') : Tells P w w'' := by
  obtain ⟨⟨told, hj, hp⟩, hl⟩ := h
  obtain ⟨⟨later, hj', hp'⟩, hl'⟩ := h'
  refine ⟨⟨told ++ later, ?_, fun x hx => ?_⟩, hl'.trans hl⟩
  · rw [hj', tellEach_append]
    exact journal_tellEach_congr (hl.trans (listeners_tellEach w told).symm) hj later
  · exact (List.mem_append.1 hx).elim (hp x) (hp' x)

end Tells

end World

namespace Stage
variable {g g' : Stage} {P : Conditions → Prop}

theorem Act.tells (h : Act g g') (hp : P g.world.given) : World.Tells P g.world g'.world := by
  cases h with
  | @tell e => exact .notify g.world e hp
  | add s | remove s | store =>
    -- The event is told in the world whose storage has changed, which listeners do not see.
    exact ⟨⟨[(g.world.given, _)], rfl, by simpa using hp⟩, rfl⟩
  | take | revise => exact .of_journal rfl rfl

theorem Acts.tells (h : Acts g g') (hp : P g.world.given) : World.Tells P g.world g'.world := by
  induction h with
  | refl => exact .of_journal rfl rfl
  | tail hbefore ha ih =>
    -- Acts leave the conditions alone, so the last one tells under those of the first.
    have hgiven := Acts.given hbefore
    exact ih.trans (ha.tells (hgiven ▸ hp))

theorem tells_perform (g : Stage) (operation : Operation) (hp : P g.world.given) :
    World.Tells P g.world (g.perform operation).2.world := by
  obtain hacts | ⟨given, rfl⟩ | ⟨k, d, d', -, -, -, hchanged⟩ := g.perform_cases operation
  · exact hacts.tells hp
  · exact .of_journal rfl rfl
  · -- What bypasses the service is told to nobody.
    rw [hchanged]
    exact .of_journal rfl rfl

def Meets (g : Stage) (operations : List Operation) (given : Conditions) : Prop :=
  given = g.world.given ∨ .await given ∈ operations

theorem tells_run (g : Stage) (operations : List Operation) :
    World.Tells (g.Meets operations) g.world (g.run operations).world := by
  induction operations generalizing g with
  | nil => exact .of_journal rfl rfl
  | cons operation rest ih =>
    refine (tells_perform g operation (.inl rfl)).trans ((ih _).mono ?_)
    rintro given (rfl | hrest)
    · obtain hsame | hawait := given_perform g operation
      · exact .inl hsame
      · exact .inr (List.mem_cons.2 (.inl hawait.symm))
    · exact .inr (List.mem_cons_of_mem _ hrest)

/-- A run tells its listeners of events in order, each under the conditions of its time. Each listener
receives some of them, none twice, and a later one only what an earlier one receives. If no listener
fails, all receive all. -/
theorem received_run_nested (g : Stage) (operations : List Operation) :
    ∃ (told : List (Conditions × Event)) (news : Nat → List Event),
      (∀ x ∈ told, x.1 = g.world.given ∨ .await x.1 ∈ operations) ∧
      (g.run operations).world.journal = (g.world.tellEach told).journal ∧
      (∀ i, (g.run operations).world.journal.received i = g.world.journal.received i ++ news i ∧
        (news i).Sublist (told.map (·.2))) ∧
      (∀ i j, i < j → (news j).Sublist (news i)) ∧
      (g.world.Untroubled told →
        ∀ i, i < g.world.listeners.length → news i = told.map (·.2)) := by
  obtain ⟨⟨told, hj, hmeets⟩, -⟩ := tells_run g operations
  obtain ⟨news, hreceived, hpart, hnested⟩ := World.exists_news_tellEach g.world told
  refine ⟨told, news, hmeets, hj, fun i => ⟨by rw [hj, hreceived], hpart i⟩,
    fun i j hij => hnested i j (Nat.le_of_lt hij), fun hquiet i hi => ?_⟩
  have hall := World.received_tellEach_of_untroubled hquiet hi
  rw [hreceived] at hall
  exact List.append_cancel_left hall

/-- A listener that fails on every other event keeps those from the one behind it. -/
example :
    let stumbling := Trigger.machine false fun stumbles _ =>
      (if stumbles then some (.foreign .runtime "out of reach") else none, !stumbles)
    let w := { Demo.world with
      listeners := [.recorder, .failing stumbling (.foreign .runtime "out of reach"), .logger] }
    let journal := (({ world := w } : Stage).run Demo.renewal).world.journal
    [0, 1, 2].map (fun i => (journal.received i).length) = [7, 7, 4] := by decide

end Stage

end AccessDirectory

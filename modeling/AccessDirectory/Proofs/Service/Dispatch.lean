import AccessDirectory.Proofs.Service.Replay

/-! What telling the listeners of an event comes to: either all receive it, or the first that fails is
the last to receive it. -/

namespace AccessDirectory
variable {given : Conditions} {e : Event}

theorem deliver_append (given : Conditions) (e : Event) (place : Nat) (earlier later : List Listener)
    (j : Journal) :
    deliver given e place (earlier ++ later) j =
      match deliver given e place earlier j with
      | (some f, j) => (some f, j)
      | (none, j) => deliver given e (place + earlier.length) later j := by
  induction earlier generalizing place j with
  | nil => rfl
  | cons l rest ih =>
    rw [List.cons_append, deliver, deliver]
    cases hl : l.handle given place j e with
    | mk failure j' =>
      cases failure with
      | some f => rfl
      | none =>
        simp only [ih, List.length_cons]
        rw [show place + 1 + rest.length = place + (rest.length + 1) by omega]

theorem deliver_eq_some {place : Nat} {ls : List Listener} {j : Journal} {f : Failure} :
    (deliver given e place ls j).1 = some f ↔
      ∃ earlier l later j', ls = earlier ++ l :: later ∧
        deliver given e place earlier j = (none, j') ∧
        (l.handle given (place + earlier.length) j' e).1 = some f := by
  constructor
  · intro h
    induction ls generalizing place j with
    | nil => cases h
    | cons l rest ih =>
      rw [deliver] at h
      cases hl : l.handle given place j e with
      | mk failure j' =>
        rw [hl] at h
        cases failure with
        | some g =>
          cases h
          exact ⟨[], l, rest, j, rfl, rfl, by rw [List.length_nil, Nat.add_zero, hl]⟩
        | none =>
          obtain ⟨earlier, m, later, j'', rfl, hd, hm⟩ := ih h
          refine ⟨l :: earlier, m, later, j'', rfl, ?_, ?_⟩
          · rw [deliver, hl]
            exact hd
          · rw [List.length_cons, show place + (earlier.length + 1) = place + 1 + earlier.length by omega]
            exact hm
  · rintro ⟨earlier, l, later, j', rfl, hd, hl⟩
    rw [deliver_append, hd]
    simp only [deliver]
    split
    next g j'' hg =>
      rw [hg] at hl
      exact hl
    next j'' hg =>
      rw [hg] at hl
      cases hl

theorem Listener.received_handle_self (given : Conditions) (place : Nat) (j : Journal) (e : Event)
    (l : Listener) : (l.handle given place j e).2.received place = j.received place ++ [e] := by
  rw [received_handle, Journal.received_receive, if_pos rfl]

theorem Listener.received_handle_of_ne (given : Conditions) {place i : Nat} (h : i ≠ place)
    (j : Journal) (e : Event) (l : Listener) :
    (l.handle given place j e).2.received i = j.received i := by
  rw [received_handle, Journal.received_receive, if_neg h.symm, List.append_nil]

theorem received_deliver_cons (given : Conditions) (e : Event) (place : Nat) (l : Listener)
    (rest : List Listener) (j : Journal) :
    (deliver given e place (l :: rest) j).2.received place = j.received place ++ [e] := by
  have hone := l.received_handle_self given place j e
  rw [deliver]
  split <;> rename_i hl <;> rw [hl] at hone
  · exact hone
  · rw [received_deliver_of_lt _ _ (by omega), hone]

/-- A listener receives an event once or, if one before it fails, not at all. -/
theorem exists_received_deliver (given : Conditions) (e : Event) (place i : Nat) (ls : List Listener)
    (j : Journal) :
    ∃ got, got.Sublist [e] ∧ (deliver given e place ls j).2.received i = j.received i ++ got := by
  induction ls generalizing place j with
  | nil => exact ⟨[], List.nil_sublist _, by simp [deliver]⟩
  | cons l rest ih =>
    by_cases hi : i = place
    · subst hi
      exact ⟨[e], List.Sublist.refl _, received_deliver_cons ..⟩
    have hskip := l.received_handle_of_ne given hi j e
    rw [deliver]
    split <;> rename_i j' hl <;> rw [hl] at hskip
    · exact ⟨[], List.nil_sublist _, by simpa using hskip⟩
    · obtain ⟨got, hgot, hr⟩ := ih (place + 1) j'
      exact ⟨got, hgot, by rw [hr, hskip]⟩

theorem received_deliver_of_none {place i : Nat} {ls : List Listener} {j : Journal}
    (h : (deliver given e place ls j).1 = none) (hi : place ≤ i) (hlt : i < place + ls.length) :
    (deliver given e place ls j).2.received i = j.received i ++ [e] := by
  induction ls generalizing place j with
  | nil =>
    rw [List.length_nil] at hlt
    omega
  | cons l rest ih =>
    by_cases heq : i = place
    · subst heq
      exact received_deliver_cons ..
    have hskip := l.received_handle_of_ne given heq j e
    rw [List.length_cons] at hlt
    rw [deliver] at h ⊢
    split at h <;> rename_i j' hl
    · cases h
    · rw [hl] at hskip
      rw [ih h (by omega) (by omega), hskip]

namespace World
variable {w : World}

def Raises (w : World) (e : Event) (f : Failure) : Prop :=
  ∃ earlier l later j, w.listeners = earlier ++ l :: later ∧
    deliver w.given e 0 earlier w.journal = (none, j) ∧
    (l.handle w.given earlier.length j e).1 = some f

theorem notify_eq_some {f : Failure} : (w.notify e).1 = some f ↔ w.Raises e f := by
  simp only [notify, deliver_eq_some, Raises, Nat.zero_add]

theorem notify_eq_none : (w.notify e).1 = none ↔ ∀ f, ¬w.Raises e f := by
  simp only [Option.eq_none_iff_forall_ne_some, ne_eq, notify_eq_some]

def tellAll (w : World) (events : List Event) : World :=
  events.foldl (fun w e => (w.notify e).2) w

@[simp] theorem directories_tellAll (w : World) (events : List Event) :
    (w.tellAll events).directories = w.directories := by
  induction events generalizing w with
  | nil => rfl
  | cons e rest ih => exact ih (w.notify e).2

theorem exists_received_tellAll (w : World) (events : List Event) (place : Nat) :
    ∃ got, got.Sublist events ∧
      (w.tellAll events).journal.received place = w.journal.received place ++ got := by
  induction events generalizing w with
  | nil => exact ⟨[], List.Sublist.refl _, by simp [tellAll]⟩
  | cons e rest ih =>
    obtain ⟨one, hone, he⟩ := exists_received_deliver w.given e 0 place w.listeners w.journal
    obtain ⟨got, hgot, hr⟩ := ih (w.notify e).2
    refine ⟨one ++ got, hone.append hgot, hr.trans ?_⟩
    rw [notify, he, List.append_assoc]

/-- The listener in front receives every event, also those on which it fails. -/
theorem received_tellAll_front (h : w.listeners ≠ []) (events : List Event) :
    (w.tellAll events).journal.received 0 = w.journal.received 0 ++ events := by
  obtain ⟨l, rest, hl⟩ := List.exists_cons_of_ne_nil h
  induction events generalizing w with
  | nil => simp [tellAll]
  | cons e events ih =>
    have hone : (w.notify e).2.journal.received 0 = w.journal.received 0 ++ [e] := by
      simp only [notify, hl, received_deliver_cons]
    have hrest := ih (w := (w.notify e).2) h hl
    rw [hone, List.append_assoc] at hrest
    exact hrest

theorem reportFailure_snd (w : World) (e : Event) (f : Failure) :
    (w.reportFailure e f).2 = (w.notify (e.failed f)).2 := by
  unfold reportFailure
  split <;> rename_i h <;> rw [h]

theorem reportFailure_fst (w : World) (e : Event) (f : Failure) :
    w.Raises (e.failed f) (w.reportFailure e f).1 ∨
      (w.reportFailure e f).1 = f ∧ ∀ f', ¬w.Raises (e.failed f) f' := by
  unfold reportFailure
  split <;> rename_i h
  · exact .inr ⟨rfl, notify_eq_none.1 (congrArg Prod.fst h)⟩
  · exact .inl (notify_eq_some.1 (congrArg Prod.fst h))

theorem refuse_eq (w : World) (e : Event) (f : Failure) :
    w.refuse e f = (.error (w.reportFailure e f).1, (w.notify (e.failed f)).2) := by
  rw [refuse, reportFailure_snd]

theorem reportSuccess_of_raises {e : Event} {f : Failure} (h : w.Raises e f) :
    w.reportSuccess e = (w.notify e).2.refuse e f := by
  have hf := notify_eq_some.2 h
  unfold reportSuccess
  split <;> rename_i hn <;> rw [hn] at hf <;> cases hf
  rw [hn]
  rfl

theorem reportSuccess_of_not_raises {e : Event} (h : ∀ f, ¬w.Raises e f) :
    w.reportSuccess e = (.ok (), (w.notify e).2) := by
  have hf := notify_eq_none.2 h
  unfold reportSuccess
  split <;> rename_i hn <;> rw [hn] at hf <;> cases hf
  rw [hn]

theorem received_tellAll_of_not_raises {e : Event} (h : ∀ f, ¬w.Raises e f) {place : Nat}
    (hp : place < w.listeners.length) :
    (w.tellAll [e]).journal.received place = w.journal.received place ++ [e] :=
  received_deliver_of_none (notify_eq_none.2 h) (Nat.zero_le _) (by omega)

end World
end AccessDirectory

import AccessDirectory.Proofs.Number.Milliseconds
import AccessDirectory.Representation

/-! When a user was last active, as clients see it: whole milliseconds are shown as they are, except that
those whose seconds are rounded down by too much are shown one nearer to 1970. -/

namespace AccessDirectory.Kind

theorem lookup_lastActive (u : User) :
    (represent (k := .user) u).lookup "lastActive" =
      u.lastActive.map fun t => .int (Clock.milliseconds t) := by
  have husername : ("lastActive" == "username") = false := by decide
  have hattributes : ("lastActive" == "attributes") = false := by decide
  cases ht : u.lastActive with
  | none => simp [represent, ht, List.lookup_cons, husername, hattributes]
  | some t => simp [represent, ht, List.lookup_cons, husername, hattributes]

theorem lastActive_shown {u : User} {m : Int} (hu : u.lastActive = some (m * 1000))
    (h : Clock.inRange (m * 1000)) :
    (represent (k := .user) u).lookup "lastActive" =
      some (.int (if Clock.LosesMillisecond m.natAbs then m - m.sign else m)) := by
  rw [lookup_lastActive, hu, Option.map_some, Clock.milliseconds_whole h]

theorem lastActive_shown_before_epoch :
    Clock.inRange (-1001 * 1000) ∧
      (represent (k := .user) { identifier := "bob", lastActive := some (-1001 * 1000) }).lookup
        "lastActive" = some (.int (-1000)) := by
  refine ⟨by decide, ?_⟩
  have h := lastActive_shown (u := { identifier := "bob", lastActive := some (-1001 * 1000) })
    (m := -1001) rfl (by decide)
  rwa [if_pos (by decide)] at h

/-- A second and a millisecond after the start of 1970 is shown as the second alone. -/
theorem lastActive_falls_short :
    ¬ ∀ (u : User) (m : Int), u.lastActive = some (m * 1000) → Clock.inRange (m * 1000) →
      (represent (k := .user) u).lookup "lastActive" = some (.int m) := by
  intro h
  have hshown := h { identifier := "bob", lastActive := some (1001 * 1000) } 1001 rfl (by decide)
  rw [lookup_lastActive, Option.map_some, Clock.milliseconds_whole (by decide),
    if_pos (by decide)] at hshown
  exact absurd (Json.int.inj (Option.some.inj hshown)) (by decide)

end AccessDirectory.Kind

import AccessDirectory.Proofs.Failing
import AccessDirectory.Token.Validity

/-! What validation of a token depends on. Where the key is fit and the clock shows a date, validation
succeeds or the token is rejected. -/

namespace AccessDirectory

namespace Token

theorem eq_of_checkKey {key fit : String} (h : checkKey key = .ok fit) : fit = key := by
  unfold checkKey at h
  split at h
  · cases h
  split at h
  · cases h
  split at h
  · cases h
  · cases h
    rfl

theorem checkKey_of_plain {key : String} (hempty : ¬key.isEmpty)
    (hplain : ¬(isArmoured key.toList || isShellKey key.toList))
    (hdescription : ¬isDescription (Text.Utf8.encode key)) : checkKey key = .ok key := by
  rw [checkKey, if_neg hempty, if_neg hplain, if_neg hdescription]

theorem checkKey_secret : checkKey "secret" = .ok "secret" :=
  checkKey_of_plain (by decide) (by decide +kernel) (by decide +kernel)

/-- A fault of the token, and not of the key or the clock. -/
def Fault.IsRejection (fault : Fault) : Prop := ∃ r, fault = .rejected r

theorem failsOnly_rejecting {α : Type} (result : Except Rejection α) :
    FailsOnly Fault.IsRejection (rejecting result) := by
  cases result with
  | ok x => exact .ok x
  | error r => exact .error ⟨r, rfl⟩

theorem failsOnly_validate {key key' : String} {now : Clock.Instant}
    (hkey : checkKey key = .ok key') (hnow : Clock.inRange now) (token : String) :
    FailsOnly Fault.IsRejection (validate token key now) := by
  refine (failsOnly_rejecting _).bind fun parts => (failsOnly_rejecting _).bind fun _ => ?_
  rw [hkey]
  dsimp only
  split
  · exact .error ⟨_, rfl⟩
  · refine (failsOnly_rejecting _).bind fun claims => (failsOnly_rejecting _).bind fun _ => ?_
    rw [hnow]
    exact (failsOnly_rejecting _).bind fun _ => .ok _

end Token

end AccessDirectory

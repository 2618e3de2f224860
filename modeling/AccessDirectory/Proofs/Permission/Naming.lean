import AccessDirectory.Permission
import AccessDirectory.Proofs.Failing

/-! The names of permissions on objects. A permission goes by its own name, and one of them by a second
name; no other value names one. -/

namespace AccessDirectory

namespace ObjectPermission

def Named (p : ObjectPermission) (name : String) : Prop :=
  name = p.name ∨ name = "WRITE" ∧ p = .update

theorem ofName?_eq_some {name : String} {p : ObjectPermission} :
    ofName? name = some p ↔ p.Named name := by
  constructor
  · intro h
    unfold ofName? at h
    split at h
    next hwrite => exact .inr ⟨hwrite, (Option.some.inj h).symm⟩
    next =>
      have hname := List.find?_some h
      have : p.name = name := by simpa using hname
      exact .inl this.symm
  · rintro (rfl | ⟨rfl, rfl⟩)
    · exact ofName?_name p
    · rfl

theorem ofJson_str {name : String} {p : ObjectPermission} (h : p.Named name) :
    ofJson (.str name) = .ok p := by simp only [ofJson, ofName?_eq_some.2 h]

def DenotedBy (p : ObjectPermission) (v : Json) : Prop := ∃ name, v = .str name ∧ p.Named name

theorem denotedBy_str {name : String} {p : ObjectPermission} :
    p.DenotedBy (.str name) ↔ p.Named name := by
  simp [DenotedBy]

theorem ofJson_eq_ok {v : Json} {p : ObjectPermission} : ofJson v = .ok p ↔ p.DenotedBy v := by
  constructor
  · intro h
    unfold ofJson at h
    cases v with
    | str name =>
      cases hname : ofName? name with
      | none => simp [hname] at h
      | some q =>
        obtain rfl : q = p := by simpa [hname] using h
        exact ⟨name, rfl, ofName?_eq_some.1 hname⟩
    | _ => simp at h
  · rintro ⟨name, rfl, h⟩
    exact ofJson_str h

theorem failsOnly_ofJson (v : Json) : FailsOnly (·.kind = .value) (ofJson v) := by
  unfold ofJson
  dsimp only
  split
  · exact .ok _
  · exact .error rfl

theorem DenotedBy.unique {v : Json} {p q : ObjectPermission} (hp : p.DenotedBy v)
    (hq : q.DenotedBy v) : p = q :=
  Except.ok.inj ((ofJson_eq_ok.2 hp).symm.trans (ofJson_eq_ok.2 hq))

theorem exists_mapM_ofJson {names : List String}
    (h : ∀ n ∈ names, ∃ p : ObjectPermission, p.Named n) :
    ∃ ps, (names.map Json.str).mapM ofJson = .ok ps ∧
      ∀ p, p ∈ ps ↔ ∃ n ∈ names, p.Named n := by
  obtain ⟨ps, hps, hmem⟩ : ∃ ps, (names.map Json.str).mapM ofJson = .ok ps ∧
      ∀ p, p ∈ ps ↔ ∃ v ∈ names.map Json.str, ofJson v = .ok p := by
    refine exists_mapM_ok fun v hv => ?_
    obtain ⟨n, hn, rfl⟩ := List.mem_map.1 hv
    obtain ⟨p, hp⟩ := h n hn
    exact ⟨p, ofJson_str hp⟩
  refine ⟨ps, hps, fun p => ?_⟩
  simp [hmem, ofJson_eq_ok, denotedBy_str]

end ObjectPermission

end AccessDirectory

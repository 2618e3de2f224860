import AccessDirectory.Config.Settings
import AccessDirectory.Proofs.Failing
import AccessDirectory.Proofs.Text.Blank
import Mathlib.Data.Option.Basic

/-! What settings are loaded. They are loaded just if nothing that is given is out of order; every part
of them can then be used, and whoever loads them again is given the same. -/

namespace AccessDirectory

structure SecretMissing (files : SecretFiles) (env : Environment) (name variableName : String) :
    Prop where
  inFile : ∀ contents, files.get? name = some (.text contents) → Text.isBlankText contents
  inVariable : ∀ value, env.get? variableName = some value → value = ""

theorem nonEmpty?_eq_none_iff {value : Option String} :
    nonEmpty? value = none ↔ ∀ text, value = some text → text = "" := by
  simp [nonEmpty?, Option.filter_eq_none_iff]

theorem ne_empty_of_nonEmpty? {value : Option String} {text : String}
    (h : nonEmpty? value = some text) : text ≠ "" := by
  have htext := (Option.filter_eq_some_iff.1 h).2
  simpa using htext

namespace SecretFile

theorem secret?_text_eq_none_iff {contents : String} :
    (text contents).secret? = none ↔ Text.isBlankText contents := by
  rw [secret?, nonEmpty?_eq_none_iff]
  simp only [Option.some.injEq, forall_eq']
  rw [Text.strip_eq_empty_iff, Text.isBlankText, String.toList_ofList, Text.all_isBlank_unifyEndings,
    Text.isBlankText]

theorem secret?_ne_empty {file : SecretFile} {key : String} (h : file.secret? = some key) :
    key ≠ "" := by
  cases file with
  | text contents => exact ne_empty_of_nonEmpty? h
  | directory => cases h
  | unreadable => cases h
  | garbled => cases h

end SecretFile

section
variable {files : SecretFiles} {env : Environment} {name variableName key : String}

theorem loadSecret_eq_none_iff :
    loadSecret files env name (some variableName) = none ↔
      SecretMissing files env name variableName := by
  rw [loadSecret, chooseSecret, Option.orElse_eq_none, Option.bind_some, nonEmpty?_eq_none_iff,
    Option.bind_eq_none_iff]
  refine ⟨fun ⟨hfile, hvariable⟩ => ⟨fun contents h => ?_, hvariable⟩,
    fun h => ⟨fun file hfile => ?_, h.inVariable⟩⟩
  · exact SecretFile.secret?_text_eq_none_iff.1 (hfile _ h)
  · cases file with
    | text contents => exact SecretFile.secret?_text_eq_none_iff.2 (h.inFile contents hfile)
    | directory => rfl
    | unreadable => rfl
    | garbled => rfl

theorem loadSecret_ne_empty
    (h : loadSecret files env name (some variableName) = some key) : key ≠ "" := by
  rw [loadSecret, chooseSecret, Option.orElse_eq_some] at h
  obtain h | ⟨-, h⟩ := h
  · obtain ⟨file, -, hfile⟩ := Option.bind_eq_some_iff.1 h
    exact SecretFile.secret?_ne_empty hfile
  · exact ne_empty_of_nonEmpty? h

theorem loadSecret_put (h : SecretMissing files env name variableName) (hkey : key ≠ "") :
    loadSecret files (env.put variableName key) name (some variableName) = some key := by
  have hnone := loadSecret_eq_none_iff.2 h
  rw [loadSecret, chooseSecret, Option.orElse_eq_none] at hnone
  rw [loadSecret, chooseSecret, hnone.1, Option.bind_some, Table.get?_put_self]
  simp [nonEmpty?, Option.filter, hkey]

end

namespace Settings

structure Usable (s : Settings) : Prop where
  secretKey : s.secretKey ≠ ""
  maxBodySize : 0 < s.maxBodySize
  tokenLifetime : 0 < s.tokenLifetime
  logLevel : ∃ severity : Severity, s.logLevel = severity.name
  /-- One slash stands in front of the base path, and none behind unless it is the one in front. -/
  basePath : ∃ rest, s.basePath.toList = '/' :: rest ∧ rest.head? ≠ some '/' ∧
    rest.getLast? ≠ some '/'

def Keyless (files : SecretFiles) (env : Environment) : Prop :=
  SecretMissing files env "flask_secret_key" keyVariable

/-- A variable holds a positive integer, if it holds more than blanks. -/
def HoldsPositive (env : Environment) (name : String) : Prop :=
  ∀ given, env.get? name = some given → Text.isBlankText given = false →
    ∃ n, Text.readInt? given = some n ∧ 0 < n

def HoldsLogLevel (env : Environment) : Prop :=
  ∃ severity : Severity,
    Text.upper (Text.strip ((env.get? "LOG_LEVEL").getD "INFO")) = severity.name

@[mk_iff]
structure RestLoadable (files : SecretFiles) (env : Environment) : Prop where
  auditKeyFile : files.get? "audit_log_signing_key" ≠ some .garbled
  logLevel : HoldsLogLevel env
  maxBodySize : HoldsPositive env "JSON_MAX_SIZE_BYTES"
  tokenLifetime : HoldsPositive env "TOKEN_LIFETIME_SECONDS"

/-- Nothing that is given is out of order, and a key may be missing in demo mode only. -/
structure Loadable (files : SecretFiles) (env : Environment) : Prop
    extends RestLoadable files env where
  keyFile : files.get? "flask_secret_key" ≠ some .garbled
  demoIfKeyless : Keyless files env → readFlag env "DEMO_MODE" false

section
variable {files : SecretFiles} {env : Environment}

theorem readPositive_succeedsIf (name : String) {default : Int} (h : 0 < default) :
    SucceedsIf (HoldsPositive env name) (0 < ·) (readPositive env name default) := by
  rw [readPositive]
  cases hget : env.get? name with
  | none => exact .ok (by simp [HoldsPositive, hget]) h
  | some given =>
    simp only
    split
    case isTrue hblank => exact .ok (by simp [HoldsPositive, hget, hblank]) h
    case isFalse hblank =>
      have hholds : HoldsPositive env name ↔ ∃ n, Text.readInt? given = some n ∧ 0 < n := by
        simp [HoldsPositive, hget, hblank]
      cases hread : Text.readInt? given with
      | none => exact .error (by simp [hholds, hread])
      | some n =>
        simp only
        split
        case isTrue hn => exact .error (by simpa [hholds, hread] using hn)
        case isFalse hn => exact .ok (hholds.2 ⟨n, hread, Int.not_le.1 hn⟩) (Int.not_le.1 hn)

theorem readLogLevel_succeedsIf :
    SucceedsIf (HoldsLogLevel env) (fun level => ∃ severity : Severity, level = severity.name)
      (readLogLevel env) := by
  rw [readLogLevel]
  split
  case isTrue hknown =>
    have hlevel := Severity.isSome_ofName?_iff.1 hknown
    exact .ok hlevel hlevel
  case isFalse hunknown => exact .error fun hlevel => hunknown (Severity.isSome_ofName?_iff.2 hlevel)

theorem readSecret_succeedsIf (name variableName : String) :
    SucceedsIf (files.get? name ≠ some .garbled)
      (· = loadSecret files env name (some variableName)) (readSecret files env name variableName) := by
  rw [readSecret]
  split
  case isTrue hgarbled => exact .error (not_not.2 hgarbled)
  case isFalse htext => exact .ok htext rfl

theorem basePathOf_rooted (given : String) :
    ∃ rest, (basePathOf given).toList = '/' :: rest ∧ rest.head? ≠ some '/' ∧
      rest.getLast? ≠ some '/' := by
  refine ⟨Text.trimBy (· = '/') (Text.strip given).toList, ?_, fun h => ?_, fun h => ?_⟩
  · rw [basePathOf, String.toList_ofList]
  · simpa using Text.head?_trimBy h
  · simpa using Text.getLast?_trimBy h

structure UsableWith (demoMode : Bool) (key : String) (generated : Bool) (s : Settings) : Prop where
  usable : s.Usable
  demoMode : s.demoMode = demoMode
  secretKey : s.secretKey = key
  generated : s.secretKeyGenerated = generated

theorem loadRest_succeedsIf (demoMode generated : Bool) {key : String} (hkey : key ≠ "") :
    SucceedsIf (RestLoadable files env) (UsableWith demoMode key generated)
      (loadRest files env demoMode key generated) := by
  have haudit : SucceedsIf (files.get? "audit_log_signing_key" ≠ some .garbled) (fun _ => True)
      (readAuditKey files env demoMode) :=
    (readSecret_succeedsIf _ _).map fun _ _ => trivial
  have hsteps : SucceedsIf
      (files.get? "audit_log_signing_key" ≠ some .garbled ∧ HoldsLogLevel env ∧
        HoldsPositive env "JSON_MAX_SIZE_BYTES" ∧ HoldsPositive env "TOKEN_LIFETIME_SECONDS" ∧ True)
      (UsableWith demoMode key generated) (loadRest files env demoMode key generated) :=
    haudit.bind fun _ _ => readLogLevel_succeedsIf.bind fun _ hlevel =>
      (readPositive_succeedsIf _ (by decide)).bind fun _ hsize =>
        (readPositive_succeedsIf _ (by decide)).bind fun _ hlifetime =>
          .ok trivial ⟨⟨hkey, hsize, hlifetime, hlevel, basePathOf_rooted _⟩, rfl, rfl, rfl⟩
  exact hsteps.of_iff (by rw [restLoadable_iff, and_true])

theorem loadRest_put {demoMode generated : Bool} {key value : String} :
    loadRest files (env.put keyVariable value) demoMode key generated =
      loadRest files env demoMode key generated := by
  simp [loadRest, readAuditKey, readSecret, loadSecret, chooseSecret, readLogLevel, readPositive,
    readFlag, Table.get?_put, keyVariable]

theorem loadRest_given {demoMode generated : Bool} {key : String} {s : Settings}
    (h : loadRest files env demoMode key generated = .ok s) :
    loadRest files env demoMode key false = .ok { s with secretKeyGenerated := false } := by
  obtain ⟨auditKey, haudit, h⟩ := bind_eq_ok.1 h
  obtain ⟨logLevel, hlevel, h⟩ := bind_eq_ok.1 h
  obtain ⟨maxBodySize, hsize, h⟩ := bind_eq_ok.1 h
  obtain ⟨tokenLifetime, hlifetime, h⟩ := bind_eq_ok.1 h
  cases h
  rw [loadRest, haudit, hlevel, hsize, hlifetime]
  rfl

theorem readFlag_put {name value : String} {default : Bool} (h : name ≠ keyVariable) :
    readFlag (env.put keyVariable value) name default = readFlag env name default := by
  rw [readFlag, Table.get?_put_ne _ _ h, readFlag]

theorem load_of_garbled (hfile : files.get? "flask_secret_key" = some .garbled) (fresh : String) :
    load files env fresh = (.error (.secretGarbled "flask_secret_key"), env) := by
  rw [load, readSecret, if_pos hfile]

theorem load_of_key {key : String} (hfile : files.get? "flask_secret_key" ≠ some .garbled)
    (hkey : loadSecret files env "flask_secret_key" (some keyVariable) = some key) (fresh : String) :
    load files env fresh =
      (loadRest files env (readFlag env "DEMO_MODE" false) key false, env) := by
  rw [load, readSecret, if_neg hfile, hkey]

theorem load_of_keyless (hfile : files.get? "flask_secret_key" ≠ some .garbled)
    (hkey : Keyless files env) (fresh : String) :
    load files env fresh =
      if readFlag env "DEMO_MODE" false then
        (loadRest files env (readFlag env "DEMO_MODE" false) fresh true, env.put keyVariable fresh)
      else (.error .keyMissing, env) := by
  rw [load, readSecret, if_neg hfile, loadSecret_eq_none_iff.2 hkey]
  simp only [loadRest_put]

structure Loaded (files : SecretFiles) (env : Environment) (fresh : String) (s : Settings)
    (after : Environment) : Prop where
  usable : s.Usable
  demoMode : s.demoMode = readFlag env "DEMO_MODE" false
  generated : s.secretKeyGenerated ↔ Keyless files env
  /-- A key that was made up is left in its variable. -/
  kept : s.secretKeyGenerated → s.demoMode ∧ s.secretKey = fresh ∧ after = env.put keyVariable fresh
  given : ¬ s.secretKeyGenerated →
    loadSecret files env "flask_secret_key" (some keyVariable) = some s.secretKey ∧ after = env
  /-- Loading again gives the same, whatever key would be made up. -/
  again : ∀ other, load files after other = (.ok { s with secretKeyGenerated := false }, after)

theorem loaded_of_key {key fresh : String} {s : Settings}
    (hfile : files.get? "flask_secret_key" ≠ some .garbled)
    (hkey : loadSecret files env "flask_secret_key" (some keyVariable) = some key)
    (hload : loadRest files env (readFlag env "DEMO_MODE" false) key false = .ok s)
    (hs : UsableWith (readFlag env "DEMO_MODE" false) key false s) : Loaded files env fresh s env where
  usable := hs.usable
  demoMode := hs.demoMode
  generated := by
    rw [Keyless, ← loadSecret_eq_none_iff, hkey, hs.generated]
    simp
  kept h := by simp [hs.generated] at h
  given _ := ⟨by rw [hkey, hs.secretKey], rfl⟩
  again other := by rw [load_of_key hfile hkey, loadRest_given hload]

theorem loaded_of_keyless {fresh : String} {s : Settings} (hfresh : fresh ≠ "")
    (hfile : files.get? "flask_secret_key" ≠ some .garbled) (hkey : Keyless files env)
    (hdemo : readFlag env "DEMO_MODE" false)
    (hload : loadRest files env (readFlag env "DEMO_MODE" false) fresh true = .ok s)
    (hs : UsableWith (readFlag env "DEMO_MODE" false) fresh true s) :
    Loaded files env fresh s (env.put keyVariable fresh) where
  usable := hs.usable
  demoMode := hs.demoMode
  generated := by simp [hs.generated, hkey]
  kept _ := ⟨by rw [hs.demoMode, hdemo], hs.secretKey, rfl⟩
  given h := absurd hs.generated h
  again other := by
    -- The key now comes from its variable, and nothing else is read from there.
    rw [load_of_key hfile (loadSecret_put hkey hfresh), loadRest_put, readFlag_put (by decide),
      loadRest_given hload]

theorem load_of_rest {demoMode generated : Bool} {key fresh : String} {after : Environment}
    (hkey : key ≠ "")
    (hload : load files env fresh = (loadRest files env demoMode key generated, after))
    (hloadable : Loadable files env ↔ RestLoadable files env)
    (hloaded : ∀ s, loadRest files env demoMode key generated = .ok s →
      UsableWith demoMode key generated s → Loaded files env fresh s after) :
    (Loadable files env →
      ∃ s, load files env fresh = (.ok s, after) ∧ Loaded files env fresh s after) ∧
    (¬ Loadable files env → ∃ fault, load files env fresh = (.error fault, after)) := by
  have hrest : SucceedsIf (RestLoadable files env) _ _ := loadRest_succeedsIf demoMode generated hkey
  rw [hload, hloadable]
  constructor
  · intro hl
    obtain ⟨s, hs, husable⟩ := hrest.success hl
    exact ⟨s, by rw [hs], hloaded s hs husable⟩
  · intro hno
    obtain ⟨fault, hfault⟩ := hrest.failure hno
    exact ⟨fault, by rw [hfault]⟩

/-- Settings are loaded just if nothing is out of order. What is loaded can be used, and is loaded again
as long as the environment stays. A made-up key, which only demo mode has, is all that loading changes
there. -/
theorem load_usable (files : SecretFiles) (env : Environment) {fresh : String} (hfresh : fresh ≠ "") :
    (Loadable files env →
      ∃ s after, load files env fresh = (.ok s, after) ∧ Loaded files env fresh s after) ∧
    (¬ Loadable files env →
      ∃ fault after, load files env fresh = (.error fault, after) ∧
        (after = env ∨
          Keyless files env ∧ readFlag env "DEMO_MODE" false ∧ after = env.put keyVariable fresh)) := by
  by_cases hfile : files.get? "flask_secret_key" = some .garbled
  · exact ⟨fun hl => absurd hfile hl.keyFile,
      fun _ => ⟨_, env, load_of_garbled hfile fresh, .inl rfl⟩⟩
  cases hkey : loadSecret files env "flask_secret_key" (some keyVariable) with
  | some key =>
    have hgiven : ¬ Keyless files env := by
      rw [Keyless, ← loadSecret_eq_none_iff, hkey]
      simp
    obtain ⟨hok, hfails⟩ := load_of_rest (loadSecret_ne_empty hkey) (load_of_key hfile hkey fresh)
      ⟨fun hl => hl.toRestLoadable, fun hr => ⟨hr, hfile, fun h => absurd h hgiven⟩⟩
      fun s => loaded_of_key hfile hkey
    exact ⟨fun hl => (hok hl).imp fun s hs => ⟨env, hs⟩,
      fun hno => (hfails hno).imp fun fault hfault => ⟨env, hfault, .inl rfl⟩⟩
  | none =>
    -- Only here a key is made up, which demo mode allows.
    have hkeyless : Keyless files env := loadSecret_eq_none_iff.1 hkey
    have hload := load_of_keyless hfile hkeyless fresh
    by_cases hdemo : readFlag env "DEMO_MODE" false
    · rw [if_pos hdemo] at hload
      obtain ⟨hok, hfails⟩ := load_of_rest hfresh hload
        ⟨fun hl => hl.toRestLoadable, fun hr => ⟨hr, hfile, fun _ => hdemo⟩⟩
        fun s => loaded_of_keyless hfresh hfile hkeyless hdemo
      exact ⟨fun hl => (hok hl).imp fun s hs => ⟨_, hs⟩,
        fun hno => (hfails hno).imp fun fault hfault => ⟨_, hfault, .inr ⟨hkeyless, hdemo, rfl⟩⟩⟩
    · rw [if_neg hdemo] at hload
      exact ⟨fun hl => absurd (hl.demoIfKeyless hkeyless) hdemo, fun _ => ⟨_, env, hload, .inl rfl⟩⟩

def demoFiles : SecretFiles := .ofList [("flask_secret_key", .text " \r\n")]

def demoEnvironment : Environment :=
  .ofList [("DEMO_MODE", " True "), (keyVariable, ""), ("LOG_LEVEL", "debug\n"),
    ("API_PREFIX", " //v1/ "), ("JSON_MAX_SIZE_BYTES", " "), ("TOKEN_LIFETIME_SECONDS", "+1_800")]

theorem load_usable_demo :
    Loadable demoFiles demoEnvironment ∧
      ∃ s, load demoFiles demoEnvironment "k" = (.ok s, demoEnvironment.put keyVariable "k") ∧
        Loaded demoFiles demoEnvironment "k" s (demoEnvironment.put keyVariable "k") := by
  have hkeyless : Keyless demoFiles demoEnvironment := loadSecret_eq_none_iff.1 (by decide)
  have hl : Loadable demoFiles demoEnvironment := {
    keyFile := by decide
    auditKeyFile := by decide
    demoIfKeyless := fun _ => by decide +kernel
    logLevel := ⟨.debug, by decide +kernel⟩
    maxBodySize := by
      intro given h hblank
      cases h
      exact absurd hblank (by decide)
    tokenLifetime := by
      intro given h hblank
      cases h
      exact ⟨1800, by decide +kernel, by decide⟩ }
  obtain ⟨s, after, hload, hs⟩ := (load_usable demoFiles demoEnvironment (by decide : "k" ≠ "")).1 hl
  obtain ⟨-, -, rfl⟩ := hs.kept (hs.generated.2 hkeyless)
  exact ⟨hl, s, hload, hs⟩

end

end Settings

end AccessDirectory

import Mathlib.Data.List.Nodup
import DevlogGraph.Proofs.Settings.Override

/-! Settings after the environment: the variables are read in their order as long as their values are
valid, and what the log hears of them is never a value. -/
namespace DevlogGraph.Settings

/-- The variable is not set, or to a value that it takes. -/
def Sound (environment : Environment) (key : String) : Prop :=
  ∀ value ∈ environment key, Valid key value

/-- The log entries for those of the variables that are set. -/
def heard (environment : Environment) (keys : List String) : List Event :=
  (keys.filter fun key => (environment key).isSome).map .settingOverridden

/-- The environment without all other variables. -/
def restricted (environment : Environment) (keys : List String) : Environment :=
  fun key => if key ∈ keys then environment key else none

private theorem restricted_cons_unset (unset : environment key = none) (later : List String) :
    restricted environment (key :: later) = restricted environment later := by
  funext other
  by_cases same : other = key
  · simp [restricted, same, unset]
  · simp [restricted, same]

private theorem restricted_cons_set (given : environment key = some value) (later : List String) :
    restricted environment (key :: later) =
      fun other => (only key value other).or (restricted environment later other) := by
  funext other
  by_cases same : other = key
  · simp [restricted, only, same, given]
  · simp [restricted, only, same]

private theorem heard_cons_unset (unset : environment key = none) (later : List String) :
    heard environment (key :: later) = heard environment later := by
  simp [heard, unset]

private theorem heard_cons_set (given : environment key = some value) (later : List String) :
    heard environment (key :: later) = .settingOverridden key :: heard environment later := by
  simp [heard, given]

/-- How the reading of variables ends. -/
inductive Ends (environment : Environment) (keys : List String) (base : Settings) :
    Overridden → Prop where
  | accepted (sound : ∀ key ∈ keys, Sound environment key)
      (obeys : Obeys (restricted environment keys) base after) :
      Ends environment keys base ⟨.ok after, heard environment keys⟩
  | rejected (cut : keys = before ++ key :: later)
      (sound : ∀ other ∈ before, Sound environment other) (given : environment key = some value)
      (invalid : ¬ Valid key value) :
      Ends environment keys base
        ⟨.error (.invalidValue key value), heard environment (before ++ [key])⟩

theorem Ends.unset (ends : Ends environment later base run) (unset : environment key = none) :
    Ends environment (key :: later) base run := by
  have sound_here : Sound environment key := by simp [Sound, unset]
  cases ends with
  | accepted sound obeys =>
    rw [← restricted_cons_unset unset] at obeys
    rw [← heard_cons_unset unset]
    exact .accepted (List.forall_mem_cons.mpr ⟨sound_here, sound⟩) obeys
  | rejected cut sound given invalid =>
    rw [← heard_cons_unset unset, ← List.cons_append]
    exact .rejected (by rw [cut, List.cons_append]) (List.forall_mem_cons.mpr ⟨sound_here, sound⟩)
      given invalid

theorem Ends.set (ends : Ends environment later middle run) (given : environment key = some value)
    (valid : Valid key value) (obeys : Obeys (only key value) base middle) (fresh : key ∉ later) :
    Ends environment (key :: later) base
      { run with events := .settingOverridden key :: run.events } := by
  have sound_here : Sound environment key := by simpa [Sound, given] using valid
  cases ends with
  | accepted sound later_obeys =>
    have apart (other : String) : only key value other = none ∨
        restricted environment later other = none := by
      by_cases same : other = key
      · exact .inr (by rw [same]; exact if_neg fresh)
      · exact .inl (if_neg same)
    have both := obeys.trans later_obeys apart
    rw [← restricted_cons_set given] at both
    rw [← heard_cons_set given]
    exact .accepted (List.forall_mem_cons.mpr ⟨sound_here, sound⟩) both
  | rejected cut sound given_later invalid =>
    rw [← heard_cons_set given, ← List.cons_append]
    exact .rejected (by rw [cut, List.cons_append]) (List.forall_mem_cons.mpr ⟨sound_here, sound⟩)
      given_later invalid

theorem Ends.invalid (given : environment key = some value) (invalid : ¬ Valid key value) :
    Ends environment (key :: later) base
      ⟨.error (.invalidValue key value), [.settingOverridden key]⟩ := by
  have alone : heard environment ([] ++ [key]) = [.settingOverridden key] := heard_cons_set given []
  rw [← alone]
  exact .rejected rfl (by simp) given invalid

/-- Reading goes on as long as the values are valid. -/
theorem applyOverrides_ends {list : List Override} (meet : ∀ override ∈ list, Meets override)
    (distinct : (list.map (·.key)).Nodup) (environment : Environment) (base : Settings) :
    Ends environment (list.map (·.key)) base (applyOverrides environment list base) := by
  -- what earlier variables have changed is the base for the later ones
  induction list generalizing base with
  | nil => exact .accepted (by simp) (.refl (fun _ => rfl) base)
  | cons override later ih =>
    obtain ⟨meets, meet⟩ := List.forall_mem_cons.mp meet
    obtain ⟨fresh, distinct⟩ := List.nodup_cons.mp distinct
    rw [applyOverrides, List.map_cons]
    cases given : environment override.key with
    | none => exact (ih meet distinct base).unset given
    | some value =>
      by_cases valid : Valid override.key value
      · obtain ⟨after, applied, obeys⟩ := meets.accepts valid base
        simp only [applied]
        exact (ih meet distinct after).set given valid obeys fresh
      · simp only [meets.refuses valid base]
        exact .invalid given valid

theorem withEnvironment_ends (base : Settings) (environment : Environment) :
    Ends environment overrideKeys base (base.withEnvironment environment) :=
  applyOverrides_ends overrides_meet (by decide) environment base

instance (environment : Environment) (key : String) : Decidable (Sound environment key) :=
  inferInstanceAs (Decidable (∀ value ∈ environment key, Valid key value))

/-- The first variable that is set to a value that it does not take. -/
def firstFault (environment : Environment) : Option String :=
  overrideKeys.find? fun key => !decide (Sound environment key)

/-- The variables that are read when this is the first faulty one. -/
def readUntil : Option String → List String
  | none => overrideKeys
  | some fault => overrideKeys.takeWhile (· != fault) ++ [fault]

private theorem firstFault_eq_none (sound : ∀ key ∈ overrideKeys, Sound environment key) :
    firstFault environment = none := by
  simpa [firstFault] using sound

private theorem firstFault_of_cut (cut : overrideKeys = before ++ key :: later)
    (sound : ∀ other ∈ before, Sound environment other) (faulty : ¬ Sound environment key) :
    firstFault environment = some key ∧ readUntil (some key) = before ++ [key] := by
  have earlier : ∀ other ∈ before, (other != key) = true := by
    intro other member
    rw [bne_iff_ne]
    rintro rfl
    exact faulty (sound other member)
  constructor
  · rw [firstFault, List.find?_eq_some_iff_append]
    exact ⟨by simpa using faulty, before, later, cut, by simpa using sound⟩
  · rw [readUntil, cut, List.takeWhile_append_of_pos earlier, List.takeWhile_cons_of_neg (by simp),
      List.append_nil]

private theorem faulty_of_given (given : environment key = some value)
    (invalid : ¬ Valid key value) :
    ¬ Sound environment key := fun sound => invalid (sound value given)

/-- What a run over all variables comes to. -/
theorem withEnvironment_cases (base : Settings) (environment : Environment) :
    let run := base.withEnvironment environment
    run.events = heard environment (readUntil (firstFault environment)) ∧
    (((∀ key ∈ overrideKeys, Sound environment key) ∧
        ∃ after, run.outcome = .ok after ∧ Obeys environment base after) ∨
      ∃ key ∈ overrideKeys, ¬ Sound environment key ∧ ∃ value, firstFault environment = some key ∧
        environment key = some value ∧ run.outcome = .error (.invalidValue key value)) := by
  intro run
  have ends : Ends environment overrideKeys base run := withEnvironment_ends base environment
  clear_value run
  cases ends with
  | accepted sound obeys =>
    rw [firstFault_eq_none sound, readUntil]
    exact ⟨rfl, .inl ⟨sound, _, rfl, obeys.congr fun key listed => if_pos listed⟩⟩
  | rejected cut sound given invalid =>
    have faulty := faulty_of_given given invalid
    obtain ⟨fault, read⟩ := firstFault_of_cut cut sound faulty
    rw [fault, read]
    exact ⟨rfl, .inr ⟨_, by simp [cut], faulty, _, rfl, given, rfl⟩⟩

private theorem readUntil_subset (environment : Environment) :
    readUntil (firstFault environment) ⊆ overrideKeys := by
  cases found : firstFault environment with
  | none => exact List.Subset.refl _
  | some key =>
    refine List.append_subset.mpr ⟨(List.takeWhile_sublist _).subset, ?_⟩
    simpa using List.mem_of_find?_eq_some found

/-- The log does not depend on values. -/
private theorem heard_congr (same : ∀ key ∈ keys, (other key).isSome = (environment key).isSome) :
    heard other keys = heard environment keys := by
  rw [heard, heard, List.filter_congr same]

/-- Variables override settings exactly if every value is one that its variable takes. Then each
setting takes its variable, and the same variables change nothing more. Otherwise the first faulty
variable is reported with its value. The log names the variables that were read, and so two
environments that differ in their values alone leave the same log. -/
theorem withEnvironment_overrides (base : Settings) (environment : Environment) :
    let run := base.withEnvironment environment
    ((∃ after, run.outcome = .ok after) ↔ ∀ key ∈ overrideKeys, Sound environment key) ∧
    (∀ after, run.outcome = .ok after → Obeys environment base after ∧
      (after.withEnvironment environment).outcome = .ok after) ∧
    (∀ error, run.outcome = .error error → ∃ key value, firstFault environment = some key ∧
      environment key = some value ∧ error = .invalidValue key value) ∧
    run.events = heard environment (readUntil (firstFault environment)) ∧
    ∀ (start : Settings) (other : Environment),
      (∀ key ∈ overrideKeys, (other key).isSome = (environment key).isSome) →
      firstFault other = firstFault environment →
      (start.withEnvironment other).events = run.events := by
  obtain ⟨events, cases⟩ := withEnvironment_cases base environment
  refine ⟨?_, ?_, ?_, events, ?_⟩
  · rcases cases with ⟨sound, after, done, _⟩ | ⟨key, listed, faulty, value, _, _, failed⟩
    · exact ⟨fun _ => sound, fun _ => ⟨after, done⟩⟩
    · constructor
      · rintro ⟨after, done⟩
        cases done.symm.trans failed
      · intro sound
        exact absurd (sound key listed) faulty
  · intro after done
    rcases cases with ⟨sound, found, same, obeys⟩ | ⟨_, _, _, _, _, _, failed⟩
    · obtain rfl : found = after := Except.ok.inj (same.symm.trans done)
      refine ⟨obeys, ?_⟩
      rcases (withEnvironment_cases found environment).2 with
        ⟨_, again, repeated, obeys_again⟩ | ⟨key, listed, faulty, _⟩
      · rw [repeated, obeys.unique obeys_again]
      · exact absurd (sound key listed) faulty
    · cases done.symm.trans failed
  · intro error failed
    rcases cases with ⟨_, after, done, _⟩ | ⟨key, _, _, value, fault, given, rejected⟩
    · cases done.symm.trans failed
    · exact ⟨key, value, fault, given, Except.error.inj (failed.symm.trans rejected)⟩
  · intro start other same fault
    rw [(withEnvironment_cases start other).1, events, fault]
    exact heard_congr fun key read => same key (readUntil_subset environment read)

/-- An environment with signs, zeros, blanks and capitals in its values, and two others whose only
faulty value is a number: by one too large, and none at all. -/
theorem withEnvironment_overrides_at_the_bound :
    let base : Settings := { logging := { location := true } }
    let good : Environment := fun key => List.lookup key [("DEVLOG_EXTRACTION_ENABLED", " YES\t"),
      ("OLLAMA_TIMEOUT_SECS", "+0018446744073709551615"), ("LOG_FORMAT", "JsOn")]
    let large : Environment := fun key => List.lookup key [("OLLAMA_HOST", "a"),
      ("OLLAMA_PROBE_TIMEOUT_MS", "18446744073709551616"), ("LOG_LEVEL", "b")]
    let worded : Environment := fun key => List.lookup key [("OLLAMA_HOST", ""),
      ("OLLAMA_PROBE_TIMEOUT_MS", "+"), ("LOG_LEVEL", "c")]
    (∃ after, (base.withEnvironment good).outcome = .ok after ∧ Obeys good base after ∧
      (after.withEnvironment good).outcome = .ok after) ∧
    (base.withEnvironment large).outcome =
      .error (.invalidValue "OLLAMA_PROBE_TIMEOUT_MS" "18446744073709551616") ∧
    firstFault large = some "OLLAMA_PROBE_TIMEOUT_MS" ∧
    (base.withEnvironment worded).events = (base.withEnvironment large).events := by
  intro base good large worded
  obtain ⟨succeeds, obeys, _⟩ := withEnvironment_overrides base good
  obtain ⟨after, done⟩ := succeeds.mpr (by decide +kernel)
  obtain ⟨_, _, fails, _, quiet⟩ := withEnvironment_overrides base large
  have failed : (base.withEnvironment large).outcome =
      .error (.invalidValue "OLLAMA_PROBE_TIMEOUT_MS" "18446744073709551616") := by decide +kernel
  obtain ⟨key, value, fault, _, same⟩ := fails _ failed
  cases same
  exact ⟨⟨after, done, obeys after done⟩, failed, fault,
    quiet base worded (by decide +kernel) (by decide +kernel)⟩

end DevlogGraph.Settings

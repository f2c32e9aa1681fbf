import Mathlib.Data.List.Forall2
import Mathlib.Tactic.MkIffOfInductiveProp
import DevlogGraph.Proofs.Decimal.Digits
import DevlogGraph.Settings.Environment

/-! One variable of the environment: the values that it takes, and the setting that it decides. -/
namespace DevlogGraph.Settings

open Decimal (Numeral readWord_eq_some_iff)

/-- The variables in the order in which they are read. -/
def overrideKeys : List String := [
  "DEVLOG_EXTRACTION_ENABLED", "DEVLOG_PRIMARY_EXTRACTOR", "OLLAMA_HOST", "OLLAMA_MODEL",
  "OLLAMA_PROBE_TIMEOUT_MS", "OLLAMA_TIMEOUT_SECS", "LOG_LEVEL", "LOG_FORMAT"]

def switchWords : Bool → List String
  | true => ["1", "true", "yes", "on"]
  | false => ["0", "false", "no", "off"]

/-- The value is a word for on or for off, up to letter case and the blanks around it. -/
def Switches (value : String) (on : Bool) : Prop := normalName value ∈ switchWords on

def kindWords : ExtractorKind → List String
  | .pattern => ["pattern", "regex"]
  | .model => ["model", "llm", "ollama"]

def NamesKind (value : String) (kind : ExtractorKind) : Prop := normalName value ∈ kindWords kind

def Counts (value : String) (count : UInt64) : Prop := Numeral value count.toNat

/-- The four letters of the format, small or capital. -/
def SpellsJson (value : String) : Prop :=
  List.Forall₂ (fun c letter => c = letter ∨ c = letter.toUpper) value.toList "json".toList

/-- The values that a variable takes; most take any. -/
@[mk_iff]
structure Valid (key value : String) : Prop where
  switch : key = "DEVLOG_EXTRACTION_ENABLED" → ∃ on, Switches value on
  kind : key = "DEVLOG_PRIMARY_EXTRACTOR" → ∃ kind, NamesKind value kind
  probe : key = "OLLAMA_PROBE_TIMEOUT_MS" → ∃ number < UInt64.size, Numeral value number
  request : key = "OLLAMA_TIMEOUT_SECS" → ∃ number < UInt64.size, Numeral value number

/-- A setting has the value that its variable stands for, and is as before if that is not set. -/
def Takes (given : Option String) (means : String → α → Prop) (before after : α) : Prop :=
  match given with
  | none => after = before
  | some value => means value after

/-- Every setting takes its variable, and there is none for the place in log lines. -/
structure Obeys (environment : Environment) (base after : Settings) : Prop where
  enabled : Takes (environment "DEVLOG_EXTRACTION_ENABLED") Switches
    base.extraction.enabled after.extraction.enabled
  primary : Takes (environment "DEVLOG_PRIMARY_EXTRACTOR") NamesKind
    base.extraction.primary after.extraction.primary
  url : Takes (environment "OLLAMA_HOST") Eq base.model.url after.model.url
  model : Takes (environment "OLLAMA_MODEL") Eq base.model.model after.model.model
  probe : Takes (environment "OLLAMA_PROBE_TIMEOUT_MS") Counts
    base.model.probeTimeoutMs after.model.probeTimeoutMs
  request : Takes (environment "OLLAMA_TIMEOUT_SECS") Counts
    base.model.requestTimeoutSecs after.model.requestTimeoutSecs
  level : Takes (environment "LOG_LEVEL") Eq base.logging.level after.logging.level
  format : Takes (environment "LOG_FORMAT") (fun value json => json = true ↔ SpellsJson value)
    base.logging.json after.logging.json
  location : after.logging.location = base.logging.location

/-- What a reader makes of a value, and that it complains of a value that means nothing. -/
structure Reads (key : String) (read : String → Except SettingsError α)
    (means : String → α → Prop) : Prop where
  complete : ∀ {value meaning}, means value meaning → read value = .ok meaning
  refuse : ∀ {value}, (¬ ∃ meaning, means value meaning) →
    read value = .error (.invalidValue key value)

theorem Reads.unique {read : String → Except SettingsError α} (reads : Reads key read means)
    (first : means value meaning) (second : means value other) : meaning = other :=
  Except.ok.inj ((reads.complete first).symm.trans (reads.complete second))

/-- A choice between two lists of words. -/
private theorem reads_words (words : α → List String) {yes no : α}
    (two : ∀ choice, choice = yes ∨ choice = no) (apart : ∀ word ∈ words no, word ∉ words yes)
    (key : String) : Reads key
      (fun value =>
        if (words yes).contains (normalName value) then .ok yes
        else if (words no).contains (normalName value) then .ok no
        else .error (.invalidValue key value))
      (fun value choice => normalName value ∈ words choice) := by
  constructor
  · intro value choice listed
    rcases two choice with rfl | rfl
    · rw [if_pos (List.contains_iff_mem.mpr listed)]
    · have absent := mt List.contains_iff_mem.mp (apart _ listed)
      rw [if_neg absent, if_pos (List.contains_iff_mem.mpr listed)]
  · intro value unlisted
    have absent (choice : α) : ¬ (words choice).contains (normalName value) = true :=
      fun found => unlisted ⟨choice, List.contains_iff_mem.mp found⟩
    rw [if_neg (absent yes), if_neg (absent no)]

theorem readSwitch_reads (key : String) : Reads key (readSwitch key) Switches :=
  reads_words switchWords (by decide : ∀ on, on = true ∨ on = false) (by decide) key

theorem read_reads : Reads "DEVLOG_PRIMARY_EXTRACTOR" ExtractorKind.read NamesKind := by
  have two (kind : ExtractorKind) : kind = .pattern ∨ kind = .model := by
    cases kind <;> simp
  exact reads_words kindWords two (by decide) "DEVLOG_PRIMARY_EXTRACTOR"

theorem readCount_reads (key : String) : Reads key (readCount key) Counts := by
  constructor
  · intro value count counts
    rw [readCount, readWord_eq_some_iff.mpr counts]
  · intro value uncounted
    have unread : Decimal.readWord value = none :=
      Decimal.readWord_eq_none_iff.mpr fun word counts => uncounted ⟨word, counts⟩
    rw [readCount, unread]

theorem Switches.unique (first : Switches value on) (second : Switches value other) : on = other :=
  (readSwitch_reads value).unique first second

theorem NamesKind.unique (first : NamesKind value kind) (second : NamesKind value other) :
    kind = other :=
  read_reads.unique first second

theorem Counts.unique (first : Counts value count) (second : Counts value other) : count = other :=
  (readCount_reads value).unique first second

/-- A reader that takes the value as it is. -/
private theorem reads_all (key : String) (meaning : String → α) :
    Reads key (fun value => .ok (meaning value)) (fun value result => meaning value = result) := by
  constructor
  · rintro value _ rfl
    rfl
  · intro value meaningless
    exact absurd ⟨_, rfl⟩ meaningless

theorem exists_counts_iff :
    (∃ count, Counts value count) ↔ ∃ number < UInt64.size, Numeral value number := by
  constructor
  · rintro ⟨count, counts⟩
    exact ⟨count.toNat, count.toNat_lt, counts⟩
  · rintro ⟨number, bound, numeral⟩
    have kept : (UInt64.ofNat number).toNat = number := UInt64.toNat_ofNat_of_lt bound
    exact ⟨UInt64.ofNat number, by rwa [Counts, kept]⟩

instance : Decidable (∃ on, Switches value on) :=
  decidable_of_iff
    (normalName value ∈ switchWords true ∨ normalName value ∈ switchWords false) <| by
    rw [Bool.exists_bool, or_comm]
    rfl

instance : Decidable (∃ kind, NamesKind value kind) :=
  decidable_of_iff
    (normalName value ∈ kindWords .pattern ∨ normalName value ∈ kindWords .model) <| by
    constructor
    · rintro (pattern | model)
      · exact ⟨.pattern, pattern⟩
      · exact ⟨.model, model⟩
    · rintro ⟨kind, named⟩
      cases kind with
      | pattern => exact .inl named
      | model => exact .inr named

instance : Decidable (∃ number < UInt64.size, Numeral value number) :=
  decidable_of_iff ((Decimal.readWord value).isSome = true) <| by
    rw [← exists_counts_iff, Option.isSome_iff_exists]
    exact exists_congr fun count => readWord_eq_some_iff

instance : Decidable (Valid key value) := decidable_of_iff _ (valid_iff key value).symm

/-- A small letter is the lower case of itself and of its capital. -/
private theorem toLower_eq_iff {letter : Char} (small : letter.isLower = true) :
    c.toLower = letter ↔ c = letter ∨ c = letter.toUpper := by
  have bounds : 'a'.val ≤ letter.val ∧ letter.val ≤ 'z'.val := by
    have tested : (decide ('a'.val ≤ letter.val) && decide (letter.val ≤ 'z'.val)) = true := small
    rwa [Bool.and_eq_true, decide_eq_true_eq, decide_eq_true_eq] at tested
  unfold Char.toLower Char.toUpper
  rw [dif_pos bounds]
  split <;> simp only [Char.ext_iff] <;> grind

private theorem map_toLower_eq_iff {text letters : List Char}
    (small : ∀ letter ∈ letters, letter.isLower = true) : text.map Char.toLower = letters ↔
      List.Forall₂ (fun c letter => c = letter ∨ c = letter.toUpper) text letters := by
  induction letters generalizing text with
  | nil => simp
  | cons letter rest ih =>
    obtain ⟨here, later⟩ := List.forall_mem_cons.mp small
    cases text with
    | nil => simp
    | cons c others =>
      rw [List.map_cons, List.cons.injEq, List.forall₂_cons, toLower_eq_iff here, ih later]

theorem sameIgnoringCase_json : sameIgnoringCase value "json" = true ↔ SpellsJson value := by
  have same : "json".toList.map Char.toLower = "json".toList := by decide
  have small : "json".toList.all Char.isLower = true := by decide
  rw [SpellsJson, ← map_toLower_eq_iff (List.all_eq_true.mp small), sameIgnoringCase, beq_iff_eq,
    ← String.toList_inj, String.toList_map, String.toList_map, same]

/-- Only this variable is set. -/
def only (key value : String) : Environment := fun other => if other = key then some value else none

/-- What an override does to a value of its variable. -/
structure Meets (override : Override) : Prop where
  accepts : ∀ {value}, Valid override.key value → ∀ settings, ∃ after,
    override.apply value settings = .ok after ∧ Obeys (only override.key value) settings after
  refuses : ∀ {value}, ¬ Valid override.key value → ∀ settings,
    override.apply value settings = .error (.invalidValue override.key value)

/-- An override that reads its value and puts the meaning into the settings. -/
theorem Meets.of_reads {override : Override} {read : String → Except SettingsError α}
    {means : String → α → Prop} (put : Settings → α → Settings)
    (reads : Reads override.key read means)
    (apply : ∀ value settings, override.apply value settings = do
      let meaning ← read value
      pure (put settings meaning))
    (valid : ∀ value, Valid override.key value ↔ ∃ meaning, means value meaning)
    (puts : ∀ settings {value meaning}, means value meaning →
      Obeys (only override.key value) settings (put settings meaning)) : Meets override := by
  constructor
  · intro value taken settings
    obtain ⟨meaning, means⟩ := (valid value).mp taken
    exact ⟨put settings meaning, by rw [apply, reads.complete means]; rfl, puts settings means⟩
  · intro value refused settings
    rw [apply, reads.refuse (mt (valid value).mpr refused)]
    rfl

theorem enabled_meets : Meets .enabled := by
  refine .of_reads (fun settings on =>
      { settings with extraction := { settings.extraction with enabled := on } })
    (readSwitch_reads _) (fun _ _ => rfl) (fun _ => by simp [valid_iff, Override.enabled]) ?_
  intro settings value on means
  constructor <;> simp [Takes, only, Override.enabled, means]

theorem primary_meets : Meets .primary := by
  refine .of_reads (fun settings kind =>
      { settings with extraction := { settings.extraction with primary := kind } })
    read_reads (fun _ _ => rfl) (fun _ => by simp [valid_iff, Override.primary, primaryKey]) ?_
  intro settings value kind means
  constructor <;> simp [Takes, only, Override.primary, primaryKey, means]

theorem url_meets : Meets .url := by
  refine .of_reads (fun settings url =>
      { settings with model := { settings.model with url := url } })
    (reads_all _ id) (fun _ _ => rfl) (fun _ => by simp [valid_iff, Override.url]) ?_
  rintro settings value _ rfl
  constructor <;> simp [Takes, only, Override.url]

theorem model_meets : Meets .model := by
  refine .of_reads (fun settings model =>
      { settings with model := { settings.model with model := model } })
    (reads_all _ id) (fun _ _ => rfl) (fun _ => by simp [valid_iff, Override.model]) ?_
  rintro settings value _ rfl
  constructor <;> simp [Takes, only, Override.model]

theorem probeTimeout_meets : Meets .probeTimeout := by
  refine .of_reads (fun settings count =>
      { settings with model := { settings.model with probeTimeoutMs := count } })
    (readCount_reads _) (fun _ _ => rfl)
    (fun _ => by simp [valid_iff, Override.probeTimeout, exists_counts_iff]) ?_
  intro settings value count means
  constructor <;> simp [Takes, only, Override.probeTimeout, means]

theorem requestTimeout_meets : Meets .requestTimeout := by
  refine .of_reads (fun settings count =>
      { settings with model := { settings.model with requestTimeoutSecs := count } })
    (readCount_reads _) (fun _ _ => rfl)
    (fun _ => by simp [valid_iff, Override.requestTimeout, exists_counts_iff]) ?_
  intro settings value count means
  constructor <;> simp [Takes, only, Override.requestTimeout, means]

theorem level_meets : Meets .level := by
  refine .of_reads (fun settings level =>
      { settings with logging := { settings.logging with level := level } })
    (reads_all _ id) (fun _ _ => rfl) (fun _ => by simp [valid_iff, Override.level]) ?_
  rintro settings value _ rfl
  constructor <;> simp [Takes, only, Override.level]

theorem format_meets : Meets .format := by
  refine .of_reads (fun settings json =>
      { settings with logging := { settings.logging with json := json } })
    (reads_all _ (sameIgnoringCase · "json")) (fun _ _ => rfl)
    (fun _ => by simp [valid_iff, Override.format]) ?_
  rintro settings value _ rfl
  constructor <;> simp [Takes, only, Override.format, sameIgnoringCase_json]

theorem overrides_meet : ∀ override ∈ overrides, Meets override := by
  simp only [overrides, List.forall_mem_cons, List.not_mem_nil, false_implies, implies_true,
    and_true]
  exact ⟨enabled_meets, primary_meets, url_meets, model_meets, probeTimeout_meets,
    requestTimeout_meets, level_meets, format_meets⟩

/-- A setting that takes one of two variables after the other, where one of them is not set. -/
theorem Takes.trans (first : Takes given means before middle)
    (second : Takes later means middle after) (apart : given = none ∨ later = none) :
    Takes (given.or later) means before after := by
  rcases apart with rfl | rfl
  · obtain rfl : middle = before := first
    exact second
  · obtain rfl : after = middle := second
    rwa [Option.or_none]

theorem Takes.unique (first : Takes given means before after)
    (second : Takes given means after again)
    (functional : ∀ value, means value again → means value after → again = after) :
    again = after := by
  cases given with
  | none => exact second
  | some value => exact functional value second first

theorem Obeys.congr (obeys : Obeys environment base after)
    (same : ∀ key ∈ overrideKeys, environment key = other key) : Obeys other base after := by
  simp only [overrideKeys, List.forall_mem_cons] at same
  obtain ⟨enabled, primary, url, model, probe, request, level, format, _⟩ := same
  exact ⟨enabled ▸ obeys.enabled, primary ▸ obeys.primary, url ▸ obeys.url, model ▸ obeys.model,
    probe ▸ obeys.probe, request ▸ obeys.request, level ▸ obeys.level, format ▸ obeys.format,
    obeys.location⟩

theorem Obeys.trans (first : Obeys environment base middle) (second : Obeys other middle after)
    (apart : ∀ key, environment key = none ∨ other key = none) :
    Obeys (fun key => (environment key).or (other key)) base after where
  enabled := first.enabled.trans second.enabled (apart _)
  primary := first.primary.trans second.primary (apart _)
  url := first.url.trans second.url (apart _)
  model := first.model.trans second.model (apart _)
  probe := first.probe.trans second.probe (apart _)
  request := first.request.trans second.request (apart _)
  level := first.level.trans second.level (apart _)
  format := first.format.trans second.format (apart _)
  location := second.location.trans first.location

theorem Obeys.refl (unset : ∀ key, environment key = none) (settings : Settings) :
    Obeys environment settings settings := by
  constructor <;> simp [Takes, unset]

/-- Settings that obey an environment stay as they are. -/
theorem Obeys.unique (first : Obeys environment base after)
    (second : Obeys environment after again) : again = after := by
  have enabled := first.enabled.unique second.enabled fun _ => Switches.unique
  have primary := first.primary.unique second.primary fun _ => NamesKind.unique
  have url := first.url.unique second.url fun _ one two => one.symm.trans two
  have model := first.model.unique second.model fun _ one two => one.symm.trans two
  have probe := first.probe.unique second.probe fun _ => Counts.unique
  have request := first.request.unique second.request fun _ => Counts.unique
  have level := first.level.unique second.level fun _ one two => one.symm.trans two
  have format := first.format.unique second.format fun _ one two =>
    Bool.eq_iff_iff.mpr (one.trans two.symm)
  have location := second.location
  obtain ⟨⟨_, _⟩, ⟨_, _, _, _⟩, ⟨_, _, _⟩⟩ := after
  obtain ⟨⟨_, _⟩, ⟨_, _, _, _⟩, ⟨_, _, _⟩⟩ := again
  subst enabled primary url model probe request level format location
  rfl

end DevlogGraph.Settings

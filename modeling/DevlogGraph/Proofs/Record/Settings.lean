import DevlogGraph.Proofs.Distinct
import DevlogGraph.Proofs.Json.Yields
import DevlogGraph.Record.Settings

/-! Settings that are read from a part of what is written of others: what is there is read, and what
is left out keeps its default. -/
namespace DevlogGraph.Record

open Json

/-- A written member, and what it makes of a record that is read. -/
structure Entry (σ : Type) where
  name : String
  item : Value
  effect : σ → σ

namespace Entry

def member (entry : Entry σ) : String × Value := (entry.name, entry.item)

/-- One of the fields reads the entry, whatever has been read before. -/
def Fits (fields : List (Slot (Partial σ))) (entry : Entry σ) : Prop :=
  ∃ read, fields.find? (fun field => field.name == entry.name) =
      some (partialField entry.name read) ∧
    ∀ state, Yields (read state) entry.item (entry.effect state)

/-- What all entries make of a record, one after another. -/
def applyAll (entries : List (Entry σ)) (state : σ) : σ :=
  entries.foldl (fun state entry => entry.effect state) state

end Entry

private theorem takes_entries {entries : List (Entry σ)}
    (fits : ∀ entry ∈ entries, entry.Fits fields)
    (distinct : (entries.map Entry.name).Nodup) {seen : List String}
    (fresh : ∀ entry ∈ entries, entry.name ∉ seen) (state : σ) : ∃ names,
      (partialLayout title start fields).Takes ⟨state, seen⟩ (entries.map Entry.member)
        ⟨Entry.applyAll entries state, names⟩ := by
  induction entries generalizing state seen with
  | nil => exact ⟨seen, .none _⟩
  | cons entry later ih =>
    obtain ⟨own, others⟩ := List.nodup_cons.mp distinct
    obtain ⟨read, known, yields⟩ := fits entry List.mem_cons_self
    have unseen := fresh entry List.mem_cons_self
    have still_fresh : ∀ other ∈ later, other.name ∉ entry.name :: seen := by
      intro other inside
      rw [List.mem_cons, not_or]
      refine ⟨?_, fresh other (List.mem_cons_of_mem entry inside)⟩
      intro same
      exact own (same ▸ List.mem_map_of_mem inside)
    obtain ⟨names, takes⟩ := ih (fun other inside => fits other (List.mem_cons_of_mem entry inside))
      others still_fresh (entry.effect state)
    refine ⟨names, .one known ?_ ?_ takes⟩
    · simpa [partialField] using unseen
    · intro rest ends
      rw [partialField, result_bind, yields state rest ends]
      rfl

/-- The entries of distinct names, in any order, are read into the record that holds before. -/
private theorem yields_partial {entries : List (Entry σ)}
    (fits : ∀ entry ∈ entries, entry.Fits fields)
    (distinct : (entries.map Entry.name).Nodup) (title : String) (start : σ) :
    Yields (partialLayout title start fields).read (.object (entries.map Entry.member))
      (Entry.applyAll entries start) := by
  have fresh : ∀ entry ∈ entries, entry.name ∉ ([] : List String) := by simp
  obtain ⟨names, takes⟩ := takes_entries fits distinct fresh start
  exact takes.yields rfl

/-- The written form of one setting. -/
def ofScalar : Scalar β → β → Value
  | .flag, value => .flag value
  | .text, value => .text value
  | .count, value => ofCount value
  | .extractor, kind => .text kind.name

private theorem yields_scalar (kind : Scalar β) (value : β) :
    Yields (scalar kind) (ofScalar kind value) value := by
  cases kind with
  | flag => exact yields_flag value
  | text => exact yields_text value
  | count => exact yields_word64 value
  | extractor =>
    apply yields_variant
    cases value <;> rfl

/-- A setting that can be looked up in its section. -/
structure Held (σ : Type) extends Setting σ where
  get : σ → type

def Held.entry (held : Held σ) (state : σ) : Entry σ where
  name := held.name
  item := ofScalar held.scalar (held.get state)
  effect other := held.put other (held.get state)

private theorem Held.entry_fits {all : List (Held σ)}
    (distinct : (all.map fun held => held.name).Nodup) (listed : held ∈ all) (state : σ) :
    (held.entry state).Fits ((all.map Held.toSetting).map settingField) := by
  refine ⟨fun other => do
    let value ← scalar held.scalar
    pure (held.put other value), ?_, ?_⟩
  · have found := find_of_mem_of_nodup distinct listed
    rw [List.map_map, List.find?_map]
    exact congrArg (Option.map fun held => settingField held.toSetting) found
  · intro other rest ends
    rw [result_bind, Held.entry, yields_scalar held.scalar (held.get state) rest ends]
    rfl

/-- A section with all that it holds. -/
structure Chapter (σ : Type) extends Section σ where
  all : List (Held type)
  complete : all.map Held.toSetting = settings
  distinct : (all.map fun held => held.name).Nodup

namespace Chapter

/-- The entries of those settings of the section that are kept. -/
def entries (chapter : Chapter σ) (kept : String → Bool) (state : σ) : List (Entry chapter.type) :=
  (chapter.all.filter fun held => kept held.name).map (Held.entry · (chapter.get state))

/-- What is written of the section if only some of its settings are. -/
def entry (chapter : Chapter σ) (kept : String → Bool) (state : σ) : Entry σ where
  name := chapter.name
  item := .object ((chapter.entries kept state).map Entry.member)
  effect other :=
    chapter.put other (Entry.applyAll (chapter.entries kept state) (chapter.get other))

theorem yields (chapter : Chapter σ) (kept : String → Bool) (state other : σ) :
    Yields (partialLayout chapter.title (chapter.get other) (chapter.settings.map settingField)).read
      (chapter.entry kept state).item
      (Entry.applyAll (chapter.entries kept state) (chapter.get other)) := by
  refine yields_partial ?_ ?_ chapter.title (chapter.get other)
  · rw [← chapter.complete]
    intro entry member
    obtain ⟨held, inside, rfl⟩ := List.mem_map.mp member
    exact held.entry_fits chapter.distinct (List.mem_filter.mp inside).1 (chapter.get state)
  · rw [entries, List.map_map]
    exact chapter.distinct.sublist (List.Sublist.map _ List.filter_sublist)

private theorem entry_fits {all : List (Chapter σ)}
    (distinct : (all.map fun chapter => chapter.name).Nodup) (listed : chapter ∈ all)
    (kept : String → Bool) (state : σ) :
    (chapter.entry kept state).Fits ((all.map Chapter.toSection).map sectionField) := by
  refine ⟨fun other => do
    let value ← (partialLayout chapter.title (chapter.get other)
      (chapter.settings.map settingField)).read
    pure (chapter.put other value), ?_, ?_⟩
  · have found := find_of_mem_of_nodup distinct listed
    rw [List.map_map, List.find?_map]
    exact congrArg (Option.map fun chapter => sectionField chapter.toSection) found
  · intro other rest ends
    rw [result_bind, chapter.yields kept state other rest ends]
    rfl

def extraction : Chapter Settings where
  name := "extraction"
  title := "struct ExtractionConfig"
  settings := ExtractionSettings.settings
  get := (·.extraction)
  put s value := { s with extraction := value }
  all := [
    ⟨⟨"enabled", .flag, fun s value => { s with enabled := value }⟩, (·.enabled)⟩,
    ⟨⟨"primary_extractor", .extractor, fun s value => { s with primary := value }⟩, (·.primary)⟩]
  complete := rfl
  distinct := by decide

def model : Chapter Settings where
  name := "llm"
  title := "struct LlmConfig"
  settings := ModelSettings.settings
  get := (·.model)
  put s value := { s with model := value }
  all := [
    ⟨⟨"ollama_url", .text, fun s value => { s with url := value }⟩, (·.url)⟩,
    ⟨⟨"model", .text, fun s value => { s with model := value }⟩, (·.model)⟩,
    ⟨⟨"probe_timeout_ms", .count, fun s value => { s with probeTimeoutMs := value }⟩,
      (·.probeTimeoutMs)⟩,
    ⟨⟨"timeout_secs", .count, fun s value => { s with requestTimeoutSecs := value }⟩,
      (·.requestTimeoutSecs)⟩]
  complete := rfl
  distinct := by decide

def logging : Chapter Settings where
  name := "logging"
  title := "struct LoggingConfig"
  settings := LoggingSettings.settings
  get := (·.logging)
  put s value := { s with logging := value }
  all := [
    ⟨⟨"level", .text, fun s value => { s with level := value }⟩, (·.level)⟩,
    ⟨⟨"json_format", .flag, fun s value => { s with json := value }⟩, (·.json)⟩,
    ⟨⟨"include_location", .flag, fun s value => { s with location := value }⟩, (·.location)⟩]
  complete := rfl
  distinct := by decide

end Chapter

def chapters : List (Chapter Settings) := [.extraction, .model, .logging]

private theorem chapters_complete : chapters.map Chapter.toSection = Settings.sections := rfl

private theorem chapters_distinct : (chapters.map fun chapter => chapter.name).Nodup := by decide

/-- Sections and settings that are left out of what is written. -/
structure Gaps where
  sections : String → Bool
  settings : String → String → Bool

namespace Gaps

def cutSection (gaps : Gaps) (name : String) : Value → Value
  | .object members => .object (members.filter fun member => !gaps.settings name member.1)
  | other => other

/-- What is left of written settings. -/
def cut (gaps : Gaps) : Value → Value
  | .object members => .object ((members.filter fun member => !gaps.sections member.1).map
      fun member => (member.1, gaps.cutSection member.1 member.2))
  | other => other

/-- The setting itself, or the default if it is not written. -/
def fill (gaps : Gaps) (settings : Settings) (part name : String) (get : Settings → β) : β :=
  get (if gaps.sections part || gaps.settings part name then {} else settings)

/-- The settings with exactly those at their defaults that are left out. -/
def fillAll (gaps : Gaps) (settings : Settings) : Settings where
  extraction :=
    { enabled := gaps.fill settings "extraction" "enabled" (·.extraction.enabled)
      primary := gaps.fill settings "extraction" "primary_extractor" (·.extraction.primary) }
  model :=
    { url := gaps.fill settings "llm" "ollama_url" (·.model.url)
      model := gaps.fill settings "llm" "model" (·.model.model)
      probeTimeoutMs := gaps.fill settings "llm" "probe_timeout_ms" (·.model.probeTimeoutMs)
      requestTimeoutSecs := gaps.fill settings "llm" "timeout_secs" (·.model.requestTimeoutSecs) }
  logging :=
    { level := gaps.fill settings "logging" "level" (·.logging.level)
      json := gaps.fill settings "logging" "json_format" (·.logging.json)
      location := gaps.fill settings "logging" "include_location" (·.logging.location) }

end Gaps

/-- The entries of what is left of written settings. -/
def settingsEntries (gaps : Gaps) (settings : Settings) : List (Entry Settings) :=
  (chapters.filter fun chapter => !gaps.sections chapter.name).map fun chapter =>
    chapter.entry (fun name => !gaps.settings chapter.name name) settings

private theorem ofSettings_eq (settings : Settings) : ofSettings settings =
    .object (chapters.map fun chapter => (chapter.name, .object (chapter.all.map fun held =>
      (held.name, ofScalar held.scalar (held.get (chapter.get settings)))))) := rfl

private theorem cut_ofSettings (gaps : Gaps) (settings : Settings) :
    gaps.cut (ofSettings settings) = .object ((settingsEntries gaps settings).map Entry.member) := by
  rw [ofSettings_eq, Gaps.cut, settingsEntries, List.filter_map, List.map_map, List.map_map]
  congr 1
  apply List.map_congr_left
  intro chapter _
  simp only [Function.comp_apply, Entry.member, Chapter.entry, Chapter.entries, Gaps.cutSection,
    List.filter_map, List.map_map]
  rfl

private theorem applyAll_filter_map (kept : ι → Bool) (entry : ι → Entry σ) (all : List ι)
    (state : σ) :
    Entry.applyAll ((all.filter kept).map entry) state =
      all.foldl (fun state item => bif kept item then (entry item).effect state else state) state := by
  induction all generalizing state with
  | nil => rfl
  | cons item later ih =>
    rw [List.foldl_cons, ← ih, List.filter_cons]
    cases kept item <;> rfl

/-- What becomes of a section. -/
def Chapter.partly (chapter : Chapter Settings) (gaps : Gaps) (settings : Settings) : chapter.type :=
  bif gaps.sections chapter.name then chapter.get {}
  else Entry.applyAll (chapter.entries (fun name => !gaps.settings chapter.name name) settings)
    (chapter.get {})

section Parts

variable (gaps : Gaps) (settings : Settings)

private theorem partly_extraction :
    Chapter.extraction.partly gaps settings = (gaps.fillAll settings).extraction := by
  simp only [Chapter.partly, Chapter.entries, applyAll_filter_map, Chapter.extraction, Gaps.fillAll,
    Gaps.fill, List.foldl_cons, List.foldl_nil, ← Bool.cond_eq_ite]
  generalize gaps.sections "extraction" = whole, gaps.settings "extraction" "enabled" = first,
    gaps.settings "extraction" "primary_extractor" = second
  cases whole <;> cases first <;> cases second <;> rfl

private theorem partly_model :
    Chapter.model.partly gaps settings = (gaps.fillAll settings).model := by
  simp only [Chapter.partly, Chapter.entries, applyAll_filter_map, Chapter.model, Gaps.fillAll,
    Gaps.fill, List.foldl_cons, List.foldl_nil, ← Bool.cond_eq_ite]
  generalize gaps.sections "llm" = whole, gaps.settings "llm" "ollama_url" = first,
    gaps.settings "llm" "model" = second, gaps.settings "llm" "probe_timeout_ms" = third,
    gaps.settings "llm" "timeout_secs" = fourth
  cases whole <;> cases first <;> cases second <;> cases third <;> cases fourth <;> rfl

private theorem partly_logging :
    Chapter.logging.partly gaps settings = (gaps.fillAll settings).logging := by
  simp only [Chapter.partly, Chapter.entries, applyAll_filter_map, Chapter.logging, Gaps.fillAll,
    Gaps.fill, List.foldl_cons, List.foldl_nil, ← Bool.cond_eq_ite]
  generalize gaps.sections "logging" = whole, gaps.settings "logging" "level" = first,
    gaps.settings "logging" "json_format" = second, gaps.settings "logging" "include_location" = third
  cases whole <;> cases first <;> cases second <;> cases third <;> rfl

private theorem applyAll_settingsEntries :
    Entry.applyAll (settingsEntries gaps settings) {} = gaps.fillAll settings := by
  have parts : Entry.applyAll (settingsEntries gaps settings) {} =
      { extraction := Chapter.extraction.partly gaps settings
        model := Chapter.model.partly gaps settings
        logging := Chapter.logging.partly gaps settings } := by
    simp only [settingsEntries, applyAll_filter_map, chapters, List.foldl_cons, List.foldl_nil,
      Chapter.partly]
    cases gaps.sections Chapter.extraction.name <;> cases gaps.sections Chapter.model.name <;>
      cases gaps.sections Chapter.logging.name <;> rfl
  rw [parts, partly_extraction, partly_model, partly_logging]

end Parts

theorem yields_cut (gaps : Gaps) (settings : Settings) :
    Yields settingsLayout.read (gaps.cut (ofSettings settings)) (gaps.fillAll settings) := by
  have fits : ∀ entry ∈ settingsEntries gaps settings,
      entry.Fits (Settings.sections.map sectionField) := by
    rw [← chapters_complete]
    intro entry member
    obtain ⟨chapter, inside, rfl⟩ := List.mem_map.mp member
    exact Chapter.entry_fits chapters_distinct (List.mem_filter.mp inside).1 _ settings
  have distinct : ((settingsEntries gaps settings).map Entry.name).Nodup := by
    rw [settingsEntries, List.map_map]
    exact chapters_distinct.sublist (List.Sublist.map _ List.filter_sublist)
  rw [cut_ofSettings, ← applyAll_settingsEntries]
  exact yields_partial fits distinct Settings.title {}

end DevlogGraph.Record

import DevlogGraph.Proofs.Fallible
import DevlogGraph.Proofs.Settings.Environment
import DevlogGraph.Settings.File

/-! The primary extractor, named in a file or in the environment. A file has to spell a name exactly;
the environment takes it in any case and with blanks around it. -/
namespace DevlogGraph.Settings

/-- The settings that are left as they are, but for the extractor. -/
def preferring (kind : ExtractorKind) : Settings := { extraction := { primary := kind } }

/-- The table names the extractor, under a header of its own or in place, and sets nothing else. -/
structure SetsPrimary (table : Toml.Table) (value : String) : Prop where
  entries : ∃ outer inner place, ∃ held : Toml.Table, ∃ node,
    (node = .table held ∨ node = .inlineTable held) ∧
    table.entries = [(⟨"extraction", outer⟩, node)] ∧
    held.entries = [(⟨"primary_extractor", inner⟩, .text value place)]

/-- What a file makes of the name alone. -/
def namedInFile (value : String) : Option ExtractorKind := (extractorNamed value).toOption

/-- What the environment makes of the name alone. -/
def namedInEnvironment (value : String) : Option ExtractorKind := (ExtractorKind.read value).toOption

@[simp] theorem toOption_located (span : Option Toml.Span) (result : Except Misfit α) :
    (located span result).toOption = result.toOption := by
  cases result <;> rfl

private theorem toOption_fromEntries_single (put : σ → String → Toml.Node → Except Misfit σ)
    (start : σ) (key : Toml.Key) (node : Toml.Node) :
    (fromEntries put start [(key, node)]).toOption = (put start key.name node).toOption := by
  rw [fromEntries, List.foldlM_cons, toOption_bind, toOption_located]
  cases (put start key.name node).toOption <;> rfl

private theorem toOption_record_single {held : Toml.Table} {node : Toml.Node}
    (named : node = .table held ∨ node = .inlineTable held)
    (entries : held.entries = [(key, value)]) (title : String) (names : List String)
    (put : σ → String → Toml.Node → Except Misfit σ) (start : σ) :
    (record title names put start node).toOption = (put start key.name value).toOption := by
  rw [← toOption_fromEntries_single put start key value, ← entries]
  rcases named with rfl | rfl <;>
  · rw [record, toOption_located]

private theorem toOption_choice_text (read : String → Except Schema.Mismatch α) (value : String)
    (place : Toml.Span) : (choice read (.text value place)).toOption = (read value).toOption := by
  change ((read value).mapError fun mismatch => Misfit.of mismatch (some place)).toOption = _
  cases read value <;> rfl

private theorem putSetting_primary (value : String) (place : Toml.Span) :
    (putSetting ExtractionSettings.settings {} "primary_extractor" (.text value place)).toOption =
      (namedInFile value).map fun kind => { primary := kind } := by
  change (choice extractorNamed (.text value place) >>= _).toOption = _
  rw [toOption_bind, toOption_choice_text, namedInFile]
  cases extractorNamed value <;> rfl

theorem ofTable_of_setsPrimary (sets : SetsPrimary table value) :
    (ofTable table).toOption = (namedInFile value).map preferring := by
  obtain ⟨outer, inner, place, held, node, named, entries, inside⟩ := sets.entries
  have part : (putSection {} "extraction" node).toOption =
      (namedInFile value).map preferring := by
    change (record "struct ExtractionConfig" ["enabled", "primary_extractor"]
      (putSetting ExtractionSettings.settings) {} node >>= _).toOption = _
    rw [toOption_bind, toOption_record_single named inside, putSetting_primary]
    cases namedInFile value <;> rfl
  rw [ofTable, toOption_record_single (.inl rfl) entries, part]

/-- Variables that are not set leave the settings alone. -/
private theorem applyOverrides_unset {list : List Override}
    (unset : ∀ override ∈ list, environment override.key = none) (settings : Settings) :
    applyOverrides environment list settings = ⟨.ok settings, []⟩ := by
  induction list with
  | nil => rfl
  | cons override later ih =>
    obtain ⟨here, later_unset⟩ := List.forall_mem_cons.mp unset
    rw [applyOverrides, here]
    exact ih later_unset

private theorem withEnvironment_of_primary (value : String) :
    (({} : Settings).withEnvironment (only primaryKey value)).outcome.toOption =
      (namedInEnvironment value).map preferring := by
  have enabled : only primaryKey value Override.enabled.key = none := if_neg (by decide)
  have primary : only primaryKey value Override.primary.key = some value := if_pos rfl
  have others (kind : ExtractorKind) : applyOverrides (only primaryKey value)
      [.url, .model, .probeTimeout, .requestTimeout, .level, .format] (preferring kind) =
        ⟨.ok (preferring kind), []⟩ := by
    refine applyOverrides_unset ?_ _
    simp only [List.forall_mem_cons]
    refine ⟨?_, ?_, ?_, ?_, ?_, ?_, by simp⟩ <;> exact if_neg (by decide)
  rw [Settings.withEnvironment, overrides, applyOverrides, enabled]
  dsimp only
  rw [applyOverrides, primary, namedInEnvironment]
  dsimp only [Override.primary]
  cases ExtractorKind.read value with
  | error fault => rfl
  | ok kind => exact congrArg (fun run => run.outcome.toOption) (others kind)

theorem lookup_extractorNames_iff :
    extractorNames.lookup value = some kind ↔ value ∈ kindWords kind := by
  constructor
  · intro found
    obtain ⟨earlier, later, cut, _⟩ := List.lookup_eq_some_iff.mp found
    have listed : (value, kind) ∈ extractorNames := by simp [cut]
    have table : ∀ entry ∈ extractorNames, entry.1 ∈ kindWords entry.2 := by decide
    exact table (value, kind) listed
  · intro listed
    cases kind <;> revert value <;> decide

theorem namedInFile_eq_some_iff : namedInFile value = some kind ↔ value ∈ kindWords kind := by
  rw [← lookup_extractorNames_iff, namedInFile, extractorNamed]
  cases extractorNames.lookup value <;> simp [Except.toOption]

theorem namedInEnvironment_eq_some_iff :
    namedInEnvironment value = some kind ↔ NamesKind value kind := by
  rw [namedInEnvironment]
  constructor
  · intro named
    by_contra unnamed
    by_cases meant : ∃ other, NamesKind value other
    · obtain ⟨other, names⟩ := meant
      rw [read_reads.complete names] at named
      exact unnamed (Option.some.inj named ▸ names)
    · rw [read_reads.refuse meant] at named
      cases named
  · intro names
    rw [read_reads.complete names]
    rfl

/-- The words are in normal form already. -/
private theorem normalName_of_mem_kindWords (listed : word ∈ kindWords kind) :
    normalName word = word := by
  cases kind <;> revert word <;> decide +kernel

private theorem ofDocument_of_parse (parsed : Toml.parse text.toList = .ok table) :
    (ofDocument text).toOption = (ofTable table).toOption := by
  rw [ofDocument, parsed]
  dsimp only
  cases ofTable table <;> rfl

/-- A file and the environment agree on a name exactly if it is in normal form or the environment
refuses it. What a file takes, the environment takes alike. -/
theorem primary_agrees_iff (sets : SetsPrimary table value) :
    let file := (ofTable table).toOption
    let environment := (({} : Settings).withEnvironment (only primaryKey value)).outcome.toOption
    (∀ settings, file = some settings ↔
      ∃ kind, value ∈ kindWords kind ∧ settings = preferring kind) ∧
    (∀ settings, environment = some settings ↔
      ∃ kind, normalName value ∈ kindWords kind ∧ settings = preferring kind) ∧
    (∀ settings, file = some settings → environment = some settings) ∧
    (file = environment ↔ normalName value = value ∨ environment = none) ∧
    ∀ text : String, Toml.parse text.toList = .ok table → (ofDocument text).toOption = file := by
  intro file environment
  have in_file : file = (namedInFile value).map preferring := ofTable_of_setsPrimary sets
  have in_environment : environment = (namedInEnvironment value).map preferring :=
    withEnvironment_of_primary value
  have file_iff (settings : Settings) : file = some settings ↔
      ∃ kind, value ∈ kindWords kind ∧ settings = preferring kind := by
    rw [in_file, Option.map_eq_some_iff]
    exact exists_congr fun kind => and_congr namedInFile_eq_some_iff eq_comm
  have environment_iff (settings : Settings) : environment = some settings ↔
      ∃ kind, normalName value ∈ kindWords kind ∧ settings = preferring kind := by
    rw [in_environment, Option.map_eq_some_iff]
    exact exists_congr fun kind => and_congr namedInEnvironment_eq_some_iff eq_comm
  have taken (settings : Settings) (read : file = some settings) : environment = some settings := by
    obtain ⟨kind, listed, same⟩ := (file_iff settings).mp read
    exact (environment_iff settings).mpr
      ⟨kind, by rwa [normalName_of_mem_kindWords listed], same⟩
  refine ⟨file_iff, environment_iff, taken, ?_, fun text => ofDocument_of_parse⟩
  constructor
  · intro agree
    cases read : environment with
    | none => exact .inr rfl
    | some settings =>
      obtain ⟨kind, listed, _⟩ := (file_iff settings).mp (agree.trans read)
      exact .inl (normalName_of_mem_kindWords listed)
  · rintro (normal | refused)
    · apply Option.ext
      intro settings
      rw [file_iff, environment_iff, normal]
    · cases read : file with
      | none => exact refused.symm
      | some settings => cases refused.symm.trans (taken settings read)

/-- Two documents, one under a header and one in place: where the name is spelled exactly, file and
environment agree, and where it has a capital they do not. -/
theorem primary_agrees_iff_spelled : ∃ spelled capital,
    Toml.parse "[extraction]\nprimary_extractor = \"llm\"\n".toList = .ok spelled ∧
    Toml.parse "extraction = \x7b primary_extractor = 'Llm' \x7d".toList = .ok capital ∧
    SetsPrimary spelled "llm" ∧ SetsPrimary capital "Llm" ∧
    (ofTable spelled).toOption =
      (({} : Settings).withEnvironment (only primaryKey "llm")).outcome.toOption ∧
    (ofTable capital).toOption ≠
      (({} : Settings).withEnvironment (only primaryKey "Llm")).outcome.toOption := by
  obtain ⟨spelled, parsed, sets⟩ : ∃ table,
      Toml.parse "[extraction]\nprimary_extractor = \"llm\"\n".toList = .ok table ∧
      SetsPrimary table "llm" := ⟨_, rfl, ⟨_, _, _, _, _, .inl rfl, rfl, rfl⟩⟩
  obtain ⟨capital, parsed_capital, sets_capital⟩ : ∃ table,
      Toml.parse "extraction = \x7b primary_extractor = 'Llm' \x7d".toList = .ok table ∧
      SetsPrimary table "Llm" := ⟨_, rfl, ⟨_, _, _, _, _, .inr rfl, rfl, rfl⟩⟩
  refine ⟨spelled, capital, parsed, parsed_capital, sets, sets_capital, ?_, ?_⟩
  · have normal : normalName "llm" = "llm" := by decide +kernel
    exact (primary_agrees_iff sets).2.2.2.1.mpr (.inl normal)
  · have abnormal : normalName "Llm" ≠ "Llm" := by decide +kernel
    have listed : normalName "Llm" ∈ kindWords .model := by decide +kernel
    obtain ⟨_, taken, _, agrees, _⟩ := primary_agrees_iff sets_capital
    have read := (taken (preferring .model)).mpr ⟨.model, listed, rfl⟩
    intro agree
    rcases agrees.mp agree with normal | refused
    · exact abnormal normal
    · cases refused.symm.trans read

/-- Capitals are taken by the environment and refused in a file. -/
theorem capitals_refused_in_file :
    (ofDocument "[extraction]\nprimary_extractor = \"LLM\"\n").toOption = none ∧
    (({} : Settings).withEnvironment (only "DEVLOG_PRIMARY_EXTRACTOR" "LLM")).outcome.toOption =
      some (preferring .model) := by
  constructor
  · decide +kernel
  · decide +kernel

end DevlogGraph.Settings

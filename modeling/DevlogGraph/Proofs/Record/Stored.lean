import DevlogGraph.Proofs.Json.Gives
import DevlogGraph.Proofs.Record.Settings
import DevlogGraph.Proofs.Time.Instant
import DevlogGraph.Record.LogEntry

/-! What is stored of a relationship, of settings and of a log line is read as the same record, and a
text that has been stored once stays as it is. -/
namespace DevlogGraph.Record

open Json Schema

private theorem yields_slot {get : σ → Option β} {put : σ → β → σ} {reader : Reader β}
    {item : Value} (yields : Yields reader item found) (name : String) (state : σ) :
    Yields ((slot name get put reader).read state) item (put state found) := by
  intro rest ends
  rw [slot, result_bind, yields rest ends]
  rfl

private theorem yields_relationship (edge : Relationship) :
    Yields relationshipLayout.read (ofRelationship edge) edge := by
  have finished : relationshipLayout.finish ⟨some edge.source, some edge.target, some edge.kind⟩ =
      .ok edge := rfl
  refine Layout.Takes.yields ?_ finished
  exact .one rfl rfl (yields_slot (yields_text edge.source) _ _)
    (.one rfl rfl (yields_slot (yields_text edge.target) _ _)
    (.one rfl rfl (yields_slot (yields_text edge.kind) _ _) (.none _)))

private theorem yields_instant {moment : Time.Instant} (valid : moment.Valid) :
    Yields instant (.text moment.write) moment := by
  apply yields_textAs
  rw [moment.read_write valid]

private theorem yields_session (session : Option String) :
    Yields (optional text) (match session with
      | some session => .text session
      | none => .null) session := by
  cases session with
  | none => exact yields_null
  | some session => exact yields_optional_text session

private theorem yields_ofWord (word : UInt64) (name : String) :
    Yields (natural UInt64.size name) (ofWord word) word.toNat :=
  yields_natural word.toNat_lt word.toNat_lt name

private theorem yields_logEntry {entry : LogEntry} (valid : entry.recordedAt.Valid) :
    Yields logEntryLayout.read (ofLogEntry entry) entry := by
  have finished : logEntryLayout.finish
      ⟨some entry.session, some entry.extractor, some entry.inputLength.toNat,
        some entry.entitiesFound.toNat, some entry.milliseconds.toNat, some entry.recordedAt⟩ =
      .ok entry := by
    change Except.ok { entry with
      inputLength := UInt64.ofNat entry.inputLength.toNat
      entitiesFound := UInt64.ofNat entry.entitiesFound.toNat
      milliseconds := UInt64.ofNat entry.milliseconds.toNat } = Except.ok entry
    simp only [UInt64.ofNat_toNat]
  refine Layout.Takes.yields ?_ finished
  exact .one rfl rfl (yields_slot (yields_session entry.session) _ _)
    (.one rfl rfl (yields_slot (yields_text entry.extractor) _ _)
    (.one rfl rfl (yields_slot (yields_ofWord entry.inputLength _) _ _)
    (.one rfl rfl (yields_slot (yields_ofWord entry.entitiesFound _) _ _)
    (.one rfl rfl (yields_slot (yields_ofWord entry.milliseconds _) _ _)
    (.one rfl rfl (yields_slot (yields_instant valid) _ _) (.none _))))))

private theorem gives_instant : Gives instant Time.Instant.Valid := by
  apply gives_textAs
  intro held found read
  cases known : Time.Instant.read held with
  | error problem =>
    rw [known] at read
    cases read
  | ok moment =>
    rw [known] at read
    cases read
    exact Time.Instant.read_valid known

/-- What is kept while a log line is read. -/
def Dated (parts : LogEntryParts) : Prop :=
  ∀ moment, parts.recordedAt = some moment → moment.Valid

private theorem gives_slot {get : σ → Option β} {put : σ → β → σ} {reader : Reader β}
    {Kept : σ → Prop}
    (gives : Gives reader Good) (keeps : ∀ found, Good found → Kept (put state found))
    (name : String) : Gives ((slot name get put reader).read state) Kept := by
  intro start next rest read
  rw [slot, result_bind, Option.bind_eq_some_iff] at read
  obtain ⟨⟨found, behind⟩, inside, made⟩ := read
  cases made
  exact keeps found (gives start found behind inside)

private theorem gives_anything (reader : Reader α) : Gives reader fun _ => True :=
  fun _ _ _ _ => trivial

private theorem keeps_dated : logEntryLayout.Keeps Dated := by
  intro field listed state dated
  simp only [logEntryLayout, List.mem_cons, List.not_mem_nil, or_false] at listed
  -- only the last field touches the instant
  iterate 5
    rcases listed with rfl | listed
    · exact gives_slot (gives_anything _) (fun _ _ => dated) _
  obtain rfl := listed
  refine gives_slot gives_instant (fun moment valid => ?_) _
  intro other same
  cases same
  exact valid

private theorem gives_logEntry : Gives logEntryLayout.read fun entry => entry.recordedAt.Valid := by
  refine Layout.gives keeps_dated ?_ ?_
  · intro moment same
    cases same
  · intro parts entry dated made
    obtain ⟨session, extractor, inputLength, entitiesFound, milliseconds, recordedAt⟩ := parts
    cases extractor <;> cases inputLength <;> cases entitiesFound <;> cases milliseconds <;>
      cases recordedAt <;> cases made
    exact dated _ rfl

/-- What is stored of a record that is read from a text. -/
def restored (layout : Layout σ α) (write : α → Value) (text : String) : Except Located String :=
  (readAll layout.read text.toList).map fun found => (write found).compact

/-- Whatever text is read, what is stored of it is read again, and is stored as it is. -/
def Stable (layout : Layout σ α) (write : α → Value) : Prop :=
  ∀ text stored, restored layout write text = .ok stored → restored layout write stored = .ok stored

/-- Reading keeps to records of one kind, and those are read from what is written of them. -/
private theorem stable_of_gives {layout : Layout σ α} {write : α → Value}
    (gives : Gives layout.read Good)
    (yields : ∀ found, Good found → Yields layout.read (write found) found) : Stable layout write := by
  intro text stored once
  cases read : readAll layout.read text.toList with
  | error fault =>
    rw [restored, read] at once
    cases once
  | ok found =>
    rw [restored, read] at once
    obtain rfl : (write found).compact = stored := Except.ok.inj once
    rw [restored, (yields found (gives.readAll read)).readAll]
    rfl

/-- Relationships, settings and log lines are read from what is stored of them, log lines exactly if
their instant is one of the calendar. What is stored of any text that is read is stored as it is from
then on, and settings stored without some of their parts are read with these at their defaults. -/
theorem stored_reads_back :
    (∀ edge, readAll relationshipLayout.read (ofRelationship edge).compact.toList = .ok edge) ∧
    (∀ settings, readAll settingsLayout.read (ofSettings settings).compact.toList = .ok settings) ∧
    (∀ entry, readAll logEntryLayout.read (ofLogEntry entry).compact.toList = .ok entry ↔
      entry.recordedAt.Valid) ∧
    Stable relationshipLayout ofRelationship ∧ Stable settingsLayout ofSettings ∧
    Stable logEntryLayout ofLogEntry ∧
    ∀ (gaps : Gaps) settings, readAll settingsLayout.read
      (gaps.cut (ofSettings settings)).compact.toList = .ok (gaps.fillAll settings) := by
  have whole (settings : Settings) : Yields settingsLayout.read (ofSettings settings) settings :=
    yields_cut ⟨fun _ => false, fun _ _ => false⟩ settings
  have stable_edges : Stable relationshipLayout ofRelationship :=
    stable_of_gives (gives_anything _) fun edge _ => yields_relationship edge
  have stable_settings : Stable settingsLayout ofSettings :=
    stable_of_gives (gives_anything _) fun settings _ => whole settings
  have stable_entries : Stable logEntryLayout ofLogEntry :=
    stable_of_gives gives_logEntry fun _ valid => yields_logEntry valid
  refine ⟨?edges, ?settings, ?entries, stable_edges, stable_settings, stable_entries, ?cut⟩
  case edges =>
    intro edge
    exact (yields_relationship edge).readAll
  case settings =>
    intro settings
    exact (whole settings).readAll
  case entries =>
    intro entry
    exact ⟨gives_logEntry.readAll, fun valid => (yields_logEntry valid).readAll⟩
  case cut =>
    intro gaps settings
    exact (yields_cut gaps settings).readAll

/-- A leap second, in another order of the fields, with an offset, an escape and a field of no meaning. -/
theorem stored_reads_back_leap_second :
    let text := "\x7b\"recorded_at\": \"2016-12-31t22:59:60.5-01:00\"," ++
      "\"note\": [0], \"duration_ms\": 18446744073709551615, \"extractor\": \"\\u0072\"," ++
      "\"input_length\": 1, \"entities_found\": 0\x7d"
    let stored := "\x7b\"session_id\":null,\"extractor\":\"r\",\"input_length\":1,\"entities_found\":0," ++
      "\"duration_ms\":18446744073709551615,\"recorded_at\":\"2016-12-31T23:59:60.500Z\"\x7d"
    restored logEntryLayout ofLogEntry text = .ok stored ∧
      restored logEntryLayout ofLogEntry stored = .ok stored := by
  intro text stored
  have once : restored logEntryLayout ofLogEntry text = .ok stored :=
    toOption_eq_some_iff.mp (by decide +kernel)
  obtain ⟨_, _, _, _, _, stable, _⟩ := stored_reads_back
  exact ⟨once, stable text stored once⟩

end DevlogGraph.Record

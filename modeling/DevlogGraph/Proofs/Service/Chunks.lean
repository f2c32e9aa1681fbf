import DevlogGraph.Proofs.Fallible
import DevlogGraph.Proofs.Json.Trailing
import DevlogGraph.Proofs.Text.Blank
import DevlogGraph.Proofs.Text.Lines
import DevlogGraph.Service.Answer

/-! A generated text that comes in chunks. However the text is cut, and whatever else stands in the
chunks and between them, the chunks are put together to the text; and a body of two parts holds what
its parts hold, or nothing at all. -/
namespace DevlogGraph.Service

open Json Text

private theorem readChunk_error {failure : Failure} (failed : readChunk line = .error failure) :
    ∃ reason, failure = .transport reason := by
  unfold readChunk at failed
  cases read : readAll chunkLayout.read line with
  | ok text =>
    rw [read] at failed
    cases failed
  | error found =>
    rw [read] at failed
    cases failed
    exact ⟨_, rfl⟩

private theorem readChunk_toOption (line : List Char) :
    (readChunk line).toOption = (readAll chunkLayout.read line).toOption := by
  rw [readChunk]
  cases readAll chunkLayout.read line <;> rfl

/-- What a line adds: nothing if it is blank, and no text if it is not a chunk. -/
def chunkOf? (line : List Char) : Option (Option String) :=
  if (trim line).isEmpty then none else some (readChunk line).toOption

private theorem chunkOf?_blank (blank : ∀ c ∈ line, isBlank c = true) : chunkOf? line = none := by
  rw [chunkOf?, trim_eq_nil_iff.mpr blank]
  rfl

private theorem chunkOf?_visible (visible : trim line ≠ []) :
    chunkOf? line = some (readChunk line).toOption :=
  if_neg (by simpa using visible)

private theorem steady_singleLayout {read : Reader α} (steady : Steady read) (title name : String)
    (missing : Except Schema.Mismatch α) : Steady (singleLayout title name missing read).read := by
  refine Layout.steady_read fun field member state => ?_
  obtain rfl := List.mem_singleton.mp member
  intro front back similar
  refine (steady front back similar).bind fun found rest more later short => ?_
  exact follows_done (some found) later (by omega)

/-- The carriage return of an ending is white space to a chunk, and a blank to a line without one. -/
private theorem chunkOf?_return (line : List Char) : chunkOf? (line ++ ['\r']) = chunkOf? line := by
  have similar : Similar line (line ++ ['\r']) :=
    .append_spaces line (List.forall_mem_singleton.mpr (by decide))
  have read : (readChunk (line ++ ['\r'])).toOption = (readChunk line).toOption := by
    rw [readChunk_toOption, readChunk_toOption]
    exact ((steady_singleLayout (steady_textAs _ _) _ _ _).readAll similar).symm
  have blank : trim (line ++ ['\r']) = [] ↔ trim line = [] := by
    have return_blank : isBlank '\r' = true := by decide
    rw [trim_eq_nil_iff, trim_eq_nil_iff, List.forall_mem_append, List.forall_mem_singleton]
    exact and_iff_left return_blank
  simp only [chunkOf?, List.isEmpty_iff, blank, read]

/-- The lines that are not blank, and what each of them holds. -/
private theorem filterMap_chunkOf? (body : List Char) :
    ((lines body).filter fun line => !(trim line).isEmpty).map (fun line => (readChunk line).toOption) =
      (pieces '\n' body).filterMap chunkOf? := by
  rw [← filterMap_lines (blind_withoutReturn chunkOf?_return) rfl]
  induction lines body with
  | nil => rfl
  | cons line later ih =>
    cases blank : (trim line).isEmpty <;> simp [chunkOf?, blank, ih]

theorem readChunks_eq_ok_iff {body : List Char} {whole : String} : readChunks body = .ok whole ↔
    ∃ texts : List String, (pieces '\n' body).filterMap chunkOf? = texts.map some ∧
      whole = String.join texts := by
  rw [← filterMap_chunkOf?, readChunks]
  simp only [← mapM_eq_ok_iff]
  cases ((lines body).filter fun line => !(trim line).isEmpty).mapM readChunk with
  | error failure => simp [bind, Except.bind]
  | ok texts => simp [bind, Except.bind, pure, Except.pure, eq_comm]

/-- A body of two parts holds what they hold, one after the other, and nothing unless both hold a text. -/
theorem readChunks_append (front back : List Char) (whole : String) :
    readChunks (front ++ '\n' :: back) = .ok whole ↔
      ∃ first second, readChunks front = .ok first ∧ readChunks back = .ok second ∧
        whole = first ++ second := by
  simp only [readChunks_eq_ok_iff, pieces_append_mark, List.filterMap_append]
  constructor
  · rintro ⟨texts, each, rfl⟩
    obtain ⟨before, after, rfl, each_before, each_after⟩ := List.append_eq_map_iff.mp each
    exact ⟨_, _, ⟨before, each_before.symm, rfl⟩, ⟨after, each_after.symm, rfl⟩, String.join_append⟩
  · rintro ⟨_, _, ⟨before, each_before, rfl⟩, ⟨after, each_after, rfl⟩, rfl⟩
    exact ⟨before ++ after, by rw [each_before, each_after, List.map_append], String.join_append.symm⟩

private theorem readChunks_blank {body : List Char} (blank : ∀ c ∈ body, isBlank c = true) :
    readChunks body = .ok "" := by
  refine readChunks_eq_ok_iff.mpr ⟨[], List.filterMap_eq_nil_iff.mpr fun piece member => ?_, rfl⟩
  exact chunkOf?_blank fun c inside => blank c ((infix_of_mem_pieces member).subset inside)

private theorem readChunks_line {line : List Char} {held : String} (single : '\n' ∉ line)
    (chunk : chunkOf? line = some (some held)) : readChunks line = .ok held := by
  refine readChunks_eq_ok_iff.mpr ⟨[held], ?_, by simp⟩
  rw [pieces_of_not_mem single, List.filterMap_cons_some chunk]
  rfl

/-- A failure is that of a line which is not blank. -/
private theorem readChunks_error {body : List Char} {failure : Failure}
    (failed : readChunks body = .error failure) :
    ∃ line ∈ lines body, trim line ≠ [] ∧ readChunk line = .error failure := by
  unfold readChunks at failed
  cases each : ((lines body).filter fun line => !(trim line).isEmpty).mapM readChunk with
  | ok texts =>
    rw [each] at failed
    cases failed
  | error found =>
    rw [each] at failed
    cases failed
    obtain ⟨line, member, fails⟩ := mapM_eq_error each
    obtain ⟨listed, visible⟩ := List.mem_filter.mp member
    exact ⟨line, listed, by simpa using visible, fails⟩

private theorem readChunk_of_readChunks {body : List Char} {whole : String}
    (read : readChunks body = .ok whole)
    (listed : line ∈ lines body) (visible : trim line ≠ []) : ∃ held, readChunk line = .ok held := by
  obtain ⟨texts, each, _⟩ := readChunks_eq_ok_iff.mp read
  have kept : line ∈ (lines body).filter fun line => !(trim line).isEmpty :=
    List.mem_filter.mpr ⟨listed, by simpa using visible⟩
  have member := List.mem_map_of_mem (f := fun line => (readChunk line).toOption) kept
  rw [filterMap_chunkOf?, each] at member
  obtain ⟨held, _, same⟩ := List.mem_map.mp member
  exact ⟨held, toOption_eq_some_iff.mp same.symm⟩

/-- One line that is not blank and not a chunk is enough for the whole body to fail. -/
theorem readChunks_fails_iff (body : List Char) :
    (∃ reason, readChunks body = .error (.transport reason)) ↔
      ∃ line ∈ lines body, trim line ≠ [] ∧ ∀ held, readChunk line ≠ .ok held := by
  constructor
  · rintro ⟨reason, failed⟩
    obtain ⟨line, listed, visible, fails⟩ := readChunks_error failed
    refine ⟨line, listed, visible, fun held read => ?_⟩
    rw [read] at fails
    cases fails
  · rintro ⟨line, listed, visible, unread⟩
    cases outcome : readChunks body with
    | ok whole =>
      obtain ⟨held, read⟩ := readChunk_of_readChunks outcome listed visible
      exact absurd read (unread held)
    | error failure =>
      obtain ⟨line, _, _, fails⟩ := readChunks_error outcome
      obtain ⟨reason, rfl⟩ := readChunk_error fails
      exact ⟨reason, rfl⟩

/-- A record of one member that is read, among others that are not. -/
private theorem read_singleLayout {read : Reader α} {before after : List Member} {member : Member}
    {found : α} (named : member.name = name)
    (takes : ∀ rest, Ends rest → (read (member.value ++ rest)).result = some (found, rest))
    (others : ∀ other ∈ before ++ after, other.name ≠ name ∧ Compact other.value)
    (title : String) (missing : Except Schema.Mismatch α) :
    (readAll (singleLayout title name missing read).read
      (objectText (before ++ member :: after))).toOption = some found := by
  have unasked : ∀ other ∈ before ++ after, (singleLayout title name missing read).Unasked other := by
    intro other inside
    obtain ⟨different, compact⟩ := others other inside
    exact ⟨by simp [singleLayout, Ne.symm different], compact⟩
  obtain ⟨unasked_before, unasked_after⟩ := List.forall_mem_append.mp unasked
  have taken (rest : List Char) (ends : Ends rest) :
      ((singleLayout title name missing read).member member.name none
        (':' :: (member.value ++ rest))).result = some (some found, rest) := by
    simp [Layout.member, singleLayout, named, result_colon, takes rest ends]
  refine readAll_toOption ?_
  rw [← List.append_nil (objectText _)]
  refine Layout.result_read_objectText fun fuel enough => ?_
  -- one step for each member in front, one for the member itself, and enough for those behind it
  rw [List.length_append, List.length_cons] at enough
  obtain ⟨more, rfl, less⟩ : ∃ more, fuel = before.length + (more + 1) ∧ after.length < more :=
    ⟨fuel - before.length - 1, by omega, by omega⟩
  rw [Layout.result_membersFrom_unasked rfl unasked_before, List.map_cons,
    Layout.result_membersFrom_text]
  refine (congrArg (Option.bind · _) (taken _ (ends_strung _ (.inr rfl) []))).trans ?_
  exact Layout.result_membersFrom_rest rfl unasked_after less false (some found) []

/-- A compact object with the text in its `response`, among members of other names. -/
inductive ChunkLine (held : String) : List Char → Prop where
  | object {before after : List Member} {response : Member} (named : response.name = "response")
      (quoted : Quoted held response.value)
      (others : ∀ other ∈ before ++ after, other.name ≠ "response" ∧ Compact other.value) :
      ChunkLine held (objectText (before ++ response :: after))

theorem ChunkLine.read (chunk : ChunkLine held line) : readChunk line = .ok held := by
  cases chunk with
  | @object before after response named quoted others =>
    rw [← toOption_eq_some_iff, readChunk_toOption]
    exact read_singleLayout named (fun rest _ => result_textAs_quoted quoted rfl _ rest) others _ _

theorem ChunkLine.single (chunk : ChunkLine held line) : '\n' ∉ line := by
  cases chunk with
  | object _ quoted others =>
    obtain ⟨before, after⟩ := List.forall_mem_append.mp others
    refine feed_not_mem_objectText (List.forall_mem_append.mpr ⟨fun other listed => ?_,
      List.forall_mem_cons.mpr ⟨quoted.feed_not_mem, fun other listed => ?_⟩⟩)
    · exact (before other listed).2.feed_not_mem
    · exact (after other listed).2.feed_not_mem

private theorem ChunkLine.chunkOf (chunk : ChunkLine held line) :
    chunkOf? line = some (some held) := by
  have visible : trim line ≠ [] := by
    rw [Ne, trim_eq_nil_iff]
    intro blank
    cases chunk with
    | object _ _ _ => exact absurd (blank '\x7b' List.mem_cons_self) (by decide)
  rw [chunkOf?_visible visible, chunk.read]
  rfl

/-- The ending of a line. -/
inductive LineEnd : List Char → Prop where
  | feed : LineEnd ['\n']
  | returned : LineEnd ['\r', '\n']

/-- A body with a chunk for each text, on lines of their own, and any blank lines. The last line may
be without an ending. -/
inductive Streamed : List String → List Char → Prop where
  | blank (blank : ∀ c ∈ line, isBlank c = true) (ended : LineEnd ending)
      (later : Streamed texts rest) : Streamed texts (line ++ (ending ++ rest))
  | chunk (chunk : ChunkLine held line) (ended : LineEnd ending) (later : Streamed texts rest) :
      Streamed (held :: texts) (line ++ (ending ++ rest))
  | lastBlank (blank : ∀ c ∈ line, isBlank c = true) : Streamed [] line
  | lastChunk (chunk : ChunkLine held line) : Streamed [held] line

private theorem readChunks_ended {line ending rest : List Char} {first second : String}
    (ended : LineEnd ending)
    (here : readChunks line = .ok first) (returned : readChunks (line ++ ['\r']) = .ok first)
    (later : readChunks rest = .ok second) :
    readChunks (line ++ (ending ++ rest)) = .ok (first ++ second) := by
  cases ended with
  | feed => exact (readChunks_append line rest _).mpr ⟨first, second, here, later, rfl⟩
  | returned =>
    have split : line ++ (['\r', '\n'] ++ rest) = line ++ ['\r'] ++ '\n' :: rest := by simp
    rw [split]
    exact (readChunks_append _ rest _).mpr ⟨first, second, returned, later, rfl⟩

/-- The texts of a stream come back in one piece. -/
theorem Streamed.read (streamed : Streamed texts body) :
    readChunks body = .ok (String.join texts) := by
  have return_blank : isBlank '\r' = true := by decide
  induction streamed with
  | blank blank ended _ ih =>
    -- the carriage return of an ending is one more blank
    have returned := List.forall_mem_append.mpr ⟨blank, List.forall_mem_singleton.mpr return_blank⟩
    have read := readChunks_ended ended (readChunks_blank blank) (readChunks_blank returned) ih
    rwa [String.empty_append] at read
  | @chunk held line _ _ _ chunk ended _ ih =>
    have single : '\n' ∉ line ++ ['\r'] := by simp [chunk.single]
    have returned := readChunks_line single ((chunkOf?_return line).trans chunk.chunkOf)
    rw [String.join_cons]
    exact readChunks_ended ended (readChunks_line chunk.single chunk.chunkOf) returned ih
  | lastBlank blank => exact readChunks_blank blank
  | @lastChunk held line chunk =>
    rw [String.join_cons, String.join_nil, String.append_empty]
    exact readChunks_line chunk.single chunk.chunkOf

/-- Texts that come in chunks are put together, however they are cut: the same text in other chunks
gives the same reply. Two bodies in one hold a text exactly if both do, and a line that is neither blank
nor a chunk makes the whole body a transport failure. -/
theorem readChunks_concatenates :
    (∀ texts body, Streamed texts body → readChunks body = .ok (String.join texts)) ∧
    (∀ texts others body again, Streamed texts body → Streamed others again →
      String.join texts = String.join others → readChunks body = readChunks again) ∧
    (∀ front back whole, readChunks (front ++ '\n' :: back) = .ok whole ↔
      ∃ first second, readChunks front = .ok first ∧ readChunks back = .ok second ∧
        whole = first ++ second) ∧
    ∀ body, (∃ reason, readChunks body = .error (.transport reason)) ↔
      ∃ line ∈ lines body, trim line ≠ [] ∧ ∀ held, readChunk line ≠ .ok held := by
  refine ⟨fun _ _ streamed => streamed.read, ?_, readChunks_append, readChunks_fails_iff⟩
  intro texts others body again streamed twin same
  rw [streamed.read, twin.read, same]

/-- The same text in one chunk beside a number, and cut behind a quote that is escaped by its code unit,
with an ideographic space between the chunks and other line endings. -/
theorem readChunks_concatenates_cut_behind_quote : ∃ once twice,
    once = "\x7b\"load\":1E+5,\"response\":\"\\\"b\\n\"\x7d".toList ∧
    twice = ("\x7b\"response\":\"\\u0022\"\x7d\r\n" ++ "\u3000\n" ++
      "\x7b\"response\":\"b\\n\",\"done\":true\x7d\n").toList ∧
    Streamed ["\"b\n"] once ∧ Streamed ["\"", "b\n"] twice ∧
    readChunks once = readChunks twice ∧ readChunks twice = .ok "\"b\n" := by
  have exponent : Exponent ('E' :: (['+'] ++ ['5'])) :=
    .some (by decide) (.inr (.inl rfl)) ⟨by simp, List.forall_mem_singleton.mpr (by decide)⟩
  have one : Whole ['1'] := .more (by decide) (by decide) (List.forall_mem_nil _)
  have load : Compact ['1', 'E', '+', '5'] := .number (.positive one .none exponent)
  have unit : Spelled '"' ['\\', 'u', '0', '0', '2', '2'] := .unit (codeUnit_of_small (by decide))
  have spelling : Spelling "\"".toList ['\\', 'u', '0', '0', '2', '2'] := .cons unit .nil
  have whole : ChunkLine "\"b\n" (objectText
      ([⟨"load", _, quoted_writeText "load", _⟩] ++ [written ("response", .text "\"b\n")])) :=
    .object rfl (quoted_writeText _) (by simpa using load)
  have front : ChunkLine "\"" (objectText ([] ++ [⟨"response", _, quoted_writeText "response", _⟩])) :=
    .object rfl (.spelling spelling) (by simp)
  have back : ChunkLine "b\n" (objectText
      ([] ++ [written ("response", .text "b\n"), written ("done", .flag true)])) :=
    .object rfl (quoted_writeText _) (by simpa [written, Value.write] using Compact.flag true)
  have once := Streamed.lastChunk whole
  have ideographic : ∀ c ∈ ['\u3000'], isBlank c = true := List.forall_mem_singleton.mpr (by decide)
  have ending : Streamed [] [] := .lastBlank (by simp)
  have twice := Streamed.chunk front .returned (.blank ideographic .feed (.chunk back .feed ending))
  refine ⟨_, _, ?_, ?_, once, twice, ?_, ?_⟩
  · decide
  · decide
  · exact readChunks_concatenates.2.1 _ _ _ _ once twice rfl
  · exact readChunks_concatenates.1 _ _ twice

end DevlogGraph.Service

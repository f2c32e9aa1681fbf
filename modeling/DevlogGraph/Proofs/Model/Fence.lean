import Mathlib.Data.List.Basic
import DevlogGraph.Model.Reply
import DevlogGraph.Proofs.Pattern.Arrow

/-! Wrapped replies: a payload means the same on its own and between code fences and blanks. -/
namespace DevlogGraph.Model

open Text
open Pattern (Blanks)

/-- The name of the language that a fence may carry. -/
def tag : List Char := ['j', 's', 'o', 'n']

private theorem jsonFence_eq : jsonFence = fence ++ tag := rfl

/-- A payload with nothing at its ends that a wrapping could be made of. -/
structure Unwrapped (payload : List Char) : Prop where
  trimmed : Trimmed payload
  unopened : ¬ fence <+: payload
  unclosed : ¬ fence <:+ payload

/-- What may stand before the payload: blanks, perhaps with a fence. What follows a plain fence must
not read as the name of the language. -/
inductive Opening (payload : List Char) : List Char → Prop where
  | blanks (front : Blanks before) : Opening payload before
  | json (front : Blanks before) (inside : Blanks after) :
      Opening payload (before ++ jsonFence ++ after)
  | plain (front : Blanks before) (inside : Blanks after) (untagged : ¬ tag <+: after ++ payload) :
      Opening payload (before ++ fence ++ after)

/-- What may stand behind the payload. -/
inductive Closing : List Char → Prop where
  | blanks (behind : Blanks after) : Closing after
  | fence (inside : Blanks before) (behind : Blanks after) : Closing (before ++ fence ++ after)

def Wraps (payload reply : List Char) : Prop :=
  ∃ opening closing, Opening payload opening ∧ Closing closing ∧ reply = opening ++ payload ++ closing

/-- A word that starts a text and cannot reach further does not. -/
private theorem prefix_of_append {word text rest : List Char} (starts : word <+: text ++ rest)
    (apart : rest.head?.all fun c => !word.contains c) : word <+: text := by
  rcases List.prefix_or_prefix_of_prefix starts (List.prefix_append text rest) with inside | ⟨more, rfl⟩
  · exact inside
  · cases more with
    | nil => simp
    | cons c later =>
      obtain ⟨last, rfl⟩ := (List.prefix_append_right_inj text).mp starts
      simp at apart

private theorem suffix_of_append {word text rest : List Char} (stops : word <:+ rest ++ text)
    (apart : rest.getLast?.all fun c => !word.contains c) : word <:+ text := by
  rw [← List.reverse_prefix] at stops ⊢
  rw [List.reverse_append] at stops
  refine prefix_of_append stops ?_
  simpa using apart

private theorem blanks_nil : Blanks [] := by simp [Blanks]

private theorem withoutOpeningFence_json (text : List Char) :
    withoutOpeningFence (jsonFence ++ text) = text := by
  simp [withoutOpeningFence, withoutPrefix?, List.isPrefixOf_iff_prefix]

private theorem withoutOpeningFence_plain (untagged : ¬ tag <+: text) :
    withoutOpeningFence (fence ++ text) = text := by
  have other : ¬ jsonFence <+: fence ++ text := by
    rwa [jsonFence_eq, List.prefix_append_right_inj]
  simp [withoutOpeningFence, withoutPrefix?, List.isPrefixOf_iff_prefix, other]

private theorem withoutOpeningFence_none (unopened : ¬ fence <+: text) :
    withoutOpeningFence text = text := by
  have other : ¬ jsonFence <+: text := fun starts =>
    unopened ((List.prefix_append fence tag).trans starts)
  simp [withoutOpeningFence, withoutPrefix?, List.isPrefixOf_iff_prefix, other, unopened]

private theorem withoutClosingFence_fence (text : List Char) :
    withoutClosingFence (text ++ fence) = text := by
  rw [withoutClosingFence, if_pos (List.isSuffixOf_iff_suffix.mpr (List.suffix_append text fence)),
    List.length_append, Nat.add_sub_cancel, List.take_left]

private theorem withoutClosingFence_none (unclosed : ¬ fence <:+ text) :
    withoutClosingFence text = text := by
  rw [withoutClosingFence, if_neg (mt List.isSuffixOf_iff_suffix.mp unclosed)]

/-- What is left of a closing once the blanks at the end are gone. -/
inductive Ending : List Char → Prop where
  | none : Ending []
  | fence (inside : Blanks before) : Ending (before ++ fence)

private theorem head_apart_of_blanks {word : List Char} (visible : word.any isBlank = false)
    (blank : Blanks blanks) : blanks.head?.all fun c => !word.contains c := by
  cases blanks with
  | nil => rfl
  | cons c rest =>
    have hidden := blank c List.mem_cons_self
    simp only [List.head?_cons, Option.all_some, Bool.not_eq_true', List.contains_eq_mem]
    refine decide_eq_false fun member => ?_
    exact List.any_eq_false.mp visible c member hidden

private theorem fence_visible : fence.any isBlank = false := by decide

private theorem fence_trimmed : Trimmed fence := ⟨rfl, rfl⟩

private theorem jsonFence_trimmed : Trimmed jsonFence := ⟨rfl, rfl⟩

theorem Ending.apart (ending : Ending tail) : tail.head?.all fun c => !tag.contains c := by
  cases ending with
  | none => rfl
  | @fence before inside =>
    cases before with
    | nil => decide
    | cons c rest =>
      have apart := head_apart_of_blanks (by decide : tag.any isBlank = false) inside
      exact apart

/-- Behind a fence the blanks of the closing are gone, and those behind an empty payload with them. -/
private theorem trim_marked {mark : List Char} (visible : Trimmed mark) (some_mark : mark ≠ [])
    (front : Blanks before) (inside : Blanks after) (payload_trimmed : Trimmed payload)
    (closing : Closing behind) :
    ∃ gap tail, trim (before ++ mark ++ after ++ payload ++ behind) = mark ++ (gap ++ payload ++ tail) ∧
      Blanks gap ∧ (gap = after ∨ gap ++ payload = []) ∧ Ending tail := by
  have ends {middle : List Char} (some_middle : middle ≠ [])
      (last : middle.getLast?.any isBlank = false) : Trimmed (mark ++ middle) :=
    ⟨by rw [List.head?_append_of_ne_nil mark some_mark]; exact visible.head,
      by rw [List.getLast?_append_of_ne_nil mark some_middle]; exact last⟩
  cases closing with
  | blanks blank =>
    by_cases empty : payload = []
    · subst empty
      have gone : Blanks (after ++ behind) := fun c member =>
        (List.mem_append.mp member).elim (inside c) (blank c)
      refine ⟨[], [], ?_, blanks_nil, .inr rfl, .none⟩
      rw [List.append_nil, List.append_assoc _ after behind, trim_between front visible gone]
      simp
    · refine ⟨after, [], ?_, inside, .inl rfl, .none⟩
      have trimmed := ends (List.append_ne_nil_of_right_ne_nil after empty)
        (by rw [List.getLast?_append_of_ne_nil after empty]; exact payload_trimmed.last)
      rw [List.append_nil, ← trim_between front trimmed blank]
      simp
  | @fence inner outer within blank =>
    refine ⟨after, inner ++ fence, ?_, inside, .inl rfl, .fence within⟩
    have trimmed : Trimmed (mark ++ (after ++ payload ++ (inner ++ fence))) :=
      ends (by simp [fence]) (by rw [← List.append_assoc, List.getLast?_append_of_ne_nil _ (by decide)]; decide)
    rw [← trim_between front trimmed blank]
    simp

section Payload

variable {payload : List Char} (unwrapped : Unwrapped payload)
include unwrapped

private theorem Unwrapped.unclosed_behind (blank : Blanks gap) : ¬ fence <:+ gap ++ payload := by
  have apart := head_apart_of_blanks fence_visible fun c member => blank c (List.mem_reverse.mp member)
  rw [List.head?_reverse] at apart
  exact fun closed => unwrapped.unclosed (suffix_of_append closed apart)

/-- The closing fence goes if there is one, and the blanks go in any case. -/
private theorem Unwrapped.trim_withoutClosingFence (blank : Blanks gap) (ending : Ending tail) :
    trim (withoutClosingFence (gap ++ payload ++ tail)) = payload := by
  cases ending with
  | none =>
    have trimmed := trim_between blank unwrapped.trimmed blanks_nil
    rw [List.append_nil] at trimmed
    rw [List.append_nil, withoutClosingFence_none (unwrapped.unclosed_behind blank), trimmed]
  | fence inside =>
    rw [← List.append_assoc, withoutClosingFence_fence]
    exact trim_between blank unwrapped.trimmed inside

/-- Only a payload of one or two backticks reads as an opening fence together with a closing one. -/
private theorem Unwrapped.commutes (starts : fence <+: payload ++ tail) (ending : Ending tail) :
    payload ++ tail = fence ++ payload ∧ ¬ tag <+: payload := by
  have ticks : ∀ c ∈ payload, c = '\x60' := by
    rcases List.prefix_or_prefix_of_prefix starts (List.prefix_append payload tail) with here | inside
    · exact absurd here unwrapped.unopened
    · exact fun c member => by simpa [fence] using inside.subset member
  have untagged : ¬ tag <+: payload := fun tagged =>
    absurd (ticks 'j' (tagged.subset (by decide))) (by decide)
  refine ⟨?_, untagged⟩
  cases ending with
  | none =>
    rw [List.append_nil] at starts
    exact absurd starts unwrapped.unopened
  | @fence before inside =>
    cases before with
    | nil =>
      have same := List.eq_replicate_iff.mpr ⟨rfl, ticks⟩
      have three : Model.fence = List.replicate 3 '\x60' := rfl
      rw [List.nil_append, three, same, List.replicate_append_replicate,
        List.replicate_append_replicate, Nat.add_comm]
    | cons c rest =>
      have apart := head_apart_of_blanks fence_visible inside
      exact absurd (prefix_of_append starts apart) unwrapped.unopened

/-- A payload without an opening fence is found, too. -/
private theorem Unwrapped.payload_of_open (ending : Ending tail) :
    trim (withoutClosingFence (withoutOpeningFence (payload ++ tail))) = payload := by
  by_cases starts : fence <+: payload ++ tail
  · obtain ⟨turned, untagged⟩ := unwrapped.commutes starts ending
    rw [turned, withoutOpeningFence_plain untagged, withoutClosingFence_none unwrapped.unclosed]
    exact (trim_eq_self_iff payload).mpr unwrapped.trimmed
  · rw [withoutOpeningFence_none starts]
    exact unwrapped.trim_withoutClosingFence blanks_nil ending

theorem Unwrapped.cleaned_eq (wraps : Wraps payload reply) : cleaned reply = payload := by
  obtain ⟨opening, closing, opens, closes, rfl⟩ := wraps
  rw [cleaned]
  cases opens with
  | json front inside =>
    obtain ⟨gap, tail, trimmed, blank, _, ending⟩ :=
      trim_marked jsonFence_trimmed (by decide) front inside unwrapped.trimmed closes
    rw [trimmed, withoutOpeningFence_json]
    exact unwrapped.trim_withoutClosingFence blank ending
  | plain front inside untagged =>
    obtain ⟨gap, tail, trimmed, blank, kept, ending⟩ :=
      trim_marked fence_trimmed (by decide) front inside unwrapped.trimmed closes
    rw [trimmed, withoutOpeningFence_plain]
    · exact unwrapped.trim_withoutClosingFence blank ending
    · intro tagged
      have inside_text := prefix_of_append tagged ending.apart
      rcases kept with rfl | none_left
      · exact untagged inside_text
      · rw [none_left, List.prefix_nil] at inside_text
        cases inside_text
  | blanks front =>
    cases closes with
    | blanks behind =>
      rw [trim_between front unwrapped.trimmed behind, ← List.append_nil payload]
      exact (unwrapped.payload_of_open .none).trans (List.append_nil payload).symm
    | @fence before after inside behind =>
      by_cases empty : payload = []
      · subst empty
        have gone : Blanks (opening ++ before) := fun c member =>
          (List.mem_append.mp member).elim (front c) (inside c)
        rw [List.append_nil, ← List.append_assoc, ← List.append_assoc,
          trim_between gone fence_trimmed behind]
        rfl
      · have trimmed : Trimmed (payload ++ (before ++ fence)) :=
          ⟨by rw [List.head?_append_of_ne_nil payload empty]; exact unwrapped.trimmed.head,
            by rw [← List.append_assoc, List.getLast?_append_of_ne_nil _ (by decide)]; decide⟩
        have cut := trim_between front trimmed behind
        simp only [List.append_assoc] at cut ⊢
        rw [cut]
        exact unwrapped.payload_of_open (.fence inside)

/-- All wrappings of a payload mean the same: they are read alike or refused for one reason, and only
the part of the reply that is kept differs. -/
theorem readReply_wrapped : (∀ reply, Wraps payload reply → cleaned reply = payload) ∧
    ∀ reply other : String, Wraps payload reply.toList → Wraps payload other.toList →
      (∃ found, readReply reply = .ok found ∧ readReply other = .ok found) ∨
        ∃ reason, readReply reply = .error (.ofReply reason reply) ∧
          readReply other = .error (.ofReply reason other) := by
  refine ⟨fun reply => unwrapped.cleaned_eq, fun reply other first second => ?_⟩
  unfold readReply
  dsimp only
  rw [unwrapped.cleaned_eq first, unwrapped.cleaned_eq second]
  cases Json.readAll replyLayout.read payload with
  | ok body => exact .inl ⟨_, rfl, rfl⟩
  | error fault => exact .inr ⟨_, rfl, rfl⟩

end Payload

/-- Two backticks between fences that touch them, and alone before a closing fence. -/
theorem readReply_wrapped_backticks :
    (cleaned "\x60\x60\x60json\u3000\x60\x60\x60\x60\x60\n".toList = ['\x60', '\x60'] ∧
      cleaned " \x60\x60\x60\x60\x60".toList = ['\x60', '\x60']) ∧
    ∃ reason, readReply "\x60\x60\x60json\u3000\x60\x60\x60\x60\x60\n" =
        .error (.ofReply reason "\x60\x60\x60json\u3000\x60\x60\x60\x60\x60\n") ∧
      readReply " \x60\x60\x60\x60\x60" = .error (.ofReply reason " \x60\x60\x60\x60\x60") := by
  have unwrapped : Unwrapped ['\x60', '\x60'] := ⟨⟨rfl, rfl⟩, by decide, by decide⟩
  have space : Blanks [' '] := by simp [Blanks, isBlank, inSpans, blankSpans]
  have wide : Blanks ['\u3000'] := by simp [Blanks, isBlank, inSpans, blankSpans]
  have feed : Blanks ['\n'] := by simp [Blanks, isBlank, inSpans, blankSpans]
  have both : Wraps ['\x60', '\x60'] "\x60\x60\x60json\u3000\x60\x60\x60\x60\x60\n".toList :=
    ⟨_, _, .json blanks_nil wide, .fence blanks_nil feed, rfl⟩
  have closed : Wraps ['\x60', '\x60'] " \x60\x60\x60\x60\x60".toList :=
    ⟨_, _, .blanks space, .fence blanks_nil blanks_nil, rfl⟩
  obtain ⟨payloads, alike⟩ := readReply_wrapped unwrapped
  refine ⟨⟨payloads _ both, payloads _ closed⟩, ?_⟩
  rcases alike _ _ both closed with ⟨found, read, _⟩ | refused
  · unfold readReply at read
    rw [payloads _ both] at read
    cases read
  · exact refused

end DevlogGraph.Model

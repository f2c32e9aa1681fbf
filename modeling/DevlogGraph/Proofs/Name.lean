import DevlogGraph.Name
import DevlogGraph.Proofs.Text.LetterCase

/-! The one form of a name: what it looks like, and that taking it again changes nothing. -/
namespace DevlogGraph

open Text

theorem normalName_toList (name : String) :
    (normalName name).toList = lowercase (trim name.toList) :=
  String.toList_ofList

theorem normalName_trimmed (name : String) : Trimmed (normalName name).toList := by
  rw [normalName_toList]
  exact (trim_trimmed _).lowercase

theorem normalName_lowered (name : String) : ∀ c ∈ (normalName name).toList, Lowered c := by
  rw [normalName_toList]
  intro c member
  exact lowered_of_mem_lowercase member

/-- Of a text in lower case only the blanks at its ends can go. -/
theorem normalName_of_lowered {text : List Char} (lowered : ∀ c ∈ text, Lowered c) :
    normalName (String.ofList text) = String.ofList (trim text) := by
  rw [normalName, String.toList_ofList, lowercase_of_lowered]
  intro c member
  exact lowered c ((trim_sublist text).subset member)

theorem normalName_eq_self_iff (name : String) :
    normalName name = name ↔ Trimmed name.toList ∧ ∀ c ∈ name.toList, Lowered c := by
  constructor
  · intro same
    rw [← same]
    exact ⟨normalName_trimmed name, normalName_lowered name⟩
  · rintro ⟨trimmed, lowered⟩
    have reduced := normalName_of_lowered lowered
    rwa [String.ofList_toList, (trim_eq_self_iff _).mpr trimmed, String.ofList_toList] at reduced

theorem normalName_normalName (name : String) : normalName (normalName name) = normalName name :=
  (normalName_eq_self_iff _).mpr ⟨normalName_trimmed name, normalName_lowered name⟩

/-- Only a name of blanks is empty in its normal form. -/
theorem normalName_eq_empty_iff (name : String) :
    normalName name = "" ↔ ∀ c ∈ name.toList, isBlank c = true := by
  rw [← trim_eq_nil_iff, ← String.toList_inj, normalName_toList, String.toList_empty]
  constructor
  · intro empty
    by_cases kept : trim name.toList = []
    · exact kept
    · exact absurd empty (lowercase_ne_nil kept)
  · intro empty
    rw [empty]
    rfl

/-- A text in lower case has the normal form that it had before. -/
theorem normalName_lowercase (text : List Char) :
    normalName (String.ofList (lowercase text)) = normalName (String.ofList text) := by
  rw [normalName, normalName, String.toList_ofList, String.toList_ofList, trim_lowercase,
    lowercase_lowercase]

/-- A blank of the normal form stood in the name. -/
theorem mem_of_blank_mem_normalName (member : c ∈ (normalName name).toList)
    (blank : isBlank c = true) : c ∈ name.toList := by
  rw [normalName_toList] at member
  exact (trim_sublist _).subset (mem_of_blank_mem_lowercase member blank)

end DevlogGraph

import DevlogGraph.Entity
import DevlogGraph.Proofs.Name
import DevlogGraph.Relationship

/-! Normal names as keys. A name that went through the normal form once keeps it, however often an
entity or an edge is made of it, and nothing but the blanks at its ends is lost on the way. -/
namespace DevlogGraph

open Text

private theorem length_trim_le_normalName (name : String) :
    (trim name.toList).length ≤ (normalName name).length := by
  rw [← String.length_toList, normalName_toList]
  exact length_le_lowercase _

theorem Entity.of_normalName (name kind : String) (confidence : Float) (source : String) :
    Entity.of (normalName name) kind confidence source = Entity.of name kind confidence source := by
  rw [Entity.of, Entity.of, normalName_normalName]

theorem Relationship.of_normalName (source target kind : String) :
    Relationship.of (normalName source) (normalName target) kind =
      ⟨normalName source, normalName target, kind⟩ := by
  rw [Relationship.of, normalName_normalName, normalName_normalName]

/-- Of a text without blanks only the case of its letters changes. -/
private theorem normalName_of_visible {text : List Char} (visible : ∀ c ∈ text, isBlank c = false) :
    normalName (String.ofList text) = String.ofList (lowercase text) := by
  rw [normalName, String.toList_ofList, (trim_eq_self_iff text).mpr (trimmed_of_visible visible)]

/-- The normal form is reached in one step. It has no blank at its ends, is empty only for a name of
blanks, and is no shorter than the name without the blanks around it; entities and edges take it over
as it is, and it does not matter whether the name was put in lower case before. -/
theorem normalName_settled (name : String) :
    normalName (normalName name) = normalName name ∧
    Trimmed (normalName name).toList ∧
    (normalName name = "" ↔ ∀ c ∈ name.toList, isBlank c = true) ∧
    (trim name.toList).length ≤ (normalName name).length ∧
    (∀ kind confidence source,
      Entity.of (normalName name) kind confidence source = Entity.of name kind confidence source ∧
      (Entity.of (normalName name) kind confidence source).name = normalName name) ∧
    (∀ target kind, Relationship.of (normalName name) (normalName target) kind =
      ⟨normalName name, normalName target, kind⟩) ∧
    normalName (String.ofList (lowercase name.toList)) = normalName name ∧
    ((∀ c ∈ name.toList, isBlank c = false) →
      normalName (String.ofList (lowercase name.toList)) =
        String.ofList (lowercase name.toList)) := by
  have lowered : normalName (String.ofList (lowercase name.toList)) = normalName name := by
    rw [normalName_lowercase, String.ofList_toList]
  refine ⟨normalName_normalName name, normalName_trimmed name, normalName_eq_empty_iff name,
    length_trim_le_normalName name, ?_, ?_, lowered, ?_⟩
  · intro kind confidence source
    exact ⟨Entity.of_normalName name kind confidence source, normalName_normalName name⟩
  · intro target kind
    exact Relationship.of_normalName name target kind
  · intro visible
    rw [lowered, ← normalName_of_visible visible, String.ofList_toList]

/-- A capital sigma at the end of a word and a dotted capital I, which becomes two characters. -/
theorem normalName_settled_sigma_and_dotted : (∀ c ∈ "İΣΑΣ".toList, isBlank c = false) ∧
    String.ofList (lowercase "İΣΑΣ".toList) = "i̇σας" ∧ normalName "i̇σας" = "i̇σας" := by
  have shown : "İΣΑΣ".toList.all (fun c => !isBlank c) = true := by decide +kernel
  have visible : ∀ c ∈ "İΣΑΣ".toList, isBlank c = false := by simpa using shown
  have image : String.ofList (lowercase "İΣΑΣ".toList) = "i̇σας" := by decide +kernel
  obtain ⟨_, _, _, _, _, _, _, kept⟩ := normalName_settled "İΣΑΣ"
  refine ⟨visible, image, ?_⟩
  have same := kept visible
  rwa [image] at same

end DevlogGraph

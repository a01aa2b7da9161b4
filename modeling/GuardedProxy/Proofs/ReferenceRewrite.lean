import GuardedProxy.Proofs.ReferenceShape
import GuardedProxy.Proofs.SegmentCut

/-!
# Rewriting a condition

A reference at the beginning of a condition is replaced, and what follows it stays as it was when it
has no parenthesis. A condition in which every parenthesis opens onto something has no reference to
the result. What a rewriting puts into a condition comes from the condition, from the replacement
or from the suffix of old values.
-/

namespace GuardedProxy

open Segment

/-- The text begins with something other than blanks or a closing parenthesis. -/
def StartsSolid (text : List Char) : Prop :=
  ∃ c rest, text = c :: rest ∧ Text.isBlank c = false ∧ c ≠ ')'

/-- No parenthesis of the text opens onto blanks or its end. -/
def HollowFree (text : List Char) : Prop :=
  ∀ left right, text = left ++ '(' :: right → StartsSolid right

theorem hollowFree_of_not_mem {text : List Char} (htext : '(' ∉ text) : HollowFree text := by
  rintro left right rfl
  exact absurd (List.mem_append_right left List.mem_cons_self) htext

theorem StartsSolid.append {text : List Char} (htext : StartsSolid text) (after : List Char) :
    StartsSolid (text ++ after) := by
  obtain ⟨c, rest, rfl, hc⟩ := htext
  exact ⟨c, rest ++ after, rfl, hc⟩

/-- Parentheses that open onto something do so whatever follows. -/
theorem HollowFree.append {first second : List Char} (hfirst : HollowFree first)
    (hsecond : HollowFree second) : HollowFree (first ++ second) := by
  intro left right happend
  rcases Lists.append_cons_cases happend with ⟨between, -, hbetween⟩ | ⟨within, hwithin, rfl⟩
  · exact hsecond between right hbetween
  · exact (hfirst left within hwithin).append second

theorem HollowFree.cons {text : List Char} (htext : HollowFree text) (hsolid : StartsSolid text) :
    HollowFree ('(' :: text) := by
  intro left right happend
  cases left with
  | nil =>
    obtain ⟨-, rfl⟩ := List.cons.inj happend
    exact hsolid
  | cons c left => exact htext left right (List.cons.inj happend).2

theorem startsSolid_of_isWordChar {c : Char} (hc : Text.isWordChar c = true) (rest : List Char) :
    StartsSolid (c :: rest) := by
  refine ⟨c, rest, rfl, Text.not_isBlank_of_isWordChar hc, ?_⟩
  rintro rfl
  exact absurd hc (by decide)

namespace ResultReference

theorem isCut_segments (condition : String) :
    IsCut ResultReference.pattern false (segments condition) :=
  isCut_ofCondition _ _

/-- Nothing of the condition is lost in the search for the result. -/
theorem spelling_segments (condition : String) :
    spelling (segments condition) = condition.toList :=
  spelling_ofCondition _ _

theorem toList_substitute (replacement condition : String) :
    (substitute replacement condition).toList =
      Segment.substitute (fun _ ↦ replacement.toList) (segments condition) :=
  String.toList_ofList

/-- No reference to the result is left where every parenthesis opens onto something. -/
theorem occursIn_of_hollowFree {condition : String} (hfree : HollowFree condition.toList) :
    occursIn condition = false := by
  rw [Bool.eq_false_iff]
  intro hoccurs
  obtain ⟨left, right, hspelling, -, hread⟩ :=
    (isCut_segments condition).exists_read_of_any hoccurs
  obtain ⟨front, hfront⟩ := Option.isSome_iff_exists.mp hread
  obtain ⟨inside, before, within, -, -, hwithin, -, htext, rfl⟩ := read_eq_some_iff.mp hfront
  have hcondition : condition.toList = left ++ (word ++ ('<' :: inside ++ ['>']) ++ before) ++
      '(' :: (within ++ ')' :: front.rest) := by
    calc condition.toList
        = spelling (segments condition) := (spelling_segments condition).symm
      _ = _ := by
        rw [hspelling, htext]
        simp only [List.append_assoc, List.cons_append, List.nil_append]
  obtain ⟨c, rest, hright, hblank, hclose⟩ := hfree _ _ hcondition
  cases within with
  | nil => exact hclose (List.cons.inj hright).1.symm
  | cons blank within =>
    obtain ⟨rfl, -⟩ := List.cons.inj hright
    rw [hwithin blank List.mem_cons_self] at hblank
    exact Bool.false_ne_true hblank.symm

/-- A condition without references to the result is left as it is. -/
theorem substitute_eq_self {replacement condition : String} (hnone : occursIn condition = false) :
    substitute replacement condition = condition := by
  rw [substitute, substitute_eq_spelling hnone, spelling_segments, String.ofList_toList]

theorem mem_substitute {replacement condition : String} {c : Char}
    (hc : c ∈ (substitute replacement condition).toList) :
    c ∈ condition.toList ∨ c ∈ replacement.toList := by
  rw [toList_substitute] at hc
  rcases Segment.mem_substitute hc with hc | ⟨_, _, -, hc⟩
  · exact Or.inl (spelling_segments condition ▸ hc)
  · exact Or.inr hc

section Front

variable {value text rest : List Char} (hread : read (text ++ rest) = some ⟨value, text, rest⟩)
include hread

theorem occursIn_of_read : occursIn (String.ofList (text ++ rest)) = true := by
  rw [occursIn, segments, ofCondition_eq_cut, String.toList_ofList, cut_of_read hread]
  rfl

/-- A reference at the beginning is replaced, and what follows stays if it has no parenthesis. -/
theorem substitute_of_read (replacement : String) (hrest : '(' ∉ rest) :
    substitute replacement (String.ofList (text ++ rest)) =
      String.ofList (replacement.toList ++ rest) := by
  have hfree : HollowFree (String.ofList rest).toList := by
    rw [String.toList_ofList]
    exact hollowFree_of_not_mem hrest
  have hnone := occursIn_of_hollowFree hfree
  rw [occursIn, segments, ofCondition_eq_cut, String.toList_ofList] at hnone
  rw [substitute, segments, ofCondition_eq_cut, String.toList_ofList, cut_of_read hread,
    substitute_reference, substitute_eq_spelling hnone, spelling, flatMap_text_cut]

end Front

end ResultReference

namespace OldValue

theorem isCut_segments (condition : String) :
    IsCut OldValue.pattern false (segments condition) :=
  isCut_ofCondition _ _

theorem spelling_segments (condition : String) :
    spelling (segments condition) = condition.toList :=
  spelling_ofCondition _ _

theorem toList_substitute (condition : String) :
    (substitute condition).toList =
      Segment.substitute (fun identifier ↦ (Snapshot.variableFor identifier).toList)
        (segments condition) :=
  String.toList_ofList

theorem mem_text_of_read {cs : List Char} {front : FrontReference String}
    (hread : read cs = some front) : '(' ∈ front.text := by
  obtain ⟨type, before, inside, name, after, -, -, -, -, -, -, htext, -⟩ :=
    read_eq_some_iff.mp hread
  rw [htext]
  simp

theorem any_isReference_segments {condition : String} (hopen : '(' ∉ condition.toList) :
    (segments condition).any isReference = false := by
  rw [segments, ofCondition_eq_cut]
  exact any_isReference_cut_of_not_mem mem_text_of_read hopen

/-- A condition without parentheses has no old values to replace. -/
theorem substitute_eq_self {condition : String} (hopen : '(' ∉ condition.toList) :
    substitute condition = condition := by
  rw [substitute, substitute_eq_spelling (any_isReference_segments hopen), spelling_segments,
    String.ofList_toList]

theorem snapshots_eq_nil {condition : String} (hopen : '(' ∉ condition.toList) :
    snapshots condition = [] := by
  rw [snapshots, references, locate_eq_nil (any_isReference_segments hopen), List.map_nil]

/-- The parentheses of a reference hold its identifier and blanks. -/
theorem exists_text_of_mem {condition value : String} {text : List Char}
    (hmem : .reference value text ∈ segments condition) :
    ∃ front inside after, IsBlank inside ∧ IsBlank after ∧ IsIdentifier value.toList ∧
      text = word ++ front ++ '(' :: (inside ++ (value.toList ++ (after ++ [')']))) := by
  obtain ⟨rest, hread⟩ := (isCut_segments condition).read_of_mem hmem
  obtain ⟨type, before, inside, name, after, -, -, hinside, hafter, hname, hvalue, htext, -⟩ :=
    read_eq_some_iff.mp hread
  dsimp only at hvalue htext
  subst hvalue
  rw [String.toList_ofList]
  exact ⟨type ++ before, inside, after, hinside, hafter, hname, by rw [htext]; simp⟩

/-- The identifier of a reference stands in its text. -/
theorem subset_text_of_read {cs : List Char} {front : FrontReference String}
    (hread : read cs = some front) : front.value.toList ⊆ front.text := by
  obtain ⟨type, before, inside, name, after, -, -, -, -, -, hvalue, htext, -⟩ :=
    read_eq_some_iff.mp hread
  intro c hc
  rw [hvalue, String.toList_ofList] at hc
  rw [htext]
  simp [hc]

theorem mem_substitute {condition : String} {c : Char} (hc : c ∈ (substitute condition).toList) :
    c ∈ condition.toList ∨ c ∈ Snapshot.suffix.toList := by
  rw [toList_substitute] at hc
  rw [← spelling_segments]
  rcases Segment.mem_substitute hc with hc | ⟨value, text, hmem, hc⟩
  · exact Or.inl hc
  · rw [Snapshot.variableFor, String.toList_append, List.mem_append] at hc
    apply hc.imp_left
    intro hc
    obtain ⟨rest, hread⟩ := (isCut_segments condition).read_of_mem hmem
    exact List.mem_flatMap.mpr ⟨_, hmem, subset_text_of_read hread hc⟩

section Front

variable {value : String} {text rest : List Char}
  (hread : read (text ++ rest) = some ⟨value, text, rest⟩) (hrest : '(' ∉ rest)
include hread hrest

/-- A reference at the beginning is the only one if no parenthesis follows. -/
theorem segments_of_read : ∃ others, segments (String.ofList (text ++ rest)) =
    .reference value text :: others ∧ others.any isReference = false ∧ spelling others = rest := by
  refine ⟨cut OldValue.pattern false rest, ?_, ?_, flatMap_text_cut _ _ _⟩
  · rw [segments, ofCondition_eq_cut, String.toList_ofList, cut_of_read hread]
  · exact any_isReference_cut_of_not_mem mem_text_of_read hrest

theorem substitute_of_read : substitute (String.ofList (text ++ rest)) =
    String.ofList ((Snapshot.variableFor value).toList ++ rest) := by
  obtain ⟨others, hsegments, hnone, hspelling⟩ := segments_of_read hread hrest
  rw [substitute, hsegments, substitute_reference, substitute_eq_spelling hnone, hspelling]

theorem snapshots_of_read :
    snapshots (String.ofList (text ++ rest)) = [Snapshot.ofIdentifier value] := by
  obtain ⟨others, hsegments, hnone, -⟩ := segments_of_read hread hrest
  rw [snapshots, references, hsegments, locate, locate_eq_nil hnone]
  rfl

end Front

end OldValue

end GuardedProxy

import GuardedProxy.Proofs.ByteSpan
import GuardedProxy.Proofs.SegmentCut

/-!
# Places of references

Whatever can be read at a place that no word reaches into is listed, unless a listed reference
reaches over that place. What is listed stands in the text where the list says. To replace the
references is to edit the text at the bytes that they take up, and the same edit can be taken back:
each replacement stands where its reference stood, moved by what the replacements before it are
longer or shorter than their references.
-/

namespace GuardedProxy

open Segment

/-- The list has, from left to right, the references that stand in a text. One that begins inside of
another is left out. -/
structure ListsAll {α : Type} (text : String) (Stands : Nat → Nat → α → Prop)
    (found : List (Located α)) : Prop where
  sound : ∀ reference ∈ found, Stands reference.start reference.stop reference.value
  text_eq : ∀ reference ∈ found,
    String.ofList reference.text = Text.slice text reference.start reference.stop
  isValid : ∀ reference ∈ found, (String.Pos.Raw.mk reference.start).IsValid text ∧
    (String.Pos.Raw.mk reference.stop).IsValid text
  inBounds : ∀ reference ∈ found,
    reference.start < reference.stop ∧ reference.stop ≤ text.utf8ByteSize
  ordered : found.Pairwise fun first second ↦ first.stop ≤ second.start
  complete : ∀ start stop value, Stands start stop value →
    (∃ reference ∈ found,
      reference.start = start ∧ reference.stop = stop ∧ reference.value = value) ∨
    ∃ reference ∈ found, reference.start < start ∧ start < reference.stop

theorem ListsAll.congr {α : Type} {text : String} {Stands Other : Nat → Nat → α → Prop}
    {found : List (Located α)} (hall : ListsAll text Other found)
    (hiff : ∀ start stop value, Stands start stop value ↔ Other start stop value) :
    ListsAll text Stands found := by
  have hsame : Stands = Other := by
    funext start stop value
    exact propext (hiff start stop value)
  rwa [hsame]

/-- The reference stands in the text, and none of those like it that begin before it reaches over
its beginning. -/
def IsLeftmost {α : Type} (Stands : Nat → Nat → α → Prop) (start stop : Nat) (value : α) : Prop :=
  Stands start stop value ∧
    ∀ earlier, earlier < start → ∀ stop value, IsLeftmost Stands earlier stop value → stop ≤ start
termination_by start

/-- A complete list from left to right has the leftmost references, whatever it was made by. -/
theorem ListsAll.isLeftmost_iff {α : Type} {text : String} {Stands : Nat → Nat → α → Prop}
    {found : List (Located α)} (hall : ListsAll text Stands found) {start stop : Nat} {value : α} :
    IsLeftmost Stands start stop value ↔ ∃ reference ∈ found,
      reference.start = start ∧ reference.stop = stop ∧ reference.value = value := by
  induction start using Nat.strong_induction_on generalizing stop value with
  | _ start ih =>
    rw [IsLeftmost]
    constructor
    · rintro ⟨hstands, hfree⟩
      rcases hall.complete start stop value hstands with hfound | ⟨other, hother, hbefore, hover⟩
      · exact hfound
      · have hother := (ih other.start hbefore).mpr ⟨other, hother, rfl, rfl, rfl⟩
        have hend := hfree other.start hbefore other.stop other.value hother
        omega
    · rintro ⟨reference, hreference, rfl, rfl, rfl⟩
      refine ⟨hall.sound reference hreference, ?_⟩
      intro earlier hearlier stop value hleftmost
      obtain ⟨other, hother, rfl, rfl, rfl⟩ := (ih earlier hearlier).mp hleftmost
      have hbounds := (hall.inBounds reference hreference).1
      obtain ⟨front, back, rfl⟩ := List.append_of_mem hreference
      obtain ⟨-, hback, hfront⟩ := List.pairwise_append.mp hall.ordered
      rcases List.mem_append.mp hother with hother | hother
      · exact hfront other hother reference List.mem_cons_self
      · rcases List.mem_cons.mp hother with rfl | hother
        · exact absurd hearlier (Nat.lt_irrefl _)
        · have hafter := (List.pairwise_cons.mp hback).1 other hother
          omega

namespace ReferencePattern

variable {α : Type}

/-- A reference can be read at the first byte, where no word reaches into it, and ends at the
second. -/
def StandsIn (pattern : ReferencePattern α) (text : String) (start stop : Nat) (value : α) : Prop :=
  ∃ left front, Text.Divides text start stop left front.text front.rest ∧
    endsInWord false left = false ∧
    pattern.read (front.text ++ front.rest) = some front ∧ front.value = value

/-- No reference ends with a word character. -/
def EndsOutsideWords (pattern : ReferencePattern α) : Prop :=
  ∀ {cs front}, pattern.read cs = some front → endsInWord false front.text = false

end ReferencePattern

namespace Segment

variable {α : Type} {pattern : ReferencePattern α} {inWord : Bool}

theorem locate_append (offset : Nat) (front back : List (Segment α)) :
    locate offset (front ++ back) =
      locate offset front ++ locate (offset + Text.byteLength (spelling front)) back := by
  induction front generalizing offset with
  | nil => rfl
  | cons segment front ih =>
    cases segment with
    | plain c =>
      rw [List.cons_append, locate, ih, locate, spelling_plain, Text.byteLength_cons,
        Nat.add_assoc]
    | reference value text =>
      rw [List.cons_append, locate, ih, locate, spelling_reference, Text.byteLength_append,
        Nat.add_assoc, List.cons_append]

/-- A reference is found at the bytes behind what stands before it. -/
theorem mem_locate_iff {segments : List (Segment α)} {offset : Nat} {found : Located α} :
    found ∈ locate offset segments ↔
      ∃ front back, segments = front ++ reference found.value found.text :: back ∧
        found.start = offset + Text.byteLength (spelling front) ∧
        found.stop = found.start + Text.byteLength found.text := by
  constructor
  · intro hfound
    induction segments generalizing offset with
    | nil => exact absurd hfound List.not_mem_nil
    | cons segment segments ih =>
      cases segment with
      | plain c =>
        obtain ⟨front, back, rfl, hstart, hstop⟩ := ih hfound
        refine ⟨plain c :: front, back, rfl, ?_, hstop⟩
        rw [hstart, spelling_plain, Text.byteLength_cons, Nat.add_assoc]
      | reference value text =>
        rcases List.mem_cons.mp hfound with rfl | hrest
        · exact ⟨[], segments, rfl, rfl, rfl⟩
        · obtain ⟨front, back, rfl, hstart, hstop⟩ := ih hrest
          refine ⟨reference value text :: front, back, rfl, ?_, hstop⟩
          rw [hstart, spelling_reference, Text.byteLength_append, Nat.add_assoc]
  · rintro ⟨front, back, rfl, hstart, hstop⟩
    rw [locate_append, locate, ← hstart, ← hstop]
    exact List.mem_append_right _ List.mem_cons_self

/-- A reference ends before the next one begins. -/
theorem ordered_locate (offset : Nat) (segments : List (Segment α)) :
    (locate offset segments).Pairwise fun first second ↦ first.stop ≤ second.start := by
  induction segments generalizing offset with
  | nil => exact .nil
  | cons segment segments ih =>
    cases segment with
    | plain c => exact ih _
    | reference value text =>
      exact List.pairwise_cons.mpr ⟨fun _ hsecond ↦ le_start_of_mem_locate hsecond, ih _⟩

/-! ## What a cut lists -/

theorem endsInWord_append (inWord : Bool) (first second : List Char) :
    endsInWord inWord (first ++ second) = endsInWord (endsInWord inWord first) second := by
  induction first generalizing inWord with
  | nil => rfl
  | cons c first ih => exact ih _

/-- Behind the text stands the reference as a segment, or the text ends inside of one. -/
inductive HasBehind (front : FrontReference α) : List (Segment α) → List Char → Prop
  | here {rest : List (Segment α)} :
      HasBehind front (reference front.value front.text :: rest) []
  | inside {value : α} {left more : List Char} {rest : List (Segment α)} (hleft : left ≠ [])
      (hmore : more ≠ []) : HasBehind front (reference value (left ++ more) :: rest) left
  | behind (segment : Segment α) {rest : List (Segment α)} {left : List Char}
      (hrest : HasBehind front rest left) : HasBehind front (segment :: rest) (segment.text ++ left)

/-- What stands behind a text is found there, or what is found reaches over the place. -/
theorem HasBehind.exists_mem_locate {front : FrontReference α} {segments : List (Segment α)}
    {left : List Char} (hbehind : HasBehind front segments left) (offset : Nat) :
    (∃ found ∈ locate offset segments, found.start = offset + Text.byteLength left ∧
      found.stop = offset + Text.byteLength left + Text.byteLength front.text ∧
      found.value = front.value) ∨
    ∃ found ∈ locate offset segments, found.start < offset + Text.byteLength left ∧
      offset + Text.byteLength left < found.stop := by
  induction hbehind generalizing offset with
  | here => exact Or.inl ⟨_, List.mem_cons_self, rfl, rfl, rfl⟩
  | @inside value left more rest hleft hmore =>
    refine Or.inr ⟨_, List.mem_cons_self, Nat.lt_add_of_pos_right (Text.byteLength_pos hleft), ?_⟩
    rw [Text.byteLength_append, ← Nat.add_assoc]
    exact Nat.lt_add_of_pos_right (Text.byteLength_pos hmore)
  | @behind segment rest left _ ih =>
    have hstep : locate (offset + Text.byteLength segment.text) rest ⊆
        locate offset (segment :: rest) := by
      cases segment with
      | plain c => exact List.Subset.refl _
      | reference value text => exact List.subset_cons_self _ _
    rw [Text.byteLength_append, ← Nat.add_assoc]
    rcases ih (offset + Text.byteLength segment.text) with
      ⟨found, hfound, hplace⟩ | ⟨found, hfound, hplace⟩
    · exact Or.inl ⟨found, hstep hfound, hplace⟩
    · exact Or.inr ⟨found, hstep hfound, hplace⟩

theorem IsCut.ne_nil_of_mem {segments : List (Segment α)} {value : α} {text : List Char}
    (hcut : IsCut pattern inWord segments) (hmem : .reference value text ∈ segments) :
    text ≠ [] := by
  obtain ⟨rest, hread⟩ := hcut.read_of_mem hmem
  exact pattern.ne_nil_of_read hread

section Cut

variable (hends : pattern.EndsOutsideWords)
include hends

/-- What the segments before a place say of words is what their text says. -/
theorem IsCut.endsInWord_spelling {front back : List (Segment α)}
    (hcut : IsCut pattern inWord (front ++ back)) :
    endsInWord inWord (spelling front) = wordBehind inWord front := by
  induction front generalizing inWord with
  | nil => rfl
  | cons segment front ih =>
    cases hcut with
    | plain _ hrest => exact ih hrest
    | reference hread hrest =>
      rw [spelling_reference, endsInWord_append, hends hread]
      exact ih hrest

/-- A reference of a cut begins where no word reaches into it. -/
theorem IsCut.read_of_append {front back : List (Segment α)} {value : α} {text : List Char}
    (hcut : IsCut pattern inWord (front ++ .reference value text :: back)) :
    endsInWord inWord (spelling front) = false ∧
      pattern.read (text ++ spelling back) = some ⟨value, text, spelling back⟩ := by
  have hback := hcut.append_right
  rw [← hcut.endsInWord_spelling hends] at hback
  generalize endsInWord inWord (spelling front) = flag at hback ⊢
  cases hback with
  | reference hread _ => exact ⟨rfl, hread⟩

/-- What can be read where no word reaches into it is a segment of the cut, or it begins inside of
one. -/
theorem IsCut.hasBehind_of_read {segments : List (Segment α)} {left right : List Char}
    {front : FrontReference α} (hcut : IsCut pattern inWord segments)
    (hspelling : spelling segments = left ++ right) (hleft : endsInWord inWord left = false)
    (hread : pattern.read right = some front) : HasBehind front segments left := by
  induction hcut generalizing left with
  | nil =>
    have hright : right = [] := (List.append_eq_nil_iff.mp hspelling.symm).2
    have happend := pattern.append_of_read hread
    rw [hright] at happend
    exact absurd (List.append_eq_nil_iff.mp happend).1 (pattern.ne_nil_of_read hread)
  | @plain inWord c rest hnone _ ih =>
    cases left with
    | nil =>
      rw [List.nil_append, spelling_plain] at hspelling
      rw [← hspelling, hnone hleft] at hread
      exact absurd hread (Option.some_ne_none front).symm
    | cons d left =>
      obtain ⟨rfl, hrest⟩ := List.cons.inj hspelling
      exact .behind (.plain c) (ih hrest hleft)
  | @reference value text rest hfirst _ ih =>
    have hbeyond (beyond : List Char) (hbehind : left = text ++ beyond)
        (hrest : spelling rest = beyond ++ right) :
        HasBehind front (.reference value text :: rest) left := by
      rw [hbehind, endsInWord_append, hends hfirst] at hleft
      rw [hbehind]
      exact .behind (.reference value text) (ih hrest hleft)
    rw [spelling_reference] at hspelling
    rcases List.append_eq_append_iff.mp hspelling with
      ⟨beyond, hbehind, hrest⟩ | ⟨more, htext, hright⟩
    · exact hbeyond beyond hbehind hrest
    · by_cases hmore : more = []
      · rw [hmore, List.append_nil] at htext
        rw [hmore, List.nil_append] at hright
        exact hbeyond [] (by rw [htext, List.append_nil]) hright.symm
      · cases left with
        | nil =>
          rw [List.nil_append] at htext
          rw [hright, ← htext, hfirst] at hread
          obtain rfl := Option.some.inj hread
          exact .here
        | cons c left =>
          rw [htext]
          exact .inside (List.cons_ne_nil c left) hmore

/-- What is found was read at its place, and no word reaches into it. -/
theorem exists_divides_of_mem_locate {text : String} {found : Located α}
    (hfound : found ∈ locate 0 (ofCondition pattern text)) :
    ∃ left rest, Text.Divides text found.start found.stop left found.text rest ∧
      endsInWord false left = false ∧
      pattern.read (found.text ++ rest) = some ⟨found.value, found.text, rest⟩ := by
  have hcut : IsCut pattern false (ofCondition pattern text) := isCut_ofCondition _ _
  have hspelling : spelling (ofCondition pattern text) = text.toList := spelling_ofCondition _ _
  obtain ⟨front, back, hsegments, hstart, hstop⟩ := mem_locate_iff.mp hfound
  rw [Nat.zero_add] at hstart
  have hplace := (hsegments ▸ hcut).read_of_append hends
  refine ⟨spelling front, spelling back, ⟨?_, hstart, hstop⟩, hplace⟩
  rw [← hspelling, hsegments, spelling_append, spelling_reference, List.append_assoc]

/-- The references of a condition with their places are all that stand in it. -/
theorem listsAll_locate (text : String) :
    ListsAll text (pattern.StandsIn text) (locate 0 (ofCondition pattern text)) := by
  constructor
  · intro found hfound
    obtain ⟨left, rest, hdivides, hleft, hfront⟩ := exists_divides_of_mem_locate hends hfound
    exact ⟨left, ⟨found.value, found.text, rest⟩, hdivides, hleft, hfront, rfl⟩
  · intro found hfound
    obtain ⟨_, _, hdivides, -⟩ := exists_divides_of_mem_locate hends hfound
    exact hdivides.slice_eq.symm
  · intro found hfound
    obtain ⟨_, _, hdivides, -⟩ := exists_divides_of_mem_locate hends hfound
    exact hdivides.isValid
  · intro found hfound
    obtain ⟨_, _, hdivides, -, hfront⟩ := exists_divides_of_mem_locate hends hfound
    refine ⟨?_, hdivides.stop_le⟩
    rw [hdivides.stop_eq]
    exact Nat.lt_add_of_pos_right (Text.byteLength_pos (pattern.ne_nil_of_read hfront))
  · exact ordered_locate 0 _
  · rintro start stop value ⟨left, front, ⟨htext, hstart, hstop⟩, hleft, hfront, rfl⟩
    have hspelling : spelling (ofCondition pattern text) = left ++ (front.text ++ front.rest) := by
      rw [← List.append_assoc, ← htext]
      exact spelling_ofCondition _ _
    have hbehind : HasBehind front (ofCondition pattern text) left :=
      (isCut_ofCondition _ _).hasBehind_of_read hends hspelling hleft hfront
    have hmem := hbehind.exists_mem_locate 0
    rwa [Nat.zero_add, ← hstart, ← hstop] at hmem

end Cut

/-! ## Replacing the references -/

section Edits

variable {replacement : α → List Char}

/-- The edit that replaces a reference. -/
def edit (replacement : α → List Char) (found : Located α) : Text.Edit :=
  ⟨found.start, found.stop, String.ofList (replacement found.value)⟩

/-- In a text of which a part has been edited and another part passed over, the edits of the
references behind these two give the rest. -/
theorem edited_locate_append {text : String} {segments : List (Segment α)}
    (replacement : α → List Char) (done passed : List Char)
    (htext : text.toList = done ++ passed ++ spelling segments) :
    Text.edited text (Text.byteLength done)
        ((locate (Text.byteLength (done ++ passed)) segments).map (edit replacement)) =
      String.ofList (passed ++ substitute replacement segments) := by
  induction segments generalizing done passed with
  | nil =>
    have hdivides : Text.Divides text (Text.byteLength done) text.utf8ByteSize done passed [] := by
      refine ⟨htext, rfl, ?_⟩
      rw [← Text.byteLength_toList, htext, spelling_nil, List.append_nil, Text.byteLength_append]
    rw [locate, List.map_nil, Text.edited, hdivides.slice_eq]
    exact congrArg String.ofList (List.append_nil passed).symm
  | cons segment segments ih =>
    cases segment with
    | plain c =>
      have hrest := ih done (passed ++ [c]) (by rw [htext]; simp)
      rw [← List.append_assoc, Text.byteLength_append (done ++ passed)] at hrest
      rw [locate, substitute_plain]
      simpa using hrest
    | reference value reading =>
      have hdivides : Text.Divides text (Text.byteLength done)
          (Text.byteLength (done ++ passed)) done passed (reading ++ spelling segments) :=
        ⟨htext, rfl, Text.byteLength_append _ _⟩
      have hrest := ih (done ++ passed ++ reading) [] (by rw [htext]; simp)
      rw [List.append_nil, List.nil_append, Text.byteLength_append (done ++ passed)] at hrest
      rw [locate, List.map_cons, Text.edited, edit, hdivides.slice_eq, hrest,
        substitute_reference, String.ofList_append, String.ofList_append, String.append_assoc]

/-- To replace the references is to edit the text at the bytes that they take up. -/
theorem edited_locate {text : String} {segments : List (Segment α)}
    (replacement : α → List Char) (htext : spelling segments = text.toList) :
    Text.edited text 0 ((locate 0 segments).map (edit replacement)) =
      String.ofList (substitute replacement segments) :=
  edited_locate_append replacement [] [] (by rw [← htext]; rfl)

/-- The segment that a reference has become, from which the text of the reference is to be had. -/
def replaced (replacement : α → List Char) : Segment α → Segment (List Char)
  | plain c => plain c
  | reference value text => reference text (replacement value)

theorem spelling_map_replaced (segments : List (Segment α)) :
    spelling (segments.map (replaced replacement)) = substitute replacement segments := by
  induction segments with
  | nil => rfl
  | cons segment segments ih =>
    cases segment with
    | plain c => rw [List.map_cons, replaced, spelling_plain, ih, substitute_plain]
    | reference value text =>
      rw [List.map_cons, replaced, spelling_reference, ih, substitute_reference]

theorem substitute_map_replaced (segments : List (Segment α)) :
    substitute id (segments.map (replaced replacement)) = spelling segments := by
  induction segments with
  | nil => rfl
  | cons segment segments ih =>
    cases segment with
    | plain c => rw [List.map_cons, replaced, substitute_plain, ih, spelling_plain]
    | reference value text =>
      rw [List.map_cons, replaced, substitute_reference, ih, spelling_reference, id]

/-- The bytes that the references take up. -/
def bytesTaken (found : List (Located α)) : Nat :=
  found.foldr (fun reference bytes ↦ reference.stop - reference.start + bytes) 0

/-- The bytes that the replacements take up. -/
def bytesGiven (replacement : α → List Char) (found : List (Located α)) : Nat :=
  found.foldr (fun reference bytes ↦ Text.byteLength (replacement reference.value) + bytes) 0

/-- Where a place of the text comes to stand when the references are replaced. -/
def moved (replacement : α → List Char) (found : List (Located α)) (place : Nat) : Nat :=
  let before := found.filter fun reference ↦ reference.stop ≤ place
  place + bytesGiven replacement before - bytesTaken before

/-- A text grows by what its replacements are longer than the references. -/
theorem byteLength_substitute (replacement : α → List Char) (offset : Nat)
    (segments : List (Segment α)) :
    Text.byteLength (substitute replacement segments) + bytesTaken (locate offset segments) =
      Text.byteLength (spelling segments) + bytesGiven replacement (locate offset segments) := by
  induction segments generalizing offset with
  | nil => rfl
  | cons segment segments ih =>
    cases segment with
    | plain c =>
      have hrest := ih (offset + c.utf8Size)
      rw [locate, substitute_plain, spelling_plain, Text.byteLength_cons, Text.byteLength_cons]
      omega
    | reference value text =>
      have hrest := ih (offset + Text.byteLength text)
      rw [locate, substitute_reference, spelling_reference, Text.byteLength_append,
        Text.byteLength_append]
      simp only [bytesTaken, bytesGiven, List.foldr_cons] at hrest ⊢
      omega

theorem filter_stop_locate {front back : List (Segment α)}
    (hback : ∀ value text, reference value text ∈ back → text ≠ []) :
    ((locate 0 (front ++ back)).filter fun reference ↦
        reference.stop ≤ Text.byteLength (spelling front)) = locate 0 front := by
  rw [locate_append, Nat.zero_add, List.filter_append]
  have hkept : (locate 0 front).filter (fun reference ↦
      reference.stop ≤ Text.byteLength (spelling front)) = locate 0 front := by
    rw [List.filter_eq_self]
    intro found hfound
    obtain ⟨before, after, rfl, hstart, hstop⟩ := mem_locate_iff.mp hfound
    rw [decide_eq_true_eq, hstop, hstart, spelling_append, spelling_reference,
      Text.byteLength_append, Text.byteLength_append]
    omega
  have hleft : (locate (Text.byteLength (spelling front)) back).filter (fun reference ↦
      reference.stop ≤ Text.byteLength (spelling front)) = [] := by
    rw [List.filter_eq_nil_iff]
    intro found hfound
    obtain ⟨before, after, rfl, hstart, hstop⟩ := mem_locate_iff.mp hfound
    have hpositive := Text.byteLength_pos (hback found.value found.text (by simp))
    rw [decide_eq_true_eq, hstop, hstart]
    omega
  rw [hkept, hleft, List.append_nil]

/-- A place between two segments comes to stand behind what replaces those before it. -/
theorem moved_locate {front back : List (Segment α)}
    (hback : ∀ value text, reference value text ∈ back → text ≠ []) :
    moved replacement (locate 0 (front ++ back)) (Text.byteLength (spelling front)) =
      Text.byteLength (substitute replacement front) := by
  have hbytes := byteLength_substitute replacement 0 front
  rw [moved, filter_stop_locate hback]
  omega

/-- A reference seen from the text in which it has been replaced. -/
def takenBack (replacement : α → List Char) (found : List (Located α)) (reference : Located α) :
    Located (List Char) :=
  let start := moved replacement found reference.start
  ⟨start, start + Text.byteLength (replacement reference.value), replacement reference.value,
    reference.text⟩

/-- The replacements stand where the references stood, moved by what changed before them. -/
theorem locate_map_replaced (replacement : α → List Char) (front : List (Segment α))
    {back : List (Segment α)} (hback : ∀ value text, reference value text ∈ back → text ≠ []) :
    locate (Text.byteLength (substitute replacement front)) (back.map (replaced replacement)) =
      (locate (Text.byteLength (spelling front)) back).map
        (takenBack replacement (locate 0 (front ++ back))) := by
  induction back generalizing front with
  | nil => rfl
  | cons segment back ih =>
    have hrest := ih (front ++ [segment])
      fun value text hmem ↦ hback value text (List.mem_cons_of_mem _ hmem)
    rw [substitute_append, spelling_append, Text.byteLength_append, Text.byteLength_append,
      List.append_assoc, List.singleton_append] at hrest
    cases segment with
    | plain c =>
      rw [List.map_cons, replaced, locate, locate]
      simpa using hrest
    | reference value text =>
      rw [List.map_cons, replaced, locate, locate, List.map_cons]
      refine congrArg₂ List.cons ?_ ?_
      · simp only [takenBack, moved_locate hback]
      · simpa using hrest

/-- The texts of the references, put back where the replacements stand, give the text again. -/
theorem edited_takenBack {text : String} {segments : List (Segment α)}
    (replacement : α → List Char) (htext : spelling segments = text.toList)
    (hsegments : ∀ value text, reference value text ∈ segments → text ≠ []) :
    Text.edited (String.ofList (substitute replacement segments)) 0
        ((locate 0 segments).map fun found ↦
          edit id (takenBack replacement (locate 0 segments) found)) = text := by
  have hlocate : locate 0 (segments.map (replaced replacement)) =
      (locate 0 segments).map (takenBack replacement (locate 0 segments)) :=
    locate_map_replaced replacement [] hsegments
  have hspelling : spelling (segments.map (replaced replacement)) =
      (String.ofList (substitute replacement segments)).toList := by
    rw [spelling_map_replaced, String.toList_ofList]
  have hedited := edited_locate id hspelling
  rwa [substitute_map_replaced, htext, String.ofList_toList, hlocate, List.map_map] at hedited

end Edits

end Segment

end GuardedProxy

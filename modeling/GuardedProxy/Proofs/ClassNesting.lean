import GuardedProxy.Proofs.ClassItem
import GuardedProxy.Proofs.OneLine

/-!
# Nesting and indentation

The text of a class is read line by line with a depth that starts at 0, falls before a line that is
a closing brace and rises behind a line that is an opening brace. A class text is well nested: this
depth is never negative and 0 at the end, and it tells how far every line is indented.

A text of items is well nested if each of its lines begins with a character that is not blank, and
is neither a brace nor broken by a line feed. A writer that writes such items moves one level down
for each block and back up behind it, and never further up than where it began.
-/

namespace GuardedProxy

open Text (OneLine oneLine_append)

namespace Nesting

/-- What stands between the line feeds of a text, and behind the last one. -/
def linesOf (text : String) : List (List Char) := text.toList.splitOn '\n'

/-- A line without the spaces at its front. -/
def content (line : List Char) : List Char := line.dropWhile (· = ' ')

/-- The depth at which a line stands. A brace that closes a block stands outside of it. -/
def depthOf (depth : Int) (line : List Char) : Int :=
  if content line = ['}'] then depth - 1 else depth

/-- The depth behind a line. -/
def depthBehind (depth : Int) (line : List Char) : Int :=
  if content line = ['{'] then depthOf depth line + 1 else depthOf depth line

/-- A line is empty, or begins with four spaces for each level and then shows something. -/
def IsIndented (depth : Int) (line : List Char) : Prop :=
  line = [] ∨ ∃ c rest, line = List.replicate (4 * depth.toNat) ' ' ++ c :: rest ∧
    Text.isBlank c = false

/-- The lines are well nested when they are read from the given depth on. -/
def WellNested (depth : Int) : List (List Char) → Prop
  | [] => depth = 0
  | line :: rest => 0 ≤ depthOf depth line ∧ IsIndented (depthOf depth line) line ∧
    WellNested (depthBehind depth line) rest

/-- The text begins with a character that is not blank. -/
def Shows (text : String) : Prop := ∃ c rest, text.toList = c :: rest ∧ Text.isBlank c = false

theorem Shows.append {front : String} (hfront : Shows front) (back : String) :
    Shows (front ++ back) := by
  obtain ⟨c, rest, hlist, hblank⟩ := hfront
  exact ⟨c, rest ++ back.toList, by rw [String.toList_append, hlist, List.cons_append], hblank⟩

theorem toList_indentation (depth : Nat) :
    (ClassWriter.indentation depth).toList = List.replicate (4 * depth) ' ' := by
  rw [ClassWriter.indentation, String.toList_join]
  induction depth with
  | zero => rfl
  | succ depth ih =>
    rw [List.replicate_succ, List.flatMap_cons, ih, Nat.mul_succ, Nat.add_comm, List.replicate_add]
    rfl

section Line

variable {text : String} (hshows : Shows text) (depth : Nat)
include hshows

theorem content_indented :
    content (ClassWriter.indentation depth ++ text).toList = text.toList := by
  obtain ⟨c, rest, hlist, hblank⟩ := hshows
  have hspace : c ≠ ' ' := by
    rintro rfl
    exact absurd hblank (by decide)
  rw [content, String.toList_append, toList_indentation, hlist,
    List.dropWhile_append_of_pos fun space hmem ↦ by simp [List.eq_of_mem_replicate hmem],
    List.dropWhile_cons_of_neg (by simp [hspace])]

theorem isIndented_indented :
    IsIndented depth (ClassWriter.indentation depth ++ text).toList := by
  obtain ⟨c, rest, hlist, hblank⟩ := hshows
  refine Or.inr ⟨c, rest, ?_, hblank⟩
  rw [String.toList_append, toList_indentation, hlist, Int.toNat_natCast]

end Line

section Step

variable {depth : Nat} {rest : List (List Char)}

theorem wellNested_gap (hrest : WellNested depth rest) : WellNested depth ([] :: rest) :=
  ⟨Int.natCast_nonneg depth, Or.inl rfl, hrest⟩

theorem wellNested_line {text : String} (hshows : Shows text) (hopening : text.toList ≠ ['{'])
    (hclosing : text.toList ≠ ['}']) (hrest : WellNested depth rest) :
    WellNested depth ((ClassWriter.indentation depth ++ text).toList :: rest) := by
  have hcontent := content_indented hshows depth
  rw [WellNested, depthBehind, depthOf, hcontent, if_neg hopening, if_neg hclosing]
  exact ⟨Int.natCast_nonneg depth, isIndented_indented hshows depth, hrest⟩

/-- A line that opens a block goes one level down. -/
theorem wellNested_opening (hrest : WellNested (depth + 1 : Nat) rest) :
    WellNested depth ((ClassWriter.indentation depth ++ "\x7b").toList :: rest) := by
  have hshows : Shows "\x7b" := ⟨'{', [], rfl, by decide⟩
  have hcontent := content_indented hshows depth
  rw [WellNested, depthBehind, depthOf, hcontent, if_neg (by decide), if_pos (by decide)]
  exact ⟨Int.natCast_nonneg depth, isIndented_indented hshows depth, hrest⟩

/-- A line that closes a block stands one level up. -/
theorem wellNested_closing (hrest : WellNested depth rest) :
    WellNested (depth + 1 : Nat) ((ClassWriter.indentation depth ++ "\x7d").toList :: rest) := by
  have hshows : Shows "\x7d" := ⟨'}', [], rfl, by decide⟩
  have hcontent := content_indented hshows depth
  have hdepth : ((depth + 1 : Nat) : Int) - 1 = depth := by omega
  rw [WellNested, depthBehind, depthOf, hcontent, if_pos (by decide), if_neg (by decide), hdepth]
  exact ⟨Int.natCast_nonneg depth, isIndented_indented hshows depth, hrest⟩

end Step

end Nesting

namespace ClassItem

open Nesting

/-- A text that begins to show at once and is neither a brace nor broken by a line feed. -/
structure PlainText (text : String) : Prop where
  oneLine : OneLine text
  shows : Shows text
  ne_opening : text.toList ≠ ['{']
  ne_closing : text.toList ≠ ['}']

/-- All lines and headers of the item are plain. -/
inductive IsPlain : ClassItem → Prop
  | line {text : String} (htext : PlainText text) : IsPlain (.line text)
  | gap : IsPlain .gap
  | block {header : String} {content : List ClassItem} (hheader : PlainText header)
      (hcontent : ∀ item ∈ content, IsPlain item) : IsPlain (.block header content)

/-- Items that are well nested on their own are so one behind the other. -/
theorem wellNested_allLines {depth : Nat} {rest : List (List Char)} {items : List ClassItem}
    (hitems : ∀ item ∈ items, ∀ rest, WellNested depth rest →
      WellNested depth ((item.lines depth).map String.toList ++ rest))
    (hrest : WellNested depth rest) :
    WellNested depth ((allLines depth items).map String.toList ++ rest) := by
  induction items with
  | nil => exact hrest
  | cons item items ih =>
    rw [allLines, List.map_append, List.append_assoc]
    apply hitems item List.mem_cons_self
    exact ih fun other hother ↦ hitems other (List.mem_cons_of_mem _ hother)

/-- A plain item keeps the depth: behind its lines the reading goes on as before them. -/
theorem IsPlain.wellNested_lines {item : ClassItem} (hitem : item.IsPlain) {depth : Nat}
    {rest : List (List Char)} (hrest : WellNested depth rest) :
    WellNested depth ((item.lines depth).map String.toList ++ rest) := by
  induction hitem generalizing depth rest with
  | line htext => exact wellNested_line htext.shows htext.ne_opening htext.ne_closing hrest
  | gap => exact wellNested_gap hrest
  | @block header content hheader hcontent ih =>
    -- from the end: the content is read one level deeper, up to the brace that closes the block
    have hinside := wellNested_allLines (fun item hitem rest hrest ↦ ih item hitem hrest)
      (wellNested_closing hrest)
    have hblock := wellNested_line hheader.shows hheader.ne_opening hheader.ne_closing
      (wellNested_opening hinside)
    rw [lines, List.map_cons, List.map_cons, List.map_append, List.cons_append, List.cons_append,
      List.append_assoc]
    exact hblock

theorem oneLine_indented {text : String} (htext : OneLine text) (depth : Nat) :
    OneLine (ClassWriter.indentation depth ++ text) := by
  rw [oneLine_append, OneLine, toList_indentation]
  exact ⟨fun hfeed ↦ absurd (List.eq_of_mem_replicate hfeed) (by decide), htext⟩

theorem mem_allLines {depth : Nat} {items : List ClassItem} {line : String}
    (hline : line ∈ allLines depth items) : ∃ item ∈ items, line ∈ item.lines depth := by
  induction items with
  | nil => exact absurd hline List.not_mem_nil
  | cons item items ih =>
    rw [allLines, List.mem_append] at hline
    rcases hline with hline | hline
    · exact ⟨item, List.mem_cons_self, hline⟩
    · obtain ⟨other, hother, hmem⟩ := ih hline
      exact ⟨other, List.mem_cons_of_mem _ hother, hmem⟩

/-- A plain item has no line end inside of a line. -/
theorem IsPlain.oneLine_lines {item : ClassItem} (hitem : item.IsPlain) {depth : Nat} :
    ∀ line ∈ item.lines depth, OneLine line := by
  induction hitem generalizing depth with
  | line htext =>
    intro line hline
    rw [List.mem_singleton.mp hline]
    exact oneLine_indented htext.oneLine depth
  | gap =>
    intro line hline
    rw [List.mem_singleton.mp hline]
    decide
  | block hheader hcontent ih =>
    intro line hline
    rw [lines, List.mem_cons, List.mem_cons, List.mem_append, List.mem_singleton] at hline
    rcases hline with rfl | rfl | hline | rfl
    · exact oneLine_indented hheader.oneLine depth
    · exact oneLine_indented (by decide) depth
    · obtain ⟨item, hmem, hline⟩ := mem_allLines hline
      exact ih item hmem line hline
    · exact oneLine_indented (by decide) depth

/-- Lines that were joined come apart again where they were joined. -/
theorem linesOf_joined {lines : List String} (hlines : ∀ line ∈ lines, OneLine line) :
    linesOf (joined lines) = lines.map String.toList ++ [[]] := by
  induction lines with
  | nil => rfl
  | cons line rest ih =>
    have hline : ∀ c ∈ line.toList, (c == '\n') = false := by
      intro c hc
      rw [beq_eq_false_iff_ne]
      rintro rfl
      exact hlines line List.mem_cons_self hc
    have hlist : (joined (line :: rest)).toList = line.toList ++ '\n' :: (joined rest).toList := by
      rw [joined_cons, String.toList_append, String.toList_append, List.append_assoc]
      rfl
    rw [linesOf, hlist, List.splitOn, List.splitOnP_append_cons_of_forall_mem hline _ rfl]
    exact congrArg (line.toList :: ·)
      (ih fun other hother ↦ hlines other (List.mem_cons_of_mem _ hother))

/-- The text of plain items is well nested. -/
theorem wellNested_text {items : List ClassItem} (hitems : ∀ item ∈ items, item.IsPlain) :
    WellNested 0 (linesOf (text 0 items)) := by
  have hlines : ∀ line ∈ allLines 0 items, OneLine line := by
    intro line hline
    obtain ⟨item, hitem, hmem⟩ := mem_allLines hline
    exact (hitems item hitem).oneLine_lines line hmem
  have hend : WellNested (0 : Nat) [[]] := wellNested_gap rfl
  rw [text, linesOf_joined hlines]
  exact wellNested_allLines (fun item hitem _ ↦ (hitems item hitem).wellNested_lines) hend

end ClassItem

/-! ## The moves of a writer -/

/-- A change to the text or the depth of a writer. -/
inductive Move
  | write (line : String)
  | skip
  | deepen
  | lift

namespace Move

def perform (writer : ClassWriter) : Move → ClassWriter
  | write line => writer.addLine line
  | skip => { writer with text := writer.text ++ "\n" }
  | deepen => { writer with depth := writer.depth + 1 }
  | lift => { writer with depth := writer.depth - 1 }

/-- From the given depth on, the writer is lifted only out of a block that it is in, and it is in
none at the end. -/
def StayInside (depth : Nat) : List Move → Prop
  | [] => depth = 0
  | write _ :: rest => StayInside depth rest
  | skip :: rest => StayInside depth rest
  | deepen :: rest => StayInside (depth + 1) rest
  | lift :: rest => 0 < depth ∧ StayInside (depth - 1) rest

end Move

namespace ClassItem

mutual

def moves : ClassItem → List Move
  | line text => [.write text]
  | gap => [.skip]
  | block header content =>
    .write header :: .write "\x7b" :: .deepen :: (allMoves content ++ [.lift, .write "\x7d"])

def allMoves : List ClassItem → List Move
  | [] => []
  | item :: rest => item.moves ++ allMoves rest

end

mutual

theorem foldl_moves (writer : ClassWriter) :
    ∀ item : ClassItem, item.moves.foldl Move.perform writer = writer.extend [item] []
  | line text => (writer.extend_line text).symm
  | gap => writer.extend_gap.symm
  | block header content => by
    have hcontent := foldl_allMoves (writer.opened header) content
    calc (block header content).moves.foldl Move.perform writer
        = [.lift, .write "\x7d"].foldl Move.perform
            ((allMoves content).foldl Move.perform (writer.opened header)) := by
          rw [← List.foldl_append]
          rfl
      _ = ClassWriter.addLine
            { (writer.opened header).extend content [] with depth := writer.depth } "\x7d" := by
          rw [hcontent]
          rfl
      _ = writer.extend [.block header content] [] := ClassWriter.addLine_opened ..

/-- The moves of items write the items in a row. -/
theorem foldl_allMoves (writer : ClassWriter) :
    ∀ items : List ClassItem, (allMoves items).foldl Move.perform writer = writer.extend items []
  | [] => writer.extend_nil.symm
  | item :: rest => by
    rw [allMoves, List.foldl_append, foldl_moves writer item, foldl_allMoves _ rest,
      ClassWriter.extend_extend]
    rfl

end

mutual

/-- The moves of an item end at the depth at which they began. -/
theorem stayInside_moves {depth : Nat} {rest : List Move} (hrest : Move.StayInside depth rest) :
    ∀ item : ClassItem, Move.StayInside depth (item.moves ++ rest)
  | line text => hrest
  | gap => hrest
  | block header content => by
    have hclose : Move.StayInside (depth + 1) ([.lift, .write "\x7d"] ++ rest) :=
      ⟨Nat.succ_pos depth, hrest⟩
    rw [moves, List.cons_append, List.cons_append, List.cons_append, List.append_assoc]
    exact stayInside_allMoves hclose content

/-- No item closes a block that it has not opened. -/
theorem stayInside_allMoves {depth : Nat} {rest : List Move} (hrest : Move.StayInside depth rest) :
    ∀ items : List ClassItem, Move.StayInside depth (allMoves items ++ rest)
  | [] => hrest
  | item :: items => by
    rw [allMoves, List.append_assoc]
    exact stayInside_moves (stayInside_allMoves hrest items) item

end

end ClassItem

end GuardedProxy

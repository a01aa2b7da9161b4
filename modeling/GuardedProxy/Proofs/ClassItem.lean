import GuardedProxy.ClassWriter.Basic

/-!
# Items of a class text

The text of a class is a tree: an item is a line, an empty line, or a header with the items of the
block below it. Only the depth of an item decides how its lines are indented.

An action of a class writer writes items if any writer, whatever its depth and its text so far,
gets the lines of these items behind its text and is at the same depth again. What an action writes
is put together from what its parts write, and an action fails as soon as one of its parts does.
-/

namespace GuardedProxy

inductive ClassItem
  | line (text : String)
  | gap
  | block (header : String) (content : List ClassItem)

namespace ClassItem

open ClassWriter (indentation)

mutual

/-- The lines of an item that stands at the given depth. -/
def lines (depth : Nat) : ClassItem → List String
  | line text => [indentation depth ++ text]
  | gap => [""]
  | block header content =>
    (indentation depth ++ header) :: (indentation depth ++ "\x7b") ::
      (allLines (depth + 1) content ++ [indentation depth ++ "\x7d"])

def allLines (depth : Nat) : List ClassItem → List String
  | [] => []
  | item :: rest => item.lines depth ++ allLines depth rest

end

/-- The text of some lines, each of which ends in a line feed. -/
def joined (lines : List String) : String := String.join (lines.map (· ++ "\n"))

/-- The text of items that stand at the given depth. -/
def text (depth : Nat) (items : List ClassItem) : String := joined (allLines depth items)

theorem joined_cons (line : String) (rest : List String) :
    joined (line :: rest) = line ++ "\n" ++ joined rest := by
  rw [joined, joined, List.map_cons, String.join_cons]

theorem joined_append (front back : List String) :
    joined (front ++ back) = joined front ++ joined back := by
  induction front with
  | nil => exact String.empty_append.symm
  | cons line front ih => rw [List.cons_append, joined_cons, ih, joined_cons, ← String.append_assoc]

theorem allLines_append (depth : Nat) (front back : List ClassItem) :
    allLines depth (front ++ back) = allLines depth front ++ allLines depth back := by
  induction front with
  | nil => rfl
  | cons item front ih => rw [List.cons_append, allLines, ih, allLines, List.append_assoc]

theorem text_nil (depth : Nat) : text depth [] = "" := rfl

theorem text_append (depth : Nat) (front back : List ClassItem) :
    text depth (front ++ back) = text depth front ++ text depth back := by
  rw [text, allLines_append, joined_append, text, text]

theorem text_line (depth : Nat) (line : String) :
    text depth [.line line] = indentation depth ++ line ++ "\n" := by
  rw [text, allLines, lines, allLines, List.append_nil, joined_cons]
  exact String.append_empty

theorem text_gap (depth : Nat) : text depth [.gap] = "\n" := rfl

/-- A block is its header, its braces and, one level deeper, its content. -/
theorem text_block (depth : Nat) (header : String) (content : List ClassItem) :
    text depth [.block header content] =
      text depth [.line header, .line "\x7b"] ++ text (depth + 1) content ++
        text depth [.line "\x7d"] := by
  simp only [text, allLines, lines, List.append_nil, List.cons_append, List.nil_append, joined_cons,
    joined_append, String.append_assoc]
  rfl

end ClassItem

namespace ClassWriter

variable {α β : Type}

/-- What an action ends in, and the writer that it leaves behind. -/
def outcome (action : WriteM α) (writer : ClassWriter) : Except MissingDelegate α × ClassWriter :=
  (action.run.run writer).value

/-- An action that fails keeps the next one from running. -/
theorem outcome_bind (action : WriteM α) (next : α → WriteM β) (writer : ClassWriter) :
    outcome (action >>= next) writer =
      match outcome action writer with
      | (.ok value, after) => outcome (next value) after
      | (.error cause, after) => (.error cause, after) := by
  simp only [outcome, ExceptT.run_bind, StateT.run_bind, Traced.value_bind]
  rcases (action.run.run writer).value with ⟨_ | value, after⟩
  · rfl
  · rfl

theorem outcome_bind_of_ok {action : WriteM α} {next : α → WriteM β} {writer after : ClassWriter}
    {value : α} (haction : outcome action writer = (.ok value, after)) :
    outcome (action >>= next) writer = outcome (next value) after := by
  rw [outcome_bind, haction]

theorem outcome_assemble (member : Member) (clauses : List Clause) (writer : ClassWriter) :
    outcome (assemble member clauses) writer =
      ((MemberBody.assemble member writer.naming clauses).value, writer) := rfl

/-- The writer with more items behind its text and more bodies behind those it has. -/
def extend (writer : ClassWriter) (items : List ClassItem) (bodies : List WrittenBody) :
    ClassWriter :=
  { writer with
    text := writer.text ++ ClassItem.text writer.depth items
    bodies := writer.bodies ++ bodies }

theorem extend_nil (writer : ClassWriter) : writer.extend [] [] = writer := by
  rw [extend, ClassItem.text_nil, String.append_empty, List.append_nil]

theorem extend_line (writer : ClassWriter) (text : String) :
    writer.extend [.line text] [] = writer.addLine text := by
  rw [extend, ClassItem.text_line, List.append_nil, ← String.append_assoc, ← String.append_assoc]
  rfl

theorem extend_gap (writer : ClassWriter) :
    writer.extend [.gap] [] = { writer with text := writer.text ++ "\n" } := by
  rw [extend, ClassItem.text_gap, List.append_nil]

theorem extend_extend (writer : ClassWriter) (front back : List ClassItem)
    (earlier later : List WrittenBody) :
    (writer.extend front earlier).extend back later =
      writer.extend (front ++ back) (earlier ++ later) := by
  simp only [extend, ClassItem.text_append, String.append_assoc, List.append_assoc]

/-- The action succeeds with any writer that uses the naming, and adds the items and the bodies. -/
def Writes (naming : NamingScheme) (action : WriteM Unit) (items : List ClassItem)
    (bodies : List WrittenBody) : Prop :=
  ∀ writer : ClassWriter, writer.naming = naming →
    outcome action writer = (.ok (), writer.extend items bodies)

/-- The action fails with any writer that uses the naming. -/
def FailsWith (naming : NamingScheme) (action : WriteM α) (cause : MissingDelegate) : Prop :=
  ∀ writer : ClassWriter, writer.naming = naming →
    ∃ after, outcome action writer = (.error cause, after)

section Actions

variable {naming : NamingScheme} {action next : WriteM Unit} {items more : List ClassItem}
  {bodies others : List WrittenBody} {cause : MissingDelegate}

theorem writes_pure : Writes naming (pure ()) [] [] := by
  intro writer _
  rw [extend_nil]
  rfl

theorem writes_line (text : String) : Writes naming (line text) [.line text] [] := by
  intro writer _
  rw [extend_line]
  rfl

theorem writes_emptyLine : Writes naming emptyLine [.gap] [] := by
  intro writer _
  rw [extend_gap]
  rfl

theorem writes_addBody (body : WrittenBody) : Writes naming (addBody body) [] [body] := by
  intro writer _
  rw [extend, ClassItem.text_nil, String.append_empty]
  rfl

/-- Two actions in a row write their items in a row. -/
theorem Writes.seq (haction : Writes naming action items bodies)
    (hnext : Writes naming next more others) :
    Writes naming (do action; next) (items ++ more) (bodies ++ others) := by
  intro writer hnaming
  have hextended : (writer.extend items bodies).naming = naming := hnaming
  rw [outcome_bind_of_ok (haction writer hnaming), hnext _ hextended, extend_extend]

/-- The writer inside a block that it has just opened. -/
def opened (writer : ClassWriter) (header : String) : ClassWriter :=
  { (writer.addLine header).addLine "\x7b" with depth := writer.depth + 1 }

theorem text_opened (writer : ClassWriter) (header : String) : (writer.opened header).text =
    writer.text ++ ClassItem.text writer.depth [.line header, .line "\x7b"] := by
  rw [← List.singleton_append, ClassItem.text_append, ClassItem.text_line, ClassItem.text_line]
  simp only [opened, addLine, String.append_assoc]

theorem outcome_block (header : String) (content : WriteM Unit) (writer : ClassWriter) :
    outcome (ClassWriter.block header content) writer =
      outcome (do content; closeBlock) (writer.opened header) := rfl

/-- With the closing brace behind its content, a block that was opened is a whole one. -/
theorem addLine_opened (writer : ClassWriter) (header : String) (items : List ClassItem)
    (bodies : List WrittenBody) :
    addLine { (writer.opened header).extend items bodies with depth := writer.depth } "\x7d" =
      writer.extend [.block header items] bodies := by
  have htext : ((writer.opened header).extend items bodies).text ++ indentation writer.depth ++
      "\x7d" ++ "\n" = writer.text ++ ClassItem.text writer.depth [.block header items] := by
    rw [extend, text_opened, ClassItem.text_block, ClassItem.text_line]
    simp only [String.append_assoc]
    rfl
  rw [extend.eq_def writer, ← htext]
  rfl

/-- The content of a block stands one level deeper, and the depth falls back behind it. -/
theorem Writes.block (header : String) (hcontent : Writes naming action items bodies) :
    Writes naming (ClassWriter.block header action) [.block header items] bodies := by
  intro writer hnaming
  calc outcome (ClassWriter.block header action) writer
      = outcome (do action; closeBlock) (writer.opened header) := outcome_block header action writer
    _ = outcome closeBlock ((writer.opened header).extend items bodies) :=
      outcome_bind_of_ok (hcontent (writer.opened header) hnaming)
    _ = (.ok (), writer.extend [.block header items] bodies) := by
      rw [← addLine_opened]
      rfl

/-- What is written for each value stands in the order of the values. -/
theorem Writes.forEach {write : α → WriteM Unit} {values : List α} {itemsOf : α → List ClassItem}
    {bodiesOf : α → List WrittenBody}
    (hwrite : ∀ value ∈ values, Writes naming (write value) (itemsOf value) (bodiesOf value)) :
    Writes naming (ClassWriter.forEach write values) (values.flatMap itemsOf)
      (values.flatMap bodiesOf) := by
  induction values with
  | nil => exact writes_pure
  | cons value rest ih =>
    rw [List.flatMap_cons, List.flatMap_cons]
    exact (hwrite value List.mem_cons_self).seq
      (ih fun other hother ↦ hwrite other (List.mem_cons_of_mem _ hother))

theorem Writes.forEach_map {write : α → WriteM Unit} {values : List α} {itemOf : α → ClassItem}
    (hwrite : ∀ value ∈ values, Writes naming (write value) [itemOf value] []) :
    Writes naming (ClassWriter.forEach write values) (values.map itemOf) [] := by
  have hnone : values.flatMap (fun _ ↦ ([] : List WrittenBody)) = [] := by simp
  rw [List.map_eq_flatMap, ← hnone]
  exact Writes.forEach hwrite

/-- An action that looks at the writer's naming first. -/
theorem writes_get {next : ClassWriter → WriteM Unit}
    (hnext : ∀ writer : ClassWriter, writer.naming = naming →
      Writes naming (next writer) items bodies) :
    Writes naming (get >>= next) items bodies := by
  intro writer hnaming
  exact hnext writer hnaming writer hnaming

theorem FailsWith.bind {action : WriteM α} {next : α → WriteM β}
    (haction : FailsWith naming action cause) : FailsWith naming (action >>= next) cause := by
  intro writer hnaming
  obtain ⟨after, hafter⟩ := haction writer hnaming
  exact ⟨after, by rw [outcome_bind, hafter]⟩

theorem Writes.fails {next : WriteM α} (haction : Writes naming action items bodies)
    (hnext : FailsWith naming next cause) : FailsWith naming (do action; next) cause := by
  intro writer hnaming
  rw [outcome_bind_of_ok (haction writer hnaming)]
  exact hnext _ hnaming

theorem FailsWith.block (header : String) (hcontent : FailsWith naming action cause) :
    FailsWith naming (ClassWriter.block header action) cause := by
  intro writer hnaming
  have hrest : FailsWith naming (do action; closeBlock) cause := hcontent.bind
  rw [outcome_block]
  exact hrest (writer.opened header) hnaming

theorem fails_get {next : ClassWriter → WriteM Unit}
    (hnext : ∀ writer : ClassWriter, writer.naming = naming →
      FailsWith naming (next writer) cause) :
    FailsWith naming (get >>= next) cause := by
  intro writer hnaming
  exact hnext writer hnaming writer hnaming

end Actions

end ClassWriter

end GuardedProxy

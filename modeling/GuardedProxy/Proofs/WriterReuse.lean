import GuardedProxy.Compilation
import GuardedProxy.Proofs.ClassContent

/-!
# Using a class writer again

One writer can be asked for any number of classes, one after the other, and a class that fails does
not end the sequence. A failure leaves a text that was begun, blocks that are still open and the
bodies up to the member that failed. Nothing of this is seen by the next class: it begins by
clearing all that the writer holds, except for the naming, and no action of a writer changes the
naming.
-/

namespace GuardedProxy

/-- A class that a writer is asked for. -/
structure ClassOrder where
  kind : ClassKind
  description : Description

/-- What comes back for an order: the text of the class or the failure, the bodies that the writer
has then, and the events on the way. -/
structure ClassReply where
  text : Except MissingDelegate String
  bodies : List WrittenBody
  events : List Event

namespace ClassWriter

def fresh (naming : NamingScheme) : ClassWriter := { naming }

/-- The reply of a writer to an order, and the writer that it leaves behind. -/
def reply (writer : ClassWriter) (order : ClassOrder) : ClassReply × ClassWriter :=
  let traced := (classText order.kind order.description).run.run writer
  (⟨traced.value.1, traced.value.2.bodies, traced.events⟩, traced.value.2)

/-- The replies of one writer to a sequence of orders, each given to what the one before it left
behind. -/
def replies (writer : ClassWriter) : List ClassOrder → List ClassReply
  | [] => []
  | order :: rest => (writer.reply order).1 :: (writer.reply order).2.replies rest

variable {α β : Type}

/-- Whether the action succeeds or fails, the writer has its naming afterwards. -/
def KeepsNaming (action : WriteM α) : Prop :=
  ∀ writer : ClassWriter, (outcome action writer).2.naming = writer.naming

theorem keepsNaming_pure (value : α) : KeepsNaming (pure value) := fun _ ↦ rfl

theorem keepsNaming_get : KeepsNaming get := fun _ ↦ rfl

theorem keepsNaming_line (text : String) : KeepsNaming (line text) := fun _ ↦ rfl

theorem keepsNaming_emptyLine : KeepsNaming emptyLine := fun _ ↦ rfl

theorem keepsNaming_openBlock : KeepsNaming openBlock := fun _ ↦ rfl

theorem keepsNaming_closeBlock : KeepsNaming closeBlock := fun _ ↦ rfl

theorem keepsNaming_reset : KeepsNaming reset := fun _ ↦ rfl

theorem keepsNaming_takeText : KeepsNaming takeText := fun _ ↦ rfl

theorem keepsNaming_addBody (body : WrittenBody) : KeepsNaming (addBody body) := fun _ ↦ rfl

theorem keepsNaming_assemble (member : Member) (clauses : List Clause) :
    KeepsNaming (assemble member clauses) := fun _ ↦ rfl

section Sequence

variable {action : WriteM α} {content : WriteM Unit}

/-- Actions that keep the names keep them one behind the other. -/
theorem KeepsNaming.bind {next : α → WriteM β} (haction : KeepsNaming action)
    (hnext : ∀ value, KeepsNaming (next value)) : KeepsNaming (action >>= next) := by
  intro writer
  have hafter := haction writer
  rw [outcome_bind]
  generalize outcome action writer = ended at hafter ⊢
  obtain ⟨_ | value, after⟩ := ended
  · exact hafter
  · exact (hnext value after).trans hafter

theorem KeepsNaming.block (header : String) (hcontent : KeepsNaming content) :
    KeepsNaming (ClassWriter.block header content) :=
  (keepsNaming_line header).bind fun _ ↦ keepsNaming_openBlock.bind fun _ ↦
    hcontent.bind fun _ ↦ keepsNaming_closeBlock

theorem KeepsNaming.forEach {write : α → WriteM Unit} (hwrite : ∀ value, KeepsNaming (write value))
    (values : List α) : KeepsNaming (ClassWriter.forEach write values) := by
  induction values with
  | nil => exact keepsNaming_pure ()
  | cons value rest ih => exact (hwrite value).bind fun _ ↦ ih

theorem KeepsNaming.inNamespace (description : Description) (hcontent : KeepsNaming content) :
    KeepsNaming (ClassWriter.inNamespace description content) := by
  unfold ClassWriter.inNamespace
  cases description.namespaceName with
  | none => exact hcontent
  | some name => exact hcontent.block _

end Sequence

theorem keepsNaming_writeStatement (statement : Statement) :
    KeepsNaming (writeStatement statement) := by
  cases statement with
  | keep snapshot => exact keepsNaming_line _
  | check guard => exact (keepsNaming_line _).block _
  | call expression result => exact keepsNaming_line _
  | giveBack variableName => exact keepsNaming_line _

theorem keepsNaming_writeMemberBody (header : String) (member : Member) (clauses : List String) :
    KeepsNaming (writeMemberBody header member clauses) := by
  refine (keepsNaming_assemble member _).bind fun body ↦ ?_
  have hstatements := KeepsNaming.forEach keepsNaming_writeStatement body.statements
  exact (hstatements.block header).bind fun _ ↦ keepsNaming_addBody _

theorem keepsNaming_writeAccessor (header : String) (member : Member)
    (accessor : Option (List String)) : KeepsNaming (writeAccessor header member accessor) := by
  cases accessor with
  | none => exact keepsNaming_pure ()
  | some clauses => exact keepsNaming_writeMemberBody header member clauses

theorem keepsNaming_writeMember (member : MemberDescription) :
    KeepsNaming (writeMember member) := by
  refine keepsNaming_emptyLine.bind fun _ ↦ ?_
  cases member with
  | method described =>
    exact keepsNaming_get.bind fun _ ↦ keepsNaming_writeMemberBody _ _ _
  | property described =>
    refine keepsNaming_get.bind fun _ ↦ KeepsNaming.block _ ?_
    exact (keepsNaming_writeAccessor _ _ _).bind fun _ ↦ keepsNaming_writeAccessor _ _ _

theorem keepsNaming_writeConstructor (className interfaceName : String) :
    KeepsNaming (writeConstructor className interfaceName) :=
  keepsNaming_get.bind fun _ ↦ (keepsNaming_line _).bind fun _ ↦
    keepsNaming_emptyLine.bind fun _ ↦ (keepsNaming_line _).block _

theorem keepsNaming_proxyText (description : Description) :
    KeepsNaming (proxyText description) := by
  have hmembers := KeepsNaming.forEach keepsNaming_writeMember description.members
  have hclass : KeepsNaming (writeProxyClass description) :=
    (((keepsNaming_writeConstructor _ _).bind fun _ ↦ hmembers).block _).inNamespace description
  exact keepsNaming_reset.bind fun _ ↦ hclass.bind fun _ ↦ keepsNaming_takeText

/-- Neither class changes the names of its writer. -/
theorem keepsNaming_classText (kind : ClassKind) (description : Description) :
    KeepsNaming (classText kind description) := by
  cases kind with
  | proxy => exact keepsNaming_proxyText description
  | contract =>
    intro writer
    exact congrArg (·.2.naming) (outcome_contractText description writer)

/-- A class is begun with the naming of the writer and nothing else of it. -/
theorem reply_eq_reply_fresh (writer : ClassWriter) (order : ClassOrder) :
    writer.reply order = (fresh writer.naming).reply order := by
  obtain ⟨kind, description⟩ := order
  cases kind with
  | proxy => rfl
  | contract => rfl

theorem naming_reply (writer : ClassWriter) (order : ClassOrder) :
    (writer.reply order).2.naming = writer.naming :=
  keepsNaming_classText order.kind order.description writer

/-- Whatever a writer holds from earlier orders, and whether or not these succeeded, it replies to
every order as a fresh writer with its naming does. -/
theorem replies_eq_map_fresh (writer : ClassWriter) (orders : List ClassOrder) :
    writer.replies orders = orders.map fun order ↦ ((fresh writer.naming).reply order).1 := by
  induction orders generalizing writer with
  | nil => rfl
  | cons order rest ih =>
    rw [replies, ih, naming_reply, reply_eq_reply_fresh, List.map_cons]

/-- A failure in a property leaves the writer three blocks deep. -/
example :
    let order : ClassOrder :=
      ⟨.proxy, ⟨"IBox", none, some "Shop", [.property ⟨"Value", "int", some [], none⟩]⟩⟩
    ((fresh { delegateField := " " }).reply order).2.depth = 3 := by decide

end ClassWriter

end GuardedProxy

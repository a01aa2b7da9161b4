import GuardedProxy.ClassWriter.Contract
import GuardedProxy.ClassWriter.Proxy
import GuardedProxy.Proofs.BodyLayout
import GuardedProxy.Proofs.ClassItem
import GuardedProxy.Proofs.Lists

/-!
# What the two classes of an interface consist of

Each member of a description becomes one item of the proxy and one item of the stub. A method is a
block under its header, and a property is a block with one further block for each accessor that it
declares. In the proxy such a block holds the statements of the assembled body, in the stub it
holds the clauses as they were given. Writing the proxy succeeds if there is a target to call or
nothing to call it for, and otherwise fails at the first member. Writing the stub always succeeds.
-/

namespace GuardedProxy

open ClassWriter

/-- The item that a statement of a body is written as. -/
def Statement.item : Statement → ClassItem
  | check guard => .block guard.test [.line guard.throwing]
  | statement => .line statement.text

/-- A method or an accessor with the clauses that are given for it. -/
structure BodyPart where
  header : String
  member : Member
  clauses : List String

namespace BodyPart

/-- The outcome of assembling the body, with the clauses at positions 0, 1 and so on. -/
def assembled (naming : NamingScheme) (part : BodyPart) : Except MissingDelegate MemberBody :=
  (MemberBody.assemble part.member naming (Clause.ofStatements part.clauses)).value

/-- The assembled body, which is empty where there is no target to call. -/
def body (naming : NamingScheme) (part : BodyPart) : MemberBody :=
  match part.assembled naming with
  | .ok body => body
  | .error _ => ⟨[]⟩

def item (naming : NamingScheme) (part : BodyPart) : ClassItem :=
  .block part.header ((part.body naming).statements.map Statement.item)

def written (naming : NamingScheme) (part : BodyPart) : WrittenBody :=
  ⟨part.member.name, part.member.shape.kind, part.body naming⟩

end BodyPart

def MethodDescription.part (naming : NamingScheme) (method : MethodDescription) : BodyPart :=
  ⟨methodHeader method, method.member naming, method.clauses⟩

namespace PropertyDescription

def getterPart (naming : NamingScheme) (property : PropertyDescription) : Option BodyPart :=
  property.getter.map fun clauses ↦ ⟨"get", property.getterMember naming, clauses⟩

def setterPart (naming : NamingScheme) (property : PropertyDescription) : Option BodyPart :=
  property.setter.map fun clauses ↦ ⟨"set", property.setterMember naming, clauses⟩

/-- The declared accessors, the getter first. -/
def parts (naming : NamingScheme) (property : PropertyDescription) : List BodyPart :=
  (property.getterPart naming).toList ++ (property.setterPart naming).toList

end PropertyDescription

namespace MemberDescription

def name : MemberDescription → String
  | .method described => described.name
  | .property described => described.name

/-- What of the member has a body of its own. -/
def parts (naming : NamingScheme) : MemberDescription → List BodyPart
  | .method described => [described.part naming]
  | .property described => described.parts naming

def proxyItem (naming : NamingScheme) : MemberDescription → ClassItem
  | .method described => (described.part naming).item naming
  | .property described =>
    .block (propertyHeader described) ((described.parts naming).map (BodyPart.item naming))

end MemberDescription

namespace Description

/-- The item in the namespace of the description, if it has one. -/
def enclosed (description : Description) (item : ClassItem) : ClassItem :=
  match description.namespaceName with
  | some name => .block ("namespace " ++ name) [item]
  | none => item

/-- The field for the implementation and the constructor that receives it. -/
def constructorItems (naming : NamingScheme) (className interfaceName : String) : List ClassItem :=
  let field := naming.delegateField
  let parameter := interfaceName ++ " " ++ constructorParameter field
  [.line ("private readonly " ++ interfaceName ++ " " ++ field ++ ";"), .gap,
    .block ("public " ++ className ++ "(" ++ parameter ++ ")") [.line (fieldAssignment field)]]

/-- The proxy class around the items of its members. -/
def proxyFrame (naming : NamingScheme) (description : Description) (members : List ClassItem) :
    ClassItem :=
  let className := OutputName.proxyClass description.interfaceName description.contractClass
  description.enclosed
    (.block ("public sealed class " ++ className ++ " : " ++ description.interfaceName)
      (constructorItems naming className description.interfaceName ++
        members.flatMap fun member ↦ [.gap, member]))

def proxyItem (naming : NamingScheme) (description : Description) : ClassItem :=
  description.proxyFrame naming (description.members.map (MemberDescription.proxyItem naming))

/-- All methods and accessors, in the order of the members. -/
def parts (naming : NamingScheme) (description : Description) : List BodyPart :=
  description.members.flatMap (MemberDescription.parts naming)

end Description

/-- The lines for the clauses of a stub. -/
def clauseItems (clauses : List String) : List ClassItem :=
  match clauses with
  | [] => [.line placeholderComment]
  | clauses => clauses.map fun clause ↦ .line ((Clause.mk clause 0).text ++ ";")

def ReturnType.stubItems : ReturnType → List ClassItem
  | void => []
  | value type => [.line ("return default(" ++ type ++ ");")]

def stubItem (header : String) (returns : ReturnType) (clauses : List String) : ClassItem :=
  .block header (clauseItems clauses ++ returns.stubItems)

def MemberDescription.stubItem : MemberDescription → ClassItem
  | .method described =>
    GuardedProxy.stubItem (methodHeader described) (ReturnType.parse described.returnType)
      described.clauses
  | .property described =>
    .block (propertyHeader described)
      ((described.getter.map
          (GuardedProxy.stubItem "get" (ReturnType.parse described.type))).toList ++
        (described.setter.map (GuardedProxy.stubItem "set" .void)).toList)

namespace Description

/-- The stub of the contract class around the items of its members. -/
def stubFrame (description : Description) (members : List ClassItem) : ClassItem :=
  let className := OutputName.contractClass description.interfaceName description.contractClass
  description.enclosed
    (.block ("internal abstract class " ++ className ++ " : " ++ description.interfaceName)
      (members.intersperse .gap))

def stubItem (description : Description) : ClassItem :=
  description.stubFrame (description.members.map MemberDescription.stubItem)

end Description

theorem Member.target_of_blank {member : Member} {delegate : String}
    (hdelegate : member.delegate = some delegate) (hblank : Text.blankText delegate = true) :
    member.target = none := by
  have hempty : Text.trimmed delegate = "" := by
    rw [Text.trimmed, Text.trim_eq_nil_iff.mpr hblank, String.ofList_nil]
  simp [Member.target, hdelegate, hempty]

namespace BodyPart

variable {naming : NamingScheme} {part : BodyPart}

/-- With a delegate to call, a body comes out as it was put together. -/
theorem assembled_of_target (hdelegate : part.member.delegate = some naming.delegateField)
    (hblank : Text.blankText naming.delegateField = false) :
    part.assembled naming = .ok (part.body naming) := by
  have htarget := Member.target_of_delegate hdelegate hblank
  have hok := MemberBody.value_assemble naming (Clause.ofStatements part.clauses) htarget
  rw [← assembled] at hok
  rw [body, hok]

theorem assembled_of_blank (hdelegate : part.member.delegate = some naming.delegateField)
    (hblank : Text.blankText naming.delegateField = true) :
    part.assembled naming = .error ⟨part.member.name⟩ := by
  have htarget := Member.target_of_blank hdelegate hblank
  rw [assembled, MemberBody.assemble, htarget]
  rfl

end BodyPart

namespace MemberDescription

variable {naming : NamingScheme} {member : MemberDescription} {part : BodyPart}

/-- A part has the name of its member and calls the delegate field. -/
theorem name_and_delegate_of_mem_parts (hpart : part ∈ member.parts naming) :
    part.member.name = member.name ∧ part.member.delegate = some naming.delegateField := by
  cases member with
  | method method =>
    obtain rfl := List.mem_singleton.mp hpart
    exact ⟨rfl, rfl⟩
  | property property =>
    rw [parts, PropertyDescription.parts, List.mem_append, Option.mem_toList, Option.mem_toList,
      PropertyDescription.getterPart, PropertyDescription.setterPart, Option.map_eq_some_iff,
      Option.map_eq_some_iff] at hpart
    rcases hpart with ⟨clauses, -, rfl⟩ | ⟨clauses, -, rfl⟩
    · exact ⟨rfl, rfl⟩
    · exact ⟨rfl, rfl⟩

end MemberDescription

/-- Every body of a class calls the delegate of the class. -/
theorem Description.delegate_of_mem_parts {naming : NamingScheme} {description : Description}
    {part : BodyPart} (hpart : part ∈ description.parts naming) :
    part.member.delegate = some naming.delegateField := by
  obtain ⟨member, -, hmember⟩ := List.mem_flatMap.mp hpart
  exact (MemberDescription.name_and_delegate_of_mem_parts hmember).2

namespace ClassWriter

variable {naming : NamingScheme}

/-! ## Writing the proxy -/

theorem writes_statement (statement : Statement) :
    Writes naming (writeStatement statement) [statement.item] [] := by
  cases statement with
  | keep snapshot => exact writes_line _
  | check guard => exact (writes_line guard.throwing).block guard.test
  | call expression result => exact writes_line _
  | giveBack variableName => exact writes_line _

/-- A body is written under its header and noted. -/
theorem writes_memberBody (part : BodyPart)
    (hassembled : part.assembled naming = .ok (part.body naming)) :
    Writes naming (writeMemberBody part.header part.member part.clauses) [part.item naming]
      [part.written naming] := by
  have hstatements : Writes naming (forEach writeStatement (part.body naming).statements)
      ((part.body naming).statements.map Statement.item) [] :=
    Writes.forEach_map fun statement _ ↦ writes_statement statement
  have hwritten := (hstatements.block part.header).seq (writes_addBody (part.written naming))
  intro writer hnaming
  have hbody : outcome (assemble part.member (Clause.ofStatements part.clauses)) writer =
      (.ok (part.body naming), writer) := by
    rw [outcome_assemble, hnaming]
    exact congrArg (·, writer) hassembled
  exact (outcome_bind_of_ok hbody).trans (hwritten writer hnaming)

theorem fails_memberBody (part : BodyPart) {cause : MissingDelegate}
    (hassembled : part.assembled naming = .error cause) :
    FailsWith naming (writeMemberBody part.header part.member part.clauses) cause := by
  intro writer hnaming
  have hbody : outcome (assemble part.member (Clause.ofStatements part.clauses)) writer =
      (.error cause, writer) := by
    rw [outcome_assemble, hnaming]
    exact congrArg (·, writer) hassembled
  exact ⟨writer, by rw [writeMemberBody, outcome_bind, hbody]⟩

/-- An accessor is written if there is one, and its body is recorded. -/
theorem writes_accessor (header : String) (member : Member) (accessor : Option (List String))
    (hassembled : ∀ part ∈ accessor.map fun clauses ↦ BodyPart.mk header member clauses,
      part.assembled naming = .ok (part.body naming)) :
    let parts := (accessor.map fun clauses ↦ BodyPart.mk header member clauses).toList
    Writes naming (writeAccessor header member accessor) (parts.map (BodyPart.item naming))
      (parts.map (BodyPart.written naming)) := by
  cases accessor with
  | none => exact writes_pure
  | some clauses => exact writes_memberBody ⟨header, member, clauses⟩ (hassembled _ rfl)

/-- A member is an empty line and the item of the member, if all its bodies can be assembled. -/
theorem writes_member {member : MemberDescription}
    (hassembled : ∀ part ∈ member.parts naming, part.assembled naming = .ok (part.body naming)) :
    Writes naming (writeMember member) [.gap, member.proxyItem naming]
      ((member.parts naming).map (BodyPart.written naming)) := by
  cases member with
  | method method =>
    refine writes_emptyLine.seq (writes_get ?_)
    rintro writer rfl
    exact writes_memberBody (method.part writer.naming) (hassembled _ List.mem_cons_self)
  | property property =>
    refine writes_emptyLine.seq (writes_get ?_)
    rintro writer rfl
    have hget := writes_accessor "get" (property.getterMember writer.naming) property.getter
      fun part hpart ↦ hassembled part (List.mem_append_left _ (Option.mem_toList.mpr hpart))
    have hset := writes_accessor "set" (property.setterMember writer.naming) property.setter
      fun part hpart ↦ hassembled part (List.mem_append_right _ (Option.mem_toList.mpr hpart))
    have hblock := (hget.seq hset).block (propertyHeader property)
    rw [← List.map_append, ← List.map_append] at hblock
    exact hblock

theorem writes_constructor (className interfaceName : String) :
    Writes naming (writeConstructor className interfaceName)
      (Description.constructorItems naming className interfaceName) [] := by
  refine writes_get ?_
  rintro writer rfl
  exact (writes_line _).seq (writes_emptyLine.seq ((writes_line _).block _))

theorem writes_inNamespace {content : WriteM Unit} {item : ClassItem} {bodies : List WrittenBody}
    (description : Description) (hcontent : Writes naming content [item] bodies) :
    Writes naming (inNamespace description content) [description.enclosed item] bodies := by
  unfold inNamespace Description.enclosed
  cases description.namespaceName with
  | none => exact hcontent
  | some name => exact hcontent.block _

/-- The proxy class is written as its outline says, and every body of it is recorded. -/
theorem writes_proxyClass {description : Description}
    (hassembled : ∀ part ∈ description.parts naming,
      part.assembled naming = .ok (part.body naming)) :
    Writes naming (writeProxyClass description) [description.proxyItem naming]
      ((description.parts naming).map (BodyPart.written naming)) := by
  have hmembers : Writes naming (forEach writeMember description.members)
      ((description.members.map (MemberDescription.proxyItem naming)).flatMap fun member ↦
        [.gap, member])
      ((description.parts naming).map (BodyPart.written naming)) := by
    rw [List.flatMap_map, Description.parts, List.map_flatMap]
    refine Writes.forEach fun member hmember ↦ writes_member fun part hpart ↦ ?_
    exact hassembled part (List.mem_flatMap.mpr ⟨member, hmember, hpart⟩)
  exact writes_inNamespace description (((writes_constructor _ _).seq hmembers).block _)

/-- Where no body can be assembled, the first one ends the class. -/
theorem fails_member {member : MemberDescription} {part : BodyPart} {rest : List BodyPart}
    {cause : MissingDelegate} (hparts : member.parts naming = part :: rest)
    (hassembled : part.assembled naming = .error cause) :
    FailsWith naming (writeMember member) cause := by
  cases member with
  | method method =>
    obtain ⟨rfl, -⟩ := List.cons.inj hparts
    refine writes_emptyLine.fails (fails_get ?_)
    rintro writer rfl
    exact fails_memberBody (method.part writer.naming) hassembled
  | property property =>
    refine writes_emptyLine.fails (fails_get ?_)
    rintro writer rfl
    refine FailsWith.block _ ?_
    cases hget : property.getter with
    | some clauses =>
      rw [MemberDescription.parts, PropertyDescription.parts, PropertyDescription.getterPart,
        hget] at hparts
      obtain ⟨rfl, -⟩ := List.cons.inj hparts
      let part : BodyPart := ⟨"get", property.getterMember writer.naming, clauses⟩
      exact FailsWith.bind (fails_memberBody part hassembled)
    | none =>
      rw [MemberDescription.parts, PropertyDescription.parts, PropertyDescription.getterPart,
        hget] at hparts
      refine writes_pure.fails ?_
      cases hset : property.setter with
      | none =>
        rw [PropertyDescription.setterPart, hset] at hparts
        exact absurd hparts (List.cons_ne_nil _ _).symm
      | some clauses =>
        rw [PropertyDescription.setterPart, hset] at hparts
        obtain ⟨rfl, -⟩ := List.cons.inj hparts
        exact fails_memberBody ⟨"set", property.setterMember writer.naming, clauses⟩ hassembled

/-- The first member without a target stops the writer. -/
theorem fails_members {members : List MemberDescription} {part : BodyPart} {rest : List BodyPart}
    {cause : MissingDelegate}
    (hparts : members.flatMap (MemberDescription.parts naming) = part :: rest)
    (hassembled : part.assembled naming = .error cause) :
    FailsWith naming (forEach writeMember members) cause := by
  induction members with
  | nil => exact absurd hparts (List.cons_ne_nil _ _).symm
  | cons member members ih =>
    rw [List.flatMap_cons] at hparts
    cases hfirst : member.parts naming with
    | nil =>
      rw [hfirst, List.nil_append] at hparts
      have hmember : Writes naming (writeMember member) [.gap, member.proxyItem naming]
          ((member.parts naming).map (BodyPart.written naming)) := by
        refine writes_member fun other hother ↦ ?_
        rw [hfirst] at hother
        exact absurd hother List.not_mem_nil
      exact hmember.fails (ih hparts)
    | cons first others =>
      rw [hfirst, List.cons_append] at hparts
      obtain ⟨rfl, -⟩ := List.cons.inj hparts
      exact (fails_member hfirst hassembled).bind

theorem fails_inNamespace {content : WriteM Unit} {cause : MissingDelegate}
    (description : Description) (hcontent : FailsWith naming content cause) :
    FailsWith naming (inNamespace description content) cause := by
  unfold inNamespace
  cases description.namespaceName with
  | none => exact hcontent
  | some name => exact hcontent.block _

theorem fails_proxyClass {description : Description} {part : BodyPart} {rest : List BodyPart}
    {cause : MissingDelegate} (hparts : description.parts naming = part :: rest)
    (hassembled : part.assembled naming = .error cause) :
    FailsWith naming (writeProxyClass description) cause := by
  refine fails_inNamespace description (FailsWith.block _ ?_)
  exact (writes_constructor _ _).fails (fails_members hparts hassembled)

/-! ## Writing the stub -/

theorem writes_stubBody (header : String) (clauses : List String) (returns : ReturnType) :
    Writes naming (writeStubBody header clauses returns) [stubItem header returns clauses] [] := by
  have hclauses : Writes naming
      (forEach (fun clause ↦ line ((Clause.mk clause 0).text ++ ";")) clauses)
      (clauses.map fun clause ↦ .line ((Clause.mk clause 0).text ++ ";")) [] :=
    Writes.forEach_map fun clause _ ↦ writes_line _
  have hreturn : Writes naming
      (if !returns.isVoid then line ("return default(" ++ returns.text ++ ");") else pure ())
      returns.stubItems [] := by
    cases returns with
    | void => exact writes_pure
    | value type => exact writes_line _
  refine Writes.block header ?_
  cases clauses with
  | nil => exact (writes_line placeholderComment).seq (hclauses.seq hreturn)
  | cons clause rest => exact writes_pure.seq (hclauses.seq hreturn)

theorem writes_stubAccessor (header : String) (returns : ReturnType)
    (accessor : Option (List String)) :
    Writes naming (writeStubAccessor header returns accessor)
      (accessor.map (stubItem header returns)).toList [] := by
  cases accessor with
  | none => exact writes_pure
  | some clauses => exact writes_stubBody header clauses returns

theorem writes_stub (member : MemberDescription) :
    Writes naming (writeStub member) [member.stubItem] [] := by
  cases member with
  | method method => exact writes_stubBody _ _ _
  | property property =>
    exact ((writes_stubAccessor _ _ _).seq (writes_stubAccessor _ _ _)).block _

theorem writes_stubs (members : List MemberDescription) :
    Writes naming (writeStubs members) ((members.map MemberDescription.stubItem).intersperse .gap)
      [] := by
  cases members with
  | nil => exact writes_pure
  | cons member rest =>
    have hrest : Writes naming (forEach (fun member ↦ do emptyLine; writeStub member) rest)
        (rest.flatMap fun member ↦ [.gap, member.stubItem]) (rest.flatMap fun _ ↦ []) :=
      Writes.forEach fun other _ ↦ writes_emptyLine.seq (writes_stub other)
    have hnone : rest.flatMap (fun _ ↦ ([] : List WrittenBody)) = [] := by simp
    rw [List.map_cons, Lists.intersperse_cons, List.flatMap_map]
    rw [hnone] at hrest
    exact (writes_stub member).seq hrest

/-- The contract class is always written, for it assembles no body. -/
theorem writes_contractClass (description : Description) :
    Writes naming (writeContractClass description) [description.stubItem] [] :=
  writes_inNamespace description ((writes_stubs description.members).block _)

theorem outcome_reset (writer : ClassWriter) :
    outcome reset writer = (.ok (), ⟨writer.naming, 0, "", []⟩) := rfl

/-- Whatever the writer held before, its text is that of the items, from depth 0 on. -/
theorem outcome_textOf {action : WriteM Unit} {items : List ClassItem} {bodies : List WrittenBody}
    (haction : Writes naming action items bodies) {writer : ClassWriter}
    (hnaming : writer.naming = naming) :
    outcome (do reset; action; takeText) writer =
      (.ok (ClassItem.text 0 items), ⟨naming, 0, "", bodies⟩) := by
  subst hnaming
  rw [outcome_bind_of_ok (outcome_reset writer),
    outcome_bind_of_ok (haction ⟨writer.naming, 0, "", []⟩ rfl)]
  have htext : (extend ⟨writer.naming, 0, "", []⟩ items bodies).text = ClassItem.text 0 items :=
    String.empty_append
  rw [← htext]
  rfl

theorem failsWith_textOf {action : WriteM Unit} {cause : MissingDelegate}
    (haction : FailsWith naming action cause) :
    FailsWith naming (do reset; action; takeText) cause := by
  intro writer hnaming
  have hrest : FailsWith naming (do action; takeText) cause := haction.bind
  rw [outcome_bind_of_ok (outcome_reset writer)]
  exact hrest _ hnaming

/-- A fresh or a used writer gives the same text of the proxy class. -/
theorem outcome_proxyText {description : Description}
    (hassembled : ∀ part ∈ description.parts naming,
      part.assembled naming = .ok (part.body naming)) {writer : ClassWriter}
    (hnaming : writer.naming = naming) :
    outcome (proxyText description) writer =
      (.ok (ClassItem.text 0 [description.proxyItem naming]),
        ⟨naming, 0, "", (description.parts naming).map (BodyPart.written naming)⟩) :=
  outcome_textOf (writes_proxyClass hassembled) hnaming

theorem outcome_contractText (description : Description) (writer : ClassWriter) :
    outcome (contractText description) writer =
      (.ok (ClassItem.text 0 [description.stubItem]), ⟨writer.naming, 0, "", []⟩) :=
  outcome_textOf (writes_contractClass description) rfl

end ClassWriter

end GuardedProxy

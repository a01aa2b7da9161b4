import GuardedProxy.Description.Basic
import GuardedProxy.Description.Problem

/-!
# Reading a description

A description is an object, or a sequence of its fields in order, and so is each record in it.
Fields with an unknown key are ignored. A member is read as a whole before its fields are looked
at, except that its kind is checked where it stands. What is ignored outside of members need only
be whole, while a member must be sound throughout.
-/

namespace GuardedProxy.Description

open Json (Tree Key)

abbrev Decoded (α : Type) := Except Problem α

/-- Reports that a value is not what was wanted. -/
def refuse {α : Type} (tree : Tree) (wanted : Wanted) : Decoded α :=
  match Found.ofTree tree with
  | some found => .error (.wrongType found wanted)
  | none => .error .malformed

/-- How many containers may stand inside one another in the whole text. -/
def maxDepth : Nat := 127

/-- How many containers may stand inside one another in a value of a member, which itself stands
in the member, the list of members and the description. -/
def memberLevels : Nat := maxDepth - 3

def decodeString : Tree → Decoded String
  | .string (some text) => .ok text
  | tree => refuse tree .string

def decodeOptional {α : Type} (decode : Tree → Decoded α) : Tree → Decoded (Option α)
  | .null => .ok none
  | tree => some <$> decode tree

/-- A sequence, every item of which is decoded in order. -/
def decodeList {α : Type} (decode : Tree → Decoded α) : Tree → Decoded (List α)
  | .array items closed => do
    let values ← items.mapM decode
    if closed then return values else throw .malformed
  | tree => refuse tree .sequence

/-- Decodes the value of a field that must not occur twice. -/
def once {α : Type} (name : String) (slot : Option α) (value : Decoded α) :
    Decoded (Option α) :=
  match slot with
  | some _ => .error (.duplicateField name)
  | none => some <$> value

def required {α : Type} (name : String) : Option α → Decoded α
  | some value => .ok value
  | none => .error (.missingField name)

/-- Decodes an element of a sequence that stands for a record, if it is there. -/
def element {α : Type} (items : List Tree) (index : Nat) (decode : Tree → Decoded α) :
    Decoded (Option α) :=
  (items[index]?).mapM decode

/-- Decodes an element that must be there. -/
def requiredElement {α : Type} (kind : RecordKind) (items : List Tree) (index : Nat)
    (decode : Tree → Decoded α) : Decoded α :=
  match items[index]? with
  | some tree => decode tree
  | none => .error (.tooShort items.length kind)

def checkLength (kind : RecordKind) (items : List Tree) : Decoded Unit :=
  if kind.size < items.length then .error (.tooLong items.length kind) else .ok ()

structure PartialParameter where
  name : Option String := none
  type : Option String := none

def PartialParameter.add (parameter : PartialParameter) (key : String) (value : Tree) :
    Decoded PartialParameter :=
  match key with
  | "name" => do return { parameter with name := ← once key parameter.name (decodeString value) }
  | "type" => do return { parameter with type := ← once key parameter.type (decodeString value) }
  | _ => .ok parameter

/-- Adds the fields of an object one by one. -/
def addFields {α : Type} (add : α → String → Tree → Decoded α) (start : α) :
    List (Key × Tree) → Decoded α
  | [] => .ok start
  | (none, _) :: _ => .error .malformed
  | (some key, value) :: rest => do addFields add (← add start key value) rest

def decodeParameter : Tree → Decoded Parameter
  | .object fields _ => do
    let parameter ← addFields PartialParameter.add {} fields
    return ⟨← required "name" parameter.name, ← required "type" parameter.type⟩
  | .array items _ => do
    let name ← requiredElement .parameter items 0 decodeString
    let type ← requiredElement .parameter items 1 decodeString
    checkLength .parameter items
    return ⟨name, type⟩
  | tree => refuse tree .parameter

structure PartialMethod where
  name : Option String := none
  returnType : Option String := none
  parameters : Option (List Parameter) := none
  clauses : Option (List String) := none

def PartialMethod.add (method : PartialMethod) (key : String) (value : Tree) :
    Decoded PartialMethod :=
  match key with
  | "name" => do return { method with name := ← once key method.name (decodeString value) }
  | "return_type" => do
    return { method with returnType := ← once key method.returnType (decodeString value) }
  | "parameters" => do
    return { method with
      parameters := ← once key method.parameters (decodeList decodeParameter value) }
  | "clauses" => do
    return { method with clauses := ← once key method.clauses (decodeList decodeString value) }
  | _ => .ok method

/-- A method that gives no return type returns nothing. -/
def PartialMethod.complete (method : PartialMethod) : Decoded MethodDescription := do
  let name ← required "name" method.name
  return ⟨name, method.returnType.getD "void", method.parameters.getD [], method.clauses.getD []⟩

def decodeMethodItems (items : List Tree) : Decoded MethodDescription := do
  let name ← requiredElement .method items 0 decodeString
  let returnType ← element items 1 decodeString
  let parameters ← element items 2 (decodeList decodeParameter)
  let clauses ← element items 3 (decodeList decodeString)
  checkLength .method items
  PartialMethod.complete ⟨some name, returnType, parameters, clauses⟩

structure PartialProperty where
  name : Option String := none
  type : Option String := none
  getter : Option (Option (List String)) := none
  setter : Option (Option (List String)) := none

def decodeAccessor : Tree → Decoded (Option (List String)) :=
  decodeOptional (decodeList decodeString)

def PartialProperty.add (property : PartialProperty) (key : String) (value : Tree) :
    Decoded PartialProperty :=
  match key with
  | "name" => do return { property with name := ← once key property.name (decodeString value) }
  | "type" => do return { property with type := ← once key property.type (decodeString value) }
  | "getter" => do
    return { property with getter := ← once key property.getter (decodeAccessor value) }
  | "setter" => do
    return { property with setter := ← once key property.setter (decodeAccessor value) }
  | _ => .ok property

def PartialProperty.complete (property : PartialProperty) : Decoded PropertyDescription := do
  let name ← required "name" property.name
  let type ← required "type" property.type
  return ⟨name, type, property.getter.getD none, property.setter.getD none⟩

def decodePropertyItems (items : List Tree) : Decoded PropertyDescription := do
  let name ← requiredElement .property items 0 decodeString
  let type ← requiredElement .property items 1 decodeString
  let getter ← element items 2 decodeAccessor
  let setter ← element items 3 decodeAccessor
  checkLength .property items
  PartialProperty.complete ⟨some name, some type, getter, setter⟩

/-! ## Members -/

inductive MemberTag
  | method
  | property
deriving DecidableEq, Repr

def decodeTag : Tree → Decoded MemberTag
  | .string (some "method") => .ok .method
  | .string (some "property") => .ok .property
  | .string (some kind) => .error (.unknownKind kind)
  | tree => refuse tree .memberKind

/-- The kind of a member and its other fields, latest first. -/
structure PartialMember where
  tag : Option MemberTag := none
  fields : List (Key × Tree) := []

def PartialMember.add (member : PartialMember) (key : String) (value : Tree) :
    Decoded PartialMember :=
  match key with
  | "kind" => do return { member with tag := ← once key member.tag (decodeTag value) }
  | _ =>
    if value.isSound memberLevels then
      .ok { member with fields := (some key, value) :: member.fields }
    else .error .malformed

def decodeMemberFields (tag : MemberTag) (fields : List (Key × Tree)) :
    Decoded MemberDescription :=
  match tag with
  | .method => do return .method (← (← addFields PartialMethod.add {} fields).complete)
  | .property => do return .property (← (← addFields PartialProperty.add {} fields).complete)

def decodeMemberItems (tag : MemberTag) (items : List Tree) : Decoded MemberDescription :=
  match tag with
  | .method => .method <$> decodeMethodItems items
  | .property => .property <$> decodePropertyItems items

def decodeMember : Tree → Decoded MemberDescription
  | .object fields closed => do
    let member ← addFields PartialMember.add {} fields
    if !closed then throw .malformed
    let tag ← required "kind" member.tag
    decodeMemberFields tag member.fields.reverse
  | .array [] closed => throw (if closed then .missingField "kind" else .malformed)
  | .array (first :: items) closed => do
    let tag ← decodeTag first
    if closed && Tree.areSound memberLevels items then decodeMemberItems tag items
    else throw .malformed
  | tree => refuse tree .member

/-! ## The whole description -/

structure PartialDescription where
  interfaceName : Option String := none
  contractClass : Option (Option String) := none
  namespaceName : Option (Option String) := none
  members : Option (List MemberDescription) := none

def PartialDescription.add (description : PartialDescription) (key : String) (value : Tree) :
    Decoded PartialDescription :=
  match key with
  | "interface" => do
    return { description with
      interfaceName := ← once key description.interfaceName (decodeString value) }
  | "contract_class" => do
    return { description with
      contractClass := ← once key description.contractClass (decodeOptional decodeString value) }
  | "namespace" => do
    return { description with
      namespaceName := ← once key description.namespaceName (decodeOptional decodeString value) }
  | "members" => do
    return { description with
      members := ← once key description.members (decodeList decodeMember value) }
  | _ => if value.isWhole then .ok description else .error .malformed

def PartialDescription.complete (description : PartialDescription) : Decoded Description := do
  let interfaceName ← required "interface" description.interfaceName
  return ⟨interfaceName, description.contractClass.getD none, description.namespaceName.getD none,
    description.members.getD []⟩

def decode : Tree → Decoded Description
  | .object fields closed => do
    let description ← addFields PartialDescription.add {} fields
    if !closed then throw .malformed
    description.complete
  | .array items closed => do
    if items.isEmpty && !closed then throw .malformed
    let interfaceName ← requiredElement .description items 0 decodeString
    let contractClass ← element items 1 (decodeOptional decodeString)
    let namespaceName ← element items 2 (decodeOptional decodeString)
    let members ← element items 3 (decodeList decodeMember)
    if !closed || RecordKind.description.size < items.length then throw .malformed
    PartialDescription.complete ⟨some interfaceName, contractClass, namespaceName, members⟩
  | tree => refuse tree .description

/-- Reads a description from its text. -/
def read (text : String) : Decoded Description := do
  let document := Json.Document.read text
  let description ← decode document.tree
  if document.ended then return description else throw .malformed

end GuardedProxy.Description

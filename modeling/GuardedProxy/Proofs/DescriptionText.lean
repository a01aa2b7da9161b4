import GuardedProxy.Description.Decode
import GuardedProxy.Proofs.JsonText

/-!
# Reading back a written description

A description is written as the text of a tree, and that tree is decoded to the description. So
nothing is lost when a description is written: what is read back tells an accessor that is absent
from one that has no clauses, a method from a property, and any two strings from each other.
-/

namespace GuardedProxy.Description

open Json (Tree Key IsText)

def stringTree (text : String) : Tree := .string (some text)

def stringsTree (texts : List String) : Tree := .array (texts.map stringTree) true

def parameterTree (parameter : Parameter) : Tree :=
  .object [(some "name", stringTree parameter.name), (some "type", stringTree parameter.type)] true

def accessorTree (accessor : Option (List String)) : Tree := accessor.elim .null stringsTree

def memberTree : MemberDescription → Tree
  | .method method =>
    .object [(some "kind", stringTree "method"), (some "name", stringTree method.name),
      (some "return_type", stringTree method.returnType),
      (some "parameters", .array (method.parameters.map parameterTree) true),
      (some "clauses", stringsTree method.clauses)] true
  | .property property =>
    .object [(some "kind", stringTree "property"), (some "name", stringTree property.name),
      (some "type", stringTree property.type), (some "getter", accessorTree property.getter),
      (some "setter", accessorTree property.setter)] true

def tree (description : Description) : Tree :=
  .object [(some "interface", stringTree description.interfaceName),
    (some "contract_class", description.contractClass.elim .null stringTree),
    (some "namespace", description.namespaceName.elim .null stringTree),
    (some "members", .array (description.members.map memberTree) true)] true

theorem isText_strings (texts : List String) :
    IsText (Json.listText Json.quote texts) (stringsTree texts) :=
  Json.isText_list fun text _ ↦ Json.isText_quote text

theorem isText_parameter (parameter : Parameter) :
    IsText (parameterText parameter) (parameterTree parameter) := by
  apply Json.isText_object
  exact .cons ⟨rfl, Json.isText_quote _⟩ (.cons ⟨rfl, Json.isText_quote _⟩ .nil)

theorem isText_accessor (accessor : Option (List String)) :
    IsText (Json.optionText (Json.listText Json.quote) accessor) (accessorTree accessor) :=
  Json.isText_option accessor isText_strings

theorem isText_member (member : MemberDescription) :
    IsText (memberText member) (memberTree member) := by
  cases member with
  | method method =>
    apply Json.isText_object
    refine .cons ⟨rfl, Json.isText_quote _⟩ (.cons ⟨rfl, Json.isText_quote _⟩ ?_)
    refine .cons ⟨rfl, Json.isText_quote _⟩ (.cons ⟨rfl, ?_⟩ (.cons ⟨rfl, ?_⟩ .nil))
    · exact Json.isText_list fun parameter _ ↦ isText_parameter parameter
    · exact isText_strings method.clauses
  | property property =>
    apply Json.isText_object
    refine .cons ⟨rfl, Json.isText_quote _⟩ (.cons ⟨rfl, Json.isText_quote _⟩ ?_)
    refine .cons ⟨rfl, Json.isText_quote _⟩ (.cons ⟨rfl, ?_⟩ (.cons ⟨rfl, ?_⟩ .nil))
    · exact isText_accessor property.getter
    · exact isText_accessor property.setter

/-- A description is printed as the text of its tree. -/
theorem isText_tree (description : Description) : IsText description.text description.tree := by
  apply Json.isText_object
  refine .cons ⟨rfl, Json.isText_quote _⟩ (.cons ⟨rfl, ?_⟩ (.cons ⟨rfl, ?_⟩ (.cons ⟨rfl, ?_⟩ .nil)))
  · exact Json.isText_option _ Json.isText_quote
  · exact Json.isText_option _ Json.isText_quote
  · exact Json.isText_list fun member _ ↦ isText_member member

/-- A list is read back if its items are. -/
theorem decodeList_map {α : Type} {decode : Tree → Decoded α} {tree : α → Tree} (values : List α)
    (hdecode : ∀ value ∈ values, decode (tree value) = .ok value) :
    decodeList decode (.array (values.map tree) true) = .ok values := by
  have hmap : (values.map tree).mapM decode = .ok values := by
    induction values with
    | nil => rfl
    | cons value values ih =>
      rw [List.map_cons, List.mapM_cons, hdecode value List.mem_cons_self,
        ih fun other hother ↦ hdecode other (List.mem_cons_of_mem _ hother)]
      rfl
  rw [decodeList, hmap]
  rfl

theorem decodeList_strings (texts : List String) :
    decodeList decodeString (stringsTree texts) = .ok texts :=
  decodeList_map texts fun _ _ ↦ rfl

theorem decodeAccessor_tree (accessor : Option (List String)) :
    decodeAccessor (accessorTree accessor) = .ok accessor := by
  cases accessor with
  | none => rfl
  | some texts =>
    have htexts : decodeAccessor (stringsTree texts) = some <$> decodeList decodeString
      (stringsTree texts) := rfl
    exact htexts.trans (congrArg (some <$> ·) (decodeList_strings texts))

theorem decodeParameter_tree (parameter : Parameter) :
    decodeParameter (parameterTree parameter) = .ok parameter := rfl

theorem decodeOptional_tree (text : Option String) :
    decodeOptional decodeString (text.elim .null stringTree) = .ok text := by
  cases text with
  | none => rfl
  | some text => rfl

/-- The levels that a value may have are those of its items. -/
theorem areSound_map {α : Type} {levels : Nat} {tree : α → Tree} (values : List α)
    (hsound : ∀ value ∈ values, (tree value).isSound levels = true) :
    Tree.areSound levels (values.map tree) = true := by
  induction values with
  | nil => rfl
  | cons value values ih =>
    rw [List.map_cons, Tree.areSound, hsound value List.mem_cons_self, Bool.true_and]
    exact ih fun other hother ↦ hsound other (List.mem_cons_of_mem _ hother)

theorem isSound_strings (texts : List String) : (stringsTree texts).isSound memberLevels = true :=
  areSound_map texts fun _ _ ↦ rfl

theorem isSound_parameters (parameters : List Parameter) :
    (Tree.array (parameters.map parameterTree) true).isSound memberLevels = true :=
  areSound_map parameters fun _ _ ↦ rfl

theorem isSound_accessor (accessor : Option (List String)) :
    (accessorTree accessor).isSound memberLevels = true := by
  cases accessor with
  | none => rfl
  | some texts => exact isSound_strings texts

theorem addFields_kind {value : Tree} {tag : MemberTag} {rest : List (Key × Tree)}
    (htag : decodeTag value = .ok tag) :
    addFields PartialMember.add {} ((some "kind", value) :: rest) =
      addFields PartialMember.add ⟨some tag, []⟩ rest := by
  have hadd : PartialMember.add {} "kind" value = .ok ⟨some tag, []⟩ := by
    rw [PartialMember.add, htag]
    rfl
  rw [addFields, hadd]
  rfl

/-- A field of a member, other than its kind, is kept for later. -/
theorem addFields_kept {member : PartialMember} {key : String} {value : Tree}
    {rest : List (Key × Tree)} (hkey : key ≠ "kind")
    (hsound : value.isSound memberLevels = true) :
    addFields PartialMember.add member ((some key, value) :: rest) =
      addFields PartialMember.add { member with fields := (some key, value) :: member.fields }
        rest := by
  have hadd : member.add key value =
      .ok { member with fields := (some key, value) :: member.fields } := by
    rw [PartialMember.add, if_pos hsound]
    exact hkey
  rw [addFields, hadd]
  rfl

theorem decodeMemberFields_method (method : MethodDescription) :
    decodeMemberFields .method [(some "name", stringTree method.name),
      (some "return_type", stringTree method.returnType),
      (some "parameters", .array (method.parameters.map parameterTree) true),
      (some "clauses", stringsTree method.clauses)] = .ok (.method method) := by
  have hparameters := decodeList_map method.parameters fun parameter _ ↦
    decodeParameter_tree parameter
  have hclauses := decodeList_strings method.clauses
  simp only [decodeMemberFields, addFields, PartialMethod.add, hparameters, hclauses]
  rfl

theorem decodeMemberFields_property (property : PropertyDescription) :
    decodeMemberFields .property [(some "name", stringTree property.name),
      (some "type", stringTree property.type), (some "getter", accessorTree property.getter),
      (some "setter", accessorTree property.setter)] = .ok (.property property) := by
  simp only [decodeMemberFields, addFields, PartialProperty.add, decodeAccessor_tree]
  rfl

theorem decodeMember_tree (member : MemberDescription) :
    decodeMember (memberTree member) = .ok member := by
  cases member with
  | method method =>
    have htag : decodeTag (stringTree "method") = .ok .method := rfl
    -- the other fields are put by in reverse order, and only then looked at
    rw [memberTree, decodeMember, addFields_kind htag, addFields_kept (by decide) rfl,
      addFields_kept (by decide) rfl, addFields_kept (by decide) (isSound_parameters _),
      addFields_kept (by decide) (isSound_strings _)]
    exact decodeMemberFields_method method
  | property property =>
    have htag : decodeTag (stringTree "property") = .ok .property := rfl
    rw [memberTree, decodeMember, addFields_kind htag, addFields_kept (by decide) rfl,
      addFields_kept (by decide) rfl, addFields_kept (by decide) (isSound_accessor _),
      addFields_kept (by decide) (isSound_accessor _)]
    exact decodeMemberFields_property property

/-- A description is read back from its tree. -/
theorem decode_tree (description : Description) : decode description.tree = .ok description := by
  have hmembers := decodeList_map description.members fun member _ ↦ decodeMember_tree member
  simp only [decode, tree, addFields, PartialDescription.add, decodeOptional_tree, hmembers]
  rfl

/-- A description that is printed and read again is the same. -/
theorem read_text (description : Description) : read description.text = .ok description := by
  rw [read, (isText_tree description).read]
  simp only [decode_tree]
  rfl

/-- A description is read back from its text as it is, and no other description has that text. -/
theorem read_text_and_text_inj (description : Description) :
    read description.text = .ok description ∧
      ∀ other : Description, other.text = description.text ↔ other = description := by
  refine ⟨read_text description, fun other ↦ ⟨fun htext ↦ ?_, congrArg text⟩⟩
  have hread : (Except.ok other : Decoded Description) = .ok description :=
    calc Except.ok other
      _ = read other.text := (read_text other).symm
      _ = read description.text := by rw [htext]
      _ = .ok description := read_text description
  exact Except.ok.inj hread

end GuardedProxy.Description

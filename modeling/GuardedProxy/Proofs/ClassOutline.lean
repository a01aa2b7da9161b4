import GuardedProxy.Proofs.BodyAccess
import GuardedProxy.Proofs.ClassContent
import Mathlib.Data.List.Forall2

/-!
# The proxy and the stub have the same outline

Both classes of an interface have its members in the same order and at the same depth, each under
the same header. A body of the stub consists of its clauses, and of the return of a default value
exactly where the body of the proxy ends in a return. The two decide on this separately: the proxy
by the kind of the member, the stub by the text of the type alone. So they agree only if the types
of properties are types: a property whose type is blank has a getter that returns in the proxy and
not in the stub.
-/

namespace GuardedProxy

open ClassWriter

namespace Description

/-- The depth of the members of a class. -/
def memberDepth (description : Description) : Nat :=
  match description.namespaceName with
  | some _ => 2
  | none => 1

/-- The lines of a class up to its first item. -/
def frontLines (description : Description) (header : String) : List String :=
  match description.namespaceName with
  | some name => ["namespace " ++ name, "\x7b", indentation 1 ++ header, indentation 1 ++ "\x7b"]
  | none => [header, "\x7b"]

/-- The lines of a class behind its last item. -/
def backLines (description : Description) : List String :=
  match description.namespaceName with
  | some _ => [indentation 1 ++ "\x7d", "\x7d"]
  | none => ["\x7d"]

/-- The text of a class is its front, its members one behind the other and its back. -/
theorem text_enclosed (description : Description) (header : String) (content : List ClassItem) :
    ClassItem.text 0 [description.enclosed (.block header content)] =
      ClassItem.joined (description.frontLines header ++
        ClassItem.allLines description.memberDepth content ++ description.backLines) := by
  have hzero : indentation 0 = "" := rfl
  unfold enclosed frontLines memberDepth backLines
  cases description.namespaceName with
  | none => simp [ClassItem.text, ClassItem.allLines, ClassItem.lines, hzero]
  | some name => simp [ClassItem.text, ClassItem.allLines, ClassItem.lines, hzero]

def proxyHeader (description : Description) : String :=
  "public sealed class " ++
    OutputName.proxyClass description.interfaceName description.contractClass ++ " : " ++
    description.interfaceName

def stubHeader (description : Description) : String :=
  "internal abstract class " ++
    OutputName.contractClass description.interfaceName description.contractClass ++ " : " ++
    description.interfaceName

end Description

/-- Whether the last statement of a body is a return. -/
def MemberBody.endsInReturn (body : MemberBody) : Bool :=
  match body.statements.getLast? with
  | some (.giveBack _) => true
  | _ => false

/-- The body of a member ends in a return if and only if the member hands a value back. -/
theorem BodyPart.endsInReturn_of_assembled {naming : NamingScheme} {part : BodyPart}
    {body : MemberBody} (hassembled : part.assembled naming = .ok body) :
    body.endsInReturn = part.member.returnsValue := by
  cases htarget : part.member.target with
  | none =>
    rw [assembled, MemberBody.assemble, htarget] at hassembled
    exact absurd hassembled (by simp)
  | some target =>
    rw [assembled, MemberBody.value_assemble naming _ htarget] at hassembled
    rw [← Except.ok.inj hassembled, MemberBody.endsInReturn]
    have hreturn := part.member.toList_giveBack naming
    cases hvalue : part.member.returnsValue with
    | true =>
      rw [hvalue, if_pos rfl] at hreturn
      rw [MemberBody.layout, hreturn, ← List.append_assoc, ← List.cons_append, ← List.append_assoc,
        List.getLast?_concat]
    | false =>
      split
      · rename_i name hlast
        -- a return would need a result to hand back
        rw [MemberBody.mem_layout_giveBack_iff.mp (List.mem_of_getLast? hlast), hvalue] at hreturn
        exact absurd hreturn (by simp)
      · rfl

/-! ## Members under the same headers -/

/-- The two blocks of a method or accessor. The stub returns a default value behind its clauses if
the proxy ends in a return, and otherwise has its clauses alone. -/
def SameBody (naming : NamingScheme) (type : String) (part : BodyPart)
    (blocks : ClassItem × ClassItem) : Prop :=
  ∃ body, part.assembled naming = .ok body ∧
    blocks.1 = .block part.header (body.statements.map Statement.item) ∧
    blocks.2 = .block part.header (clauseItems part.clauses ++
      if body.endsInReturn then [.line ("return default(" ++ Text.trimmed type ++ ");")] else [])

/-- The two blocks of a member. -/
def SameMember (naming : NamingScheme) : MemberDescription → ClassItem × ClassItem → Prop
  | .method described, blocks =>
    SameBody naming described.returnType (described.part naming) blocks
  | .property described, blocks =>
    ∃ accessors : List (ClassItem × ClassItem),
      blocks.1 = .block (propertyHeader described) (accessors.map Prod.fst) ∧
      blocks.2 = .block (propertyHeader described) (accessors.map Prod.snd) ∧
      List.Forall₂ (SameBody naming described.type) (described.parts naming) accessors

/-- The text names a type, and is not a way to say that there is none. -/
def IsType (type : String) : Prop := Text.trimmed type ≠ "" ∧ Text.trimmed type ≠ "void"

instance (type : String) : Decidable (IsType type) :=
  inferInstanceAs (Decidable (Text.trimmed type ≠ "" ∧ Text.trimmed type ≠ "void"))

/-- The member is not a property without a type. -/
def MemberDescription.IsTyped : MemberDescription → Prop
  | .method _ => True
  | .property described => IsType described.type

instance : DecidablePred MemberDescription.IsTyped
  | .method _ => isTrue trivial
  | .property described => inferInstanceAs (Decidable (IsType described.type))

/-- A type other than void is taken without the blanks around it. -/
theorem ReturnType.parse_of_isType {type : String} (htype : IsType type) :
    parse type = .value (Text.trimmed type) := by
  dsimp only [parse]
  exact if_neg (not_or.mpr htype)

/-- The two classes have the same clauses for a body under the same header. -/
theorem sameBody_stubItem {naming : NamingScheme} {type : String} {returns : ReturnType}
    {part : BodyPart} (hassembled : part.assembled naming = .ok (part.body naming))
    (hreturns : returns.stubItems =
      if part.member.returnsValue then [.line ("return default(" ++ Text.trimmed type ++ ");")]
      else []) :
    SameBody naming type part (part.item naming, stubItem part.header returns part.clauses) := by
  refine ⟨part.body naming, hassembled, rfl, ?_⟩
  rw [BodyPart.endsInReturn_of_assembled hassembled, ← hreturns]
  rfl

/-- A method returns in the stub what its type says, and so it does in the proxy. -/
theorem stubItems_method (naming : NamingScheme) (method : MethodDescription) :
    (ReturnType.parse method.returnType).stubItems =
      if (method.member naming).returnsValue then
        [.line ("return default(" ++ Text.trimmed method.returnType ++ ");")]
      else [] := by
  have hvalue : (method.member naming).returnsValue =
      !(ReturnType.parse method.returnType).isVoid := by
    unfold Member.returnsValue MethodDescription.member
    cases ReturnType.parse method.returnType with
    | void => rfl
    | value type => rfl
  rw [hvalue]
  by_cases htype : IsType method.returnType
  · rw [ReturnType.parse_of_isType htype]
    rfl
  · have hvoid : ReturnType.parse method.returnType = .void :=
      if_pos (Classical.not_not.mp fun hnot ↦ htype (not_or.mp hnot))
    rw [hvoid]
    rfl

/-- An accessor is in both classes or in none. -/
theorem exists_sameAccessor {naming : NamingScheme} {type header : String} {member : Member}
    {returns : ReturnType} {accessor : Option (List String)}
    (hassembled : ∀ part ∈ accessor.map fun clauses ↦ BodyPart.mk header member clauses,
      part.assembled naming = .ok (part.body naming))
    (hreturns : returns.stubItems =
      if member.returnsValue then [.line ("return default(" ++ Text.trimmed type ++ ");")]
      else []) :
    let parts := (accessor.map fun clauses ↦ BodyPart.mk header member clauses).toList
    ∃ blocks : List (ClassItem × ClassItem),
      parts.map (BodyPart.item naming) = blocks.map Prod.fst ∧
      (accessor.map (stubItem header returns)).toList = blocks.map Prod.snd ∧
      List.Forall₂ (SameBody naming type) parts blocks := by
  cases accessor with
  | none => exact ⟨[], rfl, rfl, .nil⟩
  | some clauses =>
    let part := BodyPart.mk header member clauses
    have hsame := sameBody_stubItem (hassembled part rfl) hreturns
    exact ⟨[(part.item naming, stubItem header returns clauses)], rfl, rfl, .cons hsame .nil⟩

/-- The items of a member agree, if a property has a type. -/
theorem sameMember_items {naming : NamingScheme} {member : MemberDescription}
    (htyped : member.IsTyped)
    (hassembled : ∀ part ∈ member.parts naming, part.assembled naming = .ok (part.body naming)) :
    SameMember naming member (member.proxyItem naming, member.stubItem) := by
  cases member with
  | method described =>
    exact sameBody_stubItem (hassembled _ List.mem_cons_self) (stubItems_method naming described)
  | property described =>
    have hvalue : (ReturnType.parse described.type).stubItems =
        [.line ("return default(" ++ Text.trimmed described.type ++ ");")] := by
      rw [ReturnType.parse_of_isType htyped]
      rfl
    obtain ⟨gets, hgetItems, hgetStubs, hget⟩ := exists_sameAccessor
      (fun part hpart ↦ hassembled part (List.mem_append_left _ (Option.mem_toList.mpr hpart)))
      hvalue
    obtain ⟨sets, hsetItems, hsetStubs, hset⟩ := exists_sameAccessor
      (fun part hpart ↦ hassembled part (List.mem_append_right _ (Option.mem_toList.mpr hpart)))
      (rfl : ReturnType.void.stubItems = [])
    refine ⟨gets ++ sets, ?_, ?_, List.rel_append hget hset⟩
    · rw [List.map_append, ← hgetItems, ← hsetItems, ← List.map_append]
      rfl
    · rw [List.map_append, ← hgetStubs, ← hsetStubs]
      rfl

/-- The two texts are those of a proxy and of a stub whose members stand at the same depth, in the
order of the description, and agree one by one. -/
def Description.SameOutline (naming : NamingScheme) (description : Description)
    (proxy stub : String) : Prop :=
  let className := OutputName.proxyClass description.interfaceName description.contractClass
  ∃ members : List (ClassItem × ClassItem),
    proxy = ClassItem.joined (description.frontLines description.proxyHeader ++
      ClassItem.allLines description.memberDepth
        (constructorItems naming className description.interfaceName ++
          (members.map Prod.fst).flatMap fun member ↦ [.gap, member]) ++ description.backLines) ∧
    stub = ClassItem.joined (description.frontLines description.stubHeader ++
      ClassItem.allLines description.memberDepth ((members.map Prod.snd).intersperse .gap) ++
        description.backLines) ∧
    List.Forall₂ (SameMember naming) description.members members

/-- If the proxy could be written, there is a target to call or nothing to call it for. -/
theorem assembled_of_outcome_proxyText {description : Description} {writer after : ClassWriter}
    {text : String} (htext : outcome (proxyText description) writer = (.ok text, after)) :
    ∀ part ∈ description.parts writer.naming,
      part.assembled writer.naming = .ok (part.body writer.naming) := by
  intro part hpart
  cases hblank : Text.blankText writer.naming.delegateField with
  | false => exact part.assembled_of_target (Description.delegate_of_mem_parts hpart) hblank
  | true =>
    cases hparts : description.parts writer.naming with
    | nil => exact absurd (hparts ▸ hpart) List.not_mem_nil
    | cons first rest =>
      have hmem : first ∈ description.parts writer.naming := hparts ▸ List.mem_cons_self
      have hfirst := first.assembled_of_blank (Description.delegate_of_mem_parts hmem) hblank
      obtain ⟨_, hfails⟩ := failsWith_textOf (fails_proxyClass hparts hfirst) writer rfl
      exact absurd (htext.symm.trans hfails) (by simp)

/-- The stub has the outline of the proxy, if no property lacks a type. -/
theorem sameOutline_classTexts {description : Description} {writer after : ClassWriter}
    {proxy : String} (htyped : ∀ member ∈ description.members, member.IsTyped)
    (hproxy : outcome (proxyText description) writer = (.ok proxy, after)) :
    ∃ stub, (∀ other, (outcome (contractText description) other).1 = .ok stub) ∧
      description.SameOutline writer.naming proxy stub := by
  have hassembled := assembled_of_outcome_proxyText hproxy
  have htext : proxy = ClassItem.text 0 [description.proxyItem writer.naming] := by
    rw [outcome_proxyText hassembled rfl] at hproxy
    exact (Except.ok.inj (Prod.mk.inj hproxy).1).symm
  let items := description.members.map fun member ↦
    (member.proxyItem writer.naming, member.stubItem)
  have hproxyItems : items.map Prod.fst =
      description.members.map (MemberDescription.proxyItem writer.naming) := List.map_map
  have hstubItems : items.map Prod.snd = description.members.map MemberDescription.stubItem :=
    List.map_map
  refine ⟨ClassItem.text 0 [description.stubItem], ?_, items, ?_, ?_, ?_⟩
  · intro other
    rw [outcome_contractText]
  · rw [htext, hproxyItems, ← Description.text_enclosed]
    rfl
  · rw [hstubItems, ← Description.text_enclosed]
    rfl
  · rw [List.forall₂_map_right_iff, List.forall₂_same]
    intro member hmember
    refine sameMember_items (htyped member hmember) fun part hpart ↦ ?_
    exact hassembled part (List.mem_flatMap.mpr ⟨member, hmember, hpart⟩)

/-- A method that returns nothing and a property with both accessors, its type written with blanks
around it. -/
theorem sameOutline_classTexts_account :
    let description : Description := ⟨"IAccount", none, some "Bank",
      [.method ⟨"Deposit", "void", [⟨"amount", "int"⟩], ["Contract.Requires(amount > 0);"]⟩,
      .property ⟨"Balance", " int ", some ["Contract.Ensures(Contract.Result<int>() >= 0)"],
        some []⟩]⟩
    let writer : ClassWriter := ⟨{}, 0, "", []⟩
    (∀ member ∈ description.members, member.IsTyped) ∧
      ∃ proxy after, outcome (proxyText description) writer = (.ok proxy, after) ∧
        ∃ stub, (∀ other, (outcome (contractText description) other).1 = .ok stub) ∧
          description.SameOutline writer.naming proxy stub := by
  intro description writer
  have htyped : ∀ member ∈ description.members, member.IsTyped := by decide
  have hassembled : ∀ part ∈ description.parts writer.naming,
      part.assembled writer.naming = .ok (part.body writer.naming) := fun part hpart ↦
    part.assembled_of_target (Description.delegate_of_mem_parts hpart) (by decide)
  have hproxy := outcome_proxyText hassembled (rfl : writer.naming = writer.naming)
  exact ⟨htyped, _, _, hproxy, sameOutline_classTexts htyped hproxy⟩

/-- A property with a blank type returns from its getter in the proxy and not in the stub. -/
theorem not_sameOutline_blank_type :
    let description : Description :=
      ⟨"IBox", none, none, [.property ⟨"Value", "", some [], none⟩]⟩
    let writer : ClassWriter := ⟨{}, 0, "", []⟩
    (∀ described, .property described ∈ description.members →
        Text.trimmed described.type ≠ "void") ∧
      ∃ proxy after stub, outcome (proxyText description) writer = (.ok proxy, after) ∧
        (outcome (contractText description) writer).1 = .ok stub ∧
        ¬description.SameOutline writer.naming proxy stub := by
  intro description writer
  have hassembled : ∀ part ∈ description.parts writer.naming,
      part.assembled writer.naming = .ok (part.body writer.naming) := fun part hpart ↦
    part.assembled_of_target (Description.delegate_of_mem_parts hpart) (by decide)
  have hproxy := outcome_proxyText hassembled (rfl : writer.naming = writer.naming)
  refine ⟨?_, _, _, ClassItem.text 0 [description.stubItem], hproxy, ?_, ?_⟩
  · intro described hdescribed
    obtain rfl := MemberDescription.property.inj (List.mem_singleton.mp hdescribed)
    decide
  · rw [outcome_contractText]
  · rintro ⟨members, -, hstub, hmembers⟩
    cases hmembers with
    | cons hmember hrest =>
      cases hrest
      obtain ⟨accessors, -, hblock, haccessors⟩ := hmember
      cases haccessors with
      | cons hbody hnone =>
        cases hnone
        obtain ⟨body, hbody, -, hget⟩ := hbody
        have hreturns : body.endsInReturn = true := BodyPart.endsInReturn_of_assembled hbody
        -- so the stub would have to return a default value
        simp only [List.map_cons, List.map_nil, hblock, hget, hreturns] at hstub
        exact absurd hstub (by decide)

end GuardedProxy

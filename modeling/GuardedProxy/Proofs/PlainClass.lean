import GuardedProxy.Compilation
import GuardedProxy.Proofs.ClassContent
import GuardedProxy.Proofs.ClassNesting
import GuardedProxy.Proofs.ClauseSpelling

/-!
# The classes of an interface are well nested

All lines of the proxy and of the stub are plain, if no string of the description or of the naming
has a line feed and the delegate field does not begin with a blank. Most lines begin with a word of
their own. The others are closed by a semicolon, and begin with the delegate field or with a clause
that has been trimmed.
-/

namespace GuardedProxy

open Text (OneLine oneLine_append)
open Nesting (Shows)

def Parameter.strings (parameter : Parameter) : List String := [parameter.name, parameter.type]

def MethodDescription.strings (method : MethodDescription) : List String :=
  method.name :: method.returnType ::
    (method.parameters.flatMap Parameter.strings ++ method.clauses)

def PropertyDescription.strings (property : PropertyDescription) : List String :=
  property.name :: property.type :: (property.getter.getD [] ++ property.setter.getD [])

theorem MethodDescription.parameter_subset {method : MethodDescription} {parameter : Parameter}
    (hparameter : parameter ∈ method.parameters) : parameter.strings ⊆ method.strings := by
  intro text htext
  simp only [strings, List.mem_cons, List.mem_append, List.mem_flatMap]
  exact Or.inr (Or.inr (Or.inl ⟨parameter, hparameter, htext⟩))

theorem MethodDescription.clauses_subset (method : MethodDescription) :
    method.clauses ⊆ method.strings := by
  intro clause hclause
  simp [strings, hclause]

theorem PropertyDescription.clauses_subset {property : PropertyDescription} {clauses : List String}
    (hclauses : property.getter = some clauses ∨ property.setter = some clauses) :
    clauses ⊆ property.strings := by
  intro clause hclause
  rcases hclauses with hget | hset
  · simp [strings, hget, hclause]
  · simp [strings, hset, hclause]

def MemberDescription.strings : MemberDescription → List String
  | .method described => described.strings
  | .property described => described.strings

def Description.strings (description : Description) : List String :=
  description.interfaceName :: (description.contractClass.toList ++
    description.namespaceName.toList ++ description.members.flatMap MemberDescription.strings)

namespace ClassItem

/-- Whether the text begins with a character that is neither blank nor a brace. -/
def beginsPlain (text : String) : Bool :=
  text.toList.head?.any fun c ↦ !Text.isBlank c && c != '{' && c != '}'

theorem beginsPlain_append {front : String} (hfront : beginsPlain front = true) (back : String) :
    beginsPlain (front ++ back) = true := by
  unfold beginsPlain at hfront ⊢
  cases hlist : front.toList with
  | nil =>
    rw [hlist] at hfront
    exact absurd hfront (by decide)
  | cons c rest =>
    rw [hlist] at hfront
    rw [String.toList_append, hlist]
    exact hfront

/-- The first character tells a line from a brace and from a blank one. -/
theorem plainText_of_beginsPlain {text : String} (htext : beginsPlain text = true)
    (honeLine : OneLine text) : PlainText text := by
  unfold beginsPlain at htext
  cases hlist : text.toList with
  | nil =>
    rw [hlist] at htext
    exact absurd htext (by decide)
  | cons c rest =>
    simp only [hlist, List.head?_cons, Option.any_some, Bool.and_eq_true, Bool.not_eq_true',
      bne_iff_ne] at htext
    refine ⟨honeLine, ⟨c, rest, hlist, htext.1.1⟩, ?_, ?_⟩
    · rw [hlist]
      exact fun h ↦ htext.1.2 (List.cons.inj h).1
    · rw [hlist]
      exact fun h ↦ htext.2 (List.cons.inj h).1

theorem plainText_append {front back : String} (hfront : beginsPlain front = true)
    (honeLine : OneLine (front ++ back)) : PlainText (front ++ back) :=
  plainText_of_beginsPlain (beginsPlain_append hfront back) honeLine

/-- A semicolon tells a line from a brace. -/
theorem plainText_semicolon {front : String} (hshows : Shows (front ++ ";"))
    (hfront : OneLine front) : PlainText (front ++ ";") := by
  have hlast : ∀ c, c ≠ ';' → (front ++ ";").toList ≠ [c] := by
    intro c hc htext
    have hend : (front ++ ";").toList.getLast? = some ';' := by
      rw [String.toList_append]
      exact List.getLast?_concat
    rw [htext] at hend
    exact hc (Option.some.inj hend)
  exact ⟨oneLine_append.mpr ⟨hfront, by decide⟩, hshows, hlast _ (by decide), hlast _ (by decide)⟩

end ClassItem

open ClassItem (PlainText IsPlain plainText_append plainText_of_beginsPlain plainText_semicolon)

/-- A statement on one line is a plain item, if a call without a result shows something. -/
theorem Statement.isPlain_item {statement : Statement} (honeLine : OneLine statement.text)
    (hshows : ∀ expression, statement = .call expression none → Shows expression) :
    statement.item.IsPlain := by
  cases statement with
  | keep snapshot =>
    apply IsPlain.line
    simp only [text, String.append_assoc] at honeLine ⊢
    exact plainText_append (by decide) honeLine
  | check guard =>
    simp only [text, oneLine_append] at honeLine
    obtain ⟨⟨htest, -⟩, hthrowing⟩ := honeLine
    have hline : PlainText guard.throwing := by
      simp only [Guard.throwing, String.append_assoc] at hthrowing ⊢
      exact plainText_append (by decide) hthrowing
    refine .block ?_ fun item hitem ↦ List.mem_singleton.mp hitem ▸ .line hline
    simp only [Guard.test, String.append_assoc] at htest ⊢
    exact plainText_append (by decide) htest
  | call expression result =>
    apply IsPlain.line
    cases result with
    | none =>
      rw [text, oneLine_append] at honeLine
      exact plainText_semicolon ((hshows expression rfl).append ";") honeLine.1
    | some name =>
      simp only [text, String.append_assoc] at honeLine ⊢
      exact plainText_append (by decide) honeLine
  | giveBack name =>
    apply IsPlain.line
    simp only [text, String.append_assoc] at honeLine ⊢
    exact plainText_append (by decide) honeLine

theorem Text.blankText_of_shows {text : String} (hshows : Shows text) :
    blankText text = false := by
  obtain ⟨c, rest, hlist, hblank⟩ := hshows
  rw [blankText, hlist, List.all_cons, hblank, Bool.false_and]

/-- Trimming keeps a first character that is not blank. -/
theorem Text.shows_trimmed {text : String} (hshows : Shows text) : Shows (trimmed text) := by
  obtain ⟨c, rest, hlist, hblank⟩ := hshows
  refine ⟨c, trimEnd rest, ?_, hblank⟩
  rw [trimmed, String.toList_ofList, hlist, trim, trimStart,
    List.dropWhile_cons_of_neg (by simp [hblank]), trimEnd_cons hblank]

/-- A call shows its target. -/
theorem Member.shows_delegatedCall {target : String} (htarget : Shows target) (member : Member) :
    Shows (member.delegatedCall target) := by
  have hcalled : Shows (member.onTarget target) := (htarget.append ".").append member.name
  unfold delegatedCall
  cases member.shape with
  | method returns => exact ((hcalled.append "(").append _).append ")"
  | getter type => exact hcalled
  | setter => exact hcalled.append " = value"

/-- A body is plain under a plain header. -/
theorem BodyPart.isPlain_item {naming : NamingScheme} {part : BodyPart}
    (hnaming : ∀ text ∈ naming.strings, OneLine text) (hfield : Shows naming.delegateField)
    (hheader : PlainText part.header)
    (hdelegate : part.member.delegate = some naming.delegateField)
    (hmember : ∀ text ∈ part.member.strings, OneLine text)
    (hclauses : ∀ clause ∈ part.clauses, OneLine clause) : (part.item naming).IsPlain := by
  have htarget := Member.target_of_delegate hdelegate (Text.blankText_of_shows hfield)
  have hassembled := part.assembled_of_target hdelegate (Text.blankText_of_shows hfield)
  have hsources : ∀ clause ∈ Clause.ofStatements part.clauses, OneLine clause.source := by
    intro clause hclause
    obtain ⟨numbered, hnumbered, rfl⟩ := List.mem_map.mp hclause
    exact hclauses _ (List.fst_mem_of_mem_zipIdx hnumbered)
  have honeLine := MemberBody.oneLine_statements hmember hnaming hsources hassembled
  refine .block hheader fun item hitem ↦ ?_
  obtain ⟨statement, hstatement, rfl⟩ := List.mem_map.mp hitem
  refine statement.isPlain_item (honeLine statement hstatement) ?_
  rintro expression rfl
  rw [BodyPart.assembled, MemberBody.value_assemble naming _ htarget] at hassembled
  rw [← Except.ok.inj hassembled] at hstatement
  rw [(MemberBody.mem_layout_call_iff.mp hstatement).1]
  exact part.member.shows_delegatedCall (Text.shows_trimmed hfield)

/-! ## Members -/

theorem oneLine_parse {text : String} (htext : OneLine text) :
    OneLine (ReturnType.parse text).text := by
  dsimp only [ReturnType.parse]
  split
  · decide
  · exact htext.trimmed

section Method

variable {method : MethodDescription} (hmethod : ∀ text ∈ method.strings, OneLine text)
include hmethod

theorem plainText_methodHeader : PlainText (ClassWriter.methodHeader method) := by
  have hname : OneLine method.name := hmethod _ (by simp [MethodDescription.strings])
  have hreturns : OneLine (ReturnType.parse method.returnType).text :=
    oneLine_parse (hmethod _ (by simp [MethodDescription.strings]))
  have hparameters : OneLine (ClassWriter.parameterList method.parameters) := by
    apply Text.oneLine_intercalate (by decide)
    intro text htext
    obtain ⟨parameter, hparameter, rfl⟩ := List.mem_map.mp htext
    have hstrings : ∀ text ∈ parameter.strings, OneLine text := fun text hmem ↦
      hmethod text (MethodDescription.parameter_subset hparameter hmem)
    simp only [oneLine_append, hstrings parameter.name (by simp [Parameter.strings]),
      hstrings parameter.type (by simp [Parameter.strings])]
    decide
  simp only [ClassWriter.methodHeader, String.append_assoc]
  apply plainText_append (by decide)
  simp only [oneLine_append, hname, hreturns, hparameters]
  decide

end Method

theorem plainText_propertyHeader {property : PropertyDescription}
    (hproperty : ∀ text ∈ property.strings, OneLine text) :
    PlainText (ClassWriter.propertyHeader property) := by
  have hname : OneLine property.name := hproperty _ (by simp [PropertyDescription.strings])
  have htype : OneLine property.type := hproperty _ (by simp [PropertyDescription.strings])
  simp only [ClassWriter.propertyHeader, String.append_assoc]
  apply plainText_append (by decide)
  simp only [oneLine_append, hname, htype]
  decide

theorem plainText_get : PlainText "get" := plainText_of_beginsPlain (by decide) (by decide)

theorem plainText_set : PlainText "set" := plainText_of_beginsPlain (by decide) (by decide)

/-- A clause in a stub begins to show at once, be it only with its semicolon. -/
theorem Clause.shows_text (clause : Clause) : Shows (clause.text ++ ";") := by
  rcases Text.trim_cases clause.text.toList with hnil | ⟨c, rest, hblank, hcons⟩
  · rw [clause.trim_text] at hnil
    exact ⟨';', [], by rw [String.toList_append, hnil]; rfl, by decide⟩
  · rw [clause.trim_text] at hcons
    exact Shows.append ⟨c, rest, hcons, hblank⟩ ";"

/-- A member of the contract class is plain if its clauses are on one line. -/
theorem isPlain_stubItem {header : String} {returns : ReturnType} {clauses : List String}
    (hheader : PlainText header) (hreturns : OneLine returns.text)
    (hclauses : ∀ clause ∈ clauses, OneLine clause) :
    (stubItem header returns clauses).IsPlain := by
  refine .block hheader fun item hitem ↦ ?_
  rcases List.mem_append.mp hitem with hitem | hitem
  · cases clauses with
    | nil =>
      rw [List.mem_singleton.mp hitem]
      exact .line (plainText_of_beginsPlain (by decide) (by decide))
    | cons first rest =>
      obtain ⟨clause, hclause, rfl⟩ := List.mem_map.mp hitem
      have htext : OneLine (Clause.mk clause 0).text :=
        (hclauses clause hclause).of_subset (Clause.mk clause 0).text_subset
      exact .line (plainText_semicolon (Clause.mk clause 0).shows_text htext)
  · cases returns with
    | void => exact absurd hitem List.not_mem_nil
    | value type =>
      rw [List.mem_singleton.mp hitem]
      apply IsPlain.line
      have htype : OneLine type := hreturns
      simp only [String.append_assoc]
      apply plainText_append (by decide)
      simp only [oneLine_append, htype]
      decide

theorem Member.oneLine_strings {delegate : String} (member : Member)
    (hname : OneLine member.name)
    (hparameters : ∀ parameter ∈ member.parameters, OneLine parameter.name)
    (hdelegate : OneLine delegate) (hmember : member.delegate = some delegate) :
    ∀ text ∈ member.strings, OneLine text := by
  intro text htext
  rw [strings, List.mem_cons, List.mem_append, hmember, Option.toList_some,
    List.mem_singleton] at htext
  rcases htext with rfl | htext | rfl
  · exact hname
  · obtain ⟨parameter, hparameter, rfl⟩ := List.mem_map.mp htext
    exact hparameters parameter hparameter
  · exact hdelegate

section Member

variable {naming : NamingScheme} {member : MemberDescription}
  (hmember : ∀ text ∈ member.strings, OneLine text)
include hmember

theorem MemberDescription.isPlain_stubItem : member.stubItem.IsPlain := by
  cases member with
  | method described =>
    have hreturns := oneLine_parse (hmember described.returnType (by simp [strings,
      MethodDescription.strings]))
    refine GuardedProxy.isPlain_stubItem (plainText_methodHeader hmember) hreturns ?_
    exact fun clause hclause ↦ hmember clause (described.clauses_subset hclause)
  | property described =>
    have htype := oneLine_parse (hmember described.type (by simp [strings,
      PropertyDescription.strings]))
    refine .block (plainText_propertyHeader hmember) fun item hitem ↦ ?_
    rw [List.mem_append, Option.mem_toList, Option.mem_toList, Option.map_eq_some_iff,
      Option.map_eq_some_iff] at hitem
    rcases hitem with ⟨clauses, hget, rfl⟩ | ⟨clauses, hset, rfl⟩
    · refine GuardedProxy.isPlain_stubItem plainText_get htype fun clause hclause ↦ ?_
      exact hmember clause (PropertyDescription.clauses_subset (Or.inl hget) hclause)
    · refine GuardedProxy.isPlain_stubItem plainText_set (by decide) fun clause hclause ↦ ?_
      exact hmember clause (PropertyDescription.clauses_subset (Or.inr hset) hclause)

variable (hnaming : ∀ text ∈ naming.strings, OneLine text) (hfield : Shows naming.delegateField)
include hnaming hfield

theorem MemberDescription.isPlain_part {part : BodyPart} (hpart : part ∈ member.parts naming) :
    (part.item naming).IsPlain := by
  have hdelegate := (name_and_delegate_of_mem_parts hpart).2
  have hdelegateLine := hnaming naming.delegateField List.mem_cons_self
  cases member with
  | method described =>
    have hname : OneLine described.name := hmember _ List.mem_cons_self
    have hclauses : ∀ clause ∈ described.clauses, OneLine clause := fun clause hclause ↦
      hmember clause (described.clauses_subset hclause)
    have hparameters : ∀ parameter ∈ described.parameters, OneLine parameter.name :=
      fun parameter hparameter ↦
        hmember _ (MethodDescription.parameter_subset hparameter List.mem_cons_self)
    have hstrings := (described.member naming).oneLine_strings hname hparameters
      hdelegateLine rfl
    obtain rfl := List.mem_singleton.mp hpart
    exact BodyPart.isPlain_item hnaming hfield (plainText_methodHeader hmember) hdelegate hstrings
      hclauses
  | property described =>
    have hname : OneLine described.name := hmember _ List.mem_cons_self
    have hstrings : ∀ shape, _ := fun shape ↦
      Member.oneLine_strings ⟨described.name, shape, [], some naming.delegateField⟩ hname
        (fun _ hnone ↦ absurd hnone List.not_mem_nil) hdelegateLine rfl
    rw [parts, PropertyDescription.parts, List.mem_append, Option.mem_toList, Option.mem_toList,
      PropertyDescription.getterPart, PropertyDescription.setterPart, Option.map_eq_some_iff,
      Option.map_eq_some_iff] at hpart
    rcases hpart with ⟨clauses, hget, rfl⟩ | ⟨clauses, hset, rfl⟩
    · refine BodyPart.isPlain_item hnaming hfield plainText_get hdelegate (hstrings _) ?_
      exact fun clause hclause ↦
        hmember clause (PropertyDescription.clauses_subset (Or.inl hget) hclause)
    · refine BodyPart.isPlain_item hnaming hfield plainText_set hdelegate (hstrings _) ?_
      exact fun clause hclause ↦
        hmember clause (PropertyDescription.clauses_subset (Or.inr hset) hclause)

/-- A member of one-line strings is plain in the proxy class. -/
theorem MemberDescription.isPlain_proxyItem : (member.proxyItem naming).IsPlain := by
  cases member with
  | method described => exact isPlain_part hmember hnaming hfield (List.mem_singleton.mpr rfl)
  | property described =>
    refine .block (plainText_propertyHeader hmember) fun item hitem ↦ ?_
    obtain ⟨part, hpart, rfl⟩ := List.mem_map.mp hitem
    exact isPlain_part hmember hnaming hfield hpart

end Member

/-! ## Classes -/

theorem oneLine_constructorParameter {field : String} (hfield : OneLine field) :
    OneLine (ClassWriter.constructorParameter field) := by
  unfold ClassWriter.constructorParameter
  split
  · decide
  · rename_i c cs hcs
    apply hfield.of_subset
    rw [String.toList_ofList, ← hcs]
    exact (List.dropWhile_sublist _).subset

theorem plainText_fieldAssignment {field : String} (honeLine : OneLine field)
    (hshows : Shows field) : PlainText (ClassWriter.fieldAssignment field) := by
  have hparameter := oneLine_constructorParameter honeLine
  dsimp only [ClassWriter.fieldAssignment]
  split
  -- only here does a line begin with the field itself, unless it has to be qualified
  · have hthis : Shows "this." := ⟨'t', _, rfl, by decide⟩
    apply plainText_semicolon ((((hthis.append _).append _).append _).append ";")
    simp only [oneLine_append, honeLine, hparameter]
    decide
  · rw [String.empty_append]
    apply plainText_semicolon (((hshows.append _).append _).append ";")
    simp only [oneLine_append, honeLine, hparameter]
    decide

theorem oneLine_proxyClass {interfaceName : String} {contractClass : Option String}
    (hinterface : OneLine interfaceName) (hclass : ∀ name ∈ contractClass, OneLine name) :
    OneLine (OutputName.proxyClass interfaceName contractClass) := by
  cases contractClass with
  | none => exact oneLine_append.mpr ⟨hinterface, by decide⟩
  | some name =>
    refine oneLine_append.mpr ⟨?_, by decide⟩
    unfold OutputName.beforeSuffix
    split
    · apply (hclass name rfl).of_subset
      rw [Option.getD_some, String.toList_ofList]
      exact (List.take_sublist _ _).subset
    · exact hclass name rfl

theorem oneLine_contractClass {interfaceName : String} {contractClass : Option String}
    (hinterface : OneLine interfaceName) (hclass : ∀ name ∈ contractClass, OneLine name) :
    OneLine (OutputName.contractClass interfaceName contractClass) := by
  cases contractClass with
  | none => exact oneLine_append.mpr ⟨hinterface, by decide⟩
  | some name => exact hclass name rfl

theorem plainText_classHeader {front className interfaceName : String}
    (hfront : ClassItem.beginsPlain front = true) (hwords : OneLine front)
    (hclass : OneLine className) (hinterface : OneLine interfaceName) :
    PlainText (front ++ className ++ " : " ++ interfaceName) := by
  simp only [String.append_assoc]
  apply plainText_append hfront
  simp only [oneLine_append, hwords, hclass, hinterface]
  decide

namespace Description

section Strings

variable {naming : NamingScheme} {description : Description}
  (hdescription : ∀ text ∈ description.strings, OneLine text)
include hdescription

theorem oneLine_interfaceName : OneLine description.interfaceName :=
  hdescription _ List.mem_cons_self

theorem oneLine_givenClass : ∀ name ∈ description.contractClass, OneLine name := by
  intro name hname
  have hsome : description.contractClass = some name := hname
  exact hdescription name (by simp [strings, hsome])

theorem oneLine_member {member : MemberDescription} (hmember : member ∈ description.members) :
    ∀ text ∈ member.strings, OneLine text := by
  intro text htext
  apply hdescription
  simp only [strings, List.mem_cons, List.mem_append, List.mem_flatMap]
  exact Or.inr (Or.inr ⟨member, hmember, htext⟩)

theorem isPlain_enclosed {item : ClassItem} (hitem : item.IsPlain) :
    (description.enclosed item).IsPlain := by
  unfold enclosed
  cases hname : description.namespaceName with
  | none => exact hitem
  | some name =>
    have hline : OneLine name := hdescription name (by simp [strings, hname])
    refine .block ?_ fun other hother ↦ List.mem_singleton.mp hother ▸ hitem
    exact plainText_append (by decide) (oneLine_append.mpr ⟨by decide, hline⟩)

/-- The contract class of one-line strings is plain. -/
theorem isPlain_stubItem : description.stubItem.IsPlain := by
  have hinterface := oneLine_interfaceName hdescription
  have hclass := oneLine_contractClass hinterface (oneLine_givenClass hdescription)
  have hfront : ClassItem.beginsPlain "internal abstract class " = true := by decide
  have hheader := plainText_classHeader hfront (by decide) hclass hinterface
  refine isPlain_enclosed hdescription (.block hheader fun item hitem ↦ ?_)
  rcases Lists.eq_or_mem_of_mem_intersperse hitem with rfl | hitem
  · exact .gap
  · obtain ⟨member, hmember, rfl⟩ := List.mem_map.mp hitem
    exact MemberDescription.isPlain_stubItem (oneLine_member hdescription hmember)

variable (hnaming : ∀ text ∈ naming.strings, OneLine text) (hfield : Shows naming.delegateField)
include hnaming hfield

theorem isPlain_constructorItems {className : String} (hclass : OneLine className) :
    ∀ item ∈ constructorItems naming className description.interfaceName, item.IsPlain := by
  have hinterface := oneLine_interfaceName hdescription
  have hdelegate : OneLine naming.delegateField := hnaming _ List.mem_cons_self
  have hparameter := oneLine_constructorParameter hdelegate
  have hassignment := plainText_fieldAssignment hdelegate hfield
  intro item hitem
  simp only [constructorItems, List.mem_cons, List.not_mem_nil, or_false] at hitem
  rcases hitem with rfl | rfl | rfl
  · apply ClassItem.IsPlain.line
    simp only [String.append_assoc]
    apply plainText_append (by decide)
    simp only [oneLine_append, hinterface, hdelegate]
    decide
  · exact .gap
  · refine .block ?_ fun line hline ↦ List.mem_singleton.mp hline ▸ .line hassignment
    simp only [String.append_assoc]
    apply plainText_append (by decide)
    simp only [oneLine_append, hclass, hinterface, hparameter]
    decide

/-- The proxy class of one-line strings is plain. -/
theorem isPlain_proxyItem : (description.proxyItem naming).IsPlain := by
  have hinterface := oneLine_interfaceName hdescription
  have hclass := oneLine_proxyClass hinterface (oneLine_givenClass hdescription)
  have hfront : ClassItem.beginsPlain "public sealed class " = true := by decide
  have hheader := plainText_classHeader hfront (by decide) hclass hinterface
  refine isPlain_enclosed hdescription (.block hheader fun item hitem ↦ ?_)
  rcases List.mem_append.mp hitem with hitem | hitem
  · exact isPlain_constructorItems hdescription hnaming hfield hclass item hitem
  · obtain ⟨written, hwritten, hitem⟩ := List.mem_flatMap.mp hitem
    obtain ⟨member, hmember, rfl⟩ := List.mem_map.mp hwritten
    rcases List.mem_cons.mp hitem with rfl | hitem
    · exact .gap
    · rw [List.mem_singleton.mp hitem]
      exact MemberDescription.isPlain_proxyItem (oneLine_member hdescription hmember) hnaming hfield

end Strings

end Description

namespace ClassWriter

/-- Writes the class of the given kind to a writer that may hold some text already. -/
def writeClass (kind : ClassKind) (description : Description) : WriteM Unit :=
  match kind with
  | .proxy => writeProxyClass description
  | .contract => writeContractClass description

theorem classText_eq (kind : ClassKind) (description : Description) :
    classText kind description = (do reset; writeClass kind description; takeText) := by
  cases kind with
  | proxy => rfl
  | contract => rfl

/-- Whatever it has written, the class is one plain item. -/
theorem exists_writes_class {naming : NamingScheme} {description : Description} (kind : ClassKind)
    (hdescription : ∀ text ∈ description.strings, OneLine text)
    (hnaming : ∀ text ∈ naming.strings, OneLine text) (hfield : Shows naming.delegateField) :
    ∃ item bodies, item.IsPlain ∧ Writes naming (writeClass kind description) [item] bodies := by
  cases kind with
  | proxy =>
    have hassembled : ∀ part ∈ description.parts naming,
        part.assembled naming = .ok (part.body naming) := fun part hpart ↦
      part.assembled_of_target (Description.delegate_of_mem_parts hpart)
        (Text.blankText_of_shows hfield)
    exact ⟨_, _, Description.isPlain_proxyItem hdescription hnaming hfield,
      writes_proxyClass hassembled⟩
  | contract =>
    exact ⟨_, _, Description.isPlain_stubItem hdescription, writes_contractClass description⟩

/-- The action changes the text and the depth of any writer by these moves, and by nothing else. -/
def Performs (naming : NamingScheme) (action : WriteM Unit) (moves : List Move) : Prop :=
  ∀ writer : ClassWriter, writer.naming = naming →
    ∃ bodies, outcome action writer =
      (.ok (), { moves.foldl Move.perform writer with bodies := bodies })

/-- Writing items comes to performing their moves. -/
theorem Writes.performs {naming : NamingScheme} {action : WriteM Unit} {items : List ClassItem}
    {bodies : List WrittenBody} (haction : Writes naming action items bodies) :
    Performs naming action (ClassItem.allMoves items) := by
  intro writer hnaming
  refine ⟨writer.bodies ++ bodies, ?_⟩
  rw [haction writer hnaming, ClassItem.foldl_allMoves]
  rfl

/-- The text of a class is well nested, and the writer ends at depth 0, without having been lifted
there. The moves are the same for a writer at any depth, so none of them is left out: to lift a
writer has no effect at depth 0, but at any other depth it would show. -/
theorem wellNested_classText {description : Description} {writer : ClassWriter} (kind : ClassKind)
    (hdescription : ∀ text ∈ description.strings, OneLine text)
    (hnaming : ∀ text ∈ writer.naming.strings, OneLine text)
    (hfield : Shows writer.naming.delegateField) :
    ∃ text after moves, outcome (classText kind description) writer = (.ok text, after) ∧
      Nesting.WellNested 0 (Nesting.linesOf text) ∧ after.depth = 0 ∧
      classText kind description = (do reset; writeClass kind description; takeText) ∧
      Performs writer.naming (writeClass kind description) moves ∧ Move.StayInside 0 moves := by
  obtain ⟨item, bodies, hplain, hwrites⟩ := exists_writes_class kind hdescription hnaming hfield
  have htext := outcome_textOf hwrites rfl
  rw [← classText_eq] at htext
  refine ⟨_, _, ClassItem.allMoves [item], htext, ?_, rfl, classText_eq kind description,
    hwrites.performs, ?_⟩
  · exact ClassItem.wellNested_text fun other hother ↦ List.mem_singleton.mp hother ▸ hplain
  · have hend : Move.StayInside 0 [] := rfl
    exact List.append_nil (ClassItem.allMoves [item]) ▸ ClassItem.stayInside_allMoves hend [item]

/-- A class in a namespace, with a brace in a message and a brace for a clause. -/
theorem wellNested_classText_counter :
    let description : Description := ⟨"ICounter", some "Counter_Contract", some "Demo",
      [.method ⟨"Add", "int", [⟨"step", "int"⟩], ["Contract.Requires(step > 0, \"\x7b\")",
        "Contract.Ensures(Contract.Result<int>() == Contract.OldValue(Total) + step);"]⟩,
      .property ⟨"Total", "int", some ["\x7d"], some []⟩]⟩
    let writer : ClassWriter := ⟨{}, 3, "left over", []⟩
    (∀ text ∈ description.strings, OneLine text) ∧
      (∀ text ∈ writer.naming.strings, OneLine text) ∧ Shows writer.naming.delegateField ∧
      ∀ kind, ∃ text after moves, outcome (classText kind description) writer = (.ok text, after) ∧
        Nesting.WellNested 0 (Nesting.linesOf text) ∧ after.depth = 0 ∧
        classText kind description = (do reset; writeClass kind description; takeText) ∧
        Performs writer.naming (writeClass kind description) moves ∧ Move.StayInside 0 moves := by
  intro description writer
  have hdescription : ∀ text ∈ description.strings, OneLine text := by decide
  have hnaming : ∀ text ∈ writer.naming.strings, OneLine text := by decide
  have hfield : Shows writer.naming.delegateField := ⟨'_', "contract".toList, by decide, by decide⟩
  exact ⟨hdescription, hnaming, hfield, fun kind ↦
    wellNested_classText kind hdescription hnaming hfield⟩

end ClassWriter

end GuardedProxy

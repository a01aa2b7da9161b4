import GuardedProxy.Compilation
import GuardedProxy.Proofs.ClassContent
import GuardedProxy.Proofs.DescriptionText

/-!
# Compiling a description as a whole

The rules for a description stand in one list: the rule for the interface, then those of each
member in the order of the members, a method's parameters in their order. The first broken rule
decides the failure. Where none is broken, the stub is always generated. The proxy is generated
unless its members have no target to call, and then the first member is reported. Its text and its
bodies come from the same methods and accessors, in the same order.
-/

namespace GuardedProxy

namespace Description

/-- A rule with the fault that a description has if it breaks the rule. -/
structure Rule where
  broken : Bool
  fault : Fault

def memberRules (interfaceName : String) : MemberDescription → List Rule
  | .method method =>
    ⟨Text.blankText method.name, .unnamedMethod interfaceName⟩ ::
      method.parameters.map fun parameter ↦
        ⟨Text.blankText parameter.name || Text.blankText parameter.type,
          .incompleteParameter method.name⟩
  | .property property =>
    [⟨Text.blankText property.name, .unnamedProperty interfaceName⟩,
      ⟨Text.blankText property.type, .untypedProperty property.name⟩,
      ⟨property.getter.isNone && property.setter.isNone, .noAccessor property.name⟩]

/-- All rules for a description, in the order in which they count. -/
def rules (description : Description) : List Rule :=
  ⟨Text.blankText description.interfaceName, .unnamedInterface⟩ ::
    description.members.flatMap (memberRules description.interfaceName)

/-- No rule is broken. -/
def Sound (description : Description) : Prop := ∀ rule ∈ description.rules, rule.broken = false

/-- The fault of the first broken rule. -/
def firstBroken : List Rule → Option Fault
  | [] => none
  | rule :: rest => if rule.broken then some rule.fault else firstBroken rest

/-- A rule with none broken before it is the one that is reported. -/
theorem firstBroken_append_cons {before after : List Rule} {rule : Rule}
    (hbefore : ∀ earlier ∈ before, earlier.broken = false) (hrule : rule.broken = true) :
    firstBroken (before ++ rule :: after) = some rule.fault := by
  induction before with
  | nil => exact if_pos hrule
  | cons earlier before ih =>
    have hearlier : earlier.broken = false := hbefore earlier List.mem_cons_self
    rw [List.cons_append, firstBroken, hearlier]
    exact ih fun other hother ↦ hbefore other (List.mem_cons_of_mem _ hother)

theorem firstBroken_eq_none {rules : List Rule} (hrules : ∀ rule ∈ rules, rule.broken = false) :
    firstBroken rules = none := by
  induction rules with
  | nil => rfl
  | cons rule rest ih =>
    rw [firstBroken, hrules rule List.mem_cons_self]
    exact ih fun other hother ↦ hrules other (List.mem_cons_of_mem _ hother)

theorem firstBroken_append (front back : List Rule) :
    firstBroken (front ++ back) = (firstBroken front).or (firstBroken back) := by
  induction front with
  | nil => rfl
  | cons rule front ih =>
    rw [List.cons_append, firstBroken, ih, firstBroken]
    cases rule.broken with
    | true => rfl
    | false => rfl

/-- A method that has a name is judged by its parameters, in one step or one by one. -/
theorem firstBroken_parameterRules (method : String) (parameters : List Parameter) :
    firstBroken (parameters.map fun parameter ↦
        ⟨Text.blankText parameter.name || Text.blankText parameter.type,
          .incompleteParameter method⟩) =
      if parameters.any isIncomplete then some (.incompleteParameter method) else none := by
  induction parameters with
  | nil => rfl
  | cons parameter rest ih =>
    rw [List.map_cons, firstBroken, ih, List.any_cons, isIncomplete]
    cases Text.blankText parameter.name || Text.blankText parameter.type with
    | true => rfl
    | false => rfl

theorem memberFault_eq (interfaceName : String) (member : MemberDescription) :
    memberFault interfaceName member = firstBroken (memberRules interfaceName member) := by
  cases member with
  | method method => rw [memberFault, memberRules, firstBroken, firstBroken_parameterRules]
  | property property => rfl

/-- The fault of a description is that of its first broken rule. -/
theorem firstFault_eq (description : Description) :
    description.firstFault = firstBroken description.rules := by
  have hmembers (members : List MemberDescription) :
      members.findSome? (memberFault description.interfaceName) =
        firstBroken (members.flatMap (memberRules description.interfaceName)) := by
    induction members with
    | nil => rfl
    | cons member rest ih =>
      rw [List.findSome?_cons, List.flatMap_cons, firstBroken_append, ih, memberFault_eq]
      cases firstBroken (memberRules description.interfaceName member) with
      | none => rfl
      | some fault => rfl
  rw [firstFault, rules, firstBroken, hmembers]

/-- A member that breaks no rule has something that needs a body. -/
theorem exists_part {interfaceName : String} {member : MemberDescription} (naming : NamingScheme)
    (hrules : ∀ rule ∈ memberRules interfaceName member, rule.broken = false) :
    ∃ part others, member.parts naming = part :: others := by
  cases member with
  | method method => exact ⟨_, _, rfl⟩
  | property property =>
    have haccessor : (property.getter.isNone && property.setter.isNone) = false :=
      hrules ⟨property.getter.isNone && property.setter.isNone, .noAccessor property.name⟩
        (by simp [memberRules])
    cases hget : property.getter with
    | some clauses =>
      rw [MemberDescription.parts, PropertyDescription.parts, PropertyDescription.getterPart, hget]
      exact ⟨_, _, rfl⟩
    | none =>
      cases hset : property.setter with
      | some clauses =>
        rw [MemberDescription.parts, PropertyDescription.parts, PropertyDescription.getterPart,
          hget, PropertyDescription.setterPart, hset]
        exact ⟨_, _, rfl⟩
      | none =>
        rw [hget, hset] at haccessor
        exact absurd haccessor (by decide)

end Description

namespace Request

/-- The output for a class with the given text and bodies. -/
def output (request : Request) (description : Description) (text : String)
    (bodies : List WrittenBody) : Output :=
  ⟨request.input, description.interfaceName, request.kind,
    OutputName.className request.kind description.interfaceName description.contractClass,
    OutputName.fileName request.kind request.input description.interfaceName, text, bodies, none⟩

/-- The right result for a description that could be read. -/
structure Answers (request : Request) (description : Description) (result : Except Failure Output) :
    Prop where
  /-- The first broken rule is reported. -/
  faulty : ∀ {before after : List Description.Rule} {rule : Description.Rule},
    description.rules = before ++ rule :: after → (∀ earlier ∈ before, earlier.broken = false) →
      rule.broken = true → result = .error (.faulty rule.fault)
  contract : description.Sound → request.kind = .contract →
    result = .ok (request.output description (ClassItem.text 0 [description.stubItem]) [])
  /-- Without a target, the first member is reported. -/
  unassembled : description.Sound → request.kind = .proxy →
    Text.blankText request.naming.delegateField = true →
      ∀ {first : MemberDescription} {rest : List MemberDescription},
        description.members = first :: rest → result = .error (.unassembled ⟨first.name⟩)
  /-- With a target, or with nothing to call it for, every body is assembled and written. -/
  proxy : description.Sound → request.kind = .proxy →
    Text.blankText request.naming.delegateField = false ∨ description.members = [] →
      (∀ part ∈ description.parts request.naming,
        part.assembled request.naming = .ok (part.body request.naming)) ∧
      result = .ok (request.output description
        (ClassItem.text 0 [description.proxyItem request.naming])
        ((description.parts request.naming).map (BodyPart.written request.naming)))

theorem value_bind {α β : Type} (action : CompileM α) (next : α → CompileM β) :
    (action >>= next).run.value =
      match action.run.value with
      | .ok value => (next value).run.value
      | .error failure => .error failure := by
  rw [ExceptT.run_bind, Traced.value_bind]
  cases action.run.value with
  | ok value => rfl
  | error failure => rfl

section Compilation

variable {request : Request} {source : String} {description : Description}

/-- A description with a fault is reported with it and not compiled. -/
theorem value_compileText_of_fault {fault : Description.Fault}
    (hread : Description.read source = .ok description)
    (hfault : description.firstFault = some fault) :
    (request.compileText source).run.value = .error (.faulty fault) := by
  have hdescription : (request.readDescription source).run.value = .error (.faulty fault) := by
    rw [readDescription, hread]
    simp only [hfault]
    rfl
  rw [compileText, value_bind, hdescription]

/-- A sound description gives what its class gives. -/
theorem value_compileText_of_generate (hread : Description.read source = .ok description)
    (hsound : description.firstFault = none) :
    (request.compileText source).run.value =
      (request.generate description).run.value.map fun (text, bodies) ↦
        request.output description text bodies := by
  have hdescription : (request.readDescription source).run.value = .ok description := by
    rw [readDescription, hread]
    simp only [hsound]
    rfl
  have hrecord (event : Event) : (record event).run.value = .ok () := rfl
  simp only [compileText, value_bind, hdescription, hrecord]
  cases (request.generate description).run.value with
  | ok generated => rfl
  | error failure => rfl

theorem value_generate (request : Request) (description : Description) :
    (request.generate description).run.value =
      match ClassWriter.outcome (ClassWriter.classText request.kind description)
        ⟨request.naming, 0, "", []⟩ with
      | (.ok text, writer) => .ok (text, writer.bodies)
      | (.error cause, _) => .error (.unassembled cause) := by
  let action := ClassWriter.classText request.kind description
  have hlift : (ExceptT.lift (action.run.run ⟨request.naming, 0, "", []⟩) :
      CompileM (Except MissingDelegate String × ClassWriter)).run.value =
        .ok (ClassWriter.outcome action ⟨request.naming, 0, "", []⟩) := rfl
  rw [generate, value_bind, hlift]
  rcases ClassWriter.outcome action ⟨request.naming, 0, "", []⟩ with ⟨_ | text, writer⟩
  · rfl
  · rfl

/-- Every source that holds a description is compiled as its rules and the request ask for. -/
theorem answers_compileText (request : Request)
    (hread : Description.read source = .ok description) :
    Answers request description (request.compileText source).run.value := by
  have hsound (h : description.Sound) : description.firstFault = none := by
    rw [Description.firstFault_eq, Description.firstBroken_eq_none h]
  constructor
  · intro before after rule hrules hbefore hrule
    apply value_compileText_of_fault hread
    rw [Description.firstFault_eq, hrules, Description.firstBroken_append_cons hbefore hrule]
  · intro h hkind
    rw [value_compileText_of_generate hread (hsound h), value_generate, hkind,
      ClassWriter.classText, ClassWriter.outcome_contractText]
    rfl
  · intro h hkind hblank first rest hmembers
    obtain ⟨part, others, hfirst⟩ := Description.exists_part request.naming fun rule hrule ↦
      h rule (List.mem_cons_of_mem _ (List.mem_flatMap.mpr ⟨first, by simp [hmembers], hrule⟩))
    have hmem : part ∈ first.parts request.naming := by simp [hfirst]
    obtain ⟨hname, hdelegate⟩ := MemberDescription.name_and_delegate_of_mem_parts hmem
    have hparts : description.parts request.naming =
        part :: (others ++ rest.flatMap (MemberDescription.parts request.naming)) := by
      rw [Description.parts, hmembers, List.flatMap_cons, hfirst, List.cons_append]
    have hfails := ClassWriter.failsWith_textOf
      (ClassWriter.fails_proxyClass hparts (BodyPart.assembled_of_blank hdelegate hblank))
    obtain ⟨after, hafter⟩ := hfails ⟨request.naming, 0, "", []⟩ rfl
    rw [value_compileText_of_generate hread (hsound h), value_generate, hkind,
      ClassWriter.classText, ClassWriter.proxyText, hafter, hname]
    rfl
  · intro h hkind htarget
    have hassembled : ∀ part ∈ description.parts request.naming,
        part.assembled request.naming = .ok (part.body request.naming) := by
      intro part hpart
      rcases htarget with htarget | hmembers
      · exact BodyPart.assembled_of_target (Description.delegate_of_mem_parts hpart) htarget
      · rw [Description.parts, hmembers] at hpart
        exact absurd hpart List.not_mem_nil
    refine ⟨hassembled, ?_⟩
    rw [value_compileText_of_generate hread (hsound h), value_generate, hkind,
      ClassWriter.classText, ClassWriter.outcome_proxyText hassembled rfl]
    rfl

end Compilation

/-- A method and a property that can only be set, in a namespace. -/
theorem answers_compileText_ledger :
    let description : Description := ⟨"ILedger", none, some "Bank",
      [.method ⟨"Post", "int", [⟨"n", "int"⟩], ["Contract.Requires(n > 0);"]⟩,
        .property ⟨"Limit", "int", none, some []⟩]⟩
    let request : Request := { input := "bank/ILedger.contract.json" }
    Description.read description.text = .ok description ∧
      Answers request description (request.compileText description.text).run.value := by
  intro description request
  have hread := Description.read_text description
  exact ⟨hread, answers_compileText request hread⟩

end Request

end GuardedProxy

import GuardedProxy.Proofs.ClauseOutcome
import GuardedProxy.Proofs.ClauseSpelling
import GuardedProxy.Proofs.InvocationText
import GuardedProxy.Proofs.ReferencePlaces

/-!
# When a clause becomes a guard

The form of a clause is told from how its text begins, and the call that it makes is read off the
text without a look at the form. The two agree: the opening of a form is a head and the character
that ends it, so what is read has the head of the form, and it has a type argument where the opening
ends with an angle bracket and none where it ends with a parenthesis. A clause of a recognized form
therefore becomes a guard as soon as it can be read as a call with no more than two arguments, and
every part of the guard can be told from that call.
-/

namespace GuardedProxy

open Invocation

namespace Invocation

/-- A type argument that opens is read up to its closing bracket and trimmed. -/
theorem exists_inside_of_readTypeArgument {rest after : List Char} {typeArgument : Option String}
    (hread : readTypeArgument ('<' :: rest) = some (typeArgument, after)) :
    ∃ inside, TypeArgument.read ('<' :: rest) = some (inside, after) ∧
      typeArgument = some (String.ofList (Text.trim inside)) := by
  rw [readTypeArgument, Option.bind_eq_bind, Option.bind_eq_some_iff] at hread
  obtain ⟨⟨inside, behind⟩, hinside, hsome⟩ := hread
  dsimp only at hsome
  split at hsome
  · contradiction
  · obtain ⟨rfl, rfl⟩ := Prod.mk.inj (Option.some.inj hsome)
    exact ⟨inside, hinside, rfl⟩

end Invocation

namespace Clause

variable {member : Member} {naming : NamingScheme} {clause : Clause} {invocation : Invocation}
  {compiled : CompiledClause}

theorem accepts_form (clause : Clause) : clause.form.accepts clause.text = true := by
  unfold form
  cases hfind : ClauseForm.ranked.find? (·.accepts clause.text) with
  | none => rfl
  | some found =>
    have haccepts := List.find?_some hfind
    exact haccepts

/-- Where a form opens with a head and a character that ends it, the head is read as such, and the
type argument is read off what begins with that character. -/
theorem exists_read_of_opening {opening head : String} {mark : Char}
    (hopening : clause.form.opening = some opening)
    (hsplit : opening.toList = head.toList ++ [mark])
    (hhead : ∀ c ∈ head.toList, isHeadChar c = true) (hmark : isHeadChar mark = false)
    (hinvocation : clause.invocation = some invocation) :
    invocation.head = head ∧ ∃ rest after, clause.text.toList = head.toList ++ mark :: rest ∧
      readTypeArgument (mark :: rest) = some (invocation.typeArgument, after) := by
  have haccepts := clause.accepts_form
  rw [ClauseForm.accepts, hopening] at haccepts
  obtain ⟨rest, hrest⟩ := List.isPrefixOf_iff_prefix.mp haccepts
  have htext : clause.text.toList = head.toList ++ mark :: rest := by
    rw [← hrest, hsplit, List.append_assoc, List.singleton_append]
  obtain ⟨after, _, _, htake, -, htype, -⟩ := parse_eq_some_iff.mp hinvocation
  have hnot : ¬isHeadChar mark = true := Bool.eq_false_iff.mp hmark
  rw [clause.trim_text, htext, List.takeWhile_append_of_pos hhead,
    List.takeWhile_cons_of_neg hnot, List.append_nil] at htake
  rw [clause.trim_text, htext, List.dropWhile_append_of_pos hhead,
    List.dropWhile_cons_of_neg hnot] at htype
  exact ⟨String.toList_inj.mp htake.symm, rest, after, htext, htype⟩

/-- A parenthesis opens no type argument. -/
theorem read_of_parenthesis {opening head : String}
    (hopening : clause.form.opening = some opening) (hsplit : opening.toList = head.toList ++ ['('])
    (hhead : ∀ c ∈ head.toList, isHeadChar c = true)
    (hinvocation : clause.invocation = some invocation) :
    invocation.head = head ∧ invocation.typeArgument = none := by
  obtain ⟨hname, rest, after, -, htype⟩ :=
    exists_read_of_opening hopening hsplit hhead (by decide) hinvocation
  exact ⟨hname, (Prod.mk.inj (Option.some.inj htype)).1.symm⟩

/-- The call has the head of the form. Its type argument is the text up to the bracket that closes
the one behind the head, or there is none. -/
inductive ReadsAs (text : List Char) (invocation : Invocation) : ClauseForm → Prop
  | typedPrecondition {behind inside rest : List Char}
      (hhead : invocation.head = "Contract.Requires")
      (htext : text = "Contract.Requires".toList ++ behind)
      (hread : TypeArgument.read behind = some (inside, rest))
      (htype : invocation.typeArgument = some (String.ofList (Text.trim inside))) :
      ReadsAs text invocation .typedPrecondition
  | untypedPrecondition (hhead : invocation.head = "Contract.Requires")
      (htype : invocation.typeArgument = none) : ReadsAs text invocation .untypedPrecondition
  | postcondition (hhead : invocation.head = "Contract.Ensures")
      (htype : invocation.typeArgument = none) : ReadsAs text invocation .postcondition

/-- A recognized clause whose invocation can be read has the parts its form demands. -/
theorem readsAs_form (hform : clause.form ≠ .unrecognized)
    (hinvocation : clause.invocation = some invocation) :
    ReadsAs clause.text.toList invocation clause.form := by
  have hrequires : ∀ c ∈ "Contract.Requires".toList, isHeadChar c = true :=
    List.all_iff_forall_prop.mp (by decide)
  have hensures : ∀ c ∈ "Contract.Ensures".toList, isHeadChar c = true :=
    List.all_iff_forall_prop.mp (by decide)
  cases hcase : clause.form with
  | typedPrecondition =>
    have hsplit : "Contract.Requires<".toList = "Contract.Requires".toList ++ ['<'] := by decide
    obtain ⟨hname, rest, after, htext, htype⟩ := exists_read_of_opening
      (congrArg ClauseForm.opening hcase) hsplit hrequires (by decide) hinvocation
    obtain ⟨inside, hinside, hsome⟩ := exists_inside_of_readTypeArgument htype
    exact .typedPrecondition hname htext hinside hsome
  | untypedPrecondition =>
    obtain ⟨hname, hnone⟩ := read_of_parenthesis (congrArg ClauseForm.opening hcase) (by decide)
      hrequires hinvocation
    exact .untypedPrecondition hname hnone
  | postcondition =>
    obtain ⟨hname, hnone⟩ := read_of_parenthesis (congrArg ClauseForm.opening hcase) (by decide)
      hensures hinvocation
    exact .postcondition hname hnone
  | unrecognized => exact absurd hcase hform

/-- What a clause compiles to when its call, of which the condition is the first argument, is
guarded. The checked condition is the one that old values are taken out of. -/
structure GuardsCall (member : Member) (naming : NamingScheme) (form : ClauseForm)
    (invocation : Invocation) (condition checked : String) (compiled : CompiledClause)
    (guard : Guard) : Prop where
  form_eq : compiled.form = form
  condition_eq : invocation.arguments[0]? = some condition
  exceptionType_eq :
    if form = .typedPrecondition then invocation.typeArgument = some guard.exceptionType
    else guard.exceptionType = naming.defaultException
  message_eq : guard.message =
    invocation.arguments[1]?.getD (failureMessage (messageLabel form) condition)
  isPrecondition_iff : compiled.isPrecondition = true ↔ form ≠ .postcondition ∧
    ¬∃ start stop type, ResultReference.StandsAt condition start stop type
  checked_of_unchanged :
    compiled.isPrecondition = true ∨ member.resultReference naming = none → checked = condition
  checked_of_replaced : ∀ reference, compiled.isPrecondition = false →
    member.resultReference naming = some reference →
    checked = Text.edited condition 0 ((ResultReference.references condition).map fun found ↦
      ⟨found.start, found.stop, reference⟩)
  guarded_eq : guard.condition = OldValue.substitute checked
  snapshots_eq : compiled.snapshots = OldValue.snapshots checked

/-- A precondition is tested on entry unless it refers to the result. -/
theorem guardsEntry_eq_true_iff {form : ClauseForm} {condition : String} :
    guardsEntry form condition = true ↔ form ≠ .postcondition ∧
      ¬∃ start stop type, ResultReference.StandsAt condition start stop type := by
  rw [ResultReference.exists_standsAt_iff, guardsEntry, Bool.and_eq_true, bne_iff_ne,
    Bool.not_eq_true', Bool.not_eq_true]

/-- A typed precondition throws its type argument and any other clause the default exception. -/
theorem exceptionType_eq_some {form : ClauseForm} {type : String}
    (hexception : exceptionType naming form invocation = some type) :
    if form = .typedPrecondition then invocation.typeArgument = some type
    else type = naming.defaultException := by
  cases form with
  | typedPrecondition => rwa [if_pos rfl]
  | untypedPrecondition | postcondition =>
    rw [if_neg (by decide)]
    exact (Option.some.inj hexception).symm
  | unrecognized => exact absurd hexception (Option.some_ne_none type).symm

/-- A clause that reads as its form has an exception to throw. -/
theorem exists_exceptionType {form : ClauseForm} {text : List Char}
    (hreads : ReadsAs text invocation form) :
    ∃ type, exceptionType naming form invocation = some type := by
  cases hreads with
  | typedPrecondition _ _ _ htype => exact ⟨_, htype⟩
  | untypedPrecondition | postcondition => exact ⟨naming.defaultException, rfl⟩

/-- On entry, and where nothing stands for the result, a condition is left as it is. -/
theorem checkedCondition_eq_self {isPrecondition : Bool} (condition : String)
    (hunchanged : isPrecondition = true ∨ member.resultReference naming = none) :
    checkedCondition member naming isPrecondition condition = condition := by
  rcases hunchanged with hentry | hnone
  · exact if_pos hentry
  · rw [checkedCondition, hnone, ite_self]

/-- After the call, what stands for the result is put in at the bytes of each reference. -/
theorem checkedCondition_eq_edited {isPrecondition : Bool} {reference : String}
    (condition : String) (hentry : isPrecondition = false)
    (hreference : member.resultReference naming = some reference) :
    checkedCondition member naming isPrecondition condition =
      Text.edited condition 0 ((ResultReference.references condition).map fun found ↦
        ⟨found.start, found.stop, reference⟩) := by
  rw [checkedCondition, hentry, hreference]
  exact ResultReference.substitute_eq_edited reference condition

theorem Source.guardsCall {form : ClauseForm} (source : Source member naming form clause compiled) :
    ∃ checked guard, compiled.guard = some guard ∧
      GuardsCall member naming form source.invocation source.condition checked compiled guard := by
  obtain ⟨invocation, condition, exceptionType, hinvocation, hle, hcondition, hexception, rfl⟩ :=
    source
  refine ⟨_, _, rfl, rfl, hcondition, exceptionType_eq_some hexception, rfl,
    guardsEntry_eq_true_iff, checkedCondition_eq_self condition, ?_, rfl, rfl⟩
  intro reference hentry hreference
  exact checkedCondition_eq_edited condition hentry hreference

/-- A clause has a source just if it is a call with one or two arguments in a recognized form. -/
theorem exists_source_iff :
    (∃ compiled, Nonempty (Source member naming clause.form clause compiled)) ↔
      clause.form ≠ .unrecognized ∧ ∃ invocation, clause.invocation = some invocation ∧
        (invocation.arguments.length = 1 ∨ invocation.arguments.length = 2) := by
  constructor
  · rintro ⟨_, ⟨invocation, condition, type, hinvocation, hle, hcondition, hexception, -⟩⟩
    obtain ⟨hpos, -⟩ := List.getElem?_eq_some_iff.mp hcondition
    refine ⟨?_, invocation, hinvocation, by omega⟩
    intro hform
    rw [hform] at hexception
    exact absurd hexception (Option.some_ne_none type).symm
  · rintro ⟨hform, invocation, hinvocation, hlength⟩
    obtain ⟨type, htype⟩ := exists_exceptionType (readsAs_form hform hinvocation)
    have hpos : 0 < invocation.arguments.length := by omega
    exact ⟨_, ⟨invocation, _, type, hinvocation, by omega, List.getElem?_eq_getElem hpos, htype,
      rfl⟩⟩

/-- A clause has a guard exactly when there is something to compile it from. -/
theorem isSome_guard_compile_iff :
    (clause.compile member naming).value.guard.isSome = true ↔
      ∃ compiled, Nonempty (Source member naming clause.form clause compiled) := by
  constructor
  · intro hsome
    rcases clause.value_compile_cases member naming with hdropped | ⟨compiled, -, hsource⟩
    · rw [hdropped] at hsome
      exact absurd hsome Bool.false_ne_true
    · exact ⟨compiled, hsource⟩
  · rintro ⟨compiled, ⟨source⟩⟩
    obtain ⟨_, guard, hguard, -⟩ := source.guardsCall
    rw [value_compile, compileGuard_eq_some_iff.mpr ⟨source⟩, Option.getD_some, hguard]
    rfl

/-- A clause becomes a guard just if it is a call with one or two arguments in a recognized form,
and its form agrees with its call. The call determines the guard. Any other clause is dropped. -/
theorem guardsCall_compile (member : Member) (naming : NamingScheme) (clause : Clause) :
    let compiled := (clause.compile member naming).value
    (compiled.guard.isSome = true ↔
      clause.form ≠ .unrecognized ∧ ∃ invocation, clause.invocation = some invocation ∧
        (invocation.arguments.length = 1 ∨ invocation.arguments.length = 2)) ∧
    (∀ invocation, clause.invocation = some invocation → clause.form ≠ .unrecognized →
      ReadsAs clause.text.toList invocation clause.form) ∧
    (∀ guard, compiled.guard = some guard → ∃ invocation condition checked,
      clause.invocation = some invocation ∧
      GuardsCall member naming clause.form invocation condition checked compiled guard) ∧
    (compiled.guard = none → compiled = ⟨clause.form, none, true, []⟩) := by
  intro compiled
  have hcases : compiled = .dropped clause.form ∨ ∃ outcome, compiled = outcome ∧
      Nonempty (Source member naming clause.form clause outcome) :=
    clause.value_compile_cases member naming
  refine ⟨isSome_guard_compile_iff.trans exists_source_iff, ?_, ?_, ?_⟩
  · intro invocation hinvocation hform
    exact readsAs_form hform hinvocation
  · intro guard hguard
    rcases hcases with hdropped | ⟨_, rfl, ⟨source⟩⟩
    · rw [hdropped] at hguard
      exact absurd hguard (Option.some_ne_none guard).symm
    · obtain ⟨checked, _, hsome, hguards⟩ := source.guardsCall
      obtain rfl := Option.some.inj (hguard.symm.trans hsome)
      exact ⟨source.invocation, source.condition, checked, source.invocation_eq, hguards⟩
  · intro hnone
    rcases hcases with hdropped | ⟨_, rfl, ⟨source⟩⟩
    · exact hdropped
    · obtain ⟨_, guard, hsome, -⟩ := source.guardsCall
      exact absurd (hsome.symm.trans hnone) (Option.some_ne_none guard)

/-- A typed precondition that refers to the result and to an old value, with a message of its own.
-/
theorem guardsCall_compile_grow :
    let member : Member := { name := "Grow", shape := .method (.value "int") }
    let clause : Clause :=
      ⟨"Contract.Requires< E >(Contract.Result<int>() > Contract.OldValue(n), m);", 0⟩
    let compiled := (clause.compile member {}).value
    let invocation : Invocation := ⟨"Contract.Requires", some "E",
      ["Contract.Result<int>() > Contract.OldValue(n)", "m"]⟩
    let guard : Guard := ⟨"result > n_old", "E", "m"⟩
    (clause.invocation = some invocation ∧ clause.form ≠ .unrecognized ∧
      compiled.guard = some guard ∧ compiled.guard.isSome = true) ∧
    ReadsAs clause.text.toList invocation clause.form ∧
    ∃ invocation condition checked, clause.invocation = some invocation ∧
      GuardsCall member {} clause.form invocation condition checked compiled guard := by
  intro member clause compiled invocation guard
  have hinvocation : clause.invocation = some invocation := by decide +kernel
  have hguard : compiled.guard = some guard := by decide +kernel
  have hsome : compiled.guard.isSome = true := by rw [hguard, Option.isSome_some]
  obtain ⟨hiff, hreads, hguards, -⟩ := guardsCall_compile member {} clause
  obtain ⟨hform, -⟩ := hiff.mp hsome
  have hcall := hreads invocation hinvocation hform
  exact ⟨⟨hinvocation, hform, hguard, hsome⟩, hcall, hguards guard hguard⟩

end Clause

end GuardedProxy

import GuardedProxy.Proofs.ClassOutline
import GuardedProxy.Proofs.OutputDirectory

/-!
# The two outputs of a description

A description gives a proxy and a contract class. Each has a name of its own, whatever the names in
the description and the name of the input are, and goes to a file of its own. The name that is
reported for a class is worked out apart from the text of the class. It is nevertheless the name
under which the text declares the class, and that of the constructor in a proxy.
-/

namespace GuardedProxy

namespace OutputName

theorem append_ne_append {base first second : String} (hne : first ≠ second) :
    base ++ first ≠ base ++ second :=
  fun h ↦ hne ((String.append_right_inj base).mp h)

/-- A stem that ends in `.contract` has something to replace. -/
theorem proxyFile_ne_of_stem {input stem : String} (hstem : contractStem input = some stem) :
    proxyFile stem ≠ stem := by
  obtain ⟨-, hsuffix⟩ := Option.filter_eq_some_iff.mp hstem
  intro hsame
  exact proxyFile_eq_self_iff.mp hsame (List.isSuffixOf_iff_suffix.mp hsuffix).isInfix

/-- The two classes never go to one file. -/
theorem fileName_proxy_ne_contract (input interfaceName : String) :
    fileName .proxy input interfaceName ≠ fileName .contract input interfaceName := by
  cases hstem : contractStem input with
  | some stem =>
    rw [fileName_proxy_of_stem hstem, fileName_contract_of_stem hstem]
    exact fun h ↦ proxyFile_ne_of_stem hstem ((String.append_left_inj ".cs").mp h)
  | none =>
    unfold fileName
    rw [hstem]
    exact append_ne_append (by decide)

theorem eq_append_of_beforeSuffix {suffix text base : String}
    (hbefore : beforeSuffix suffix text = some base) : text = base ++ suffix := by
  unfold beforeSuffix at hbefore
  split at hbefore
  · rename_i hsuffix
    obtain ⟨front, hfront⟩ := List.isSuffixOf_iff_suffix.mp hsuffix
    obtain rfl := Option.some.inj hbefore
    apply String.toList_injective
    rw [String.toList_append, String.toList_ofList, ← hfront, List.length_append,
      Nat.add_sub_cancel, List.take_left]
  · contradiction

/-- The two classes never have one name. -/
theorem className_proxy_ne_contract (interfaceName : String) (givenClass : Option String) :
    className .proxy interfaceName givenClass ≠ className .contract interfaceName givenClass := by
  cases givenClass with
  | none => exact append_ne_append (by decide)
  | some given =>
    change (beforeSuffix "_Contract" given).getD given ++ "_Proxy" ≠ given
    cases hbefore : beforeSuffix "_Contract" given with
    | some base =>
      rw [eq_append_of_beforeSuffix hbefore]
      exact append_ne_append (by decide)
    | none =>
      intro hsame
      have hlength := congrArg (fun name ↦ name.toList.length) hsame
      simp at hlength

end OutputName

namespace Description

/-- The line that declares a class under a name. -/
def declaration (description : Description) (className : String) : ClassKind → String
  | .proxy => "public sealed class " ++ className ++ " : " ++ description.interfaceName
  | .contract => "internal abstract class " ++ className ++ " : " ++ description.interfaceName

/-- What a class of a name has in front of its members. -/
def opening (naming : NamingScheme) (description : Description) (className : String) :
    ClassKind → List ClassItem
  | .proxy => constructorItems naming className description.interfaceName
  | .contract => []

/-- The text declares a class under the name and constructs it by that name, if it is a proxy. -/
def Declares (naming : NamingScheme) (description : Description) (kind : ClassKind)
    (className text : String) : Prop :=
  ∃ rest, text = ClassItem.joined
    (description.frontLines (description.declaration className kind) ++
      ClassItem.allLines description.memberDepth (description.opening naming className kind) ++
      rest)

theorem declares_enclosed (naming : NamingScheme) (description : Description) (kind : ClassKind)
    (className : String) (members : List ClassItem) :
    description.Declares naming kind className (ClassItem.text 0 [description.enclosed
      (.block (description.declaration className kind)
        (description.opening naming className kind ++ members))]) := by
  refine ⟨ClassItem.allLines description.memberDepth members ++ description.backLines, ?_⟩
  rw [text_enclosed, ClassItem.allLines_append]
  simp only [List.append_assoc]

end Description

namespace Request

variable {request : Request} {source : String}

/-- What is generated declares the class of its kind under its name. -/
theorem declares_generate {description : Description} {text : String} {bodies : List WrittenBody}
    (hgenerate : (request.generate description).run.value = .ok (text, bodies)) :
    description.Declares request.naming request.kind
      (OutputName.className request.kind description.interfaceName description.contractClass)
      text := by
  rw [value_generate] at hgenerate
  cases hkind : request.kind with
  | proxy =>
    rw [hkind, ClassWriter.classText] at hgenerate
    cases houtcome : ClassWriter.outcome (ClassWriter.proxyText description)
        ⟨request.naming, 0, "", []⟩ with
    | mk result after =>
      rw [houtcome] at hgenerate
      cases result with
      | error cause => cases hgenerate
      | ok written =>
        have hassembled := assembled_of_outcome_proxyText houtcome
        rw [ClassWriter.outcome_proxyText hassembled rfl] at houtcome
        obtain rfl := (Prod.mk.inj (Except.ok.inj hgenerate)).1
        obtain rfl := Except.ok.inj (Prod.mk.inj houtcome).1
        exact description.declares_enclosed request.naming .proxy _ _
  | contract =>
    rw [hkind, ClassWriter.classText, ClassWriter.outcome_contractText] at hgenerate
    obtain rfl := (Prod.mk.inj (Except.ok.inj hgenerate)).1
    exact description.declares_enclosed request.naming .contract _ _

/-- The proxy and the contract class of a source have different names and go to different files, and
each is declared under the name that is reported for it. -/
theorem output_pair_distinct {proxy contract : Output}
    (hproxy : ({ request with kind := .proxy }.compileText source).run.value = .ok proxy)
    (hcontract : ({ request with kind := .contract }.compileText source).run.value =
      .ok contract) :
    proxy.fileName ≠ contract.fileName ∧ proxy.className ≠ contract.className ∧
      ∃ description, Description.read source = .ok description ∧
        description.Declares request.naming .proxy proxy.className proxy.text ∧
        description.Declares request.naming .contract contract.className contract.text := by
  obtain ⟨description, proxyText, bodies, hread, hproxyText, rfl⟩ := exists_generate hproxy
  obtain ⟨same, contractText, none, hsame, hcontractText, rfl⟩ := exists_generate hcontract
  obtain rfl := Except.ok.inj (hread.symm.trans hsame)
  have hproxyName := declares_generate hproxyText
  have hcontractName := declares_generate hcontractText
  refine ⟨?_, ?_, description, hread, hproxyName, hcontractName⟩
  · exact OutputName.fileName_proxy_ne_contract request.input description.interfaceName
  · exact OutputName.className_proxy_ne_contract description.interfaceName
      description.contractClass

/-- Both classes are named for the contract class that the description gives, and both files for the
contract in the name of the input. -/
theorem output_pair_distinct_shop :
    let description : Description := ⟨"IShop", some "Store_Contract", some "Trade",
      [.method ⟨"Open", "void", [], []⟩]⟩
    let request : Request := { input := "in/IShop.contract.json" }
    ∃ proxy contract,
      ({ request with kind := .proxy }.compileText description.text).run.value = .ok proxy ∧
      ({ request with kind := .contract }.compileText description.text).run.value =
        .ok contract ∧
      (proxy.fileName, contract.fileName) = ("IShop.proxy.cs", "IShop.contract.cs") ∧
      (proxy.className, contract.className) = ("Store_Proxy", "Store_Contract") ∧
      proxy.fileName ≠ contract.fileName ∧ proxy.className ≠ contract.className ∧
        ∃ described, Description.read description.text = .ok described ∧
          described.Declares request.naming .proxy proxy.className proxy.text ∧
          described.Declares request.naming .contract contract.className contract.text := by
  intro description request
  have hread := Description.read_text description
  have hsound : description.firstFault = none := by
    unfold description
    decide
  have hassembled : ∀ part ∈ description.parts request.naming,
      part.assembled request.naming = .ok (part.body request.naming) := fun part hpart ↦
    part.assembled_of_target (Description.delegate_of_mem_parts hpart) (by decide)
  have hproxy : ({ request with kind := .proxy }.compileText description.text).run.value =
      .ok ({ request with kind := .proxy }.output description
        (ClassItem.text 0 [description.proxyItem request.naming])
        ((description.parts request.naming).map (BodyPart.written request.naming))) := by
    rw [value_compileText_of_generate hread hsound, value_generate, ClassWriter.classText,
      ClassWriter.outcome_proxyText hassembled rfl]
    rfl
  have hcontract : ({ request with kind := .contract }.compileText description.text).run.value =
      .ok ({ request with kind := .contract }.output description
        (ClassItem.text 0 [description.stubItem]) []) := by
    rw [value_compileText_of_generate hread hsound, value_generate, ClassWriter.classText,
      ClassWriter.outcome_contractText]
    rfl
  refine ⟨_, _, hproxy, hcontract, ?_, ?_, output_pair_distinct hproxy hcontract⟩
  · unfold output description request
    decide +kernel
  · unfold output description request
    decide +kernel

end Request

end GuardedProxy

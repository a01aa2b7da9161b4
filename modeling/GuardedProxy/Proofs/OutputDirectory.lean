import GuardedProxy.Proofs.CompiledDescription
import GuardedProxy.Proofs.DescriptionText
import GuardedProxy.Proofs.OutputFile

/-!
# Classes in the directory for the output

The name of a generated file is one entry of a directory, exactly if the input is named for a
contract or the name of the interface has no slash. Under such a name the class becomes a file of
the directory for the output itself. With a slash in the name of the interface the file can lie
elsewhere, since nothing but blank names is refused.
-/

namespace GuardedProxy

namespace FileTree

/-- Puts a file among the entries of the directory that a path leads to. -/
def putBelow (tree : FileTree) (directory name : String) (content : ByteArray) :
    Except FileError FileTree := do
  if !isUsablePath (Path.join directory name) then throw .unusableName
  let position ← tree.walk (Path.isAbsolute directory) (steps directory)
  match position.node with
  | .file _ => throw .notDirectory
  | .directory entries =>
    let entries ← putFile content entries name
    return { tree with top := position.replace (.directory entries) }

/-- Puts a file into a directory, which is made first as far as it is missing. -/
def putInto (tree : FileTree) (directory name : String) (content : ByteArray) :
    Except FileError Unit × FileTree :=
  match tree.createDirectories directory with
  | (.error error, made) => (.error error, made)
  | (.ok (), made) =>
    match made.putBelow directory name content with
    | .ok after => (.ok (), after)
    | .error error => (.error error, made)

theorem pathExists_of_readText {tree : FileTree} {path text : String}
    (htext : tree.readText path = .ok text) : tree.pathExists path = true := by
  rw [pathExists]
  cases hresolve : tree.resolve path with
  | ok position => rfl
  | error error =>
    rw [readText, hresolve] at htext
    cases htext

theorem endsInSlash_append {name : String} (hname : Path.IsName name) (front : String) :
    endsInSlash (front ++ name) = false := by
  have hnonempty : name.toList ≠ [] := fun hnil ↦ hname.ne_empty (String.toList_eq_nil_iff.mp hnil)
  rw [endsInSlash, decide_eq_false_iff_not, String.toList_append,
    List.getLast?_append_of_ne_nil _ hnonempty]
  exact fun hslash ↦ hname.not_slash (List.mem_of_getLast? hslash)

/-- A file that is written under a name in a directory is put among the entries of that directory. -/
theorem writeBytes_join {name : String} (hname : Path.IsName name) (tree : FileTree)
    (directory : String) (content : ByteArray) :
    tree.writeBytes (Path.join directory name) content = tree.putBelow directory name content := by
  obtain ⟨front, hjoin, -⟩ := Path.exists_join_eq directory hname
  have hslash : endsInSlash (Path.join directory name) = false := by
    rw [hjoin, endsInSlash_append hname]
  have hempty : (Path.join directory name).isEmpty = false := by
    rw [Bool.eq_false_iff]
    intro h
    rw [String.isEmpty_iff, hjoin, String.append_eq_empty_iff] at h
    exact hname.ne_empty h.2
  -- the steps but the last are those of the directory, and the last is the name
  rw [writeBytes, putBelow, hempty, hslash, Path.isAbsolute_join directory hname, update,
    Path.steps_join directory hname, List.getLast?_concat, List.dropLast_concat]
  rfl

theorem run_bind {α β : Type} (action : StateM FileTree α) (next : α → StateM FileTree β)
    (tree : FileTree) :
    (action >>= next).run tree = (next (action.run tree).1).run (action.run tree).2 := rfl

theorem run_createDirectories (directory : String) (tree : FileTree) :
    (FileStore.createDirectories (m := StateM FileTree) directory).run tree =
      tree.createDirectories directory := rfl

/-- A file is written below its directory, and where that fails the tree stays as it is. -/
theorem run_writeText {name : String} (hname : Path.IsName name) (directory text : String)
    (tree : FileTree) :
    (FileStore.writeText (m := StateM FileTree) (Path.join directory name) text).run tree =
      match tree.putBelow directory name text.toUTF8 with
      | .ok after => (.ok (), after)
      | .error error => (.error error, tree) := by
  rw [← writeBytes_join hname]
  rfl

end FileTree

namespace OutputName

theorem not_mem_of_contractStem {input stem : String} (hstem : contractStem input = some stem) :
    '/' ∉ stem.toList := by
  obtain ⟨hname, -⟩ := Option.filter_eq_some_iff.mp hstem
  obtain ⟨name, hlast, rfl⟩ := Option.map_eq_some_iff.mp hname
  exact fun hslash ↦ Path.not_mem_of_lastName hlast (Path.mem_of_mem_stem hslash)

theorem not_mem_proxyFile {file : String} (hfile : '/' ∉ file.toList) :
    '/' ∉ (proxyFile file).toList := by
  intro hslash
  rw [toList_proxyFile] at hslash
  rcases Text.mem_of_mem_replaceAll hslash with hslash | hslash
  · exact hfile hslash
  · exact absurd hslash (by decide)

/-- Every generated file ends in `.cs`, and what stands before that has a slash only if it is made
from the name of the interface. -/
theorem exists_fileName_eq (kind : ClassKind) (input interfaceName : String) :
    ∃ base, fileName kind input interfaceName = base ++ ".cs" ∧
      ('/' ∉ base.toList ↔
        (contractStem input).isSome = true ∨ '/' ∉ interfaceName.toList) := by
  cases hstem : contractStem input with
  | some stem =>
    have hslash := not_mem_of_contractStem hstem
    cases kind with
    | proxy =>
      exact ⟨proxyFile stem, fileName_proxy_of_stem hstem interfaceName,
        by simp [not_mem_proxyFile hslash]⟩
    | contract =>
      exact ⟨stem, fileName_contract_of_stem hstem interfaceName, by simp [hslash]⟩
  | none =>
    have hproxy : ".proxy" ++ ".cs" = ".proxy.cs" := rfl
    have hcontract : ".contract" ++ ".cs" = ".contract.cs" := rfl
    cases kind with
    | proxy =>
      refine ⟨interfaceName ++ ".proxy", ?_, by simp⟩
      unfold fileName
      rw [hstem, String.append_assoc, hproxy, defaultProxyFile]
    | contract =>
      refine ⟨interfaceName ++ ".contract", ?_, by simp⟩
      unfold fileName
      rw [hstem, String.append_assoc, hcontract, defaultContractFile]

/-- No output has an empty name or one of dots only. -/
theorem fileName_not_special (kind : ClassKind) (input interfaceName : String) :
    fileName kind input interfaceName ∉ ["", ".", ".."] := by
  obtain ⟨base, hfile, -⟩ := exists_fileName_eq kind input interfaceName
  have hlast : (fileName kind input interfaceName).toList.getLast? = some 's' := by
    simp [hfile]
  have hnone : ∀ special ∈ ["", ".", ".."], special.toList.getLast? ≠ some 's' := by decide
  exact fun hspecial ↦ hnone _ hspecial hlast

/-- The output is a file of the directory itself if it is named after the input or if the name of
the interface has no slash in it. -/
theorem isName_iff (kind : ClassKind) (input interfaceName : String) :
    Path.IsName (fileName kind input interfaceName) ↔
      (contractStem input).isSome = true ∨ '/' ∉ interfaceName.toList := by
  obtain ⟨base, hfile, hbase⟩ := exists_fileName_eq kind input interfaceName
  have hslash : '/' ∉ (fileName kind input interfaceName).toList ↔ '/' ∉ base.toList := by
    simp [hfile]
  have hspecial := fileName_not_special kind input interfaceName
  simp only [List.mem_cons, List.not_mem_nil, or_false, not_or] at hspecial
  rw [← hbase, ← hslash]
  constructor
  · exact fun hname ↦ hname.not_slash
  · exact fun hnone ↦ ⟨hnone, hspecial.1, hspecial.2.1, hspecial.2.2⟩

end OutputName

namespace Request

variable {request : Request} {source : String} {output : Output}

/-- A source that compiles holds a description, from which the class was generated. -/
theorem exists_generate (houtput : (request.compileText source).run.value = .ok output) :
    ∃ description text bodies, Description.read source = .ok description ∧
      (request.generate description).run.value = .ok (text, bodies) ∧
      output = request.output description text bodies := by
  cases hread : Description.read source with
  | error problem =>
    have hdescription : (request.readDescription source).run.value =
        .error (.unreadable request.input problem) := by
      rw [readDescription, hread]
      rfl
    rw [compileText, value_bind, hdescription] at houtput
    cases houtput
  | ok description =>
    cases hfault : description.firstFault with
    | some fault =>
      rw [value_compileText_of_fault hread hfault] at houtput
      cases houtput
    | none =>
      rw [value_compileText_of_generate hread hfault] at houtput
      cases hgenerate : (request.generate description).run.value with
      | error failure =>
        rw [hgenerate] at houtput
        cases houtput
      | ok generated =>
        rw [hgenerate] at houtput
        exact ⟨description, generated.1, generated.2, rfl, hgenerate,
          (Except.ok.inj houtput).symm⟩

theorem exists_eq_output (houtput : (request.compileText source).run.value = .ok output) :
    ∃ description text bodies, output = request.output description text bodies := by
  obtain ⟨description, text, bodies, -, -, heq⟩ := exists_generate houtput
  exact ⟨description, text, bodies, heq⟩

/-! ## Compiled files -/

/-- The result for the input file of a tree, and the tree that is left. -/
def compiledIn (request : Request) (tree : FileTree) : Except Failure Output × FileTree :=
  let run := (request.compileFile (m := StateM FileTree)).run tree
  (run.1.value, run.2)

/-- Storing an output makes the directory and then writes the file. -/
theorem run_store (hname : Path.IsName output.fileName) (directory : String) (tree : FileTree) :
    (store (m := StateM FileTree) directory output).run tree =
      match tree.putInto directory output.fileName output.text.toUTF8 with
      | (.ok (), after) => (.ok (Path.join directory output.fileName), after)
      | (.error error, after) => (.error error, after) := by
  rw [store, FileTree.run_bind, FileTree.run_createDirectories, FileTree.putInto]
  rcases tree.createDirectories directory with ⟨error | _, made⟩
  · rfl
  · dsimp only
    rw [FileTree.run_bind, FileTree.run_writeText hname]
    cases made.putBelow directory output.fileName output.text.toUTF8 with
    | ok after => rfl
    | error error => rfl

/-- A source that compiles, in a file that can be read, is stored in the directory that is given. -/
theorem compiledIn_eq_store (houtput : (request.compileText source).run.value = .ok output)
    {directory : String} (hdirectory : request.outputDirectory = some directory) {tree : FileTree}
    (hsource : tree.readText request.input = .ok source) :
    request.compiledIn tree =
      match (store (m := StateM FileTree) directory output).run tree with
      | (.ok path, after) => (.ok { output with writtenTo := some path }, after)
      | (.error error, after) => (.error (.inaccessible error), after) := by
  have hpresent : (FileStore.pathExists (m := StateM FileTree) request.input).run tree =
      (true, tree) := by
    rw [← FileTree.pathExists_of_readText hsource]
    rfl
  have hread : (FileStore.readText (m := StateM FileTree) request.input).run tree =
      (.ok source, tree) := by
    rw [← hsource]
    rfl
  -- neither question to the store changes the tree, so that storing begins where compiling did
  rw [compiledIn, compileFile, FileTree.run_bind, hpresent]
  simp only [Bool.not_true, Bool.false_eq_true, if_false]
  rw [FileTree.run_bind, hread]
  simp only [houtput, hdirectory]
  rw [FileTree.run_bind]
  rcases (store (m := StateM FileTree) directory output).run tree with ⟨error | path, after⟩
  · rfl
  · rfl

/-- The name of the file is one entry of a directory, unless the input is not named for a contract
and the name of the interface, which decides then, has a slash. Under a name that is one entry, the
class becomes a file of the directory for the output itself. -/
theorem isName_fileName_iff (houtput : (request.compileText source).run.value = .ok output) :
    output.fileName ∉ ["", ".", ".."] ∧
      (Path.IsName output.fileName ↔ (OutputName.contractStem request.input).isSome = true ∨
        '/' ∉ output.interfaceName.toList) ∧
      (Path.IsName output.fileName → ∀ directory tree,
        request.outputDirectory = some directory → tree.readText request.input = .ok source →
          request.compiledIn tree =
            match tree.putInto directory output.fileName output.text.toUTF8 with
            | (.ok (), after) =>
              (.ok { output with writtenTo := some (Path.join directory output.fileName) }, after)
            | (.error error, after) => (.error (.inaccessible error), after)) := by
  obtain ⟨description, text, bodies, hdescription⟩ := exists_eq_output houtput
  have hfile : output.fileName =
      OutputName.fileName request.kind request.input output.interfaceName := by
    rw [hdescription]
    rfl
  refine ⟨?_, ?_, ?_⟩
  · rw [hfile]
    exact OutputName.fileName_not_special request.kind request.input output.interfaceName
  · rw [hfile]
    exact OutputName.isName_iff request.kind request.input output.interfaceName
  · intro hname directory tree hdirectory hsource
    rw [compiledIn_eq_store houtput hdirectory hsource, run_store hname]
    rcases tree.putInto directory output.fileName output.text.toUTF8 with ⟨error | _, after⟩
    · rfl
    · rfl

/-- An interface whose name goes up takes its class out of the directory. -/
theorem isName_fileName_iff_upwards :
    let description : Description := ⟨"../IUser", none, none, []⟩
    let request : Request := { input := "users.json", outputDirectory := some "out" }
    ∃ output, (request.compileText description.text).run.value = .ok output ∧
      output.fileName = "../IUser.proxy.cs" ∧ ¬Path.IsName output.fileName ∧
        Path.parts (Path.join "out" output.fileName) = ["out", "..", "IUser.proxy.cs"] := by
  intro description request
  have hread := Description.read_text description
  have hsound : description.firstFault = none := by
    unfold description
    decide
  have hassembled : ∀ part ∈ description.parts request.naming,
      part.assembled request.naming = .ok (part.body request.naming) :=
    fun part hpart ↦ absurd hpart List.not_mem_nil
  have houtput : (request.compileText description.text).run.value = .ok (request.output description
      (ClassItem.text 0 [description.proxyItem request.naming]) []) := by
    have hkind : request.kind = .proxy := rfl
    rw [value_compileText_of_generate hread hsound, value_generate, hkind, ClassWriter.classText,
      ClassWriter.outcome_proxyText hassembled rfl]
    rfl
  have hfile : (request.output description
      (ClassItem.text 0 [description.proxyItem request.naming]) []).fileName =
        "../IUser.proxy.cs" := by
    unfold output description request
    decide
  refine ⟨_, houtput, hfile, ?_, ?_⟩
  · rw [(isName_fileName_iff houtput).2.1]
    unfold output description request
    decide
  · rw [hfile]
    decide

end Request

end GuardedProxy

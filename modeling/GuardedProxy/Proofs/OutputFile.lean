import GuardedProxy.OutputName
import GuardedProxy.Proofs.Lists
import GuardedProxy.Proofs.PathParts
import Mathlib.Data.List.Infix

/-!
# The files of a contract's classes

An input named `X.contract.json` gives the classes `X.contract.cs` and `X.proxy.cs`, as long as no
`.contract` stands in `X` itself. The name of the proxy's file is made by replacing every
`.contract`, not only the one at the end, so that another one is replaced along with it. Two
occurrences never overlap, because the dot that one begins with is not in the rest of the word.
-/

namespace GuardedProxy.Text

variable {needle replacement : List Char}

theorem replaceAll_needle_append (hneedle : needle ≠ []) (rest : List Char) :
    replaceAll needle replacement (needle ++ rest) =
      replacement ++ replaceAll needle replacement rest := by
  obtain ⟨first, others, rfl⟩ := List.exists_cons_of_ne_nil hneedle
  have hstart : (first :: others).isPrefixOf (first :: (others ++ rest)) = true :=
    List.isPrefixOf_iff_prefix.mpr (List.prefix_append (first :: others) rest)
  rw [List.cons_append, replaceAll, if_pos hstart, List.length_cons, Nat.add_sub_cancel,
    List.drop_left]

theorem replaceAll_cons {c : Char} {rest : List Char} (hstart : ¬needle <+: c :: rest) :
    replaceAll needle replacement (c :: rest) = c :: replaceAll needle replacement rest := by
  rw [replaceAll, if_neg fun h ↦ hstart (List.isPrefixOf_iff_prefix.mp h)]

theorem eq_needle_append {c : Char} {rest : List Char} (hneedle : needle ≠ [])
    (hstart : needle.isPrefixOf (c :: rest) = true) :
    c :: rest = needle ++ rest.drop (needle.length - 1) := by
  obtain ⟨first, others, rfl⟩ := List.exists_cons_of_ne_nil hneedle
  obtain ⟨after, hafter⟩ := List.isPrefixOf_iff_prefix.mp hstart
  have hrest : rest = others ++ after := (List.cons.inj hafter).2.symm
  rw [← hafter, hrest, List.length_cons, Nat.add_sub_cancel, List.drop_left]

theorem replaceAll_eq_self {text : List Char} (habsent : ¬needle <:+: text) :
    replaceAll needle replacement text = text := by
  induction text with
  | nil => rw [replaceAll]
  | cons c rest ih =>
    rw [replaceAll_cons fun h ↦ habsent h.isInfix,
      ih fun h ↦ habsent (h.trans (List.suffix_cons c rest).isInfix)]

/-- Replacing brings in no characters but those of the replacement. -/
theorem mem_of_mem_replaceAll {text : List Char} {x : Char}
    (hx : x ∈ replaceAll needle replacement text) : x ∈ text ∨ x ∈ replacement := by
  induction text using replaceAll.induct needle with
  | case1 =>
    rw [replaceAll] at hx
    exact Or.inl hx
  | case2 c rest hstart ih =>
    rw [replaceAll, if_pos hstart, List.mem_append] at hx
    rcases hx with hx | hx
    · exact Or.inr hx
    · exact (ih hx).imp_left fun h ↦ List.mem_cons_of_mem c (List.mem_of_mem_drop h)
  | case3 c rest hstart ih =>
    rw [replaceAll, if_neg hstart, List.mem_cons] at hx
    rcases hx with rfl | hx
    · exact Or.inl List.mem_cons_self
    · exact (ih hx).imp_left (List.mem_cons_of_mem c)

/-- A replacement that is no longer than the needle makes no text longer. -/
theorem length_replaceAll_le (hshort : replacement.length ≤ needle.length) (text : List Char) :
    (replaceAll needle replacement text).length ≤ text.length := by
  induction text using replaceAll.induct needle with
  | case1 => rw [replaceAll]
  | case2 c rest hstart ih =>
    have hlength := (List.isPrefixOf_iff_prefix.mp hstart).length_le
    rw [replaceAll, if_pos hstart, List.length_append]
    rw [List.length_drop] at ih
    rw [List.length_cons] at hlength ⊢
    omega
  | case3 c rest hstart ih =>
    rw [replaceAll, if_neg hstart, List.length_cons, List.length_cons]
    omega

section Marked

variable {mark : Char} {letters : List Char}

/-- The text on each side of a marked word is replaced on its own. -/
theorem replaceAll_append_needle (hmark : mark ∉ letters) (front back : List Char) :
    replaceAll (mark :: letters) replacement (front ++ (mark :: letters ++ back)) =
      replaceAll (mark :: letters) replacement front ++
        (replacement ++ replaceAll (mark :: letters) replacement back) := by
  have hneedle : mark :: letters ≠ [] := List.cons_ne_nil mark letters
  induction front using replaceAll.induct (mark :: letters) with
  | case1 => rw [List.nil_append, replaceAll_needle_append hneedle, replaceAll, List.nil_append]
  | case2 c rest hstart ih =>
    rw [eq_needle_append hneedle hstart, List.append_assoc, replaceAll_needle_append hneedle, ih,
      replaceAll_needle_append hneedle, List.append_assoc]
  | case3 c rest hstart ih =>
    have hfront : ¬mark :: letters <+: c :: rest :=
      fun h ↦ hstart (List.isPrefixOf_iff_prefix.mpr h)
    have hwhole : ¬mark :: letters <+: c :: (rest ++ (mark :: letters ++ back)) :=
      fun h ↦ hfront (Lists.isPrefix_of_append_mark hmark (List.cons_ne_nil c rest) h)
    rw [List.cons_append, replaceAll_cons hwhole, ih, replaceAll_cons hfront, List.cons_append]

/-- A shorter word leaves a text as it is exactly if there is nothing to replace. -/
theorem replaceAll_eq_self_iff (hmark : mark ∉ letters)
    (hshort : replacement.length < (mark :: letters).length) {text : List Char} :
    replaceAll (mark :: letters) replacement text = text ↔ ¬mark :: letters <:+: text := by
  refine ⟨?_, replaceAll_eq_self⟩
  rintro hself ⟨front, back, rfl⟩
  -- neither side of the word gets longer, and the word itself gets shorter
  have hlength := congrArg List.length hself
  have hfront := length_replaceAll_le hshort.le front
  have hback := length_replaceAll_le hshort.le back
  rw [List.append_assoc, replaceAll_append_needle hmark, List.length_append, List.length_append,
    List.length_append, List.length_append] at hlength
  omega

end Marked

end GuardedProxy.Text

namespace GuardedProxy.OutputName

theorem toList_proxyFile (file : String) :
    (proxyFile file).toList = Text.replaceAll ".contract".toList ".proxy".toList file.toList :=
  String.toList_ofList

/-- At the end of a name, `.contract` becomes `.proxy` whatever stands before it. -/
theorem proxyFile_append_contract (base : String) :
    proxyFile (base ++ ".contract") = proxyFile base ++ ".proxy" := by
  have hmark : '.' ∉ "contract".toList := by decide
  have hnothing : Text.replaceAll ".contract".toList ".proxy".toList [] = [] := by
    rw [Text.replaceAll]
  apply String.toList_injective
  calc (proxyFile (base ++ ".contract")).toList
      = Text.replaceAll ".contract".toList ".proxy".toList
          (base.toList ++ (".contract".toList ++ [])) := by
        rw [toList_proxyFile, String.toList_append, List.append_nil]
    _ = Text.replaceAll ".contract".toList ".proxy".toList base.toList ++ (".proxy".toList ++
          Text.replaceAll ".contract".toList ".proxy".toList []) :=
        Text.replaceAll_append_needle hmark base.toList []
    _ = (proxyFile base ++ ".proxy").toList := by
        rw [hnothing, List.append_nil, String.toList_append, toList_proxyFile]

/-- A name is kept exactly when `.contract` occurs nowhere in it. -/
theorem proxyFile_eq_self_iff {base : String} :
    proxyFile base = base ↔ ¬".contract".toList <:+: base.toList := by
  have hmark : '.' ∉ "contract".toList := by decide
  have hshort : ".proxy".toList.length < ('.' :: "contract".toList).length := by decide
  rw [← String.toList_inj, toList_proxyFile]
  exact Text.replaceAll_eq_self_iff hmark hshort

theorem isName_contract_input {base : String} (hbase : '/' ∉ base.toList) :
    Path.IsName (base ++ ".contract.json") := by
  have hending : ".contract.json".toList.length = 14 := by decide
  have hlength : 14 ≤ (base ++ ".contract.json").toList.length := by
    rw [String.toList_append, List.length_append, hending]
    exact Nat.le_add_left 14 base.toList.length
  have hne (text : String) (htext : text.toList.length < 14) : base ++ ".contract.json" ≠ text := by
    rintro rfl
    omega
  refine ⟨?_, hne "" (by decide), hne "." (by decide), hne ".." (by decide)⟩
  rw [String.toList_append, List.mem_append, not_or]
  exact ⟨hbase, by decide⟩

theorem stem_contract_input (base : String) :
    Path.stem (base ++ ".contract.json") = base ++ ".contract" := by
  have hfront : base.toList ++ ".contract".toList ≠ [] :=
    List.append_ne_nil_of_right_ne_nil base.toList (by decide)
  have hdot : '.' ∉ "json".toList := by decide
  have hparts : ".contract.json".toList = ".contract".toList ++ '.' :: "json".toList := by decide
  have hinput : base ++ ".contract.json" =
      String.ofList (base.toList ++ ".contract".toList ++ '.' :: "json".toList) := by
    rw [List.append_assoc, ← hparts, ← String.toList_append, String.ofList_toList]
  rw [hinput, Path.stem_eq hfront hdot, ← String.toList_append, String.ofList_toList]

/-- The input's name decides, wherever the input stands. -/
theorem contractStem_contract_input {front base tail : String} (hfront : Path.IsFront front)
    (hbase : '/' ∉ base.toList) (htail : Path.IsTail tail) :
    contractStem (front ++ (base ++ ".contract.json") ++ tail) = some (base ++ ".contract") := by
  have hsuffix : ".contract".toList.isSuffixOf (base ++ ".contract").toList = true := by
    rw [List.isSuffixOf_iff_suffix, String.toList_append]
    exact List.suffix_append _ _
  rw [contractStem, Path.lastName_eq_some hfront (isName_contract_input hbase) htail,
    Option.map_some, stem_contract_input, Option.filter_some, if_pos hsuffix]

/-- The proxy goes to the file that is named after the input. -/
theorem fileName_proxy_of_stem {input stem : String} (hstem : contractStem input = some stem)
    (interfaceName : String) : fileName .proxy input interfaceName = proxyFile stem ++ ".cs" := by
  unfold fileName
  rw [hstem]

theorem fileName_contract_of_stem {input stem : String} (hstem : contractStem input = some stem)
    (interfaceName : String) : fileName .contract input interfaceName = stem ++ ".cs" := by
  unfold fileName
  rw [hstem]

/-- The contract class keeps the base of the input's name. So does the proxy, unless the base has a
`.contract` of its own, which then is replaced too. -/
theorem fileName_contract_input {front base tail : String} (hfront : Path.IsFront front)
    (hbase : '/' ∉ base.toList) (htail : Path.IsTail tail) (interfaceName : String) :
    fileName .contract (front ++ (base ++ ".contract.json") ++ tail) interfaceName =
        base ++ ".contract.cs" ∧
      fileName .proxy (front ++ (base ++ ".contract.json") ++ tail) interfaceName =
        proxyFile base ++ ".proxy.cs" ∧
      (fileName .proxy (front ++ (base ++ ".contract.json") ++ tail) interfaceName =
          base ++ ".proxy.cs" ↔ ¬".contract".toList <:+: base.toList) := by
  have hstem := contractStem_contract_input hfront hbase htail
  have hcontract : ".contract" ++ ".cs" = ".contract.cs" := rfl
  have hproxy : ".proxy" ++ ".cs" = ".proxy.cs" := rfl
  have hfile : fileName .proxy (front ++ (base ++ ".contract.json") ++ tail) interfaceName =
      proxyFile base ++ ".proxy.cs" := by
    rw [fileName_proxy_of_stem hstem, proxyFile_append_contract, String.append_assoc, hproxy]
  refine ⟨?_, hfile, ?_⟩
  · rw [fileName_contract_of_stem hstem, String.append_assoc, hcontract]
  · rw [hfile, ← proxyFile_eq_self_iff]
    exact String.append_left_inj ".proxy.cs"

/-- A word of the base that begins with `.contract` is renamed as well. -/
theorem fileName_contract_input_renamed :
    fileName .contract "specs/Billing.contracts.IUser.contract.json" "IUser" =
        "Billing.contracts.IUser.contract.cs" ∧
      fileName .proxy "specs/Billing.contracts.IUser.contract.json" "IUser" =
        "Billing.proxys.IUser.proxy.cs" ∧
      fileName .proxy "specs/Billing.contracts.IUser.contract.json" "IUser" ≠
        "Billing.contracts.IUser.proxy.cs" := by
  have hfront : Path.IsFront "specs/" := Or.inr (by decide)
  have hbase : '/' ∉ "Billing.contracts.IUser".toList := by decide
  have htail : Path.IsTail "" := Or.inl rfl
  have hwithin : ".contract".toList <:+: "Billing.contracts.IUser".toList :=
    ⟨"Billing".toList, "s.IUser".toList, rfl⟩
  obtain ⟨hcontract, hproxy, hsame⟩ := fileName_contract_input hfront hbase htail "IUser"
  have hrenamed : proxyFile "Billing.contracts.IUser" = "Billing.proxys.IUser" := by
    cbv
  refine ⟨hcontract, ?_, fun h ↦ hsame.mp h hwithin⟩
  rw [hrenamed] at hproxy
  exact hproxy

end GuardedProxy.OutputName

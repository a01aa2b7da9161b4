import GuardedProxy.Description.Printer
import GuardedProxy.Json.Tree
import Mathlib.Data.List.Forall2

/-!
# Reading written JSON

A value that was written is read back wherever a value may stand, whatever comes behind it. A
string comes back unit by unit: each character was written as one unit, and no unit that is written
is half of a surrogate pair. Sequences and objects come back item by item, with the containers
around them on the stack of the reader.
-/

namespace GuardedProxy.Json

theorem hexValue_hexDigit : ∀ n < 16, hexValue (hexDigit n) = some n := by decide

theorem hexUnit_hexDigits {code : Nat} (hcode : code < 0x20) :
    hexUnit '0' '0' (hexDigit (code / 16)) (hexDigit (code % 16)) = some code := by
  have hzero : hexValue '0' = some 0 := by decide
  have hhigh := hexValue_hexDigit (code / 16) (by omega)
  have hlow := hexValue_hexDigit (code % 16) (by omega)
  simp only [hexUnit, hzero, hhigh, hlow, Option.pure_def, Option.bind_eq_bind, Option.bind_some,
    Option.some.injEq]
  omega

section Units

variable {rest after : List Char} {units : List StringUnit}

theorem readUnits_letter {letter c : Char} (hletter : escapedChar letter = some c)
    (hrest : readUnits rest = some (units, after)) :
    readUnits ('\\' :: letter :: rest) = some (.char c :: units, after) := by
  have hu : letter ≠ 'u' := by
    rintro rfl
    exact Option.some_ne_none c hletter.symm
  rw [readUnits.eq_def]
  simp [hu, hletter, hrest]

theorem readUnits_code {code : Nat} (hcode : code < 0x20)
    (hrest : readUnits rest = some (units, after)) :
    readUnits ('\\' :: 'u' :: '0' :: '0' :: hexDigit (code / 16) :: hexDigit (code % 16) :: rest) =
      some (.unit code :: units, after) := by
  rw [readUnits, hexUnit_hexDigits hcode, hrest]
  rfl

theorem readUnits_plain {c : Char} (hquote : c ≠ '"') (hbackslash : c ≠ '\\')
    (hcontrol : ¬c.toNat < 0x20) (hrest : readUnits rest = some (units, after)) :
    readUnits (c :: rest) = some (.char c :: units, after) := by
  rw [readUnits.eq_def]
  simp [hbackslash, hcontrol, hrest]

end Units

/-- A unit that is no half of a surrogate pair spells its character, whatever follows. -/
theorem spelled_unit {code : Nat} (hcode : code < 0xD800) {units : List StringUnit} {cs : List Char}
    (hunits : spelled units = some cs) :
    spelled (.unit code :: units) = some (Char.ofNat code :: cs) := by
  have hhigh : isHighSurrogate code = false := by
    rw [isHighSurrogate, Bool.and_eq_false_iff, decide_eq_false_iff_not]
    exact Or.inl (by omega)
  have hlow : isLowSurrogate code = false := by
    rw [isLowSurrogate, Bool.and_eq_false_iff, decide_eq_false_iff_not]
    exact Or.inl (by omega)
  rw [spelled.eq_def]
  split
  all_goals simp_all

/-- A character is written as one unit that spells it. -/
theorem exists_unit_of_escape (c : Char) : ∃ unit : StringUnit,
    (∀ {rest units after}, readUnits rest = some (units, after) →
      readUnits (escape c ++ rest) = some (unit :: units, after)) ∧
    ∀ {units cs}, spelled units = some cs → spelled (unit :: units) = some (c :: cs) := by
  have hchar {units : List StringUnit} {cs : List Char} (hunits : spelled units = some cs) :
      spelled (.char c :: units) = some (c :: cs) := by
    rw [spelled, hunits]
    rfl
  unfold escape
  split
  case h_8 hquote hbackslash _ _ _ _ _ =>
    split
    case isTrue hcontrol =>
      refine ⟨.unit c.toNat, fun hrest ↦ readUnits_code hcontrol hrest, fun hunits ↦ ?_⟩
      have hspelled := spelled_unit (Nat.lt_trans hcontrol (by decide)) hunits
      rwa [Char.ofNat_toNat] at hspelled
    case isFalse hcontrol =>
      refine ⟨.char c, fun hrest ↦ readUnits_plain ?_ ?_ hcontrol hrest, hchar⟩
      · exact hquote
      · exact hbackslash
  all_goals exact ⟨.char _, fun hrest ↦ readUnits_letter rfl hrest, hchar⟩

/-- Characters that were escaped one by one are read back up to the closing quote. -/
theorem readUnits_escaped (cs rest : List Char) :
    ∃ units, readUnits (cs.flatMap escape ++ '"' :: rest) = some (units, rest) ∧
      spelled units = some cs := by
  induction cs with
  | nil => exact ⟨[], by rw [List.flatMap_nil, List.nil_append, readUnits], rfl⟩
  | cons c cs ih =>
    obtain ⟨units, hread, hspelled⟩ := ih
    obtain ⟨unit, hunit, hspells⟩ := exists_unit_of_escape c
    refine ⟨unit :: units, ?_, hspells hspelled⟩
    rw [List.flatMap_cons, List.append_assoc]
    exact hunit hread

/-- A quoted text is one token, with the text as its value. -/
theorem tokens_quote (text : String) (rest : List Char) :
    tokens ((quote text).toList ++ rest) = .string (some text) :: tokens rest := by
  obtain ⟨units, hread, hspelled⟩ := readUnits_escaped text.toList rest
  have hquote : (quote text).toList ++ rest =
      '"' :: (text.toList.flatMap escape ++ '"' :: rest) := by
    rw [quote, String.toList_ofList, List.cons_append, List.cons_append, List.append_assoc,
      List.singleton_append]
  rw [hquote, tokens]
  split
  case h_1 hnone =>
    rw [hread] at hnone
    exact absurd hnone (by simp)
  case h_2 found after hfound =>
    rw [hread] at hfound
    obtain ⟨rfl, rfl⟩ := Prod.mk.inj (Option.some.inj hfound)
    rw [hspelled, Option.map_some, String.ofList_toList]

/-! ## Values -/

section Marks

variable (rest : List Char)

theorem tokens_openArray : tokens ('[' :: rest) = .openArray :: tokens rest := by rw [tokens]

theorem tokens_closeArray : tokens (']' :: rest) = .closeArray :: tokens rest := by rw [tokens]

theorem tokens_openObject : tokens ('\x7b' :: rest) = .openObject :: tokens rest := by rw [tokens]

theorem tokens_closeObject : tokens ('\x7d' :: rest) = .closeObject :: tokens rest := by rw [tokens]

theorem tokens_comma : tokens (',' :: rest) = .comma :: tokens rest := by rw [tokens]

theorem tokens_colon : tokens (':' :: rest) = .colon :: tokens rest := by rw [tokens]

theorem tokens_null : tokens ("null".toList ++ rest) = .null :: tokens rest := by
  change tokens ('n' :: 'u' :: 'l' :: 'l' :: rest) = _
  rw [tokens]

end Marks

open Progress (run complete reading)

/-- The text is read as the tree, both where a value must stand and at the front of a sequence. -/
def IsText (text : String) (tree : Tree) : Prop :=
  ∀ (stack : List Frame) (rest : List Char),
    run (reading .value stack) (tokens (text.toList ++ rest)) =
        run (complete stack tree) (tokens rest) ∧
      run (reading .firstItem stack) (tokens (text.toList ++ rest)) =
        run (complete (.array [] :: stack) tree) (tokens rest)

theorem isText_null : IsText "null" .null := by
  intro stack rest
  rw [tokens_null]
  exact ⟨rfl, rfl⟩

theorem isText_quote (text : String) : IsText (quote text) (.string (some text)) := by
  intro stack rest
  rw [tokens_quote]
  exact ⟨rfl, rfl⟩

theorem isText_option {α : Type} {text : α → String} {tree : α → Tree} (option : Option α)
    (htext : ∀ value, IsText (text value) (tree value)) :
    IsText (optionText text option) (option.elim .null tree) := by
  cases option with
  | none => exact isText_null
  | some value => exact htext value

/-- Between any two texts a comma is before every text but the first. -/
theorem toList_intercalate_comma (first : String) (others : List String) :
    (String.intercalate "," (first :: others)).toList =
      first.toList ++ others.flatMap fun other ↦ ',' :: other.toList := by
  induction others generalizing first with
  | nil => rw [String.intercalate_singleton, List.flatMap_nil, List.append_nil]
  | cons other others ih =>
    rw [String.intercalate_cons_cons, String.toList_append, String.toList_append, ih,
      List.flatMap_cons, List.append_assoc]
    rfl

section Sequences

variable {α : Type} {text : α → String} {tree : α → Tree} {values : List α}

/-- Behind an item, more items follow, each after a comma. -/
theorem run_afterItem (htext : ∀ value ∈ values, IsText (text value) (tree value))
    (items : List Tree) (stack : List Frame) (rest : List Char) :
    run (reading (.afterItem items) stack)
        (tokens ((values.flatMap fun value ↦ ',' :: (text value).toList) ++ ']' :: rest)) =
      run (complete stack (.array (items.reverse ++ values.map tree) true)) (tokens rest) := by
  induction values generalizing items with
  | nil =>
    rw [List.flatMap_nil, List.nil_append, tokens_closeArray, List.map_nil, List.append_nil]
    rfl
  | cons value values ih =>
    have hvalue := (htext value List.mem_cons_self (.array items :: stack)
      ((values.flatMap fun value ↦ ',' :: (text value).toList) ++ ']' :: rest)).1
    have hvalues := ih (fun other hother ↦ htext other (List.mem_cons_of_mem _ hother))
      (tree value :: items)
    rw [List.reverse_cons, List.append_assoc, List.singleton_append] at hvalues
    rw [List.flatMap_cons, List.cons_append, List.cons_append, tokens_comma, List.append_assoc,
      List.map_cons]
    exact hvalue.trans hvalues

/-- A list of printed values is read to the closing bracket and gives their trees. -/
theorem run_firstItem (htext : ∀ value ∈ values, IsText (text value) (tree value))
    (stack : List Frame) (rest : List Char) :
    run (reading .firstItem stack)
        (tokens ((String.intercalate "," (values.map text)).toList ++ ']' :: rest)) =
      run (complete stack (.array (values.map tree) true)) (tokens rest) := by
  cases values with
  | nil =>
    rw [List.map_nil, String.intercalate_nil, String.toList_empty, List.nil_append,
      tokens_closeArray]
    rfl
  | cons value values =>
    have hvalue := (htext value List.mem_cons_self stack
      ((values.flatMap fun value ↦ ',' :: (text value).toList) ++ ']' :: rest)).2
    have hvalues := run_afterItem (fun other hother ↦ htext other (List.mem_cons_of_mem _ hother))
      [tree value] stack rest
    rw [List.map_cons, toList_intercalate_comma, List.flatMap_map, List.append_assoc, List.map_cons]
    exact hvalue.trans hvalues

/-- A list is printed as the text of an array. -/
theorem isText_list (htext : ∀ value ∈ values, IsText (text value) (tree value)) :
    IsText (listText text values) (.array (values.map tree) true) := by
  intro stack rest
  have hlist : (listText text values).toList ++ rest =
      '[' :: ((String.intercalate "," (values.map text)).toList ++ ']' :: rest) := by
    rw [listText, String.toList_append, String.toList_append, List.append_assoc, List.append_assoc]
    rfl
  rw [hlist, tokens_openArray]
  exact ⟨run_firstItem htext stack rest, run_firstItem htext (.array [] :: stack) rest⟩

end Sequences

section Objects

/-- The fields of an object as they are written, and as they are read. -/
def AreFields (fields : List (String × String)) (trees : List (Key × Tree)) : Prop :=
  List.Forall₂ (fun field tree ↦ tree.1 = some field.1 ∧ IsText field.2 tree.2) fields trees

def fieldText (field : String × String) : String := quote field.1 ++ ":" ++ field.2

/-- A key that may stand here and its value, up to what comes behind the field. -/
theorem run_field {field : String × String} {tree : Key × Tree} {place : Place}
    {earlier : List (Key × Tree)} {stack : List Frame}
    (hplace : Progress.feed place stack (.string tree.1) = reading (.colon earlier tree.1) stack)
    (hkey : tree.1 = some field.1) (hvalue : IsText field.2 tree.2) (rest : List Char) :
    run (reading place stack) (tokens ((fieldText field).toList ++ rest)) =
      run (reading (.afterField (tree :: earlier)) stack) (tokens rest) := by
  have hfield : (fieldText field).toList ++ rest =
      (quote field.1).toList ++ ':' :: (field.2.toList ++ rest) := by
    rw [fieldText, String.toList_append, String.toList_append, List.append_assoc, List.append_assoc]
    rfl
  rw [hfield, tokens_quote, ← hkey, tokens_colon]
  calc run (reading place stack) (.string tree.1 :: .colon :: tokens (field.2.toList ++ rest))
      = run (Progress.feed place stack (.string tree.1))
          (.colon :: tokens (field.2.toList ++ rest)) := rfl
    _ = run (reading .value (.object earlier tree.1 :: stack))
          (tokens (field.2.toList ++ rest)) := by rw [hplace]; rfl
    _ = run (reading (.afterField (tree :: earlier)) stack) (tokens rest) :=
      (hvalue (.object earlier tree.1 :: stack) rest).1

/-- Fields behind a field are read to the closing brace and added to those before them. -/
theorem run_afterField {fields : List (String × String)} {trees : List (Key × Tree)}
    (hfields : AreFields fields trees) (earlier : List (Key × Tree)) (stack : List Frame)
    (rest : List Char) :
    run (reading (.afterField earlier) stack)
        (tokens ((fields.flatMap fun field ↦ ',' :: (fieldText field).toList) ++ '\x7d' :: rest)) =
      run (complete stack (.object (earlier.reverse ++ trees) true)) (tokens rest) := by
  induction hfields generalizing earlier with
  | nil =>
    rw [List.flatMap_nil, List.nil_append, tokens_closeObject, List.append_nil]
    rfl
  | @cons field tree fields trees hfield _ ih =>
    have hnext := ih (tree :: earlier)
    rw [List.reverse_cons, List.append_assoc, List.singleton_append] at hnext
    rw [List.flatMap_cons, List.cons_append, List.cons_append, tokens_comma, List.append_assoc]
    exact (run_field rfl hfield.1 hfield.2 _).trans hnext

/-- Fields are printed as the text of an object. -/
theorem isText_object {fields : List (String × String)} {trees : List (Key × Tree)}
    (hfields : AreFields fields trees) : IsText (objectText fields) (.object trees true) := by
  have hfirst (stack : List Frame) (rest : List Char) :
      run (reading .firstKey stack)
          (tokens ((String.intercalate "," (fields.map fieldText)).toList ++ '\x7d' :: rest)) =
        run (complete stack (.object trees true)) (tokens rest) := by
    cases hfields with
    | nil =>
      rw [List.map_nil, String.intercalate_nil, String.toList_empty, List.nil_append,
        tokens_closeObject]
      rfl
    | @cons field tree fields trees hfield hrest =>
      rw [List.map_cons, toList_intercalate_comma, List.flatMap_map, List.append_assoc]
      exact (run_field rfl hfield.1 hfield.2 _).trans (run_afterField hrest [tree] stack rest)
  intro stack rest
  have hobject : (objectText fields).toList ++ rest =
      '\x7b' :: ((String.intercalate "," (fields.map fieldText)).toList ++ '\x7d' :: rest) := by
    rw [objectText, String.toList_append, String.toList_append, List.append_assoc,
      List.append_assoc]
    rfl
  rw [hobject, tokens_openObject]
  exact ⟨hfirst stack rest, hfirst (.array [] :: stack) rest⟩

end Objects

/-- A whole text that was written is read as its tree, to the end. -/
theorem IsText.read {text : String} {tree : Tree} (htext : IsText text tree) :
    Document.read text = ⟨tree, true⟩ := by
  have hrun := (htext [] []).1
  rw [List.append_nil, tokens] at hrun
  rw [Document.read, hrun]
  rfl

end GuardedProxy.Json

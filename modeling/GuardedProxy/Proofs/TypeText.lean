import GuardedProxy.Proofs.ArgumentSplit
import GuardedProxy.Proofs.ReferenceRewrite

/-!
# The text of a type

A type is a name, a name with type arguments, an array, a nullable type or a tuple. Two readers meet
its text. The one that looks for the end of a type argument counts angle brackets and parentheses,
and to it the text of every type is balanced. The one that divides the arguments of a call counts
all brackets but the angle ones, so that it takes a comma between type arguments for its own unless
a tuple stands around it. Such a type exposes a comma.
-/

namespace GuardedProxy

/-- One part of a type name. -/
structure NamePart where
  letters : List Char
  ne_nil : letters ≠ []
  isWordChar : ∀ c ∈ letters, Text.isWordChar c = true

/-- A dotted name, behind `global::` or not. -/
structure TypeName where
  isGlobal : Bool := false
  first : NamePart
  others : List NamePart := []

/-- A name of one part. -/
def TypeName.ofWord (letters : List Char) (hne : letters ≠ [])
    (hword : letters.all Text.isWordChar = true) : TypeName :=
  ⟨false, ⟨letters, hne, List.all_eq_true.mp hword⟩, []⟩

mutual

/-- A type as it is written. An array has one more dimension than it has commas. -/
inductive TypeExpr
  | named (name : TypeName)
  | generic (name : TypeName) (arguments : TypeList)
  | array (element : TypeExpr) (commas : Nat)
  | nullable (type : TypeExpr)
  | tuple (first : TypeExpr) (others : TypeList)

/-- One or more types. -/
inductive TypeList
  | last (type : TypeExpr)
  | cons (type : TypeExpr) (rest : TypeList)

end

def TypeName.text (name : TypeName) : List Char :=
  (if name.isGlobal then "global::".toList else []) ++
    (name.first.letters ++ name.others.flatMap fun part ↦ '.' :: part.letters)

mutual

def TypeExpr.text : TypeExpr → List Char
  | .named name => name.text
  | .generic name arguments => name.text ++ ('<' :: arguments.text ++ ['>'])
  | .array element commas => element.text ++ ('[' :: List.replicate commas ',' ++ [']'])
  | .nullable type => type.text ++ ['?']
  | .tuple first others => '(' :: (first.text ++ ", ".toList ++ others.text) ++ [')']

def TypeList.text : TypeList → List Char
  | .last type => type.text
  | .cons type rest => type.text ++ ", ".toList ++ rest.text

end

mutual

/-- Whether some comma between type arguments stands in no tuple. -/
def TypeExpr.exposesComma : TypeExpr → Bool
  | .named _ => false
  | .generic _ arguments => arguments.exposesComma
  | .array element _ => element.exposesComma
  | .nullable type => type.exposesComma
  | .tuple .. => false

def TypeList.exposesComma : TypeList → Bool
  | .last type => type.exposesComma
  | .cons .. => true

end

/-! ## Properties of all types -/

/-- The property passes from the parts of a type to the whole. -/
structure TypeClosed (P : List Char → Prop) : Prop where
  named : ∀ name : TypeName, P name.text
  generic : ∀ (name : TypeName) {arguments : List Char},
    P arguments → P (name.text ++ ('<' :: arguments ++ ['>']))
  array : ∀ {element : List Char} (commas : Nat),
    P element → P (element ++ ('[' :: List.replicate commas ',' ++ [']']))
  nullable : ∀ {type : List Char}, P type → P (type ++ ['?'])
  tuple : ∀ {types : List Char}, P types → P ('(' :: types ++ [')'])
  list : ∀ {type rest : List Char}, P type → P rest → P (type ++ ", ".toList ++ rest)

mutual

/-- A property of texts that the forms of types keep holds of every type. -/
theorem TypeClosed.text {P : List Char → Prop} (hclosed : TypeClosed P) :
    (type : TypeExpr) → P type.text
  | .named name => hclosed.named name
  | .generic name arguments => hclosed.generic name (hclosed.texts arguments)
  | .array element commas => hclosed.array commas (hclosed.text element)
  | .nullable type => hclosed.nullable (hclosed.text type)
  | .tuple first others => hclosed.tuple (hclosed.list (hclosed.text first) (hclosed.texts others))

theorem TypeClosed.texts {P : List Char → Prop} (hclosed : TypeClosed P) :
    (types : TypeList) → P types.text
  | .last type => hclosed.text type
  | .cons type rest => hclosed.list (hclosed.text type) (hclosed.texts rest)

end

/-- The characters of a type outside of its names. -/
def typeSigns : List Char := ['.', ':', '<', '>', '[', ']', '?', '(', ')', ',', ' ']

/-- A character that can stand in the text of a type. -/
def IsTypeChar (c : Char) : Prop := Text.isWordChar c = true ∨ c ∈ typeSigns

theorem TypeName.mem_text {name : TypeName} {c : Char} (hc : c ∈ name.text) :
    Text.isWordChar c = true ∨ c ∈ ['.', ':'] := by
  have hglobal : ∀ d ∈ "global::".toList, Text.isWordChar d = true ∨ d ∈ ['.', ':'] :=
    List.all_iff_forall_prop.mp (by decide)
  rw [TypeName.text, List.mem_append, List.mem_append, List.mem_flatMap] at hc
  rcases hc with hc | hc | ⟨part, -, hc⟩
  · split at hc
    · exact hglobal c hc
    · exact absurd hc List.not_mem_nil
  · exact Or.inl (name.first.isWordChar c hc)
  · rcases List.mem_cons.mp hc with rfl | hc
    · exact Or.inr List.mem_cons_self
    · exact Or.inl (part.isWordChar c hc)

/-- Types are spelled with word characters and a few marks. -/
theorem typeClosed_isTypeChar : TypeClosed fun text ↦ ∀ c ∈ text, IsTypeChar c := by
  have hsigns : ∀ c ∈ typeSigns, IsTypeChar c := fun _ ↦ Or.inr
  have hname : ∀ name : TypeName, ∀ c ∈ name.text, IsTypeChar c := by
    intro name c hc
    have hdots : ∀ d ∈ ['.', ':'], d ∈ typeSigns := List.all_iff_forall_prop.mp (by decide)
    exact (name.mem_text hc).imp_right (hdots c)
  constructor
  · exact hname
  · intro name arguments harguments
    rw [List.forall_mem_append, List.cons_append, List.forall_mem_cons, List.forall_mem_append,
      List.forall_mem_singleton]
    exact ⟨hname name, hsigns _ (by decide), harguments, hsigns _ (by decide)⟩
  · intro element commas helement
    rw [List.forall_mem_append, List.cons_append, List.forall_mem_cons, List.forall_mem_append,
      List.forall_mem_singleton]
    refine ⟨helement, hsigns _ (by decide), fun c hc ↦ ?_, hsigns _ (by decide)⟩
    rw [List.eq_of_mem_replicate hc]
    exact hsigns _ (by decide)
  · intro type htype
    rw [List.forall_mem_append, List.forall_mem_singleton]
    exact ⟨htype, hsigns _ (by decide)⟩
  · intro types htypes
    rw [List.cons_append, List.forall_mem_cons, List.forall_mem_append, List.forall_mem_singleton]
    exact ⟨hsigns _ (by decide), htypes, hsigns _ (by decide)⟩
  · intro type rest htype hrest
    have hcomma : ∀ d ∈ ", ".toList, d ∈ typeSigns := List.all_iff_forall_prop.mp (by decide)
    rw [List.forall_mem_append, List.forall_mem_append]
    exact ⟨⟨htype, fun c hc ↦ hsigns c (hcomma c hc)⟩, hrest⟩

open TypeArgument in
/-- Every type is balanced, so the bracket behind it closes its argument. -/
theorem typeClosed_balanced : TypeClosed Balanced := by
  have hname : ∀ name : TypeName, Balanced name.text := by
    intro name
    apply balanced_of_not_mem_marks
    intro c hc
    rcases name.mem_text hc with hword | hdot
    · exact not_mem_marks_of_isWordChar hword
    · have hdots : ∀ d ∈ ['.', ':'], d ∉ marks := List.all_iff_forall_prop.mp (by decide)
      exact hdots c hdot
  constructor
  · exact hname
  · intro name arguments harguments
    exact (hname name).append harguments.angles
  · intro element commas helement
    apply helement.append
    apply balanced_of_not_mem_marks
    rw [List.cons_append, List.forall_mem_cons, List.forall_mem_append, List.forall_mem_singleton]
    refine ⟨by decide, fun c hc ↦ ?_, by decide⟩
    rw [List.eq_of_mem_replicate hc]
    decide
  · intro type htype
    exact htype.append (balanced_of_not_mem_marks (List.all_iff_forall_prop.mp (by decide)))
  · intro types htypes
    exact htypes.parens
  · intro type rest htype hrest
    have hcomma : Balanced ", ".toList :=
      balanced_of_not_mem_marks (List.all_iff_forall_prop.mp (by decide))
    exact (htype.append hcomma).append hrest

open Invocation

theorem TypeName.passesOver_text (name : TypeName) (depth : Nat) : PassesOver depth name.text := by
  apply passesOver_of_not_mem_signs
  intro c hc
  rcases name.mem_text hc with hword | hdot
  · exact not_mem_signs_of_isWordChar hword
  · have hdots : ∀ d ∈ ['.', ':'], d ∉ signs := List.all_iff_forall_prop.mp (by decide)
    exact hdots c hdot

theorem passesOver_brackets (commas depth : Nat) :
    PassesOver depth ('[' :: List.replicate commas ',' ++ [']']) := by
  apply PassesOver.enclosed (by decide) (by decide)
  induction commas with
  | zero => exact passesOver_nil
  | succ commas ih => exact passesOver_comma.append ih

/-- Inside a bracket the commas of a type divide nothing. -/
theorem typeClosed_passesOver : TypeClosed fun text ↦ ∀ depth, PassesOver (depth + 1) text := by
  constructor
  · intro name depth
    exact name.passesOver_text _
  · intro name arguments harguments depth
    exact (name.passesOver_text _).append (harguments depth).angles
  · intro element commas helement depth
    exact (helement depth).append (passesOver_brackets commas _)
  · intro type htype depth
    exact (htype depth).append (passesOver_singleton (by decide))
  · intro types htypes depth
    exact (htypes (depth + 1)).enclosed (by decide) (by decide)
  · intro type rest htype hrest depth
    have hspace : PassesOver (depth + 1) [' '] := passesOver_singleton (by decide)
    exact ((htype depth).append (passesOver_comma.append hspace)).append (hrest depth)

/-- The commas of a tuple stand in parentheses. -/
theorem TypeExpr.passesOver_tuple (first : TypeExpr) (others : TypeList) (depth : Nat) :
    PassesOver depth (TypeExpr.tuple first others).text := by
  have hlist := typeClosed_passesOver.texts (.cons first others)
  exact (hlist depth).enclosed (by decide) (by decide)

mutual

/-- A type that exposes no comma stays within one argument. -/
theorem TypeExpr.passesOver_text : (type : TypeExpr) → type.exposesComma = false →
    PassesOver 0 type.text
  | .named name, _ => name.passesOver_text 0
  | .generic name arguments, h =>
    (name.passesOver_text 0).append (arguments.passesOver_text h).angles
  | .array element commas, h => (element.passesOver_text h).append (passesOver_brackets commas 0)
  | .nullable type, h => (type.passesOver_text h).append (passesOver_singleton (by decide))
  | .tuple first others, _ => TypeExpr.passesOver_tuple first others 0

theorem TypeList.passesOver_text : (types : TypeList) → types.exposesComma = false →
    PassesOver 0 types.text
  | .last type, h => type.passesOver_text h
  | .cons .., h => absurd h.symm Bool.false_ne_true

end

/-- The text has a comma that divides the arguments of a call. -/
def DividesArguments (text : List Char) : Prop :=
  ∃ front back, text = front ++ ',' :: back ∧ PassesOver 0 front

theorem DividesArguments.append_right {text : List Char} (htext : DividesArguments text)
    (after : List Char) : DividesArguments (text ++ after) := by
  obtain ⟨front, back, rfl, hfront⟩ := htext
  exact ⟨front, back ++ after, List.append_assoc .., hfront⟩

theorem DividesArguments.append_left {before text : List Char} (hbefore : PassesOver 0 before)
    (htext : DividesArguments text) : DividesArguments (before ++ text) := by
  obtain ⟨front, back, rfl, hfront⟩ := htext
  exact ⟨before ++ front, back, (List.append_assoc ..).symm, hbefore.append hfront⟩

mutual

/-- A comma that stands in angle brackets only divides the arguments. -/
theorem TypeExpr.dividesArguments : (type : TypeExpr) → type.exposesComma = true →
    DividesArguments type.text
  | .named _, h => absurd h Bool.false_ne_true
  | .generic name arguments, h => by
    have hangle : PassesOver 0 ['<'] := passesOver_singleton (by decide)
    have harguments := (arguments.dividesArguments h).append_left hangle
    exact (harguments.append_right ['>']).append_left (name.passesOver_text 0)
  | .array element _, h => (element.dividesArguments h).append_right _
  | .nullable type, h => (type.dividesArguments h).append_right _
  | .tuple .., h => absurd h Bool.false_ne_true

theorem TypeList.dividesArguments : (types : TypeList) → types.exposesComma = true →
    DividesArguments types.text
  | .last type, h => type.dividesArguments h
  | .cons type rest, _ => by
    rw [TypeList.text, List.append_assoc]
    cases hfirst : type.exposesComma with
    | true => exact (type.dividesArguments hfirst).append_right _
    | false => exact ⟨type.text, ' ' :: rest.text, rfl, type.passesOver_text hfirst⟩

end

theorem TypeName.startsSolid_text (name : TypeName) : StartsSolid name.text := by
  unfold TypeName.text
  split
  · exact startsSolid_of_isWordChar (by decide) _
  · obtain ⟨c, letters, hletters⟩ := List.exists_cons_of_ne_nil name.first.ne_nil
    have hc : Text.isWordChar c = true := name.first.isWordChar c (hletters ▸ List.mem_cons_self)
    rw [hletters]
    exact startsSolid_of_isWordChar hc _

/-- The parentheses of a type are those of its tuples, which open onto their first types. -/
theorem typeClosed_hollowFree : TypeClosed fun text ↦ StartsSolid text ∧ HollowFree text := by
  have hname : ∀ name : TypeName, HollowFree name.text := by
    intro name
    apply hollowFree_of_not_mem
    intro hmem
    exact absurd (name.mem_text hmem) (by decide)
  constructor
  · intro name
    exact ⟨name.startsSolid_text, hname name⟩
  · rintro name arguments ⟨-, harguments⟩
    have hopen : HollowFree ['<'] := hollowFree_of_not_mem (by decide)
    have hclose : HollowFree ['>'] := hollowFree_of_not_mem (by decide)
    refine ⟨name.startsSolid_text.append _, ?_⟩
    exact (hname name).append ((hopen.append harguments).append hclose)
  · rintro element commas ⟨hsolid, helement⟩
    refine ⟨hsolid.append _, helement.append (hollowFree_of_not_mem ?_)⟩
    simp [List.mem_replicate]
  · rintro type ⟨hsolid, htype⟩
    exact ⟨hsolid.append _, htype.append (hollowFree_of_not_mem (by decide))⟩
  · rintro types ⟨hsolid, htypes⟩
    refine ⟨⟨'(', types ++ [')'], rfl, by decide, by decide⟩, ?_⟩
    exact (htypes.cons hsolid).append (hollowFree_of_not_mem (by decide))
  · rintro type rest ⟨hsolid, htype⟩ ⟨-, hrest⟩
    have hcomma : HollowFree ", ".toList := hollowFree_of_not_mem (by decide)
    exact ⟨(hsolid.append _).append _, (htype.append hcomma).append hrest⟩

end GuardedProxy

import GuardedProxy.Compilation
import GuardedProxy.Proofs.Text

/-!
# Clauses as the stub spells them

The stub has one statement for each clause: the text of the clause and a semicolon. Blanks around a
clause, its own semicolon and the blanks before that are not in the text. Everything that is read
off a clause is read off its text, so a description whose clauses are spelled differently, with the
same texts, has the same proxy and the same stub. In particular the statements of the stub can take
the place of the clauses that it was made from.
-/

namespace GuardedProxy

namespace Text

/-- Where nothing is to be trimmed, nothing is to be trimmed at the end. -/
theorem trimEnd_of_trim_eq {cs : List Char} (hcs : trim cs = cs) : trimEnd cs = cs := by
  rcases trim_cases cs with hnil | ⟨c, rest, hblank, hcons⟩
  · rw [← hcs, hnil]
    rfl
  · have hstart : trimStart cs = cs := by
      rw [← hcs, hcons]
      exact List.dropWhile_cons_of_neg (by simp [hblank])
    rwa [trim, hstart] at hcs

theorem trim_append_singleton {cs : List Char} {last : Char} (hcs : trim cs = cs)
    (hlast : isBlank last = false) : trim (cs ++ [last]) = cs ++ [last] := by
  rcases trim_cases cs with hnil | ⟨c, rest, hblank, hcons⟩
  · rw [← hcs, hnil]
    simp [trim, trimStart, trimEnd, hlast]
  · rw [← hcs, hcons]
    exact trim_eq_self hblank hlast

end Text

namespace Clause

theorem trim_text (clause : Clause) : Text.trim clause.text.toList = clause.text.toList := by
  dsimp only [text]
  split
  · rw [String.toList_ofList]
    rcases Text.trim_cases clause.source.toList with hnil | ⟨c, rest, hblank, hcons⟩
    · rw [hnil]
      rfl
    · rw [hcons]
      cases rest with
      | nil => rfl
      | cons next rest =>
        have hstart : Text.trimStart (c :: (next :: rest).dropLast) =
            c :: (next :: rest).dropLast :=
          List.dropWhile_cons_of_neg (by simp [hblank])
        have htrim := Text.trim_trim (c :: (next :: rest).dropLast)
        rwa [Text.trim.eq_1 (c :: (next :: rest).dropLast), hstart] at htrim
  · rw [String.toList_ofList]
    exact Text.trim_trim _

/-- The statement that the stub has for a clause. -/
def statement (source : String) : String := (Clause.mk source 0).text ++ ";"

/-- The text does not depend on the position. -/
theorem text_mk (source : String) (position : Nat) :
    (Clause.mk source position).text = (Clause.mk source 0).text := rfl

/-- One semicolon is taken off, and it is the one of the statement. -/
theorem text_statement (source : String) :
    (Clause.mk (statement source) 0).text = (Clause.mk source 0).text := by
  have htrim := (Clause.mk source 0).trim_text
  have hsource : (Clause.mk (statement source) 0).source.toList =
      (Clause.mk source 0).text.toList ++ [';'] := String.toList_append
  rw [text, hsource, Text.trim_append_singleton htrim (by decide), List.getLast?_concat,
    if_pos rfl, List.dropLast_concat, Text.trimEnd_of_trim_eq htrim, String.ofList_toList]

variable {clause other : Clause}

/-- Only the text of a clause counts, not how it is spelled. -/
theorem compile_congr (htext : clause.text = other.text) (member : Member)
    (naming : NamingScheme) : clause.compile member naming = other.compile member naming := by
  have hform : clause.form = other.form := by
    rw [form, form, htext]
  have hguard (form : ClauseForm) : clause.compileGuard member naming form =
      other.compileGuard member naming form := by
    rw [compileGuard, compileGuard, invocation, invocation, htext]
  rw [compile, compile, hform]
  unfold compileAs
  simp only [htext, hguard]

/-- The clause with another spelling. -/
def respell (spell : String → String) (clause : Clause) : Clause :=
  ⟨spell clause.source, clause.position⟩

theorem ofStatements_map (spell : String → String) (statements : List String) :
    ofStatements (statements.map spell) = (ofStatements statements).map (respell spell) := by
  rw [ofStatements, List.zipIdx_map, List.map_map, ofStatements, List.map_map]
  rfl

end Clause

/-- The new spelling of a clause has the text of the old one. -/
def KeepsText (spell : String → String) : Prop :=
  ∀ source, (Clause.mk (spell source) 0).text = (Clause.mk source 0).text

theorem keepsText_statement : KeepsText Clause.statement := Clause.text_statement

variable {spell : String → String}

theorem KeepsText.text_respell (hspell : KeepsText spell) (clause : Clause) :
    (clause.respell spell).text = clause.text :=
  calc (clause.respell spell).text
      = (Clause.mk (spell clause.source) 0).text := Clause.text_mk _ _
    _ = (Clause.mk clause.source 0).text := hspell clause.source
    _ = clause.text := (Clause.text_mk _ _).symm

namespace MemberBody

theorem insertByPosition_map_respell (spell : String → String) (clause : Clause)
    (clauses : List Clause) :
    insertByPosition (clause.respell spell) (clauses.map (Clause.respell spell)) =
      (insertByPosition clause clauses).map (Clause.respell spell) := by
  induction clauses with
  | nil => rfl
  | cons next rest ih =>
    rw [List.map_cons, insertByPosition, insertByPosition, ih]
    by_cases hposition : clause.position ≤ next.position
    · rw [if_pos hposition]
      exact if_pos hposition
    · rw [if_neg hposition]
      exact if_neg hposition

/-- The order of clauses does not depend on their spelling. -/
theorem inOrder_map_respell (spell : String → String) (clauses : List Clause) :
    inOrder (clauses.map (Clause.respell spell)) =
      (inOrder clauses).map (Clause.respell spell) := by
  induction clauses with
  | nil => rfl
  | cons clause rest ih =>
    calc inOrder ((clause :: rest).map (Clause.respell spell))
        = insertByPosition (clause.respell spell)
            (inOrder (rest.map (Clause.respell spell))) := rfl
      _ = (inOrder (clause :: rest)).map (Clause.respell spell) := by
          rw [ih]
          exact insertByPosition_map_respell spell clause (inOrder rest)

/-- Clauses in another spelling give the same body and the same events. -/
theorem assemble_map_respell (hspell : KeepsText spell) (member : Member) (naming : NamingScheme)
    (clauses : List Clause) :
    assemble member naming (clauses.map (Clause.respell spell)) =
      assemble member naming clauses := by
  have hcompile (clause : Clause) : (clause.respell spell).compile member naming =
      clause.compile member naming :=
    Clause.compile_congr (hspell.text_respell clause) member naming
  simp only [assemble, inOrder_map_respell, List.map_map, Function.comp_def, hcompile]

end MemberBody

/-- The description with another spelling of every clause. -/
def MemberDescription.respell (spell : String → String) : MemberDescription → MemberDescription
  | .method described => .method { described with clauses := described.clauses.map spell }
  | .property described =>
    .property { described with
      getter := described.getter.map (List.map spell)
      setter := described.setter.map (List.map spell) }

def Description.respell (spell : String → String) (description : Description) : Description :=
  { description with members := description.members.map (MemberDescription.respell spell) }

namespace ClassWriter

theorem forEach_map {α β : Type} (write : β → WriteM Unit) (f : α → β) (values : List α) :
    forEach write (values.map f) = forEach (fun value ↦ write (f value)) values := by
  induction values with
  | nil => rfl
  | cons value rest ih => rw [List.map_cons, forEach, ih, forEach]

theorem writeMemberBody_map (hspell : KeepsText spell) (header : String) (member : Member)
    (clauses : List String) :
    writeMemberBody header member (clauses.map spell) = writeMemberBody header member clauses := by
  simp only [writeMemberBody, assemble, Clause.ofStatements_map,
    MemberBody.assemble_map_respell hspell]

theorem writeAccessor_map (hspell : KeepsText spell) (header : String) (member : Member)
    (accessor : Option (List String)) :
    writeAccessor header member (accessor.map (List.map spell)) =
      writeAccessor header member accessor := by
  cases accessor with
  | none => rfl
  | some clauses => exact writeMemberBody_map hspell header member clauses

/-- A member of the proxy class is the same in another spelling. -/
theorem writeMember_respell (hspell : KeepsText spell) (member : MemberDescription) :
    writeMember (member.respell spell) = writeMember member := by
  cases member with
  | method described =>
    simp only [writeMember, MemberDescription.respell, writeMethod, writeMemberBody_map hspell]
    rfl
  | property described =>
    simp only [writeMember, MemberDescription.respell, writeProperty, writeAccessor_map hspell]
    rfl

theorem writeStubBody_map (hspell : KeepsText spell) (header : String) (clauses : List String)
    (returns : ReturnType) :
    writeStubBody header (clauses.map spell) returns = writeStubBody header clauses returns := by
  simp only [writeStubBody, List.isEmpty_map, forEach_map, hspell _]

theorem writeStubAccessor_map (hspell : KeepsText spell) (header : String) (returns : ReturnType)
    (accessor : Option (List String)) :
    writeStubAccessor header returns (accessor.map (List.map spell)) =
      writeStubAccessor header returns accessor := by
  cases accessor with
  | none => rfl
  | some clauses => exact writeStubBody_map hspell header clauses returns

theorem writeStub_respell (hspell : KeepsText spell) (member : MemberDescription) :
    writeStub (member.respell spell) = writeStub member := by
  cases member with
  | method described => exact writeStubBody_map hspell _ _ _
  | property described =>
    simp only [writeStub, MemberDescription.respell, writeStubAccessor_map hspell]
    rfl

theorem writeStubs_map (hspell : KeepsText spell) (members : List MemberDescription) :
    writeStubs (members.map (MemberDescription.respell spell)) = writeStubs members := by
  cases members with
  | nil => rfl
  | cons member rest =>
    simp only [List.map_cons, writeStubs, forEach_map, writeStub_respell hspell]

/-- Both classes are written from the texts of the clauses, whatever their spelling. -/
theorem classText_respell (hspell : KeepsText spell) (kind : ClassKind)
    (description : Description) :
    classText kind (description.respell spell) = classText kind description := by
  cases kind with
  | proxy =>
    have hmembers : forEach writeMember (description.respell spell).members =
        forEach writeMember description.members := by
      rw [Description.respell, forEach_map]
      simp only [writeMember_respell hspell]
    simp only [classText, proxyText, writeProxyClass, hmembers]
    rfl
  | contract =>
    have hmembers : writeStubs (description.respell spell).members =
        writeStubs description.members := writeStubs_map hspell description.members
    simp only [classText, contractText, writeContractClass, hmembers]
    rfl

/-- With the statements of its stub in place of its clauses, a description has the same proxy and
the same stub: any writer ends in the same text or failure, with the same bodies and the same
events. -/
theorem run_classText_statements (kind : ClassKind) (description : Description)
    (writer : ClassWriter) :
    (classText kind (description.respell Clause.statement)).run.run writer =
      (classText kind description).run.run writer := by
  rw [classText_respell keepsText_statement]

end ClassWriter

end GuardedProxy

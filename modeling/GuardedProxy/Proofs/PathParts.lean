import GuardedProxy.FileTree
import Mathlib.Data.List.Basic

/-!
# The parts of a path

A slash divides a path into the parts before it and the parts behind it. So the name that a path
ends in stands behind its last directory, slashes and single dots behind the name apart, and it has
no slash of its own. A name without a slash that is joined to a directory is one more part of it.
-/

namespace GuardedProxy.Path

theorem splitSlashes_ne_nil (cs : List Char) : splitSlashes cs ≠ [] := by
  cases cs with
  | nil => simp [splitSlashes]
  | cons c rest =>
    rw [splitSlashes]
    split
    · simp
    · split <;> simp

theorem splitSlashes_slash (rest : List Char) :
    splitSlashes ('/' :: rest) = [] :: splitSlashes rest := by
  obtain ⟨part, parts, hparts⟩ := List.exists_cons_of_ne_nil (splitSlashes_ne_nil rest)
  simp [splitSlashes, hparts]

theorem splitSlashes_cons {c : Char} (hc : c ≠ '/') {rest part : List Char}
    {parts : List (List Char)} (hparts : splitSlashes rest = part :: parts) :
    splitSlashes (c :: rest) = (c :: part) :: parts := by
  simp [splitSlashes, hparts, hc]

theorem splitSlashes_append (front back : List Char) :
    splitSlashes (front ++ '/' :: back) = splitSlashes front ++ splitSlashes back := by
  induction front with
  | nil => exact splitSlashes_slash back
  | cons c front ih =>
    by_cases hc : c = '/'
    · subst hc
      rw [List.cons_append, splitSlashes_slash, ih, splitSlashes_slash, List.cons_append]
    · obtain ⟨part, parts, hparts⟩ := List.exists_cons_of_ne_nil (splitSlashes_ne_nil front)
      rw [hparts, List.cons_append] at ih
      rw [List.cons_append, splitSlashes_cons hc ih, splitSlashes_cons hc hparts, List.cons_append]

theorem splitSlashes_of_not_mem {cs : List Char} (hcs : '/' ∉ cs) : splitSlashes cs = [cs] := by
  induction cs with
  | nil => rfl
  | cons c rest ih =>
    rw [List.mem_cons, not_or] at hcs
    exact splitSlashes_cons (Ne.symm hcs.1) (ih hcs.2)

theorem not_mem_of_mem_splitSlashes {cs part : List Char} (hpart : part ∈ splitSlashes cs) :
    '/' ∉ part := by
  induction cs generalizing part with
  | nil => simp_all [splitSlashes]
  | cons c rest ih =>
    obtain ⟨first, others, hfirst⟩ := List.exists_cons_of_ne_nil (splitSlashes_ne_nil rest)
    rw [hfirst] at ih
    by_cases hc : c = '/'
    · subst hc
      rw [splitSlashes_slash, hfirst, List.mem_cons] at hpart
      rcases hpart with rfl | hpart
      · exact List.not_mem_nil
      · exact ih hpart
    · rw [splitSlashes_cons hc hfirst, List.mem_cons] at hpart
      rcases hpart with rfl | hpart
      · rw [List.mem_cons, not_or]
        exact ⟨Ne.symm hc, ih List.mem_cons_self⟩
      · exact ih (List.mem_cons_of_mem _ hpart)

/-- All stretches of a path. The parts of a path and its steps are those that name something. -/
def stretches (path : String) : List String := (splitSlashes path.toList).map String.ofList

theorem parts_eq (path : String) :
    parts path = (stretches path).filter fun part ↦ part ≠ "" ∧ part ≠ "." := rfl

theorem steps_eq (path : String) : FileTree.steps path = (stretches path).filter (· ≠ "") := rfl

theorem stretches_empty : stretches "" = [""] := rfl

/-- A path with a slash in it has the stretches of both sides. -/
theorem stretches_append_slash {path front back : String}
    (hpath : path.toList = front.toList ++ '/' :: back.toList) :
    stretches path = stretches front ++ stretches back := by
  rw [stretches, hpath, splitSlashes_append, List.map_append, stretches, stretches]

theorem stretches_of_not_mem {name : String} (hname : '/' ∉ name.toList) :
    stretches name = [name] := by
  rw [stretches, splitSlashes_of_not_mem hname, List.map_singleton, String.ofList_toList]

/-- No part of a path has a slash in it. -/
theorem not_mem_of_mem_parts {path part : String} (hpart : part ∈ parts path) :
    '/' ∉ part.toList := by
  obtain ⟨stretch, hstretch, rfl⟩ := List.mem_map.mp (List.mem_filter.mp hpart).1
  rw [String.toList_ofList]
  exact not_mem_of_mem_splitSlashes hstretch

/-- The text can stand right before a name: it is empty or ends in a slash. -/
def IsFront (front : String) : Prop := front = "" ∨ FileTree.endsInSlash front = true

/-- The text names nothing behind a name: it is empty or slashes, with single dots between them. -/
def IsTail (tail : String) : Prop := tail = "" ∨ isAbsolute tail = true ∧ parts tail = []

/-- Whatever is kept of the stretches, if no empty one is, a front and what follows it keep theirs. -/
theorem IsFront.filter_stretches {front : String} (hfront : IsFront front) {keep : String → Bool}
    (hkeep : keep "" = false) (name : String) :
    (stretches (front ++ name)).filter keep =
      (stretches front).filter keep ++ (stretches name).filter keep := by
  have hempty : (stretches "").filter keep = [] := by
    rw [stretches_empty, List.filter_cons_of_neg (by simp [hkeep]), List.filter_nil]
  rcases hfront with rfl | hslash
  · rw [String.empty_append, hempty, List.nil_append]
  · -- the slash at the end of the front leaves an empty stretch behind it
    obtain ⟨before, hbefore⟩ := List.getLast?_eq_some_iff.mp (of_decide_eq_true hslash)
    have hsplit : stretches (front ++ name) = stretches (String.ofList before) ++ stretches name := by
      apply stretches_append_slash
      simp [hbefore]
    have hself : stretches front = stretches (String.ofList before) ++ stretches "" := by
      apply stretches_append_slash
      simp [hbefore]
    rw [hsplit, hself, List.filter_append, List.filter_append, hempty, List.append_nil]

/-- A name behind a front that ends a part adds its parts. -/
theorem IsFront.parts_append {front : String} (hfront : IsFront front) (name : String) :
    parts (front ++ name) = parts front ++ parts name :=
  hfront.filter_stretches (by decide) name

theorem IsFront.steps_append {front : String} (hfront : IsFront front) (name : String) :
    FileTree.steps (front ++ name) = FileTree.steps front ++ FileTree.steps name :=
  hfront.filter_stretches (by decide) name

/-- Slashes and dots at the end add no part. -/
theorem IsTail.parts_append {tail : String} (htail : IsTail tail) (path : String) :
    parts (path ++ tail) = parts path := by
  rcases htail with rfl | ⟨hslash, hparts⟩
  · rw [String.append_empty]
  · obtain ⟨after, hafter⟩ := List.head?_eq_some_iff.mp (of_decide_eq_true hslash)
    have hsplit : stretches (path ++ tail) = stretches path ++ stretches (String.ofList after) := by
      apply stretches_append_slash
      simp [hafter]
    have hself : stretches tail = stretches "" ++ stretches (String.ofList after) := by
      apply stretches_append_slash
      simp [hafter]
    rw [parts_eq, hself, List.filter_append] at hparts
    rw [parts_eq, hsplit, List.filter_append, (List.append_eq_nil_iff.mp hparts).2, List.append_nil,
      parts_eq]

/-- The text names one entry of a directory. -/
structure IsName (name : String) : Prop where
  not_slash : '/' ∉ name.toList
  ne_empty : name ≠ ""
  ne_dot : name ≠ "."
  ne_dots : name ≠ ".."

theorem IsName.parts_eq_singleton {name : String} (hname : IsName name) : parts name = [name] := by
  rw [parts_eq, stretches_of_not_mem hname.not_slash]
  simp [hname.ne_empty, hname.ne_dot]

theorem IsName.steps_eq_singleton {name : String} (hname : IsName name) :
    FileTree.steps name = [name] := by
  rw [steps_eq, stretches_of_not_mem hname.not_slash]
  simp [hname.ne_empty]

theorem IsName.isAbsolute_eq_false {name : String} (hname : IsName name) :
    isAbsolute name = false := by
  rw [isAbsolute, decide_eq_false_iff_not]
  exact fun hslash ↦ hname.not_slash (List.mem_of_head? hslash)

/-- A path ends in the name that stands between a front and a tail. -/
theorem lastName_eq_some {front name tail : String} (hfront : IsFront front) (hname : IsName name)
    (htail : IsTail tail) : lastName (front ++ name ++ tail) = some name := by
  rw [lastName, htail.parts_append, hfront.parts_append, hname.parts_eq_singleton,
    List.getLast?_concat, Option.filter_some]
  simp [hname.ne_dots]

theorem not_mem_of_lastName {path name : String} (hname : lastName path = some name) :
    '/' ∉ name.toList :=
  not_mem_of_mem_parts (List.mem_of_getLast? (Option.filter_eq_some_iff.mp hname).1)

/-- A stem is a name less its last dot and what follows it, if something stands before that dot. -/
theorem stem_eq {front extension : List Char} (hfront : front ≠ []) (hdot : '.' ∉ extension) :
    stem (String.ofList (front ++ '.' :: extension)) = String.ofList front := by
  have hreverse : (front ++ '.' :: extension).reverse = extension.reverse ++ '.' :: front.reverse := by
    simp
  have hskip : ∀ c ∈ extension.reverse, decide (c ≠ '.') = true := by
    intro c hc
    rw [decide_eq_true_eq]
    rintro rfl
    exact hdot (List.mem_reverse.mp hc)
  obtain ⟨c, cs, hcs⟩ := List.exists_cons_of_ne_nil (List.reverse_ne_nil_iff.mpr hfront)
  rw [stem, String.toList_ofList, hreverse, List.dropWhile_append_of_pos hskip,
    List.dropWhile_cons_of_neg (by decide), List.tail_cons, hcs]
  simp only
  rw [← hcs, List.reverse_reverse]

/-- The stem is made of characters of the name. -/
theorem mem_of_mem_stem {name : String} {c : Char} (hc : c ∈ (stem name).toList) :
    c ∈ name.toList := by
  rw [stem] at hc
  split at hc
  · exact hc
  · next first rest hstem =>
    rw [String.toList_ofList, List.mem_reverse, ← hstem] at hc
    exact List.mem_reverse.mp ((List.dropWhile_sublist _).subset (List.mem_of_mem_tail hc))

theorem steps_append_slash (directory : String) :
    FileTree.steps (directory ++ "/") = FileTree.steps directory := by
  have hsplit : stretches (directory ++ "/") = stretches directory ++ stretches "" := by
    apply stretches_append_slash
    simp
  rw [steps_eq, hsplit, stretches_empty, List.filter_append, steps_eq]
  simp

theorem isAbsolute_append {front : String} (hfront : front ≠ "") (back : String) :
    isAbsolute (front ++ back) = isAbsolute front := by
  have hnonempty : front.toList ≠ [] := fun hnil ↦ hfront (String.toList_eq_nil_iff.mp hnil)
  rw [isAbsolute, String.toList_append, List.head?_append_of_ne_nil _ hnonempty, isAbsolute]

/-- A name seen from a directory is written behind a front that leads where the directory does. -/
theorem exists_join_eq (directory : String) {name : String} (hname : IsName name) :
    ∃ front, join directory name = front ++ name ∧ IsFront front ∧
      FileTree.steps front = FileTree.steps directory ∧ isAbsolute front = isAbsolute directory := by
  rw [join, if_neg (Bool.not_eq_true _ ▸ hname.isAbsolute_eq_false)]
  cases hlast : directory.toList.getLast? with
  | none =>
    have hempty : directory = "" := String.toList_eq_nil_iff.mp (List.getLast?_eq_none_iff.mp hlast)
    exact ⟨directory, rfl, Or.inl hempty, rfl, rfl⟩
  | some last =>
    by_cases hslash : last = '/'
    · subst hslash
      exact ⟨directory, rfl, Or.inr (decide_eq_true hlast), rfl, rfl⟩
    · -- the slash that is put in adds an empty stretch, which is no step
      have hfront : IsFront (directory ++ "/") := Or.inr (by simp [FileTree.endsInSlash])
      have hnonempty : directory ≠ "" := by
        rintro rfl
        simp at hlast
      exact ⟨directory ++ "/", if_neg (by simpa using hslash), hfront, steps_append_slash directory,
        isAbsolute_append hnonempty "/"⟩

/-- A name in a directory is one step further. -/
theorem steps_join (directory : String) {name : String} (hname : IsName name) :
    FileTree.steps (join directory name) = FileTree.steps directory ++ [name] := by
  obtain ⟨front, hjoin, hfront, hsteps, -⟩ := exists_join_eq directory hname
  rw [hjoin, hfront.steps_append, hsteps, hname.steps_eq_singleton]

/-- A file has an absolute path exactly if its directory has. -/
theorem isAbsolute_join (directory : String) {name : String} (hname : IsName name) :
    isAbsolute (join directory name) = isAbsolute directory := by
  obtain ⟨front, hjoin, -, -, habsolute⟩ := exists_join_eq directory hname
  rw [hjoin, ← habsolute]
  by_cases hempty : front = ""
  · rw [hempty, String.empty_append, hname.isAbsolute_eq_false]
    rfl
  · exact isAbsolute_append hempty name

end GuardedProxy.Path

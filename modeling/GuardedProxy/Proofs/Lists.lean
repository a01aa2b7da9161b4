import Mathlib.Data.List.Basic

/-!
# Lists

How a list that is put together in two ways can be taken apart again, what stands between the items
of a list that has a separator, and which item of a sorted list is found first.
-/

namespace GuardedProxy.Lists

variable {α : Type}

/-- An item of two lists in a row stands in the second one or in the first. -/
theorem append_cons_cases {front back left right : List α} {item : α}
    (heq : front ++ back = left ++ item :: right) :
    (∃ between, left = front ++ between ∧ back = between ++ item :: right) ∨
      ∃ within, front = left ++ item :: within ∧ right = within ++ back := by
  rcases List.append_eq_append_iff.mp heq with ⟨between, hleft, hback⟩ | ⟨within, rfl, hwithin⟩
  · exact Or.inl ⟨between, hleft, hback⟩
  · cases within with
    | nil => exact Or.inl ⟨[], by rw [List.append_nil, List.append_nil], hwithin.symm⟩
    | cons first within =>
      obtain ⟨rfl, hright⟩ := List.cons.inj hwithin
      exact Or.inr ⟨within, rfl, hright⟩

/-- A list is divided in one way at the last place of an item. -/
theorem eq_of_append_cons_eq {left right first second : List α} {item : α}
    (hfirst : item ∉ first) (hsecond : item ∉ second)
    (heq : left ++ item :: first = right ++ item :: second) : first = second := by
  rcases append_cons_cases heq with ⟨between, -, hbetween⟩ | ⟨within, -, hwithin⟩
  · cases between with
    | nil => exact (List.cons.inj hbetween).2
    | cons other between =>
      rw [(List.cons.inj hbetween).2] at hfirst
      exact absurd (List.mem_append_right _ List.mem_cons_self) hfirst
  · rw [hwithin] at hsecond
    exact absurd (List.mem_append_right _ List.mem_cons_self) hsecond

/-- A word that is marked at its first letter only does not reach into the next mark. -/
theorem isPrefix_of_append_mark {mark : α} {letters front back : List α} (hmark : mark ∉ letters)
    (hfront : front ≠ []) (hstart : mark :: letters <+: front ++ mark :: back) :
    mark :: letters <+: front := by
  rcases List.prefix_or_prefix_of_prefix hstart (List.prefix_append front (mark :: back)) with
    hwithin | ⟨beyond, hbeyond⟩
  · exact hwithin
  · rw [← hbeyond, List.prefix_append_right_inj] at hstart
    obtain ⟨first, others, rfl⟩ := List.exists_cons_of_ne_nil hfront
    cases beyond with
    | nil => exact ⟨[], by rw [← hbeyond, List.append_nil, List.append_nil]⟩
    | cons next beyond =>
      -- the word would go on with the mark of the next one
      obtain rfl : next = mark := (List.cons_prefix_cons.mp hstart).1
      have hletters := (List.cons.inj hbeyond).2
      exact absurd (hletters ▸ List.mem_append_right others List.mem_cons_self) hmark

/-- Between any two values is before every value but the first. -/
theorem intersperse_cons (separator first : α) (rest : List α) :
    (first :: rest).intersperse separator =
      first :: rest.flatMap fun value ↦ [separator, value] := by
  induction rest generalizing first with
  | nil => rfl
  | cons next rest ih =>
    rw [List.intersperse_cons_cons, ih, List.flatMap_cons]
    rfl

theorem eq_or_mem_of_mem_intersperse {separator value : α} {values : List α}
    (hvalue : value ∈ values.intersperse separator) : value = separator ∨ value ∈ values := by
  cases values with
  | nil => exact absurd hvalue List.not_mem_nil
  | cons first rest =>
    rw [intersperse_cons, List.mem_cons, List.mem_flatMap] at hvalue
    rcases hvalue with rfl | ⟨other, hother, hvalue⟩
    · exact Or.inr List.mem_cons_self
    · rcases List.mem_cons.mp hvalue with rfl | hvalue
      · exact Or.inl rfl
      · rw [List.mem_singleton.mp hvalue]
        exact Or.inr (List.mem_cons_of_mem _ hother)

theorem isInfix_intercalate (separator : List α) {pieces : List (List α)} {piece : List α}
    (hpiece : piece ∈ pieces) : piece <:+: separator.intercalate pieces := by
  induction pieces with
  | nil => exact absurd hpiece List.not_mem_nil
  | cons first rest ih =>
    cases rest with
    | nil => simp [List.mem_singleton.mp hpiece]
    | cons next rest =>
      rw [List.intercalate_cons_cons]
      rcases List.mem_cons.mp hpiece with rfl | hrest
      · exact ⟨[], separator ++ separator.intercalate (next :: rest), by simp⟩
      · exact (ih hrest).trans (List.suffix_append _ _).isInfix

theorem modifyHead_nil_append (parts : List (List α)) :
    parts.modifyHead (([] : List α) ++ ·) = parts := by
  cases parts <;> rfl

/-- In a sorted list, the first item that is found comes before every other one that could be. -/
theorem exists_first_of_find?_filterMap {β : Type} {before : α → α → Prop}
    {select : α → Option β} {accepts : β → Bool} {found : β} {items : List α}
    (hsorted : items.Pairwise before)
    (hfind : (items.filterMap select).find? accepts = some found) :
    ∃ item ∈ items, select item = some found ∧ accepts found = true ∧
      ∀ other ∈ items, ∀ value, select other = some value → accepts value = true →
        other = item ∨ before item other := by
  induction items with
  | nil => simp at hfind
  | cons item items ih =>
    obtain ⟨hitem, hitems⟩ := List.pairwise_cons.mp hsorted
    by_cases hhere : ∃ value, select item = some value ∧ accepts value = true
    · -- the head is found, and the order puts it before the rest
      obtain ⟨value, hselect, haccepts⟩ := hhere
      rw [List.filterMap_cons_some hselect, List.find?_cons_of_pos haccepts] at hfind
      obtain rfl := Option.some.inj hfind
      refine ⟨item, List.mem_cons_self, hselect, haccepts, ?_⟩
      intro other hother _ _ _
      exact (List.mem_cons.mp hother).imp_right (hitem other)
    · have hrest : (items.filterMap select).find? accepts = some found := by
        cases hselect : select item with
        | none => rwa [List.filterMap_cons_none hselect] at hfind
        | some value =>
          have haccepts : ¬accepts value = true := fun h ↦ hhere ⟨value, hselect, h⟩
          rwa [List.filterMap_cons_some hselect, List.find?_cons_of_neg haccepts] at hfind
      obtain ⟨first, hfirst, hselect, haccepts, hleast⟩ := ih hitems hrest
      refine ⟨first, List.mem_cons_of_mem _ hfirst, hselect, haccepts, ?_⟩
      intro other hother value hvalue hok
      rcases List.mem_cons.mp hother with rfl | hother
      · exact absurd ⟨value, hvalue, hok⟩ hhere
      · exact hleast other hother value hvalue hok

end GuardedProxy.Lists

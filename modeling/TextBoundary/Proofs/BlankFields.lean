import Mathlib.Data.List.DropRight
import TextBoundary.Blank

namespace TextBoundary.Blank

variable {b c d : Char} {cs run rest gap field part name : List Char} {others : List (List Char)}

abbrev Blanks (cs : List Char) : Prop := ∀ c ∈ cs, isBlank c

/-- A part of a text and what is left of it without the blanks at both ends. -/
structure Trims (part name : List Char) : Prop where
  around : ∃ front back, part = front ++ (name ++ back) ∧ Blanks front ∧ Blanks back
  first : ∀ c ∈ name.head?, isBlank c = false
  last : ∀ c ∈ name.getLast?, isBlank c = false

theorem trims_trim (part : List Char) : Trims part (trim part) := by
  have hback : trim part ++ (part.dropWhile isBlank).rtakeWhile isBlank = part.dropWhile isBlank :=
    List.rdropWhile_append_rtakeWhile
  refine ⟨⟨part.takeWhile isBlank, (part.dropWhile isBlank).rtakeWhile isBlank, ?_, ?_, ?_⟩, ?_, ?_⟩
  · rw [hback, List.takeWhile_append_dropWhile]
  · exact fun c hc => List.mem_takeWhile_imp hc
  · exact fun c hc => List.mem_rtakeWhile_imp hc
  · intro c hc
    have hhead : (part.dropWhile isBlank).head? = some c := by
      obtain ⟨rest, hrest⟩ := List.head?_eq_some_iff.mp hc
      rw [← hback, hrest]
      rfl
    have hnot := List.head?_dropWhile_not isBlank part
    rwa [hhead] at hnot
  · intro c hc
    obtain ⟨hne, rfl⟩ := List.mem_getLast?_eq_getLast hc
    exact Bool.eq_false_iff.mpr (List.rdropWhile_last_not isBlank (part.dropWhile isBlank) hne)

theorem Trims.trim_eq (h : Trims part name) : trim part = name := by
  obtain ⟨⟨front, back, rfl, hfront, hback⟩, hfirst, hlast⟩ := h
  rw [trim, List.dropWhile_append_of_pos hfront]
  rcases List.eq_nil_or_concat' name with rfl | ⟨body, d, rfl⟩
  · rw [List.nil_append, List.dropWhile_eq_nil_iff.mpr hback]
    rfl
  have hd : isBlank d = false := hlast d List.getLast?_concat
  have hbegin : (body ++ [d] ++ back).dropWhile isBlank = body ++ [d] ++ back := by
    cases body with
    | nil => exact List.dropWhile_cons_of_neg (by simp [hd])
    | cons c body => exact List.dropWhile_cons_of_neg (by simp [hfirst c rfl])
  rw [hbegin, List.reverse_append, List.dropWhile_append_of_pos (by simpa using hback), List.reverse_concat,
    List.dropWhile_cons_of_neg (by simp [hd]), List.reverse_cons, List.reverse_reverse]

theorem splitOn_eq (separator : Char) (cs : List Char) : splitOn separator cs = cs.splitOn separator := by
  induction cs with
  | nil => rfl
  | cons c cs ih =>
    rw [splitOn, ih, List.splitOn_cons_eq_if_modifyHead]
    simp only [beq_iff_eq]
    cases hparts : List.splitOn separator cs with
    | nil => exact absurd hparts (List.splitOn_ne_nil _ _)
    | cons part parts => rfl

theorem fields_blank (h : isBlank b) (cs : List Char) : fields (b :: cs) = fields cs := by
  rw [fields.eq_def]
  exact if_pos h

theorem fields_last (h : isBlank c = false) (hcs : cs.head?.all isBlank) : fields (c :: cs) = [c] :: fields cs := by
  cases cs with
  | nil => simp [fields, h]
  | cons d cs =>
    rw [List.head?_cons, Option.all_some] at hcs
    simp [fields, h, hcs]

theorem fields_further (h : isBlank c = false) (hd : isBlank d = false)
    (hfields : fields (d :: cs) = field :: others) : fields (c :: d :: cs) = (c :: field) :: others := by
  rw [fields.eq_def]
  simp only [h, hd, hfields]
  rfl

theorem fields_ne_nil (h : isBlank c = false) (cs : List Char) : fields (c :: cs) ≠ [] := by
  rw [fields.eq_def]
  simp only [h, Bool.false_eq_true, if_false]
  repeat' split
  all_goals exact List.cons_ne_nil _ _

theorem fields_append_blank (h : isBlank b) (cs rest : List Char) :
    fields (cs ++ b :: rest) = fields cs ++ fields rest := by
  fun_induction fields cs with
  | case1 => exact fields_blank h rest
  | case2 c cs hc ih => rw [List.cons_append, fields_blank hc, ih]
  | case3 c hc =>
    rw [List.singleton_append, fields_last (Bool.eq_false_iff.mpr hc) (by simpa using h), fields_blank h]
    rfl
  | case4 c hc d cs hd ih =>
    rw [List.cons_append, fields_last (Bool.eq_false_iff.mpr hc) (by simpa using hd), ih, List.cons_append]
  | case5 c hc d cs hd hfields ih => exact absurd hfields (fields_ne_nil (Bool.eq_false_iff.mpr hd) cs)
  | case6 c hc d cs hd field others hfields ih =>
    rw [hfields, List.cons_append] at ih
    rw [hfields]
    exact fields_further (Bool.eq_false_iff.mpr hc) (Bool.eq_false_iff.mpr hd) ih

theorem fields_blanks_append (h : Blanks gap) (rest : List Char) : fields (gap ++ rest) = fields rest := by
  induction gap with
  | nil => rfl
  | cons c gap ih =>
    obtain ⟨hc, hgap⟩ := List.forall_mem_cons.mp h
    rw [List.cons_append, fields_blank hc, ih hgap]

theorem fields_blanks (h : Blanks gap) : fields gap = [] := by
  rw [← List.append_nil gap, fields_blanks_append h]
  rfl

theorem fields_append_blanks (h : Blanks gap) (cs : List Char) : fields (cs ++ gap) = fields cs := by
  cases gap with
  | nil => rw [List.append_nil]
  | cons b gap =>
    obtain ⟨hb, hgap⟩ := List.forall_mem_cons.mp h
    rw [fields_append_blank hb, fields_blanks hgap, List.append_nil]

theorem fields_trim (cs : List Char) : fields (trim cs) = fields cs := by
  obtain ⟨⟨front, back, hcs, hfront, hback⟩, -, -⟩ := trims_trim cs
  conv_rhs => rw [hcs, fields_blanks_append hfront, fields_append_blanks hback]

theorem fields_run (hne : run ≠ []) (h : ∀ c ∈ run, isBlank c = false) : fields run = [run] := by
  induction run with
  | nil => exact absurd rfl hne
  | cons c run ih =>
    obtain ⟨hc, hrun⟩ := List.forall_mem_cons.mp h
    cases run with
    | nil => exact fields_last hc rfl
    | cons d run => exact fields_further hc (hrun d (.head _)) (ih (List.cons_ne_nil d run) hrun)

end TextBoundary.Blank

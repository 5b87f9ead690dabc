import Mathlib.Data.List.Forall2
import TextBoundary.Proofs.BlankFields
import TextBoundary.Proofs.OneByOne
import TextBoundary.Tokenizer.Builtin

namespace TextBoundary

theorem Blank.not_mem_of_mem_splitOn {separator : Char} {part cs : List Char} (h : part ∈ splitOn separator cs) :
    separator ∉ part := by
  induction cs generalizing part with
  | nil =>
    rw [splitOn, List.mem_singleton] at h
    exact h ▸ List.not_mem_nil
  | cons c cs ih =>
    by_cases hc : c = separator
    · rw [splitOn, if_pos hc] at h
      rcases List.mem_cons.mp h with rfl | h
      · exact List.not_mem_nil
      · exact ih h
    · have hsplit := splitOn_eq separator cs
      obtain ⟨first, parts, hparts⟩ := List.exists_cons_of_ne_nil (List.splitOn_ne_nil separator cs)
      rw [hparts] at hsplit
      rw [hsplit] at ih
      rw [splitOn, if_neg hc, hsplit] at h
      rcases List.mem_cons.mp h with rfl | h
      · exact List.not_mem_cons_of_ne_of_not_mem (Ne.symm hc) (ih (.head _))
      · exact ih (.tail _ h)

namespace WordFilter

def classNames : List String := ["letter", "number", "emoji", "regional_indicator"]

def ofNames (given : List String) : WordFilter where
  letter := "letter" ∈ given
  number := "number" ∈ given
  emoji := "emoji" ∈ given
  regionalIndicator := "regional_indicator" ∈ given

/-- The names in a list: what stands between commas, less the blanks around it and what is empty then. -/
inductive Lists (list : String) : List String → Prop
  | intro {parts held : List (List Char)} (hne : parts ≠ []) (hcomma : ∀ part ∈ parts, ',' ∉ part)
    (hlist : list.toList = [','].intercalate parts) (hheld : List.Forall₂ Blank.Trims parts held) :
    Lists list ((held.filter (· ≠ [])).map String.ofList)

inductive FirstUnknown (given : List String) (name : String) : Prop
  | intro {front back : List String} (hgiven : given = front ++ name :: back)
    (hfront : ∀ earlier ∈ front, earlier ∈ classNames) (hname : name ∉ classNames)

def names (parts : List (List Char)) : List String := ((parts.map Blank.trim).filter (· ≠ [])).map String.ofList

def selectNames : WordFilter → List String → Except TextError WordFilter
  | f, [] => .ok f
  | f, name :: given =>
    match f.select? name with
    | some f => selectNames f given
    | Option.none => .error (.unknownWordCategory name)

variable {f g : WordFilter} {list a b name : String} {part : List Char} {given more : List String}

theorem lists_iff : Lists list given ↔ given = names (Blank.splitOn ',' list.toList) := by
  rw [Blank.splitOn_eq]
  constructor
  · rintro @⟨parts, held, hne, hcomma, hlist, hheld⟩
    have htrim : parts.map Blank.trim = held := by
      rw [← List.forall₂_eq_eq_eq]
      exact List.forall₂_map_left_iff.mpr (hheld.imp fun _ _ => Blank.Trims.trim_eq)
    rw [hlist, List.splitOn_intercalate ',' hcomma hne, names, htrim]
  · rintro rfl
    refine .intro (List.splitOn_ne_nil _ _) (fun part hpart => ?_) (List.intercalate_splitOn _).symm ?_
    · exact Blank.not_mem_of_mem_splitOn (Blank.splitOn_eq ',' list.toList ▸ hpart)
    · exact List.forall₂_map_right_iff.mpr (List.forall₂_same.mpr fun part _ => Blank.trims_trim part)

theorem Lists.append (ha : Lists a given) (hb : Lists b more) : Lists (a ++ "," ++ b) (given ++ more) := by
  have hlist : (a ++ "," ++ b).toList = a.toList ++ ',' :: b.toList := by simp
  rw [lists_iff] at ha hb ⊢
  rw [hlist, Blank.splitOn_eq, List.splitOn_append_cons_self, ← Blank.splitOn_eq, ← Blank.splitOn_eq, names,
    List.map_append, List.filter_append, List.map_append, ha, hb, names, names]

theorem exists_firstUnknown (h : ¬∀ name ∈ given, name ∈ classNames) : ∃ name, FirstUnknown given name := by
  obtain ⟨front, name, back, hgiven, hfront, hname⟩ := exists_first h
  exact ⟨name, hgiven, hfront, hname⟩

theorem FirstUnknown.append (h : FirstUnknown given name) (more : List String) : FirstUnknown (given ++ more) name := by
  obtain ⟨rfl, hfront, hname⟩ := h
  exact ⟨List.append_assoc .., hfront, hname⟩

@[simp] theorem union_none (f : WordFilter) : f.union none = f := by
  simp [union, none]

@[simp] theorem none_union (f : WordFilter) : none.union f = f := by
  simp [union, none]

theorem union_assoc (f g h : WordFilter) : (f.union g).union h = f.union (g.union h) := by
  simp [union, Bool.or_assoc]

@[simp] theorem ofNames_nil : ofNames [] = none := rfl

theorem ofNames_append (given more : List String) : ofNames (given ++ more) = (ofNames given).union (ofNames more) := by
  simp [ofNames, union]

theorem ofNames_congr (h : ∀ name, name ∈ given ↔ name ∈ more) : ofNames given = ofNames more := by
  simp [ofNames, h]

theorem select?_of_mem (f : WordFilter) (h : name ∈ classNames) :
    f.select? name = some (f.union (ofNames [name])) := by
  simp only [classNames, List.mem_cons, List.not_mem_nil, or_false] at h
  rcases h with rfl | rfl | rfl | rfl <;> simp [select?, union, ofNames]

theorem select?_of_not_mem (f : WordFilter) (h : name ∉ classNames) : f.select? name = Option.none := by
  simp only [classNames, List.mem_cons, List.not_mem_nil, or_false, not_or] at h
  simp [select?, h]

theorem selectAll_eq (f : WordFilter) (parts : List (List Char)) : selectAll f parts = selectNames f (names parts) := by
  induction parts generalizing f with
  | nil => rfl
  | cons part parts ih =>
    by_cases hpart : Blank.trim part = []
    · have hnames : names (part :: parts) = names parts := by simp [names, hpart]
      rw [selectAll, hpart, hnames]
      exact ih f
    · have hnames : names (part :: parts) = String.ofList (Blank.trim part) :: names parts := by simp [names, hpart]
      have hname : String.ofList (Blank.trim part) ≠ "" := by simpa using hpart
      rw [selectAll, hnames, selectNames, if_neg hname]
      cases f.select? (String.ofList (Blank.trim part)) with
      | none => rfl
      | some g => exact ih g

theorem selectNames_append (h : ∀ name ∈ given, name ∈ classNames) (f : WordFilter) (more : List String) :
    selectNames f (given ++ more) = selectNames (f.union (ofNames given)) more := by
  induction given generalizing f with
  | nil => simp
  | cons name given ih =>
    obtain ⟨hname, hgiven⟩ := List.forall_mem_cons.mp h
    have hcons : ofNames (name :: given) = (ofNames [name]).union (ofNames given) := ofNames_append [name] given
    rw [List.cons_append, selectNames, select?_of_mem f hname, hcons, ← union_assoc]
    exact ih hgiven _

theorem selectNames_of_known (h : ∀ name ∈ given, name ∈ classNames) (f : WordFilter) :
    selectNames f given = .ok (f.union (ofNames given)) := by
  have happend := selectNames_append h f []
  rwa [List.append_nil] at happend

theorem selectNames_of_firstUnknown (h : FirstUnknown given name) (f : WordFilter) :
    selectNames f given = .error (.unknownWordCategory name) := by
  obtain ⟨rfl, hfront, hname⟩ := h
  rw [selectNames_append hfront, selectNames, select?_of_not_mem _ hname]

theorem Lists.parse_eq (h : Lists list given) : parse list = selectNames none given := by
  rw [parse, selectAll_eq, lists_iff.mp h]

theorem Lists.parse_of_known (h : Lists list given) (hknown : ∀ name ∈ given, name ∈ classNames) :
    parse list = .ok (ofNames given) := by
  rw [h.parse_eq, selectNames_of_known hknown, none_union]

theorem Lists.parse_of_firstUnknown (h : Lists list given) (hname : FirstUnknown given name) :
    parse list = .error (.unknownWordCategory name) := by
  rw [h.parse_eq, selectNames_of_firstUnknown hname]

theorem Lists.parse_eq_ok_iff (h : Lists list given) :
    parse list = .ok f ↔ (∀ name ∈ given, name ∈ classNames) ∧ f = ofNames given := by
  by_cases hknown : ∀ name ∈ given, name ∈ classNames
  · rw [h.parse_of_known hknown, Except.ok.injEq, eq_comm]
    exact (and_iff_right hknown).symm
  · obtain ⟨name, hname⟩ := exists_firstUnknown hknown
    rw [h.parse_of_firstUnknown hname]
    exact ⟨nofun, fun hok => absurd hok.1 hknown⟩

theorem Lists.parse_eq_error_iff (h : Lists list given) {e : TextError} :
    parse list = .error e ↔ ∃ name, FirstUnknown given name ∧ e = .unknownWordCategory name := by
  constructor
  · intro herror
    have hknown : ¬∀ name ∈ given, name ∈ classNames := fun hknown => by
      rw [h.parse_of_known hknown] at herror
      exact nomatch herror
    obtain ⟨name, hname⟩ := exists_firstUnknown hknown
    rw [h.parse_of_firstUnknown hname] at herror
    exact ⟨name, hname, (Except.error.inj herror).symm⟩
  · rintro ⟨name, hname, rfl⟩
    exact h.parse_of_firstUnknown hname

theorem parse_append (a b : String) : parse (a ++ "," ++ b) = match parse a, parse b with
    | .error e, _ => .error e
    | .ok _, .error e => .error e
    | .ok f, .ok g => .ok (f.union g) := by
  obtain ⟨given, ha⟩ : ∃ given, Lists a given := ⟨_, lists_iff.mpr rfl⟩
  obtain ⟨more, hb⟩ : ∃ more, Lists b more := ⟨_, lists_iff.mpr rfl⟩
  by_cases hgiven : ∀ name ∈ given, name ∈ classNames
  case neg =>
    obtain ⟨name, hname⟩ := exists_firstUnknown hgiven
    rw [ha.parse_of_firstUnknown hname, (ha.append hb).parse_of_firstUnknown (hname.append more)]
  rw [(ha.append hb).parse_eq, selectNames_append hgiven, none_union, ha.parse_of_known hgiven]
  by_cases hmore : ∀ name ∈ more, name ∈ classNames
  · rw [selectNames_of_known hmore, hb.parse_of_known hmore]
  · obtain ⟨name, hname⟩ := exists_firstUnknown hmore
    rw [selectNames_of_firstUnknown hname, hb.parse_of_firstUnknown hname]

theorem ofNames_selected (f : WordFilter) : ofNames f.selected = f := by
  have hall : ∀ letter number emoji regionalIndicator,
      ofNames (selected ⟨letter, number, emoji, regionalIndicator⟩) = ⟨letter, number, emoji, regionalIndicator⟩ := by
    decide
  exact hall ..

theorem mem_selected (h : name ∈ f.selected) : name ∈ classNames := by
  simp only [selected, List.mem_append] at h
  grind [classNames]

theorem plain_of_mem_classNames (h : name ∈ classNames) :
    ',' ∉ name.toList ∧ name.toList ≠ [] ∧ Blank.Trims name.toList name.toList := by
  have hall : ∀ name ∈ classNames, ',' ∉ name.toList ∧ name.toList ≠ [] ∧ name.toList.all fun c => !isBlank c := by
    decide +kernel
  obtain ⟨hcomma, hne, hplain⟩ := hall name h
  have hblank : ∀ c ∈ name.toList, isBlank c = false := by simpa using hplain
  exact ⟨hcomma, hne, ⟨⟨[], [], by simp, List.forall_mem_nil _, List.forall_mem_nil _⟩,
    fun c hc => hblank c (List.mem_of_head? hc), fun c hc => hblank c (List.mem_of_getLast? hc)⟩⟩

theorem lists_render (f : WordFilter) : Lists f.render f.selected := by
  by_cases hnone : f.selected = []
  · rw [render, hnone, lists_iff]
    rfl
  have hplain (name : String) (hname : name ∈ f.selected) := plain_of_mem_classNames (mem_selected hname)
  have hlists : Lists f.render (((f.selected.map String.toList).filter (· ≠ [])).map String.ofList) := by
    refine .intro (mt List.map_eq_nil_iff.mp hnone) ?_ String.toList_intercalate ?_
    · exact List.forall_mem_map.mpr fun name hname => (hplain name hname).1
    · exact List.forall₂_same.mpr (List.forall_mem_map.mpr fun name hname => (hplain name hname).2.2)
  have hfilter : (f.selected.map String.toList).filter (· ≠ []) = f.selected.map String.toList :=
    List.filter_eq_self.mpr (List.forall_mem_map.mpr fun name hname => decide_eq_true (hplain name hname).2.1)
  rw [hfilter, List.map_map] at hlists
  simpa using hlists

/-- What is written of a filter is read as the filter. -/
theorem parse_render (f : WordFilter) : parse f.render = .ok f := by
  rw [(lists_render f).parse_of_known fun _ => mem_selected, ofNames_selected]

end WordFilter

namespace Tokenizer.Words

/-- Arguments that name a list of classes each, with the filters that the lists are read as. -/
structure Paired (args : List String) (pairs : List (String × WordFilter)) : Prop where
  args_eq : args = pairs.flatMap fun (list, _) => ["categories", list]
  parsed : ∀ pair ∈ pairs, WordFilter.parse pair.1 = .ok pair.2 ∧ pair.2 ≠ .none

variable {f g : WordFilter} {args : List String} {pairs : List (String × WordFilter)}

theorem Paired.filterOf_eq (h : Paired args pairs) (f : WordFilter) :
    filterOf f args = .ok ((pairs.getLast?.map Prod.snd).getD f) := by
  obtain ⟨rfl, hpairs⟩ := h
  induction pairs generalizing f with
  | nil => rfl
  | cons pair pairs ih =>
    obtain ⟨⟨hparse, hne⟩, hpairs⟩ := List.forall_mem_cons.mp hpairs
    have hlast : (((pair :: pairs).getLast?.map Prod.snd).getD f) = (pairs.getLast?.map Prod.snd).getD pair.2 := by
      rw [List.getLast?_cons]
      cases pairs.getLast? <;> rfl
    rw [List.flatMap_cons, List.cons_append, List.cons_append, List.nil_append, filterOf, hparse, hlast]
    exact (if_neg hne).trans (ih pair.2 hpairs)

theorem exists_paired (h : filterOf f args = .ok g) : ∃ pairs, Paired args pairs := by
  fun_induction filterOf f args with
  | case1 f => exact ⟨[], rfl, List.forall_mem_nil _⟩
  | case2 => exact nomatch h
  | case3 => exact nomatch h
  | case4 f list args selected hparse hne ih =>
    obtain ⟨pairs, rfl, hpairs⟩ := ih h
    exact ⟨(list, selected) :: pairs, rfl, List.forall_mem_cons.mpr ⟨⟨hparse, hne⟩, hpairs⟩⟩
  | case5 => exact nomatch h
  | case6 => exact nomatch h

theorem options_eq_ok_iff : options args = .ok f
    ↔ ∃ pairs, Paired args pairs ∧ f = (pairs.getLast?.map Prod.snd).getD .default := by
  constructor
  · intro h
    obtain ⟨pairs, hpairs⟩ := exists_paired h
    exact ⟨pairs, hpairs, Except.ok.inj (h.symm.trans (hpairs.filterOf_eq .default))⟩
  · rintro ⟨pairs, hpairs, rfl⟩
    exact hpairs.filterOf_eq .default

end Tokenizer.Words

namespace WordFilter

open Tokenizer (Words.Paired Words.options Words.options_eq_ok_iff)

/-- A list of lists is the union of their filters, unless one of them fails, the first of which it fails as. The names
in a list settle what it is read as: their order and how often they stand there do not count, nor do blanks and
commas around them, and the first one that is no class's is reported. A filter is read from what is written of it, and
the tokenizer of words takes pairs of a fixed word and a list that selects something, the last of which counts. -/
theorem filter_lists_form_unions :
    (∀ a b, parse (a ++ "," ++ b) = match parse a, parse b with
      | .error e, _ => .error e
      | .ok _, .error e => .error e
      | .ok f, .ok g => .ok (f.union g))
    ∧ (∀ list, ∃ given, ∀ others, Lists list others ↔ others = given)
    ∧ (∀ list given, Lists list given →
      (∀ f, parse list = .ok f ↔ (∀ name ∈ given, name ∈ classNames) ∧ f = ofNames given)
      ∧ ∀ e, parse list = .error e ↔ ∃ name, FirstUnknown given name ∧ e = .unknownWordCategory name)
    ∧ (∀ a b given more, Lists a given → Lists b more →
      (given = more → parse a = parse b)
      ∧ ((∀ name, name ∈ given ↔ name ∈ more) → ∀ f, parse a = .ok f ↔ parse b = .ok f))
    ∧ (∀ f, parse f.render = .ok f)
    ∧ ∀ args f, Words.options args = .ok f
      ↔ ∃ pairs, Words.Paired args pairs ∧ f = (pairs.getLast?.map Prod.snd).getD .default := by
  refine ⟨parse_append, fun list => ⟨_, fun _ => lists_iff⟩,
    fun list given h => ⟨fun _ => h.parse_eq_ok_iff, fun _ => h.parse_eq_error_iff⟩,
    fun a b given more ha hb => ⟨fun heq => ?_, fun hsame f => ?_⟩, parse_render,
    fun _ _ => Words.options_eq_ok_iff⟩
  · rw [ha.parse_eq, hb.parse_eq, heq]
  · rw [ha.parse_eq_ok_iff, hb.parse_eq_ok_iff, ofNames_congr hsame]
    exact and_congr_left' (forall_congr' fun name => imp_congr_left (hsame name))

example : parse "emoji,, letter\t,\u3000emoji" = parse "letter,emoji"
    ∧ parse "letter, Emoji ,number,colour" = .error (.unknownWordCategory "Emoji") := by decide +kernel

end WordFilter
end TextBoundary

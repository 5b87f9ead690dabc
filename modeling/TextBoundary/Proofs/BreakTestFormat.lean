import Mathlib.Data.List.Chain
import TextBoundary.Proofs.BreakTestLines
import TextBoundary.Proofs.OneByOne

namespace TextBoundary.BreakTest

open CodePoint (Spells)

def IsWord (field : List Char) : Prop := ∃ c : Char, Spells field c.toNat

def IsMark (field : List Char) : Prop := field = breakMark ∨ field = noBreakMark

instance : DecidablePred IsMark := fun _ => inferInstanceAs (Decidable (_ ∨ _))

/-- Words and marks in turn, with a boundary at the end. -/
inductive InTurn : List (List Char) → Prop
  | last {word : List Char} (hword : IsWord word) : InTurn [word, breakMark]
  | cons {word mark : List Char} {fields : List (List Char)} (hword : IsWord word) (hmark : IsMark mark)
    (hfields : InTurn fields) : InTurn (word :: mark :: fields)

/-- A line of the format: without its comment and the blanks around it it is empty, or a boundary is followed by words
and marks in turn. -/
inductive Formed (line : List Char) : Prop
  | bare (h : strip line = [])
  | test {fields : List (List Char)} (h : Blank.fields (strip line) = breakMark :: fields) (hfields : InTurn fields)

def Legible (field : List Char) : Prop :=
  IsMark field ∨ IsWord field ∨ ∃ word, field = '+' :: word ∧ IsWord word

def Framed (fields : List (List Char)) : Prop :=
  fields.head? = some breakMark ∧ fields.getLast? = some breakMark

/-- A line that is read although it is not of the format: there is no code point, two marks or two code points stand
side by side, or there is a plus sign. -/
structure Loose (line : List Char) : Prop where
  framed : Framed (Blank.fields (strip line))
  legible : ∀ field ∈ Blank.fields (strip line), Legible field
  astray : (∀ field ∈ Blank.fields (strip line), IsMark field)
    ∨ ¬(Blank.fields (strip line)).IsChain (fun field next => IsMark field ↔ ¬IsMark next)
    ∨ ∃ word, '+' :: word ∈ Blank.fields (strip line)

/-- What is wrong with a line that is not read: its two ends, or else its first field that is not legible. -/
inductive Flawed (line : List Char) : Flaw → Prop
  | ends (hne : strip line ≠ []) (h : ¬Framed (Blank.fields (strip line))) : Flawed line .unmarkedEnds
  | field {front back : List (List Char)} {field : List Char} (hframed : Framed (Blank.fields (strip line)))
    (heq : Blank.fields (strip line) = front ++ field :: back) (hfront : ∀ other ∈ front, Legible other)
    (hfield : ¬Legible field) : Flawed line (.notHex (String.ofList field))

variable {field word mark line : List Char} {fields front back : List (List Char)} {flaw : Flaw}

theorem isMark_breakMark : IsMark breakMark := .inl rfl

theorem IsWord.not_isMark (h : IsWord word) : ¬IsMark word := by
  obtain ⟨c, hc⟩ := h
  exact not_or.mpr (ne_mark_of_spells hc)

theorem IsWord.ne_plus (h : IsWord field) (word : List Char) : field ≠ '+' :: word := by
  rintro rfl
  obtain ⟨c, hc⟩ := h
  exact (hc.plain '+' (.head _)).2 (by decide)

theorem IsMark.ne_plus (h : IsMark field) (word : List Char) : field ≠ '+' :: word := by
  rintro rfl
  cases h with
  | inl h => exact absurd (List.head_eq_of_cons_eq h) (by decide)
  | inr h => exact absurd (List.head_eq_of_cons_eq h) (by decide)

theorem Legible.isWord (h : Legible field) (hmark : ¬IsMark field) (hplus : ∀ word, field ≠ '+' :: word) :
    IsWord field := by
  rcases h with h | h | ⟨word, heq, -⟩
  · exact absurd h hmark
  · exact h
  · exact absurd heq (hplus word)

theorem inTurn_of_chain {mark : List Char} : {fields : List (List Char)} → IsMark mark → fields ≠ [] →
    (mark :: fields).getLast? = some breakMark → (∀ field ∈ fields, Legible field) →
    (mark :: fields).IsChain (fun field next => IsMark field ↔ ¬IsMark next) →
    (∀ field ∈ fields, ∀ word, field ≠ '+' :: word) → InTurn fields
  | [], _, hne, _, _, _, _ => absurd rfl hne
  | [field], hmark, _, hlast, _, hchain, _ => by
    have hfield : field = breakMark := by simpa using hlast
    have hturn := (List.isChain_cons_cons.mp hchain).1
    exact absurd (hfield ▸ isMark_breakMark) (hturn.mp hmark)
  | field :: next :: others, hmark, _, hlast, hlegible, hchain, hplus => by
    obtain ⟨hturn, hchain⟩ := List.isChain_cons_cons.mp hchain
    obtain ⟨hturn', hchain⟩ := List.isChain_cons_cons.mp hchain
    have hfield : ¬IsMark field := hturn.mp hmark
    have hword := (hlegible field (.head _)).isWord hfield (hplus field (.head _))
    have hnext : IsMark next := not_not.mp (mt hturn'.mpr hfield)
    cases others with
    | nil =>
      have heq : next = breakMark := by simpa using hlast
      exact heq ▸ .last hword
    | cons third others =>
      refine .cons hword hnext (inTurn_of_chain hnext (List.cons_ne_nil _ _) (by simpa using hlast) ?_ hchain ?_)
      · exact fun f hf => hlegible f (.tail _ (.tail _ hf))
      · exact fun f hf => hplus f (.tail _ (.tail _ hf))

theorem InTurn.getLast?_eq (h : InTurn fields) : fields.getLast? = some breakMark := by
  induction h with
  | last => rfl
  | cons _ _ _ ih => simp [List.getLast?_cons, ih]

theorem InTurn.regular (h : InTurn fields) : ∀ field ∈ fields, IsMark field ∨ IsWord field := by
  induction h with
  | last hword =>
    exact List.forall_mem_cons.mpr ⟨.inr hword, List.forall_mem_singleton.mpr (.inl isMark_breakMark)⟩
  | cons hword hmark _ ih => exact List.forall_mem_cons.mpr ⟨.inr hword, List.forall_mem_cons.mpr ⟨.inl hmark, ih⟩⟩

theorem InTurn.chain (h : InTurn fields) (hmark : IsMark mark) :
    (mark :: fields).IsChain fun field next => IsMark field ↔ ¬IsMark next := by
  induction h generalizing mark with
  | last hword => simp [hmark, hword.not_isMark, isMark_breakMark]
  | cons hword hnext _ ih => simpa [hmark, hword.not_isMark, hnext] using ih hnext

theorem InTurn.exists_isWord (h : InTurn fields) : ∃ word ∈ fields, IsWord word := by
  cases h with
  | last hword => exact ⟨_, .head _, hword⟩
  | cons hword => exact ⟨_, .head _, hword⟩

structure Readable (line : List Char) : Prop where
  framed : Framed (Blank.fields (strip line))
  legible : ∀ field ∈ Blank.fields (strip line), Legible field

theorem InTurn.readable (h : InTurn fields) (heq : Blank.fields (strip line) = breakMark :: fields) :
    Readable line where
  framed := by
    rw [heq]
    exact ⟨rfl, by simp [List.getLast?_cons, h.getLast?_eq]⟩
  legible := by
    rw [heq]
    refine List.forall_mem_cons.mpr ⟨.inl isMark_breakMark, ?_⟩
    intro field hfield
    exact (h.regular field hfield).imp id .inl

theorem Readable.formed_or_loose (h : Readable line) : Formed line ∨ Loose line := by
  by_cases hastray : (∀ field ∈ Blank.fields (strip line), IsMark field)
    ∨ ¬(Blank.fields (strip line)).IsChain (fun field next => IsMark field ↔ ¬IsMark next)
    ∨ ∃ word, '+' :: word ∈ Blank.fields (strip line)
  · exact .inr ⟨h.framed, h.legible, hastray⟩
  · simp only [not_or, not_not, not_exists] at hastray
    obtain ⟨hmarks, hchain, hplus⟩ := hastray
    obtain ⟨⟨hhead, hlast⟩, hlegible⟩ := h
    obtain ⟨fields, heq⟩ := List.head?_eq_some_iff.mp hhead
    rw [heq] at hmarks hchain hplus hlast hlegible
    refine .inl (.test heq (inTurn_of_chain isMark_breakMark ?_ hlast ?_ hchain ?_))
    · rintro rfl
      exact hmarks (List.forall_mem_singleton.mpr isMark_breakMark)
    · exact fun field hfield => hlegible field (.tail _ hfield)
    · rintro field hfield word rfl
      exact hplus word (.tail _ hfield)

theorem formed_or_loose_iff : Formed line ∨ Loose line ↔ strip line = [] ∨ Readable line := by
  constructor
  · rintro ((hbare | ⟨heq, hfields⟩) | hloose)
    · exact .inl hbare
    · exact .inr (hfields.readable heq)
    · exact .inr ⟨hloose.framed, hloose.legible⟩
  · rintro (hbare | hreadable)
    · exact .inl (.bare hbare)
    · exact hreadable.formed_or_loose

theorem Loose.not_formed (h : Loose line) : ¬Formed line := by
  rintro (hbare | ⟨heq, hfields⟩)
  · have hhead := h.framed.1
    rw [hbare] at hhead
    exact nomatch hhead
  · have hastray := h.astray
    rw [heq] at hastray
    rcases hastray with hmarks | hchain | ⟨word, hplus⟩
    · obtain ⟨word, hmem, hword⟩ := hfields.exists_isWord
      exact hword.not_isMark (hmarks word (.tail _ hmem))
    · exact hchain (hfields.chain isMark_breakMark)
    · rcases List.mem_cons.mp hplus with hmark | hmem
      · exact isMark_breakMark.ne_plus word hmark.symm
      · exact (hfields.regular _ hmem).elim (fun h => h.ne_plus word rfl) fun h => h.ne_plus word rfl

section Reading

variable {number : Nat} {lines before : List (List Char)}

theorem legible_iff : Legible field ↔ IsMark field ∨ ∃ c, char? field = some c := by
  simp only [Legible, IsWord, char?_eq_some_iff, exists_or, ← exists_and_left]
  rw [exists_comm]

def behind (position : Nat) (field : List Char) : Nat := if IsMark field then position else position + 1

theorem Legible.passes (h : Legible field) : Passes readFields behind field := by
  intro position
  by_cases hbreak : field = breakMark
  · refine ⟨fun r => (r.1, position :: r.2), fun fields => ?_⟩
    rw [readFields, if_pos hbreak, behind, if_pos (.inl hbreak)]
    cases readFields position fields <;> rfl
  by_cases hjoin : field = noBreakMark
  · refine ⟨id, fun fields => ?_⟩
    rw [readFields, if_neg hbreak, if_pos hjoin, behind, if_pos (.inr hjoin)]
    cases readFields position fields <;> rfl
  · have hmark : ¬IsMark field := not_or.mpr ⟨hbreak, hjoin⟩
    obtain ⟨c, hc⟩ := (legible_iff.mp h).resolve_left hmark
    refine ⟨fun r => (c :: r.1, r.2), fun fields => ?_⟩
    rw [readFields, if_neg hbreak, if_neg hjoin, hc, behind, if_neg hmark]
    cases readFields (position + 1) fields <;> rfl

theorem readFields_of_not_legible (h : ¬Legible field) (position : Nat) (fields : List (List Char)) :
    readFields position (field :: fields) = .error (.notHex (String.ofList field)) := by
  rw [legible_iff, not_or, not_exists] at h
  obtain ⟨hmark, hchar⟩ := h
  obtain ⟨hbreak, hjoin⟩ := not_or.mp hmark
  rw [readFields, if_neg hbreak, if_neg hjoin, Option.eq_none_iff_forall_ne_some.mpr hchar]

theorem readLine_of_framed {test : List Char} (h : Framed (Blank.fields test)) (number : Nat) :
    readLine number test = (readFields 0 (Blank.fields test).tail).map fun (chars, breaks) =>
      ⟨number, String.ofList test, chars, breaks⟩ := by
  refine (if_pos h).trans ?_
  cases readFields 0 (Blank.fields test).tail <;> rfl

theorem Readable.exists_test (h : Readable line) (number : Nat) : ∃ t, readLine number (strip line) = .ok t := by
  have hpasses : ∀ field ∈ (Blank.fields (strip line)).tail, Passes readFields behind field :=
    fun field hfield => (h.legible field (List.mem_of_mem_tail hfield)).passes
  obtain ⟨r, hr⟩ := exists_read hpasses (fun _ => ⟨_, rfl⟩) 0
  rw [readLine_of_framed h.framed, hr]
  exact ⟨_, rfl⟩

theorem Flawed.strip_ne_nil (h : Flawed line flaw) : strip line ≠ [] := by
  cases h with
  | ends hne => exact hne
  | field hframed =>
    intro hnil
    rw [hnil] at hframed
    exact nomatch hframed.1

theorem Flawed.not_readable (h : Flawed line flaw) : ¬Readable line := by
  intro hreadable
  cases h with
  | ends _ h => exact h hreadable.framed
  | field _ heq _ hfield => exact hfield (hreadable.legible _ (heq ▸ by simp))

theorem Flawed.readLine_eq (h : Flawed line flaw) (number : Nat) : readLine number (strip line) = .error flaw := by
  cases h with
  | ends _ h => exact if_neg h
  | @field front back field hframed heq hfront hfield =>
    rw [readLine_of_framed hframed, heq]
    cases front with
    | nil =>
      have hfirst : field = breakMark := by simpa [heq] using hframed.1
      exact absurd (.inl (hfirst ▸ isMark_breakMark)) hfield
    | cons first front =>
      have hpasses : ∀ other ∈ front, Passes readFields behind other :=
        fun other hother => (hfront other (.tail _ hother)).passes
      rw [List.cons_append, List.tail_cons, read_append_error hpasses (readFields_of_not_legible hfield _ _)]
      rfl

theorem exists_flawed (hne : strip line ≠ []) (h : ¬Readable line) : ∃ flaw, Flawed line flaw := by
  by_cases hframed : Framed (Blank.fields (strip line))
  · obtain ⟨front, field, back, heq, hfront, hfield⟩ := exists_first fun hlegible => h ⟨hframed, hlegible⟩
    exact ⟨_, .field hframed heq hfront hfield⟩
  · exact ⟨_, .ends hne hframed⟩

theorem passes_of_formed_or_loose (h : Formed line ∨ Loose line) :
    Passes readLines (fun number _ => number + 1) line := by
  intro number
  by_cases hbare : strip line = []
  · refine ⟨id, fun lines => ?_⟩
    refine (if_pos hbare).trans ?_
    cases readLines (number + 1) lines <;> rfl
  · obtain ⟨t, ht⟩ := ((formed_or_loose_iff.mp h).resolve_left hbare).exists_test number
    refine ⟨(t :: ·), fun lines => ?_⟩
    refine (if_neg hbare).trans ?_
    rw [ht]
    cases readLines (number + 1) lines <;> rfl

theorem Flawed.readLines_eq (h : Flawed line flaw) (number : Nat) (lines : List (List Char)) :
    readLines number (line :: lines) = .error ⟨number, flaw⟩ := by
  refine (if_neg h.strip_ne_nil).trans ?_
  rw [h.readLine_eq]

inductive FirstFlawed (lines : List (List Char)) (m : Malformed) : Prop
  | intro {before after : List (List Char)} {line : List Char} (heq : lines = before ++ line :: after)
    (hbefore : ∀ other ∈ before, Formed other ∨ Loose other) (hline : m.line = before.length + 1)
    (hflaw : Flawed line m.flaw)

variable {m : Malformed}

theorem FirstFlawed.not_read (h : FirstFlawed lines m) : ¬∀ line ∈ lines, Formed line ∨ Loose line := by
  obtain ⟨rfl, -, -, hflaw⟩ := h
  intro hall
  exact (formed_or_loose_iff.mp (hall _ (by simp))).elim hflaw.strip_ne_nil hflaw.not_readable

theorem exists_firstFlawed (h : ¬∀ line ∈ lines, Formed line ∨ Loose line) : ∃ m, FirstFlawed lines m := by
  obtain ⟨before, line, after, heq, hbefore, hline⟩ := exists_first h
  obtain ⟨hne, hread⟩ := not_or.mp (mt formed_or_loose_iff.mpr hline)
  obtain ⟨flaw, hflaw⟩ := exists_flawed hne hread
  exact ⟨⟨before.length + 1, flaw⟩, heq, hbefore, rfl, hflaw⟩

theorem readLines_of_firstFlawed (h : FirstFlawed lines m) : readLines 1 lines = .error m := by
  obtain ⟨rfl, hbefore, hline, hflaw⟩ := h
  apply read_append_error fun other hother => passes_of_formed_or_loose (hbefore other hother)
  rw [List.foldl_add_const, hflaw.readLines_eq, Nat.one_mul, Nat.add_comm, ← hline]

theorem exists_readLines (h : ∀ line ∈ lines, Formed line ∨ Loose line) : ∃ tests, readLines 1 lines = .ok tests :=
  exists_read (fun line hline => passes_of_formed_or_loose (h line hline)) (fun _ => ⟨_, rfl⟩) 1

end Reading

/-- A file is read when all its lines are, and otherwise the first that is not is named. Lines of the format are read,
and so are others. -/
theorem lines_are_read_by_their_fields (content : String) :
    ((∃ tests, parse content = .ok tests) ↔ ∀ line ∈ content.toList.splitOn '\n', Formed line ∨ Loose line)
      ∧ (∀ m, parse content = .error m ↔ FirstFlawed (content.toList.splitOn '\n') m)
      ∧ ∀ line, ¬(Formed line ∧ Loose line) := by
  rw [parse, Blank.splitOn_eq]
  by_cases hall : ∀ line ∈ content.toList.splitOn '\n', Formed line ∨ Loose line
  · obtain ⟨tests, htests⟩ := exists_readLines hall
    rw [htests]
    refine ⟨iff_of_true ⟨tests, rfl⟩ hall, ?_, fun line h => h.2.not_formed h.1⟩
    intro m
    exact iff_of_false (by simp) fun hfirst => hfirst.not_read hall
  · obtain ⟨m, hfirst⟩ := exists_firstFlawed hall
    rw [readLines_of_firstFlawed hfirst]
    refine ⟨iff_of_false (by simp) hall, ?_, fun line h => h.2.not_formed h.1⟩
    intro other
    constructor
    · intro heq
      exact Except.error.inj heq ▸ hfirst
    · intro hother
      exact (readLines_of_firstFlawed hfirst).symm.trans (readLines_of_firstFlawed hother)

/-- The mark between two code points is missing, and the test states one boundary instead. -/
theorem code_points_without_mark_are_read :
    parse "÷ 0061 0062 ÷" = .ok [⟨1, "÷ 0061 0062 ÷", ['a', 'b'], [2]⟩]
      ∧ ¬∀ line ∈ "÷ 0061 0062 ÷".toList.splitOn '\n', Formed line := by
  have hlines : "÷ 0061 0062 ÷".toList.splitOn '\n' = ["÷ 0061 0062 ÷".toList] := by decide +kernel
  have hfields : Blank.fields (strip "÷ 0061 0062 ÷".toList)
      = [breakMark, ['0', '0', '6', '1'], ['0', '0', '6', '2'], breakMark] := by decide +kernel
  refine ⟨by rfl, fun hall => ?_⟩
  rw [hlines, List.forall_mem_singleton] at hall
  cases hall with
  | bare hbare =>
    rw [hbare] at hfields
    exact nomatch hfields
  | test heq hturn =>
    obtain ⟨-, rfl⟩ := List.cons.inj (hfields.symm.trans heq)
    cases hturn with
    | cons _ hmark _ => exact absurd hmark (by simp [IsMark, breakMark, noBreakMark])

end TextBoundary.BreakTest

import Mathlib.Data.List.Forall2
import TextBoundary.Proofs.HandleStreams

namespace TextBoundary.Tokenizer

variable {σ : Type}

def Report.ofTexts (span : TokenSpan) : Int → List String → List Report
  | _, [] => []
  | flags, s :: more => ⟨flags, s, span.start, span.stop⟩ :: ofTexts span colocatedFlag more

theorem Report.map_text_ofTexts (span : TokenSpan) (flags : Int) (texts : List String) :
    (ofTexts span flags texts).map text = texts := by
  induction texts generalizing flags with
  | nil => rfl
  | cons s more ih => rw [ofTexts, List.map_cons, ih]

theorem Report.of_mem_ofTexts {span : TokenSpan} {r : Report} {texts : List String}
    (h : r ∈ ofTexts span colocatedFlag texts) :
    r.flags = colocatedFlag ∧ r.start = span.start ∧ r.stop = span.stop := by
  induction texts with
  | nil => exact nomatch h
  | cons s more ih =>
    rcases List.mem_cons.mp h with rfl | h
    · exact ⟨rfl, rfl, rfl⟩
    · exact ih h

namespace Token

def group (t : Token) : Group :=
  let span := t.span.getD ⟨0, 0⟩
  ⟨⟨0, t.text, span.start, span.stop⟩, Report.ofTexts span colocatedFlag t.colocated⟩

def reports (t : Token) : List Report := t.group.reports

def value (t : Token) : Json :=
  let span := t.span.getD ⟨0, 0⟩
  .array (.nat span.start :: .nat span.stop :: t.texts.map .string)

def Placed (length : Nat) (t : Token) : Prop :=
  ∃ span, t.span = some span ∧ span.start ≤ span.stop ∧ span.stop ≤ length

variable {length : Nat} {t : Token} {tokens : List Token}

theorem Placed.tidy (h : t.Placed length) : Tidy length t.reports [t.group] := by
  obtain ⟨text, _, colocated⟩ := t
  obtain ⟨span, rfl, horder, hinside⟩ := h
  have hspan : ∀ r ∈ Report.ofTexts span colocatedFlag colocated,
      r.flags = colocatedFlag ∧ r.start = span.start ∧ r.stop = span.stop :=
    fun _ => Report.of_mem_ofTexts
  refine ⟨⟨(List.append_nil _).symm, ?_, ?_⟩,
    List.forall_mem_cons.mpr ⟨⟨horder, hinside⟩, fun r hr => ?_⟩, ?_⟩
  · exact List.forall_mem_singleton.mpr rfl
  · exact List.forall_mem_singleton.mpr fun r hr => (hspan r hr).1
  · obtain ⟨-, hstart, hstop⟩ := hspan r hr
    rw [Report.Fits, hstart, hstop]
    exact ⟨horder, hinside⟩
  · exact List.forall_mem_singleton.mpr fun r hr => (hspan r hr).2

theorem tidy_flatMap (h : ∀ t ∈ tokens, t.Placed length) :
    Tidy length (tokens.flatMap reports) (tokens.map group) := by
  induction tokens with
  | nil => exact .nil
  | cons t tokens ih =>
    obtain ⟨ht, htokens⟩ := List.forall_mem_cons.mp h
    exact ht.tidy.append (ih htokens)

theorem Placed.token_group (h : t.Placed length) : t.group.token .default = t := by
  obtain ⟨text, _, colocated⟩ := t
  obtain ⟨span, rfl, -⟩ := h
  simp [group, Group.token, Options.default, Report.map_text_ofTexts]

theorem map_token_group (h : ∀ t ∈ tokens, t.Placed length) :
    (tokens.map group).map (Group.token .default) = tokens := by
  rw [List.map_map]
  exact (List.map_congr_left fun t ht => (h t ht).token_group).trans (List.map_id tokens)

end Token

namespace Value

variable {length first index : Nat} {value : Json} {items texts rest : List Json} {span : TokenSpan}
  {e : TokenizerError} {sink : Sink σ}

def Short (s : String) : Prop := s.utf8ByteSize ≤ maxLength

instance (s : String) : Decidable (Short s) := inferInstanceAs (Decidable (_ ≤ _))

/-- The values that give a token. -/
inductive Encodes (length : Nat) : Json → Token → Prop
  | text (s : String) : Encodes length (.string s) ⟨s, some ⟨0, 0⟩, []⟩
  | texts (s : String) (more : List String) :
    Encodes length (.strings (s :: more)) ⟨s, some ⟨0, 0⟩, more⟩
  | spanned (start stop : Nat) (s : String) (more : List String) (horder : start ≤ stop)
    (hinside : stop ≤ length) :
    Encodes length (.array (.nat start :: .nat stop :: (s :: more).map .string))
      ⟨s, some ⟨start, stop⟩, more⟩

def Gives (length : Nat) (value : Json) (t : Token) : Prop :=
  Encodes length value t ∧ ∀ s ∈ t.texts, Short s

/-- The arrays that have texts, with the place of the first one, their span and what stands there. -/
inductive Head (length : Nat) : List Json → Nat → TokenSpan → List Json → Prop
  | plain {value : Json} (items : List Json) (hvalue : isNumber value = false) :
    Head length (value :: items) 0 ⟨0, 0⟩ (value :: items)
  | spanned (start stop : Nat) (text : Json) (texts : List Json) (horder : start ≤ stop)
    (hinside : stop ≤ length) :
    Head length (.nat start :: .nat stop :: text :: texts) 2 ⟨start, stop⟩ (text :: texts)

inductive Headless (length : Nat) : List Json → TokenizerError → Prop
  | empty : Headless length [] (.invalidValue .empty)
  | short {value : Json} {items : List Json} (hvalue : isNumber value) (hitems : items.length < 2) :
    Headless length (value :: items) (.invalidValue (.tooShort (items.length + 1)))
  | start {value : Json} (stop text : Json) (texts : List Json) (hnumber : isNumber value)
    (hvalue : ∀ n, value ≠ .nat n) :
    Headless length (value :: stop :: text :: texts)
      (.invalidValue (.badOffset .start value.sorted.compact))
  | stop (start : Nat) {value : Json} (text : Json) (texts : List Json) (hvalue : ∀ n, value ≠ .nat n) :
    Headless length (.nat start :: value :: text :: texts)
      (.invalidValue (.badOffset .stop value.sorted.compact))
  | span (start stop : Nat) (text : Json) (texts : List Json) (hspan : stop < start ∨ length < stop) :
    Headless length (.nat start :: .nat stop :: text :: texts) (.invalidSpan start stop length)

inductive Faulty (index : Nat) : Json → TokenizerError → Prop
  | kind {value : Json} (hvalue : ∀ s, value ≠ .string s) :
    Faulty index value (.invalidValue (.notText index (kind value)))
  | long {s : String} (hlong : ¬Short s) : Faulty index (.string s) (.tokenTooLong s.utf8ByteSize)

/-- Why a value gives no token, with what is reported of it before. -/
inductive Offends (length : Nat) : Json → List Report → TokenizerError → Prop
  | kind {value : Json} (htext : ∀ s, value ≠ .string s) (harray : ∀ items, value ≠ .array items) :
    Offends length value [] (.invalidValue (.notTextOrArray (kind value)))
  | text {s : String} {e : TokenizerError} (hfault : Faulty 0 (.string s) e) :
    Offends length (.string s) [] e
  | headless {items : List Json} {e : TokenizerError} (hhead : Headless length items e) :
    Offends length (.array items) [] e
  | item {items : List Json} {first : Nat} {span : TokenSpan} {texts : List String} {bad : Json}
    {rest : List Json} {e : TokenizerError}
    (hhead : Head length items first span (texts.map .string ++ bad :: rest))
    (htexts : ∀ s ∈ texts, Short s) (hfault : Faulty (first + texts.length) bad e) :
    Offends length (.array items) (Report.ofTexts span 0 texts) e

theorem Head.inside (h : Head length items first span texts) :
    span.start ≤ span.stop ∧ span.stop ≤ length := by
  cases h with
  | plain => exact ⟨Nat.le_refl 0, Nat.zero_le length⟩
  | spanned start stop text texts horder hinside => exact ⟨horder, hinside⟩

theorem offset_nat (which : Offset) (n : Nat) : offset which (.nat n) = .ok n := by
  simp [offset, Json.nat]

theorem offset_of_ne (which : Offset) (h : ∀ n, value ≠ .nat n) :
    offset which value = .error (.invalidValue (.badOffset which value.sorted.compact)) := by
  cases value with
  | int n =>
    have hneg : ¬0 ≤ n := fun hn => h n.toNat (congrArg Json.int (Int.toNat_of_nonneg hn).symm)
    simp [offset, hneg]
  | _ => rfl

theorem shape_of_number (h : isNumber value) (second text : Json) (texts : List Json) :
    shape length (value :: second :: text :: texts)
      = offset .start value >>= fun start => offset .stop second >>= fun stop =>
        if stop < start ∨ length < stop then .error (.invalidSpan start stop length)
        else .ok ⟨2, ⟨start, stop⟩, text :: texts⟩ := by
  rw [shape, if_pos h]
  rfl

theorem shape_of_head (h : Head length items first span texts) :
    shape length items = .ok ⟨first, span, texts⟩ := by
  cases h with
  | plain items hvalue => simp [shape, hvalue]
  | spanned start stop text texts horder hinside =>
    have hspan : ¬(stop < start ∨ length < stop) := by omega
    rw [shape_of_number rfl, offset_nat, offset_nat]
    exact if_neg hspan

theorem shape_of_headless (h : Headless length items e) : shape length items = .error e := by
  cases h with
  | empty => rfl
  | @short value items hvalue hitems =>
    match items, hitems with
    | [], _ => simp [shape, hvalue]
    | [_], _ => simp [shape, hvalue]
  | start stop text texts hnumber hvalue =>
    rw [shape_of_number hnumber, offset_of_ne .start hvalue]
    rfl
  | stop start text texts hvalue =>
    rw [shape_of_number rfl, offset_nat, offset_of_ne .stop hvalue]
    rfl
  | span start stop text texts hspan =>
    rw [shape_of_number rfl, offset_nat, offset_nat]
    exact if_pos hspan

theorem nat_or_ne (value : Json) : (∃ n, value = .nat n) ∨ ∀ n, value ≠ .nat n := by
  by_cases h : ∃ n, value = .nat n
  · exact .inl h
  · exact .inr (not_exists.mp h)

theorem head_or_headless (length : Nat) (items : List Json) :
    (∃ first span texts, Head length items first span texts) ∨ ∃ e, Headless length items e := by
  match items with
  | [] => exact .inr ⟨_, .empty⟩
  | value :: items =>
    cases hvalue : isNumber value with
    | false => exact .inl ⟨_, _, _, .plain items hvalue⟩
    | true =>
      match items with
      | [] => exact .inr ⟨_, .short hvalue (by decide)⟩
      | [item] => exact .inr ⟨_, .short hvalue Nat.one_lt_two⟩
      | second :: text :: texts =>
        rcases nat_or_ne value with ⟨start, rfl⟩ | hstart
        case inr => exact .inr ⟨_, .start second text texts hvalue hstart⟩
        rcases nat_or_ne second with ⟨stop, rfl⟩ | hstop
        case inr => exact .inr ⟨_, .stop start text texts hstop⟩
        by_cases hspan : stop < start ∨ length < stop
        · exact .inr ⟨_, .span start stop text texts hspan⟩
        · exact .inl ⟨_, _, _, .spanned start stop text texts (by omega) (by omega)⟩

theorem text_string {s : String} (h : Short s) : text index (.string s) = .ok s :=
  if_neg (Nat.not_lt.mpr h)

theorem text_of_faulty (h : Faulty index value e) : text index value = .error e := by
  cases h with
  | kind hvalue =>
    cases value with
    | string s => exact absurd rfl (hvalue s)
    | _ => rfl
  | long hlong => exact if_pos (Nat.not_le.mp hlong)

theorem reportTexts_strings {texts : List String} (h : ∀ s ∈ texts, Short s) (sink : Sink σ)
    (span : TokenSpan) (flags : Int) (index : Nat) :
    reportTexts sink span flags index (texts.map .string)
      = Tokenizer.reportAll sink (Report.ofTexts span flags texts) := by
  induction texts generalizing flags index with
  | nil => rfl
  | cons s texts ih =>
    obtain ⟨hs, htexts⟩ := List.forall_mem_cons.mp h
    rw [List.map_cons, reportTexts, text_string hs, ih htexts]
    rfl

theorem reportTexts_append {texts : List String} (h : ∀ s ∈ texts, Short s) (sink : Sink σ)
    (span : TokenSpan) (flags : Int) (hfault : Faulty (index + texts.length) value e) :
    reportTexts sink span flags index (texts.map .string ++ value :: rest)
      = ReportStream.into ⟨Report.ofTexts span flags texts, .error e⟩ sink := by
  induction texts generalizing flags index with
  | nil =>
    have hfault : Faulty index value e := hfault
    rw [List.map_nil, List.nil_append, reportTexts, text_of_faulty hfault]
    rfl
  | cons s texts ih =>
    obtain ⟨hs, htexts⟩ := List.forall_mem_cons.mp h
    rw [List.length_cons, Nat.add_comm texts.length, ← Nat.add_assoc] at hfault
    rw [List.map_cons, List.cons_append, reportTexts, text_string hs, ih htexts _ hfault]
    simp only [ReportStream.into, Report.ofTexts, Tokenizer.reportAll, bind_assoc]
    rfl

theorem texts_or_faulty (first : Nat) (items : List Json) :
    (∃ texts : List String, items = texts.map .string ∧ ∀ s ∈ texts, Short s)
      ∨ ∃ (texts : List String) (bad : Json) (rest : List Json) (e : TokenizerError),
        items = texts.map .string ++ bad :: rest ∧ (∀ s ∈ texts, Short s)
          ∧ Faulty (first + texts.length) bad e := by
  induction items generalizing first with
  | nil => exact .inl ⟨[], rfl, fun _ h => nomatch h⟩
  | cons item items ih =>
    by_cases hitem : ∃ s, item = .string s
    case neg => exact .inr ⟨[], item, items, _, rfl, (fun _ h => nomatch h), .kind (not_exists.mp hitem)⟩
    obtain ⟨s, rfl⟩ := hitem
    by_cases hs : Short s
    case neg => exact .inr ⟨[], _, items, _, rfl, (fun _ h => nomatch h), .long hs⟩
    rcases ih (first + 1) with ⟨texts, rfl, htexts⟩ | ⟨texts, bad, rest, e, rfl, htexts, hfault⟩
    · exact .inl ⟨s :: texts, rfl, List.forall_mem_cons.mpr ⟨hs, htexts⟩⟩
    · refine .inr ⟨s :: texts, bad, rest, e, rfl, List.forall_mem_cons.mpr ⟨hs, htexts⟩, ?_⟩
      rwa [List.length_cons, Nat.add_comm texts.length, ← Nat.add_assoc]

theorem encodes_of_head {texts : List String} (h : Head length items first span (texts.map .string)) :
    ∃ t, Encodes length (.array items) t ∧ t.texts = texts := by
  -- what stands behind the head is an index of it and has to be a variable
  generalize hfound : texts.map Json.string = found at h
  cases texts with
  | nil => subst hfound; exact nomatch h
  | cons s more =>
    cases h with
    | plain items hvalue =>
      rw [← hfound]
      exact ⟨_, .texts s more, rfl⟩
    | spanned start stop text texts horder hinside =>
      rw [← hfound]
      exact ⟨_, .spanned start stop s more horder hinside, rfl⟩

theorem report_of_gives {t : Token} (h : Gives length value t) (sink : Sink σ) :
    report sink length value = Tokenizer.reportAll sink t.reports := by
  obtain ⟨hencodes, hshort⟩ := h
  cases hencodes with
  | text s => exact reportTexts_strings hshort sink ⟨0, 0⟩ 0 0
  | texts s more =>
    have hhead : Head length ((s :: more).map .string) 0 ⟨0, 0⟩ ((s :: more).map .string) := .plain _ rfl
    rw [Json.strings, report, shape_of_head hhead]
    exact reportTexts_strings hshort sink _ 0 0
  | spanned start stop s more horder hinside =>
    have hhead : Head length (.nat start :: .nat stop :: (s :: more).map .string) 2 ⟨start, stop⟩
      ((s :: more).map .string) := .spanned _ _ _ _ horder hinside
    rw [report, shape_of_head hhead]
    exact reportTexts_strings hshort sink _ 0 2

theorem report_of_offends {seen : List Report} (h : Offends length value seen e) (sink : Sink σ) :
    report sink length value = ReportStream.into ⟨seen, .error e⟩ sink := by
  cases h with
  | kind htext harray =>
    cases value with
    | string s => exact absurd rfl (htext s)
    | array items => exact absurd rfl (harray items)
    | _ => rfl
  | text hfault =>
    have hnone : ∀ s ∈ ([] : List String), Short s := fun _ h => nomatch h
    exact reportTexts_append hnone sink ⟨0, 0⟩ 0 hfault
  | headless hhead =>
    rw [report, shape_of_headless hhead]
    rfl
  | item hhead htexts hfault =>
    rw [report, shape_of_head hhead]
    exact reportTexts_append htexts sink _ 0 hfault

theorem gives_or_offends (length : Nat) (value : Json) :
    (∃ t, Gives length value t) ∨ ∃ seen e, Offends length value seen e := by
  cases value with
  | string s =>
    by_cases hs : Short s
    · exact .inl ⟨_, .text s, List.forall_mem_singleton.mpr hs⟩
    · exact .inr ⟨_, _, .text (.long hs)⟩
  | array items =>
    rcases head_or_headless length items with ⟨first, span, found, hhead⟩ | ⟨e, hheadless⟩
    case inr => exact .inr ⟨_, _, .headless hheadless⟩
    rcases texts_or_faulty first found with ⟨texts, rfl, htexts⟩ | ⟨texts, bad, rest, e, rfl, htexts, hfault⟩
    case inr => exact .inr ⟨_, _, .item hhead htexts hfault⟩
    obtain ⟨t, hencodes, rfl⟩ := encodes_of_head hhead
    exact .inl ⟨t, hencodes, htexts⟩
  | _ => exact .inr ⟨_, _, .kind nofun nofun⟩

theorem Encodes.placed {t : Token} (h : Encodes length value t) : t.Placed length := by
  cases h with
  | text s => exact ⟨_, rfl, Nat.le_refl 0, Nat.zero_le length⟩
  | texts s more => exact ⟨_, rfl, Nat.le_refl 0, Nat.zero_le length⟩
  | spanned start stop s more horder hinside => exact ⟨_, rfl, horder, hinside⟩

section Lists

variable {values before after : List Json} {bad : Json} {tokens : List Token} {seen : List Report}

theorem placed_of_gives (h : List.Forall₂ (Gives length) values tokens) : ∀ t ∈ tokens, t.Placed length := by
  induction h with
  | nil => exact fun _ h => nomatch h
  | cons hvalue _ ih => exact List.forall_mem_cons.mpr ⟨hvalue.1.placed, ih⟩

theorem exists_of_gives (h : List.Forall₂ (Gives length) values tokens) :
    ∀ value ∈ values, ∃ t, Gives length value t := by
  induction h with
  | nil => exact fun _ h => nomatch h
  | cons hvalue _ ih => exact List.forall_mem_cons.mpr ⟨⟨_, hvalue⟩, ih⟩

theorem reportAll_of_gives (h : List.Forall₂ (Gives length) values tokens) (sink : Sink σ) :
    reportAll sink length values = Tokenizer.reportAll sink (tokens.flatMap Token.reports) := by
  induction h with
  | nil => rfl
  | cons hvalue _ ih =>
    rw [reportAll, report_of_gives hvalue, ih, List.flatMap_cons, reportAll_append]

theorem reportAll_of_offends (h : List.Forall₂ (Gives length) before tokens)
    (hbad : Offends length bad seen e) (after : List Json) (sink : Sink σ) :
    reportAll sink length (before ++ bad :: after)
      = ReportStream.into ⟨tokens.flatMap Token.reports ++ seen, .error e⟩ sink := by
  induction h with
  | nil =>
    rw [List.nil_append, reportAll, report_of_offends hbad]
    simp only [ReportStream.into, bind_assoc]
    rfl
  | cons hvalue _ ih =>
    rw [List.cons_append, reportAll, report_of_gives hvalue, ih]
    simp only [ReportStream.into, List.flatMap_cons, List.append_assoc, reportAll_append, bind_assoc]

theorem Offends.not_gives {t : Token} (h : Offends length value seen e) : ¬Gives length value t := by
  intro ht
  have hoffends := ReportStream.run_taking ⟨seen, .error e⟩ []
  rw [← report_of_offends h, report_of_gives ht, Sink.run_taking] at hoffends
  exact nomatch congrArg Prod.fst hoffends

theorem Offends.tidy (h : Offends length bad seen e) : ∃ groups, Tidy length seen groups := by
  cases h with
  | @item items first span texts bad rest e hhead htexts hfault =>
    cases texts with
    | nil => exact ⟨[], .nil⟩
    | cons s more =>
      have hplaced : Token.Placed length ⟨s, some span, more⟩ := ⟨span, rfl, hhead.inside⟩
      exact ⟨_, hplaced.tidy⟩
  | _ => exact ⟨[], .nil⟩

/-- What values report. Either all of them give tokens, or there is a first one that gives none. -/
inductive Reads (length : Nat) : List Json → ReportStream → Prop
  | all {values : List Json} {tokens : List Token} (htokens : List.Forall₂ (Gives length) values tokens) :
    Reads length values ⟨tokens.flatMap Token.reports, .ok ()⟩
  | upto {before : List Json} {bad : Json} {tokens : List Token} {seen : List Report} {e : TokenizerError}
    (after : List Json) (htokens : List.Forall₂ (Gives length) before tokens)
    (hbad : Offends length bad seen e) :
    Reads length (before ++ bad :: after) ⟨tokens.flatMap Token.reports ++ seen, .error e⟩

theorem exists_reads (length : Nat) (values : List Json) : ∃ t, Reads length values t := by
  induction values with
  | nil => exact ⟨_, .all .nil⟩
  | cons value values ih =>
    rcases gives_or_offends length value with ⟨t, ht⟩ | ⟨seen, e, hoffends⟩
    case inr =>
      have hupto : Reads length ([] ++ value :: values) ⟨[] ++ seen, .error e⟩ := .upto values .nil hoffends
      exact ⟨_, hupto⟩
    obtain ⟨_, hreads⟩ := ih
    cases hreads with
    | all htokens => exact ⟨_, .all (.cons ht htokens)⟩
    | upto after htokens hbad => exact ⟨_, .upto after (.cons ht htokens) hbad⟩

namespace Reads

variable {t : ReportStream}

theorem reportAll_eq (h : Reads length values t) (sink : Sink σ) :
    reportAll sink length values = t.into sink := by
  cases h with
  | all htokens => rw [reportAll_of_gives htokens, ReportStream.into_of_ok]
  | upto after htokens hbad => exact reportAll_of_offends htokens hbad after sink

theorem tidy (h : Reads length values t) : ∃ groups, Tidy length t.reports groups := by
  cases h with
  | all htokens => exact ⟨_, Token.tidy_flatMap (placed_of_gives htokens)⟩
  | upto after htokens hbad =>
    obtain ⟨groups, hseen⟩ := hbad.tidy
    exact ⟨_, (Token.tidy_flatMap (placed_of_gives htokens)).append hseen⟩

theorem unique {u : ReportStream} (h : Reads length values t) (h' : Reads length values u) : t = u := by
  have htold := t.run_taking []
  rw [← h.reportAll_eq, h'.reportAll_eq, ReportStream.run_taking] at htold
  exact ReportStream.ext (Prod.mk.inj htold).2.symm (Prod.mk.inj htold).1.symm

theorem ok_iff (h : Reads length values t) :
    t.ending = .ok () ↔ ∀ value ∈ values, ∃ t, Gives length value t := by
  cases h with
  | all htokens => exact iff_of_true rfl (exists_of_gives htokens)
  | upto after htokens hbad =>
    refine iff_of_false (nomatch ·) fun hvalues => ?_
    obtain ⟨t, ht⟩ := hvalues _ (List.mem_append_right _ (.head _))
    exact hbad.not_gives ht

end Reads

theorem gives_value {t : Token} (h : t.Placed length) (hshort : ∀ s ∈ t.texts, Short s) :
    Gives length t.value t := by
  obtain ⟨text, _, colocated⟩ := t
  obtain ⟨span, rfl, horder, hinside⟩ := h
  exact ⟨.spanned span.start span.stop text colocated horder hinside, hshort⟩

end Lists

section Handles

variable {r after : Registry} {b : Binding} {calls : List (String × Reason)}
  {call : List (String × Reason) → String → Reason → Routine} {text : String} {reason : Reason} {values : List Json}

theorem Reads.tells {t : ReportStream} (h : Reads text.utf8ByteSize values t)
    (hcurrent : r.validate b = .ok ()) (hcall : (call calls text reason).run r = (after, .ok values)) :
    Handle.Tells ⟨[], b, .function call, calls⟩ r text reason t ⟨[], b, .function call, (text, reason) :: calls⟩ after := by
  refine Handle.tells_of_leaf hcurrent fun σ sink s => ?_
  rw [Handle.runLeaf, ReportStream.outcome, ← h.reportAll_eq]
  simp only [hcall]
  rfl

/-- A function's values are read as its tokens up to the first one that is none, of which the texts before
its fault are reported. Tokens that are written as values are read back as they are. -/
theorem values_are_read_by_grammar (hcurrent : r.validate b = .ok ())
    (hcall : (call calls text reason).run r = (after, .ok values)) :
    let h : Handle := ⟨[], b, .function call, calls⟩
    let length := text.utf8ByteSize
    let told := h.tokenizeInto r text reason Sink.taking []
    let collected := h.tokenizeInto r text reason Collector.sink (.empty length .default)
    (told.result = .ok () ↔ ∀ value ∈ values, ∃ t, Gives length value t)
    ∧ (∀ t, Reads length values t ↔ told.state = t.reports ∧ told.result = t.ending)
    ∧ collected.result = told.result
    ∧ (∀ tokens, List.Forall₂ (Gives length) values tokens → collected.state.tokens = tokens)
    ∧ ∀ tokens, (∀ t ∈ tokens, t.Placed length ∧ ∀ s ∈ t.texts, Short s) →
      values = tokens.map Token.value → collected.result = .ok () ∧ collected.state.tokens = tokens := by
  intro h length told collected
  obtain ⟨t, hreads⟩ := exists_reads length values
  obtain ⟨groups, htidy⟩ := hreads.tidy
  have htells := hreads.tells hcurrent hcall
  have htold : told = ⟨⟨[], b, .function call, (text, reason) :: calls⟩, after, t.reports, t.ending⟩ := htells.taking
  have hcollected : collected
      = ⟨⟨[], b, .function call, (text, reason) :: calls⟩, after, .ofGroups length .default groups, t.ending⟩ :=
    htells.collected htidy .default
  have htokens {tokens : List Token} (hgives : List.Forall₂ (Gives length) values tokens) :
      collected.state.tokens = tokens := by
    have hplaced := placed_of_gives hgives
    rw [show collected = _ from
        ((Reads.all hgives).tells hcurrent hcall).collected (Token.tidy_flatMap hplaced) .default,
      Collector.tokens_ofGroups, Token.map_token_group hplaced]
  refine ⟨?_, fun u => ?_, ?_, fun tokens hgives => htokens hgives, ?_⟩
  · rw [htold]
    exact hreads.ok_iff
  · rw [htold]
    refine ⟨fun hu => ?_, fun hu => ?_⟩
    · rw [hreads.unique hu]
      exact ⟨rfl, rfl⟩
    · rwa [← ReportStream.ext hu.1 hu.2]
  · rw [hcollected, htold]
  · rintro tokens hplaced rfl
    have hgives : List.Forall₂ (Gives length) (tokens.map Token.value) tokens :=
      List.forall₂_map_left_iff.mpr
        (List.forall₂_same.mpr fun t ht => gives_value (hplaced t ht).1 (hplaced t ht).2)
    refine ⟨?_, htokens hgives⟩
    rw [hcollected]
    exact hreads.ok_iff.mpr (exists_of_gives hgives)

theorem tokens_up_to_a_number :
    let one : Token := ⟨"one", some ⟨0, 3⟩, ["1"]⟩
    let values := [one.value, .array [.nat 4, .nat 7, .string "two", .nat 2]]
    let call : List (String × Reason) → String → Reason → Routine := fun _ _ _ => .values values
    let r := Registry.empty.register "numerals" fun _ => .ready (.function call)
    let h : Handle := ⟨[], ⟨"numerals", 1, []⟩, .function call, []⟩
    let told := h.tokenizeInto r "one two" .document Sink.taking []
    told.state = [⟨0, "one", 0, 3⟩, ⟨1, "1", 0, 3⟩, ⟨0, "two", 4, 7⟩]
      ∧ told.result = .error (.invalidValue (.notText 3 "number")) := by
  intro one values call r h told
  have hcurrent : r.validate ⟨"numerals", 1, []⟩ = .ok () := rfl
  have hcall : (call [] "one two" .document).run r = (r, .ok values) := rfl
  have hlength : "one two".utf8ByteSize = 7 := rfl
  obtain ⟨-, hreads, -⟩ := values_are_read_by_grammar hcurrent hcall
  rw [hlength] at hreads
  have hone : Gives 7 one.value one :=
    gives_value ⟨⟨0, 3⟩, rfl, by decide, by decide⟩ (by decide)
  have hhead : Head 7 [.nat 4, .nat 7, .string "two", .nat 2] 2 ⟨4, 7⟩ (["two"].map .string ++ [.nat 2]) :=
    .spanned 4 7 _ _ (by decide) (by decide)
  have hbad := Offends.item hhead (by decide) (.kind nofun)
  exact (hreads _).mp (.upto [] (.cons hone .nil) hbad)

end Handles

end Value
end TextBoundary.Tokenizer

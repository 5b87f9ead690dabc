import TextBoundary.Tokenizer.Run
import TextBoundary.Proofs.CollectedReports
import TextBoundary.Proofs.ListingsAgree
import TextBoundary.Proofs.Nesting
import TextBoundary.Proofs.Tiling
import TextBoundary.Proofs.Utf8Bytes

namespace TextBoundary

variable {units : Units} {offset : Nat} {runs : List (List Char)} {f : WordFilter}

namespace Span

theorem le_start_of_mem_lay {s : Span} (h : s ∈ lay units offset runs) : offset ≤ s.start := by
  induction runs generalizing offset with
  | nil => exact nomatch h
  | cons run runs ih =>
    rcases List.mem_cons.mp h with rfl | h
    · exact Nat.le_refl _
    · exact Nat.le_trans (Nat.le_add_right _ _) (ih h)

theorem pairwise_lay (units : Units) (offset : Nat) (runs : List (List Char)) :
    (lay units offset runs).Pairwise fun a b => a.stop ≤ b.start := by
  induction runs generalizing offset with
  | nil => exact .nil
  | cons run runs ih => exact .cons (fun s hs => le_start_of_mem_lay hs) (ih _)

end Span

namespace Tokenizer

variable {σ : Type} {sink : Sink σ}

def Report.ofSpan (s : Span) : Report := ⟨0, String.ofList s.chars, s.start, s.stop⟩

def Token.ofSpan (s : Span) : Token := ⟨String.ofList s.chars, some ⟨s.start, s.stop⟩, []⟩

theorem reportWords_of_walk {t : Text} {words : List Span} (h : t.WordWalk f offset words) {rounds : Nat}
    (hr : words.length < rounds) :
    reportWords sink f t rounds offset = reportAll sink (words.map .ofSpan) := by
  induction h generalizing rounds with
  | @finish offset stop hnext =>
    obtain ⟨rounds, rfl⟩ := Nat.exists_eq_add_of_le' hr
    rw [reportWords.eq_def, hnext]
    split
    · rfl
    · exact if_pos rfl
  | @step offset start stop words hnext hne _ ih =>
    obtain ⟨rounds, rfl⟩ := Nat.exists_eq_add_of_le' (Nat.lt_of_le_of_lt (Nat.zero_le _) hr)
    have hlt : ¬t.length ≤ offset := fun hle => hne (Text.nextWord_of_le hle hnext)
    rw [reportWords, if_neg hlt, hnext]
    dsimp only
    rw [if_neg hne, ih (Nat.lt_of_succ_lt_succ hr)]
    rfl

theorem reportWords_eq (h : Kind.word.Parts runs) {t : Text} (ht : t.chars = runs.flatten) (f : WordFilter) :
    reportWords sink f t (t.length + 1) 0
      = reportAll sink ((Span.keep (some f) (Span.lay t.units 0 runs)).map .ofSpan) := by
  have ht' : t.chars = [] ++ runs.flatten := ht
  have hwords : (Span.keep (some f) (Span.lay t.units 0 runs)).length ≤ runs.length :=
    Nat.le_trans (List.length_filter_le _ _) (Nat.le_of_eq (Span.length_lay 0))
  exact reportWords_of_walk (Text.wordWalk_parts h ht' f)
    (Nat.lt_succ_of_le (Nat.le_trans hwords (Text.length_le_rounds h ht')))

namespace Collector

theorem run_ofSpans {length : Nat} {spans : List Span}
    (h : ∀ s ∈ spans, s.start ≤ s.stop ∧ s.stop ≤ length) :
    (reportAll Collector.sink (spans.map .ofSpan)).run.run (empty length .default)
      = (.ok (), ⟨length, .default, (spans.map Token.ofSpan).reverse⟩) := by
  have hprimary : ∀ r ∈ spans.map Report.ofSpan, r.flags = 0 ∧ r.Fits length :=
    List.forall_mem_map.mpr fun s hs => ⟨rfl, h s hs⟩
  rw [(Tidy.primaries hprimary).run, ofGroups, List.map_map, List.map_map]
  rfl

end Collector

namespace Handle

theorem tokenize_encode (h : Handle) (r : Registry) {text : String} (reason : Reason) (options : Options)
    (hlength : (Utf8.encode text).length ≤ maxLength) :
    h.tokenize r (Utf8.encode text) reason options =
      let out := h.tokenizeInto r text reason Collector.sink (.empty (Utf8.encode text).length options)
      ⟨out.handle, out.registry, out.result.map fun _ => out.state.tokens⟩ := by
  rw [tokenize, checkLength, if_neg (Nat.not_lt.mpr hlength)]
  simp only [Utf8.decode_encode]

theorem tokenizeInto_words {b : Binding} {calls : List (String × Reason)} {r : Registry} (h : r.validate b = .ok ())
    (text : String) (reason : Reason) (s : σ) :
    tokenizeInto ⟨[], b, .words f, calls⟩ r text reason sink s =
      let t : Text := ⟨.bytes, text.toList⟩
      let answer := (reportWords sink f t (t.length + 1) 0).run.run s
      ⟨⟨[], b, .words f, calls⟩, r, answer.2, answer.1⟩ := by
  rw [tokenizeInto, tokenizeWith, inward, h]
  rfl

end Handle

/-- A word of a text with the bytes `bytes`. -/
structure WordIn (text : String) (bytes : List UInt8) (f : WordFilter) (s : Span) : Prop where
  nonempty : s.start < s.stop
  inside : s.stop ≤ bytes.length
  starts : (⟨.bytes, text.toList⟩ : Text).isBoundary s.start
  stops : (⟨.bytes, text.toList⟩ : Text).isBoundary s.stop
  slice : Utf8.encode (String.ofList s.chars) = (bytes.drop s.start).take (s.stop - s.start)
  selected : ∃ c ∈ s.chars, (GeneralCategory.of c.toNat).meets f.mask

theorem wordIn_of_mem {text : String} (h : Kind.word.Parts runs) (htext : text.toList = runs.flatten)
    {s : Span} (hs : s ∈ Span.keep (some f) (Span.lay .bytes 0 runs)) :
    WordIn text (Utf8.encode text) f s := by
  obtain ⟨hlay, haccepts⟩ := List.mem_filter.mp hs
  have hlay : s ∈ Span.lay .bytes (Units.bytes.length []) runs := hlay
  have ht : (⟨.bytes, text.toList⟩ : Text).chars = [] ++ runs.flatten := htext
  obtain ⟨u, v, heq, hmem, hstart, hstop⟩ := Span.mem_lay hlay
  obtain ⟨hstarts, hstops⟩ := Text.isBoundary_of_mem_lay ht hlay
  have hcut : text.toList = u ++ (s.chars ++ v) := htext.trans heq
  have hpos : 0 < Units.bytes.length s.chars :=
    Nat.pos_of_ne_zero (mt Units.length_eq_zero.mp (h.ne_nil _ hmem))
  have hlength := Utf8.length_encode text
  rw [hcut] at hlength
  simp only [Units.length_append] at hstop hlength
  refine ⟨by omega, by omega, hstarts, hstops, ?_, List.any_eq_true.mp haccepts⟩
  rw [← Utf8.slice_encode hcut, hstart, hstop, Nat.add_sub_cancel_left]

namespace Words

/-- The tokenizer for words gives a token for each of the words that are listed, with its place in the
buffer, and nothing else. -/
theorem tokens_are_words {r : Registry} {generation : Nat} {args : List String} {f : WordFilter}
    {bytes : List UInt8} (hfind : r.find? name = some ⟨factory, generation⟩)
    (hdepth : r.depth < Registry.maxNesting) (hoptions : options args = .ok f)
    (hlength : bytes.length ≤ maxLength) (hvalid : bytes.toByteArray.IsValidUTF8) :
    ∃ h text spans, r.load name args = (r, .ok h) ∧ h.outermost = ⟨name, generation, args⟩
      ∧ Utf8.encode text = bytes
      ∧ (⟨.bytes, text.toList⟩ : Text).words 0 f = .ok spans
      ∧ (∀ current reason, current.validate h.outermost = .ok () →
        h.tokenize current bytes reason .default = ⟨h, current, .ok (spans.map fun s =>
          ⟨String.ofList s.chars, some ⟨s.start, s.stop⟩, []⟩)⟩)
      ∧ (∀ s ∈ spans, WordIn text bytes f s)
      ∧ spans.Pairwise fun a b => a.stop ≤ b.start := by
  obtain ⟨text, rfl⟩ := Utf8.exists_encode hvalid
  obtain ⟨runs, hparts, hruns⟩ := Kind.word.exists_parts text.toList
  have hwords : (⟨.bytes, text.toList⟩ : Text).words 0 f
      = .ok (Span.keep (some f) (Span.lay .bytes 0 runs)) :=
    Text.words_eq (show (⟨.bytes, text.toList⟩ : Text).chars = [] ++ runs.flatten from hruns.symm)
      hparts f
  have hmem (s : Span) := wordIn_of_mem (f := f) (s := s) hparts hruns.symm
  refine ⟨_, text, _, load_eq hfind hdepth hoptions, rfl, rfl, hwords, fun current reason hcurrent => ?_,
    hmem, (Span.pairwise_lay _ _ _).filter _⟩
  have hvalidate : current.validate ⟨name, generation, args⟩ = .ok () := hcurrent
  have hreported : reportWords Collector.sink f ⟨.bytes, text.toList⟩ _ 0 = _ :=
    reportWords_eq hparts hruns.symm f
  have hinside : ∀ s ∈ Span.keep (some f) (Span.lay .bytes 0 runs),
      s.start ≤ s.stop ∧ s.stop ≤ (Utf8.encode text).length :=
    fun s hs => ⟨Nat.le_of_lt (hmem s hs).nonempty, (hmem s hs).inside⟩
  rw [Handle.tokenize_encode _ _ _ _ hlength, Handle.tokenizeInto_words hvalidate]
  simp only [hreported, Collector.run_ofSpans hinside, Collector.tokens, List.reverse_reverse]
  rfl

theorem tokens_of_letters :
    let r := Registry.empty.registerBuiltins
    ∃ h, r.load name ["categories", "letter"] = (r, .ok h)
      ∧ h.tokenize r (Utf8.encode "Größe 42 ...") .document .default
        = ⟨h, r, .ok [⟨"Größe", some ⟨0, 7⟩, []⟩]⟩ := by
  intro r
  have hfind : r.find? name = some ⟨factory, 1⟩ := rfl
  have hoptions : options ["categories", "letter"] = .ok ⟨true, false, false, false⟩ := by decide +kernel
  have hvalid : (Utf8.encode "Größe 42 ...").toByteArray.IsValidUTF8 :=
    ⟨"Größe 42 ...".toList, by rw [Utf8.encode_eq]; rfl⟩
  obtain ⟨h, text, spans, hload, hbinding, hbytes, hwords, htokens, -, -⟩ :=
    tokens_are_words hfind (by decide) hoptions (by decide +kernel) hvalid
  obtain rfl := Utf8.encode_inj hbytes
  have hlisted : (⟨.bytes, "Größe 42 ...".toList⟩ : Text).words 0 ⟨true, false, false, false⟩
      = .ok [⟨0, 7, "Größe".toList⟩] := by decide +kernel
  obtain rfl := Except.ok.inj (hwords.symm.trans hlisted)
  have hcurrent : r.validate h.outermost = .ok () := by
    rw [hbinding]
    rfl
  exact ⟨h, hload, htokens r .document hcurrent⟩

end Words
end Tokenizer
end TextBoundary

import TextBoundary.Proofs.TokenGroups

namespace TextBoundary.Tokenizer

variable {c d : Collector} {r : Report} {e : TokenizerError}

namespace Options

/-- What options leave of a token. -/
def leave (o : Options) (t : Token) : Token where
  text := t.text
  span := if o.includeOffsets then t.span else none
  colocated := if o.includeColocated then t.colocated else []

variable (o : Options)

theorem leave_push (t : Token) (text : String) :
    o.leave { t with colocated := t.colocated ++ [text] }
      = if o.includeColocated then { o.leave t with colocated := (o.leave t).colocated ++ [text] }
        else o.leave t := by
  cases hcolocated : o.includeColocated <;> simp [leave, hcolocated]

end Options

namespace Collector

/-- A collector with other options in the place of one that has the default ones. -/
def under (c : Collector) (o : Options) : Collector := ⟨c.length, o, c.newest.map o.leave⟩

variable (o : Options)

theorem tokens_under (c : Collector) : (c.under o).tokens = c.tokens.map o.leave := by
  simp [tokens, under]

theorem options_add (h : c.add r = .ok d) : d.options = c.options := by
  grind [add]

theorem add_under (h : c.options = .default) (r : Report) : (c.under o).add r = (c.add r).map (under · o) := by
  by_cases hflags : r.Known
  case neg =>
    rw [add_of_unknown hflags, add_of_unknown hflags]
    rfl
  by_cases hfits : r.Fits c.length
  case neg =>
    rw [add_of_outside (c := c.under o) hflags hfits, add_of_outside hflags hfits]
    rfl
  rcases hflags with hprimary | hcolocated
  · rw [add_of_primary (c := c.under o) hprimary hfits, add_of_primary hprimary hfits, h]
    rfl
  rw [add_of_colocated (c := c.under o) hcolocated hfits, add_of_colocated hcolocated hfits, h]
  cases hnewest : c.newest with
  | nil => simp [under, hnewest, Except.map]
  | cons last earlier =>
    cases hkept : o.includeColocated <;> simp [under, hnewest, hkept, Except.map, Options.default, o.leave_push]

theorem answer_under (h : c.options = .default) (r : Report) :
    (c.under o).answer r = c.answer r ∧ (c.under o).after r = (c.after r).under o
      ∧ (c.after r).options = .default := by
  have hunder := c.add_under o h r
  cases hadd : c.add r with
  | ok d =>
    rw [hadd] at hunder
    obtain ⟨hanswer, hafter⟩ := answer_of_ok hadd
    obtain ⟨hanswer', hafter'⟩ := answer_of_ok hunder
    exact ⟨hanswer'.trans hanswer.symm, by rw [hafter', hafter], by rw [hafter, options_add hadd, h]⟩
  | error e =>
    rw [hadd] at hunder
    obtain ⟨hanswer, hafter⟩ := answer_of_error hadd
    obtain ⟨hanswer', hafter'⟩ := answer_of_error hunder
    exact ⟨hanswer'.trans hanswer.symm, by rw [hafter', hafter], by rw [hafter, h]⟩

def history : Collector → List Report → List (Except TokenizerError Unit × List Token)
  | _, [] => []
  | c, r :: rs => (c.answer r, (c.after r).tokens) :: (c.after r).history rs

theorem history_under (h : c.options = .default) (reports : List Report) :
    (c.under o).history reports
      = (c.history reports).map fun (answer, tokens) => (answer, tokens.map o.leave) := by
  induction reports generalizing c with
  | nil => rfl
  | cons r rs ih =>
    obtain ⟨hanswer, hafter, hoptions⟩ := c.answer_under o h r
    rw [history, history, List.map_cons, hanswer, hafter, tokens_under, ih hoptions]

/-- A collector with options takes and refuses what the default one does, for the same reasons, and after every
report has its tokens, less their spans or their colocated texts where these are not asked for. -/
theorem options_choose_what_is_kept (length : Nat) (o : Options) (reports : List Report) :
    (empty length o).history reports = ((empty length .default).history reports).map fun (answer, tokens) =>
      (answer, tokens.map fun t => ⟨t.text, if o.includeOffsets then t.span else none,
        if o.includeColocated then t.colocated else []⟩) :=
  history_under (c := empty length .default) o rfl reports

example : (empty 4 ⟨false, false⟩).history
    [⟨1, "early", 0, 1⟩, ⟨0, "one", 0, 3⟩, ⟨1, "1", 0, 3⟩, ⟨1, "long", 0, 5⟩]
      = [(.error .colocatedWithoutToken, []), (.ok (), [⟨"one", none, []⟩]), (.ok (), [⟨"one", none, []⟩]),
        (.error (.invalidSpan 0 5 4), [⟨"one", none, []⟩])] := by decide

end Collector
end TextBoundary.Tokenizer

import TextBoundary.Tokenizer.Run

namespace TextBoundary.Tokenizer

variable {σ : Type} {sink : Sink σ} {s after : σ} {r : Report} {e : TokenizerError}

theorem reportAll_append (sink : Sink σ) (reports more : List Report) :
    reportAll sink (reports ++ more) = reportAll sink reports >>= fun _ => reportAll sink more := by
  induction reports with
  | nil => simp only [List.nil_append, reportAll, pure_bind]
  | cons r rs ih => simp only [List.cons_append, reportAll, ih, bind_assoc]

theorem reportAll_singleton (sink : Sink σ) (r : Report) : reportAll sink [r] = sink r := by
  simp only [reportAll, bind_pure_unit]

section Run

variable {m : ExceptT TokenizerError (StateM σ) Unit} {k : Unit → ExceptT TokenizerError (StateM σ) Unit}

theorem run_bind_of_ok (h : m.run.run s = (.ok (), after)) :
    (m >>= k).run.run s = (k ()).run.run after := by
  rw [ExceptT.run_bind, StateT.run_bind, h]
  rfl

theorem run_bind_of_error (h : m.run.run s = (.error e, after)) :
    (m >>= k).run.run s = (.error e, after) := by
  rw [ExceptT.run_bind, StateT.run_bind, h]
  rfl

end Run

def foldedForms (s : String) : List String :=
  if Casefold.casefold s ≠ s then [Casefold.casefold s] else []

namespace Wrapper

def first : Wrapper → String → String
  | .casefold false, s => Casefold.casefold s
  | .casefold true, s | .delegate, s => s

def others : Wrapper → String → List String
  | .casefold true, s => foldedForms s
  | .casefold false, _ | .delegate, _ => []

def reports (w : Wrapper) (r : Report) : List Report :=
  { r with text := w.first r.text }
    :: (w.others r.text).map fun s => { r with flags := colocatedFlag, text := s }

theorem sink_eq (w : Wrapper) (sink : Sink σ) (r : Report) :
    w.sink sink r = reportAll sink (w.reports r) := by
  cases w with
  | delegate => exact (reportAll_singleton sink r).symm
  | casefold colocate =>
    cases colocate with
    | false => exact (reportAll_singleton sink _).symm
    | true =>
      rw [Wrapper.sink, reports, others, foldedForms]
      dsimp only
      split
      · simp only [first, List.map_cons, List.map_nil, reportAll, bind_pure_unit]
      · simp only [first, List.map_nil, reportAll]

theorem reportAll_sink (w : Wrapper) (sink : Sink σ) (reports : List Report) :
    reportAll (w.sink sink) reports = reportAll sink (reports.flatMap w.reports) := by
  induction reports with
  | nil => rfl
  | cons r rs ih => rw [reportAll, ih, sink_eq, List.flatMap_cons, reportAll_append]

end Wrapper

namespace Sink

def logging (answer : Nat → Except TokenizerError Unit) : Sink (List Report) := fun r => do
  let seen ← get
  set (seen ++ [r])
  ExceptT.mk (pure (answer seen.length))

def taking : Sink (List Report) := logging fun _ => .ok ()

variable {answer : Nat → Except TokenizerError Unit} {n : Nat} {seen : List Report}

theorem run_logging (answer : Nat → Except TokenizerError Unit) (r : Report) (seen : List Report) :
    (logging answer r).run.run seen = (answer seen.length, seen ++ [r]) := rfl

theorem run_logging_of_taken (htakes : ∀ k < n, answer k = .ok ()) {reports : List Report}
    (h : seen.length + reports.length ≤ n) :
    (reportAll (logging answer) reports).run.run seen = (.ok (), seen ++ reports) := by
  induction reports generalizing seen with
  | nil =>
    rw [List.append_nil]
    rfl
  | cons r rs ih =>
    rw [List.length_cons] at h
    have hr := run_logging answer r seen
    rw [htakes _ (by omega)] at hr
    rw [reportAll, run_bind_of_ok hr, ih (by simp only [List.length_append, List.length_singleton]; omega),
      List.append_assoc]
    rfl

theorem run_logging_of_refused (htakes : ∀ k < n, answer k = .ok ()) (hrefuses : answer n = .error e)
    {reports : List Report} (hseen : seen.length ≤ n) (h : n < seen.length + reports.length) :
    (reportAll (logging answer) reports).run.run seen
      = (.error e, seen ++ reports.take (n + 1 - seen.length)) := by
  -- on the reports still to come; those seen before were taken, and so are at most `n`
  induction reports generalizing seen with
  | nil => exact absurd (Nat.lt_of_lt_of_le h hseen) (Nat.lt_irrefl n)
  | cons r rs ih =>
    rw [List.length_cons] at h
    have hr := run_logging answer r seen
    have htake : n + 1 - seen.length = n - seen.length + 1 := by omega
    rw [reportAll, htake, List.take_succ_cons]
    rcases Nat.eq_or_lt_of_le hseen with heq | hlt
    · rw [heq, hrefuses] at hr
      rw [run_bind_of_error hr, heq, Nat.sub_self, List.take_zero]
    · rw [htakes _ hlt] at hr
      have hseen' : (seen ++ [r]).length = seen.length + 1 := List.length_append
      rw [run_bind_of_ok hr, ih (by omega) (by omega), List.append_assoc, hseen', Nat.add_sub_add_right]
      rfl

theorem run_taking (reports seen : List Report) :
    (reportAll taking reports).run.run seen = (.ok (), seen ++ reports) :=
  run_logging_of_taken (fun _ _ => rfl) (Nat.le_refl _)

end Sink

/-- Reports one after the other, and how it ends when all of them are taken. -/
@[ext]
structure ReportStream where
  reports : List Report
  ending : Except TokenizerError Unit

namespace ReportStream

def into (t : ReportStream) (sink : Sink σ) : ExceptT TokenizerError (StateM σ) Unit := do
  reportAll sink t.reports
  ExceptT.mk (pure t.ending)

def through (t : ReportStream) (w : Wrapper) : ReportStream :=
  { t with reports := t.reports.flatMap w.reports }

theorem into_of_ok (sink : Sink σ) (reports : List Report) :
    into ⟨reports, .ok ()⟩ sink = reportAll sink reports := bind_pure_unit

theorem into_through (t : ReportStream) (w : Wrapper) (sink : Sink σ) :
    (t.through w).into sink = t.into (w.sink sink) := by
  rw [into, into, through, w.reportAll_sink]

theorem run_into_of_ok {t : ReportStream} (h : (reportAll sink t.reports).run.run s = (.ok (), after)) :
    (t.into sink).run.run s = (t.ending, after) := run_bind_of_ok h

theorem run_into_of_error {t : ReportStream}
    (h : (reportAll sink t.reports).run.run s = (.error e, after)) :
    (t.into sink).run.run s = (.error e, after) := run_bind_of_error h

theorem run_taking (t : ReportStream) (seen : List Report) :
    (t.into Sink.taking).run.run seen = (t.ending, seen ++ t.reports) :=
  run_into_of_ok (Sink.run_taking t.reports seen)

theorem run_logging {answer : Nat → Except TokenizerError Unit} {n : Nat}
    (htakes : ∀ k < n, answer k = .ok ()) (hrefuses : answer n = .error e) (t : ReportStream) :
    (t.into (Sink.logging answer)).run.run []
      = (if n < t.reports.length then .error e else t.ending, t.reports.take (n + 1)) := by
  by_cases hn : n < t.reports.length
  · have hseen : ([] : List Report).length ≤ n := Nat.zero_le n
    have hlength : n < ([] : List Report).length + t.reports.length := by rwa [List.length_nil, Nat.zero_add]
    rw [run_into_of_error (Sink.run_logging_of_refused htakes hrefuses hseen hlength), if_pos hn]
    rfl
  · have hn' := Nat.not_lt.mp hn
    have hlength : ([] : List Report).length + t.reports.length ≤ n := by rwa [List.length_nil, Nat.zero_add]
    rw [run_into_of_ok (Sink.run_logging_of_taken htakes hlength), if_neg hn,
      List.take_of_length_le (Nat.le_succ_of_le hn')]
    rfl

end ReportStream
end TextBoundary.Tokenizer

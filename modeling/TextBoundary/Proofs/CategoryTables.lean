import TextBoundary.CodePoint
import TextBoundary.Proofs.Vocabulary
import Mathlib.Data.List.Nodup

namespace TextBoundary

open Unicode.RunTable

namespace Kind

theorem names_eq (kind : Kind) : kind.names.map Prod.fst = (List.range kind.names.length).map .bit := by
  cases kind <;> decide

theorem nodup_names (kind : Kind) : (kind.names.map Prod.snd).Nodup := by
  cases kind <;> decide

theorem lt_length_names {kind : Kind} {codePoint i : Nat} (h : (kind.category codePoint).bits.testBit i) :
    i < kind.names.length := by
  have hall : ∀ value ∈ kind.values, value.bits < 2 ^ kind.names.length := by
    cases kind <;> decide
  have hlt := Nat.lt_of_le_of_lt (Nat.ge_two_pow_of_testBit h) (hall _ (kind.category_mem codePoint))
  exact (Nat.pow_lt_pow_iff_right (by decide)).mp hlt

theorem exists_named {kind : Kind} {codePoint i : Nat} (h : (kind.category codePoint).bits.testBit i) :
    ∃ entry ∈ kind.names, (kind.category codePoint).contains entry.1 ∧ entry.1.bits.testBit i := by
  have hmem : Mask.bit i ∈ kind.names.map Prod.fst := by
    rw [names_eq]
    exact List.mem_map_of_mem (List.mem_range.mpr (lt_length_names h))
  obtain ⟨entry, hentry, heq⟩ := List.mem_map.mp hmem
  refine ⟨entry, hentry, Mask.contains_iff.mpr fun j hj => ?_, ?_⟩
  · rw [heq, Mask.testBit_bit] at hj
    exact hj ▸ h
  · rw [heq, Mask.testBit_bit]

end Kind

theorem CodePoint.exists_categoryNames (kind : Kind) {codePoint : Nat} (h : codePoint ≤ maximum) :
    ∃ names, categoryNames kind codePoint = .ok names
      ∧ ∀ i, (kind.category codePoint).bits.testBit i
        ↔ ∃ entry ∈ kind.names, entry.2 ∈ names ∧ entry.1.bits.testBit i := by
  refine ⟨_, by rw [categoryNames, check_eq _ h]; rfl, fun i => ?_⟩
  constructor
  · intro hi
    obtain ⟨entry, hentry, hcontains, hbit⟩ := Kind.exists_named hi
    exact ⟨entry, hentry, List.mem_map_of_mem (List.mem_filter.mpr ⟨hentry, hcontains⟩), hbit⟩
  · rintro ⟨entry, hentry, hname, hbit⟩
    obtain ⟨other, hother, heq⟩ := List.mem_map.mp hname
    obtain ⟨hmem, hcontains⟩ := List.mem_filter.mp hother
    obtain rfl := List.inj_on_of_nodup_map kind.nodup_names hmem hentry heq
    exact Mask.contains_iff.mp hcontains i hbit

namespace GeneralCategory

def unflagged (bits : Nat) : Nat := bits &&& 0x3FFF

theorem exact_table : table.Exact :=
  exact_ofData (by decide +kernel) rfl rfl (by decide +kernel) (by decide +kernel)

theorem exists_unflagged_eq (codePoint : Nat) : ∃ entry ∈ codes, entry.1.bits = unflagged (of codePoint).bits := by
  have hlisted : listed (codes.map Prod.fst) (Mask.mk (unflagged (of codePoint).bits)).bits :=
    forall_lookup_ofData (p := fun bits => listed (codes.map Prod.fst) (unflagged bits)) exact_table
      (by decide +kernel) codePoint
  obtain ⟨entry, hentry, heq⟩ := List.mem_map.mp (mem_of_listed hlisted)
  exact ⟨entry, hentry, congrArg Mask.bits heq⟩

theorem of_ne_empty (codePoint : Nat) : of codePoint ≠ .empty := by
  intro hempty
  obtain ⟨entry, hentry, heq⟩ := exists_unflagged_eq codePoint
  have hall : ∀ entry ∈ codes, entry.1.bits ≠ unflagged Mask.empty.bits := by decide
  exact hall entry hentry (hempty ▸ heq)

theorem contains_unflagged (mask : Mask) {entry : Mask × String} (h : entry ∈ codes) :
    mask.contains entry.1 = Mask.contains ⟨unflagged mask.bits⟩ entry.1 := by
  have hall : ∀ entry ∈ codes, unflagged entry.1.bits = entry.1.bits := by decide
  rw [Mask.contains, Mask.contains, unflagged, Nat.and_assoc, Nat.and_comm 0x3FFF, ← unflagged, hall entry h]

theorem exists_filter_eq (codePoint : Nat) :
    ∃ entry, (codes.filter fun entry => (of codePoint).contains entry.1) = [entry] := by
  obtain ⟨entry, hentry, heq⟩ := exists_unflagged_eq codePoint
  have hall : ∀ entry ∈ codes, (codes.filter fun other => entry.1.contains other.1) = [entry] := by decide
  refine ⟨entry, Eq.trans (List.filter_congr fun other hother => ?_) (hall entry hentry)⟩
  rw [contains_unflagged _ hother, ← heq]

-- minor categories share bits, so that most of them meet the mask of another one
example : spacingMark.meets otherLetter
    ∧ (codes.filter fun entry => (spacingMark ||| wide).contains entry.1) = [(spacingMark, "Mc")] := by decide

theorem find?_eq_of_perm {α : Type} {p : α → Bool} {entries order : List α} {a : α} (h : entries.filter p = [a])
    (horder : order.Perm entries) : order.find? p = some a := by
  have hfilter : order.filter p = [a] := List.perm_singleton.mp (h ▸ horder.filter p)
  rw [← List.head?_filter, hfilter, List.head?_singleton]

end GeneralCategory

theorem CodePoint.generalCode_eq {codePoint : Nat} (h : codePoint ≤ maximum) :
    generalCode codePoint = .ok (GeneralCategory.code (GeneralCategory.of codePoint)) := by
  rw [generalCode, generalCategory, check_eq _ h]
  rfl

open Unicode

/-- A lookup in an exact table gives the mask of the last run that starts at or before the code point. The tables are
exact; so every code point has properties in each vocabulary, its names are those of all bits of its mask, and one
two-letter code fits it, in whatever order the codes are tried. -/
theorem lookups_follow_runs :
    (∀ t : RunTable, t.Exact → ∀ codePoint, (scan t.runs.toList codePoint).map Run.mask = some (t.lookup codePoint))
    ∧ (∀ t ∈ [GraphemeBreak.table, WordBreak.table, SentenceBreak.table, GeneralCategory.table], t.Exact)
    ∧ (∀ kind : Kind, ∀ codePoint, kind.category codePoint ≠ .empty
      ∧ (codePoint ≤ CodePoint.maximum → ∃ names, CodePoint.categoryNames kind codePoint = .ok names
        ∧ ∀ i, (kind.category codePoint).bits.testBit i
          ↔ ∃ entry ∈ kind.names, entry.2 ∈ names ∧ entry.1.bits.testBit i))
    ∧ ∀ codePoint, GeneralCategory.of codePoint ≠ .empty
      ∧ ∃ entry, (GeneralCategory.codes.filter fun entry => (GeneralCategory.of codePoint).contains entry.1) = [entry]
        ∧ (codePoint ≤ CodePoint.maximum → CodePoint.generalCode codePoint = .ok entry.2)
        ∧ ∀ order : List (Mask × String), order.Perm GeneralCategory.codes →
          order.find? (fun entry => (GeneralCategory.of codePoint).contains entry.1) = some entry := by
  refine ⟨fun t h => h.lookup_eq, ?_, fun kind codePoint => ⟨kind.category_ne_empty codePoint, ?_⟩, fun codePoint => ?_⟩
  · simp only [List.forall_mem_cons, List.not_mem_nil, false_imp_iff, implies_true, and_true]
    exact ⟨Kind.grapheme.exact_table, Kind.word.exact_table, Kind.sentence.exact_table, GeneralCategory.exact_table⟩
  · exact CodePoint.exists_categoryNames kind
  · obtain ⟨entry, hentry⟩ := GeneralCategory.exists_filter_eq codePoint
    have hfind {order : List (Mask × String)} (horder : order.Perm GeneralCategory.codes) :=
      GeneralCategory.find?_eq_of_perm hentry horder
    refine ⟨GeneralCategory.of_ne_empty codePoint, entry, hentry, fun hle => ?_, fun order horder => hfind horder⟩
    have hcode : GeneralCategory.code (GeneralCategory.of codePoint) = entry.2 := by
      rw [GeneralCategory.code, hfind (.refl _)]
      rfl
    rw [CodePoint.generalCode_eq hle, hcode]

end TextBoundary

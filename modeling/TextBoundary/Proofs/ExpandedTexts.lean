import TextBoundary.Benchmark
import TextBoundary.Proofs.Utf8Bytes

namespace TextBoundary.Benchmark

/-- Adds to a text and to the count of its characters, as long as there are fewer of them than wanted: each round puts
the pool into some other order. -/
inductive Grows (target : Nat) : (pool text : List Char) → (chars : Nat) → List Char → Prop
  | done {pool text : List Char} {chars : Nat} (h : target ≤ chars) : Grows target pool text chars text
  | round {pool block text grown : List Char} {chars : Nat} (h : chars < target) (hblock : block.Perm pool)
    (hrest : Grows target block (text ++ block) (chars + block.length) grown) : Grows target pool text chars grown

/-- Copies of a pool in any order, the last of them maybe cut. -/
inductive Copies (pool : List Char) : List Char → Prop
  | last {block rest : List Char} (hblock : block.Perm pool) (hrest : rest <+: block) : Copies pool rest
  | cons {block rest : List Char} (hblock : block.Perm pool) (hrest : Copies pool rest) : Copies pool (block ++ rest)

def byteIndex? (text : List Char) (number : Nat) : Option Nat :=
  if number < text.length then some (Units.bytes.length (text.take number)) else none

def cutBytes (text : List Char) (number : Nat) : List UInt8 :=
  let bytes := Utf8.encode (String.ofList text)
  match byteIndex? text number with
  | some index => bytes.take index
  | none => bytes

variable {shuffle : Shuffle} {text grown : List Char} {target chars : Nat}

theorem encode_take (text : List Char) (target : Nat) :
    Utf8.encode (String.ofList (text.take target)) = cutBytes text target := by
  rw [cutBytes, byteIndex?]
  by_cases h : target < text.length
  · have htext : (String.ofList text).toList = [] ++ (text.take target ++ text.drop target) := by simp
    simp only [if_pos h]
    exact (Utf8.slice_encode htext).symm
  · simp only [if_neg h]
    rw [List.take_of_length_le (Nat.not_lt.mp h)]

theorem pool_ne_nil (base : List Char) : pool base ≠ [] := by
  have hcopies : 0 < copies base := Nat.lt_of_lt_of_le Nat.one_pos (Nat.le_max_left 1 _)
  have hseasoning : seasoning.map Char.ofNat ≠ [] := List.cons_ne_nil _ _
  intro hnil
  have hall := List.flatten_eq_nil_iff.mp (List.append_eq_nil_iff.mp hnil).2
  exact hseasoning (hall _ (List.mem_replicate.mpr ⟨Nat.ne_of_gt hcopies, rfl⟩))

section Rounds

variable {pool : List Char}

theorem Copies.perm {other : List Char} (h : Copies pool text) (hpool : pool.Perm other) : Copies other text := by
  induction h with
  | last hblock hrest => exact .last (hblock.trans hpool) hrest
  | cons hblock _ ih => exact .cons (hblock.trans hpool) ih

theorem Copies.nil (pool : List Char) : Copies pool [] := .last (.refl pool) List.nil_prefix

theorem blocks_enough (rounds : Nat) : blocks shuffle pool rounds 0 = [] := by
  cases rounds <;> simp [blocks]

theorem blocks_round {wanted : Nat} (h : 0 < wanted) (rounds : Nat) :
    blocks shuffle pool (rounds + 1) wanted = shuffle rounds pool
      ++ blocks shuffle (shuffle rounds pool) rounds (wanted - (shuffle rounds pool).length) := by
  cases wanted with
  | zero => exact absurd h (Nat.lt_irrefl 0)
  | succ wanted => rfl

theorem grows_blocks (hshuffle : ∀ round chars, (shuffle round chars).Perm chars) (hpool : pool ≠ [])
    {rounds : Nat} (hrounds : target - chars ≤ rounds) :
    Grows target pool text chars (text ++ blocks shuffle pool rounds (target - chars)) := by
  induction rounds generalizing pool text chars with
  | zero =>
    rw [Nat.le_zero.mp hrounds, blocks_enough, List.append_nil]
    exact .done (by omega)
  | succ rounds ih =>
    by_cases h : chars < target
    · have hblock := hshuffle rounds pool
      have hpos : 0 < (shuffle rounds pool).length := by
        rw [hblock.length_eq]
        exact List.length_pos_iff.mpr hpool
      rw [blocks_round (by omega), Nat.sub_sub, ← List.append_assoc]
      apply Grows.round h hblock
      apply ih
      · exact List.length_pos_iff.mp hpos
      · omega
    · rw [Nat.sub_eq_zero_of_le (Nat.not_lt.mp h), blocks_enough, List.append_nil]
      exact .done (Nat.not_lt.mp h)

theorem Grows.copies (h : Grows target pool text chars grown) (hchars : text.length = chars) :
    target ≤ grown.length ∧ ∃ back, grown = text ++ back ∧ Copies pool (back.take (target - chars)) := by
  induction h with
  | done h => exact ⟨hchars ▸ h, [], by simp, by simpa using .nil _⟩
  | @round pool block text grown chars h hblock _ ih =>
    obtain ⟨hle, back, rfl, hback⟩ := ih (by simp [hchars])
    refine ⟨hle, block ++ back, by simp, ?_⟩
    rw [List.take_append]
    by_cases hcut : target - chars ≤ block.length
    · rw [Nat.sub_eq_zero_of_le hcut, List.take_zero, List.append_nil]
      exact .last hblock (List.take_prefix _ _)
    · rw [List.take_of_length_le (by omega), Nat.sub_sub]
      exact .cons hblock (hback.perm hblock)

end Rounds

theorem expand_eq (shuffle : Shuffle) (base : List Char) (target : Nat) :
    expand shuffle base target
      = (base ++ blocks shuffle (pool base) (target - base.length) (target - base.length)).take target := rfl

theorem toNat_seasoning : (seasoning.map Char.ofNat).map Char.toNat = seasoning := by decide

/-- A text is expanded by rounds that come to an end, and cut to as many characters as were wanted: those of the base
come first, and copies of the base with characters of all kinds follow. -/
theorem expanded_to_the_character (shuffle : Nat → Shuffle)
    (hshuffle : ∀ seed round chars, (shuffle seed round chars).Perm chars) (base : List Char) (target seed : Nat) :
    (∃ grown, Grows target (pool base) base base.length grown
        ∧ Utf8.encode (String.ofList (expand (shuffle seed) base target)) = cutBytes grown target)
      ∧ (expand (shuffle seed) base target).length = target
      ∧ (expand (shuffle seed) base target).take (min base.length target) = base.take (min base.length target)
      ∧ ∃ kinds, kinds.map Char.toNat = seasoning
        ∧ Copies (base ++ (List.replicate (max 1 (base.length / 1000 / seasoning.length)) kinds).flatten)
          ((expand (shuffle seed) base target).drop base.length) := by
  rw [expand_eq]
  have hgrows : Grows target (pool base) base base.length _ :=
    grows_blocks (hshuffle seed) (pool_ne_nil base) (Nat.le_refl (target - base.length))
  obtain ⟨hle, back, heq, hcopies⟩ := hgrows.copies rfl
  refine ⟨⟨_, hgrows, encode_take _ target⟩, ?_, ?_, _, toNat_seasoning, ?_⟩
  · rw [List.length_take, Nat.min_eq_left hle]
  · rw [heq, List.take_take, List.take_append_of_le_length (by omega), Nat.min_assoc, Nat.min_self]
  · rw [heq, List.drop_take, List.drop_left]
    exact hcopies

theorem expanded_beyond_one_pool :
    let turned : Nat → Shuffle := fun _ _ chars => chars.reverse
    (∀ seed round chars, (turned seed round chars).Perm chars)
    ∧ (expand (turned 7) ['a', 'é'] 75).length = 75 ∧ (expand (turned 7) ['a', 'é'] 75).take 2 = ['a', 'é']
    ∧ ∃ kinds, kinds.map Char.toNat = seasoning
      ∧ Copies (['a', 'é'] ++ kinds) ((expand (turned 7) ['a', 'é'] 75).drop 2) := by
  intro turned
  have hturned : ∀ seed round chars, (turned seed round chars).Perm chars := fun _ _ chars => chars.reverse_perm
  obtain ⟨-, hlength, htake, kinds, hkinds, hcopies⟩ := expanded_to_the_character turned hturned ['a', 'é'] 75 7
  refine ⟨hturned, hlength, htake, kinds, hkinds, ?_⟩
  simpa using hcopies

end TextBoundary.Benchmark

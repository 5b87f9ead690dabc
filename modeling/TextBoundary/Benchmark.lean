import TextBoundary.CodePoint
import TextBoundary.Number.Binary64

namespace TextBoundary.Benchmark

structure Measurement where
  kind : Kind
  chars : Nat
  segments : Nat
  seconds : Number.Binary64
  charsPerSecond : Nat
  deriving DecidableEq, Repr, Inhabited

def kinds : List Kind := [.sentence, .word, .grapheme]

def count (kind : Kind) (chars : List Char) (filter : WordFilter) : Except TextError Nat := do
  let t : Text := ⟨.bytes, chars⟩
  match kind with
  | .sentence => return (← t.sentences 0).length
  | .word => return (← t.words 0 filter).length
  | .grapheme => return (← t.graphemes 0).length

/-- Characters in a second, from times of at least 2^-52 seconds, as a whole number of 64 bits. -/
def rate (chars : Nat) (seconds : Number.Binary64) : Nat :=
  let (num, den) := seconds.ratio
  let (num, den) := if num <<< 52 < den then (1, 1 <<< 52) else (num, den)
  match Number.Binary64.ofRatio false (chars * den) num with
  | some x => min x.floorAbs (UInt64.size - 1)
  | none => UInt64.size - 1

def measure (seconds : Kind → Number.Binary64) (chars : List Char) (filter : WordFilter)
    (kind : Kind) : Except TextError Measurement := do
  let segments ← count kind chars filter
  return ⟨kind, chars.length, segments, seconds kind, rate chars.length (seconds kind)⟩

def seasoning : List Nat := [
  0x0085, 0x00A0, 0x00AD, 0x01BB, 0x0300, 0x0308, 0x034F, 0x0378, 0x05D0, 0x0600, 0x062D, 0x0631, 0x0644,
  0x0645, 0x0646, 0x064A, 0x064E, 0x0650, 0x0651, 0x0661, 0x0671, 0x06DD, 0x070F, 0x0710, 0x0712, 0x0717,
  0x0718, 0x0719, 0x071D, 0x0721, 0x072A, 0x072B, 0x072C, 0x0900, 0x0903, 0x0904, 0x0915, 0x0924, 0x092F,
  0x093C, 0x094D, 0x0A03, 0x0D4E, 0x1100, 0x1160, 0x11A8, 0x200D, 0x2018, 0x2019, 0x201C, 0x201D, 0x2060,
  0x231A, 0x2701, 0x3002, 0x3031, 0x5B57, 0x5B83, 0xAC00, 0xAC01, 0x1F1E6, 0x1F1E7, 0x1F1E8, 0x1F1E9,
  0x1F3FF, 0x1F476, 0x1F6D1]

def copies (base : List Char) : Nat := max 1 (base.length / 1000 / seasoning.length)

def pool (base : List Char) : List Char :=
  base ++ (List.replicate (copies base) (seasoning.map Char.ofNat)).flatten

/-- Puts characters into another order, which may differ from round to round. -/
abbrev Shuffle := (round : Nat) → List Char → List Char

/-- At most `rounds` shuffled copies of a pool, each made from the one before, until they have `wanted`
characters. -/
def blocks (shuffle : Shuffle) (pool : List Char) : Nat → Nat → List Char
  | 0, _ => []
  | _, 0 => []
  | rounds + 1, wanted =>
    let block := shuffle rounds pool
    block ++ blocks shuffle block rounds (wanted - block.length)

def expand (shuffle : Shuffle) (base : List Char) (target : Nat) : List Char :=
  let wanted := target - base.length
  (base ++ blocks shuffle (pool base) wanted wanted).take target

end TextBoundary.Benchmark

namespace TextBoundary.Utf8

def isContinuation (b : UInt8) : Bool := 0x80 ≤ b && b ≤ 0xBF

def isSecondOfThree (a b : UInt8) : Bool :=
  isContinuation b && (a != 0xE0 || 0xA0 ≤ b) && (a != 0xED || b ≤ 0x9F)

def isSecondOfFour (a b : UInt8) : Bool :=
  isContinuation b && (a != 0xF0 || 0x90 ≤ b) && (a != 0xF4 || b ≤ 0x8F)

def join (lead : Nat) (rest : List UInt8) : Char :=
  Char.ofNat (rest.foldl (fun n b => n * 64 + (b.toNat - 0x80)) lead)

/-- The characters of well-formed bytes, else the position of the first byte that belongs to none. -/
def decodeFrom (position : Nat) : List UInt8 → Except Nat (List Char)
  | [] => .ok []
  | a :: as =>
    if a < 0x80 then (decodeFrom (position + 1) as).map (Char.ofNat a.toNat :: ·)
    else
      match as with
      | [] => .error position
      | b :: bs =>
        if 0xC2 ≤ a && a ≤ 0xDF && isContinuation b then
          (decodeFrom (position + 2) bs).map (join (a.toNat - 0xC0) [b] :: ·)
        else
          match bs with
          | [] => .error position
          | c :: cs =>
            if 0xE0 ≤ a && a ≤ 0xEF && isSecondOfThree a b && isContinuation c then
              (decodeFrom (position + 3) cs).map (join (a.toNat - 0xE0) [b, c] :: ·)
            else
              match cs with
              | [] => .error position
              | d :: ds =>
                if 0xF0 ≤ a && a ≤ 0xF4 && isSecondOfFour a b && isContinuation c
                    && isContinuation d then
                  (decodeFrom (position + 4) ds).map (join (a.toNat - 0xF0) [b, c, d] :: ·)
                else .error position

def decode (bytes : List UInt8) : Except Nat String :=
  (decodeFrom 0 bytes).map String.ofList

def encode (text : String) : List UInt8 := text.toUTF8.toList

end TextBoundary.Utf8

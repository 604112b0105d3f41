import ApiContract.Unicode.CodePointSet

/-!
Ranges of characters as sequences of byte ranges: the encodings of a range of characters are the byte
strings that some sequence spans.
-/

namespace ApiContract.Unicode

structure ByteRange where
  first : Nat
  last : Nat
deriving DecidableEq, Repr

/-- The bytes that encode a code point. -/
def encodeCode (code : Nat) : List Nat :=
  if code < 0x80 then [code]
  else if code < 0x800 then [0xC0 + code / 64, 0x80 + code % 64]
  else if code < 0x10000 then [0xE0 + code / 4096, 0x80 + code / 64 % 64, 0x80 + code % 64]
  else [0xF0 + code / 262144, 0x80 + code / 4096 % 64, 0x80 + code / 64 % 64, 0x80 + code % 64]

/-- Where a range has to be cut, if anywhere: at the surrogates, where encodings grow longer, and
where a leading byte changes although the bytes after it do not span their whole range. The answer
is the last code point before the cut and the first after it. -/
def cut? (first last : Nat) : Option (Nat × Nat) :=
  if first < 0xE000 ∧ last > 0xD7FF then some (0xD7FF, 0xE000)
  else if first ≤ 0x7F ∧ 0x7F < last then some (0x7F, 0x80)
  else if first ≤ 0x7FF ∧ 0x7FF < last then some (0x7FF, 0x800)
  else if first ≤ 0xFFFF ∧ 0xFFFF < last then some (0xFFFF, 0x10000)
  else if last < 0x80 then none
  else [64, 4096, 262144].findSome? fun span =>
    if first / span = last / span then none
    else if first % span ≠ 0 then some (first / span * span + span - 1, first / span * span + span)
    else if last % span ≠ span - 1 then some (last / span * span - 1, last / span * span)
    else none

/-- The sequences for the characters of a range, in ascending order. -/
def byteSequences : Nat → Nat → Nat → List (List ByteRange)
  | 0, _, _ => []
  | fuel + 1, first, last =>
      if last < first then []
      else match cut? first last with
        | some (before, after) => byteSequences fuel first before ++ byteSequences fuel after last
        | none => [List.zipWith ByteRange.mk (encodeCode first) (encodeCode last)]

/-- The sequences for the characters of a set. -/
def CodePointSet.byteSequences (set : CodePointSet) : List (List ByteRange) :=
  set.ranges.flatMap fun (first, last) => Unicode.byteSequences 64 first last

end ApiContract.Unicode

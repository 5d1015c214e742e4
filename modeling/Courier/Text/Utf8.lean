import Courier.Bytes

/-!
# UTF-8

`encode` writes characters as bytes. `next` reads one piece of a byte string: a character, or the longest run of bytes
that starts a character and is then broken off. `pieces` reads a whole string; `decode?` is its text when no piece is
broken, and `decodeLossy` puts `U+FFFD` in the place of each broken piece.
-/

namespace Courier.Utf8

def encode (cs : List Char) : Bytes :=
  cs.flatMap String.utf8EncodeChar

/-- What one reading step finds at the front of a byte string. -/
inductive Piece where
  | char (c : Char)
  | broken
  deriving DecidableEq, Repr

/-- What a lead byte announces: how many bytes follow, between which bounds the first of them lies, and its
own bits. -/
structure Lead where
  count : Nat
  low : UInt8
  high : UInt8
  bits : Nat

/-- The lead bytes of characters beyond ASCII. The bounds leave out overlong forms, surrogates and numbers past
`U+10FFFF`. -/
def lead? (b : UInt8) : Option Lead :=
  if b < 0xC2 then none
  else if b ≤ 0xDF then some ⟨1, 0x80, 0xBF, b.toNat % 32⟩
  else if b = 0xE0 then some ⟨2, 0xA0, 0xBF, 0⟩
  else if b = 0xED then some ⟨2, 0x80, 0x9F, 13⟩
  else if b ≤ 0xEF then some ⟨2, 0x80, 0xBF, b.toNat % 16⟩
  else if b = 0xF0 then some ⟨3, 0x90, 0xBF, 0⟩
  else if b ≤ 0xF3 then some ⟨3, 0x80, 0xBF, b.toNat % 8⟩
  else if b = 0xF4 then some ⟨3, 0x80, 0x8F, 4⟩
  else none

/-- Reads `count` more bytes of a character, the next of them between `low` and `high`, onto the bits read so
far. A byte out of bounds is left for the next piece. -/
def tail (low high : UInt8) (bits : Nat) : Nat → Bytes → Piece × Bytes
  | 0, rest => (.char (Char.ofNat bits), rest)
  | _ + 1, [] => (.broken, [])
  | n + 1, b :: rest =>
    if low ≤ b ∧ b ≤ high then tail 0x80 0xBF (bits * 64 + b.toNat % 64) n rest else (.broken, b :: rest)

/-- The piece that starts with the byte `b`, and what follows it. -/
def next (b : UInt8) (rest : Bytes) : Piece × Bytes :=
  if b < 0x80 then (.char (Char.ofNat b.toNat), rest)
  else match lead? b with
    | none => (.broken, rest)
    | some l => tail l.low l.high l.bits l.count rest

theorem length_tail_le (n : Nat) : ∀ (low high : UInt8) (bits : Nat) (rest : Bytes),
    (tail low high bits n rest).2.length ≤ rest.length := by
  induction n with
  | zero => intros; simp [tail]
  | succ n ih =>
    intro low high bits rest
    cases rest with
    | nil => simp [tail]
    | cons b rest =>
      rw [tail]
      split
      · exact Nat.le_succ_of_le (ih ..)
      · exact Nat.le_refl _

theorem length_next_le (b : UInt8) (rest : Bytes) : (next b rest).2.length ≤ rest.length := by
  unfold next
  split
  · exact Nat.le_refl _
  · split
    · exact Nat.le_refl _
    · exact length_tail_le ..

/-- The pieces of a byte string, onto those already read (the last one first). -/
def piecesOnto (done : List Piece) : Bytes → List Piece
  | [] => done.reverse
  | b :: rest => piecesOnto ((next b rest).1 :: done) (next b rest).2
termination_by bs => bs.length
decreasing_by exact Nat.lt_succ_of_le (length_next_le b rest)

def pieces (bs : Bytes) : List Piece :=
  piecesOnto [] bs

theorem piecesOnto_eq (bs : Bytes) : ∀ done, piecesOnto done bs = done.reverse ++ pieces bs := by
  induction h : bs.length using Nat.strongRecOn generalizing bs with
  | ind n ih =>
    intro done
    cases bs with
    | nil => simp [pieces, piecesOnto]
    | cons b rest =>
      have hl : (next b rest).2.length < n := h ▸ Nat.lt_succ_of_le (length_next_le b rest)
      rw [pieces, piecesOnto.eq_2, piecesOnto.eq_2, ih _ hl _ rfl, ih _ hl _ rfl [_]]
      simp

theorem pieces_nil : pieces [] = [] := by
  simp [pieces, piecesOnto]

theorem pieces_cons (b : UInt8) (rest : Bytes) : pieces (b :: rest) = (next b rest).1 :: pieces (next b rest).2 := by
  rw [pieces, piecesOnto.eq_2, piecesOnto_eq]
  rfl

def Piece.char? : Piece → Option Char
  | .char c => some c
  | .broken => none

/-- The text of a byte string, if it is valid. -/
def decode? (bs : Bytes) : Option (List Char) :=
  (pieces bs).mapM Piece.char?

/-- The text of a byte string, with `U+FFFD` in the place of each broken piece. -/
def decodeLossy (bs : Bytes) : List Char :=
  (pieces bs).map fun p => p.char?.getD '\uFFFD'

end Courier.Utf8

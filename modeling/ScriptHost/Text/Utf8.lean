/-!
# UTF-8

Bytes read as characters, one byte after the other.

* `Utf8.pieces` cuts bytes into characters and broken parts. A broken part is a byte that begins no
  character, or the longest beginning of a character whose next byte does not continue it.
* `Utf8.decode?` is the text of bytes without a broken part.
* `Utf8.display` shows any bytes: each broken part as one U+FFFD.
* `Utf8.encode` are the bytes of a text.
-/

namespace ScriptHost.Utf8

/-! ## 1. Pieces -/

/-- A part of a byte string. -/
inductive Piece where
  /-- A character in its encoding. -/
  | char (c : Char)
  /-- Bytes that are no character, and no part of one. -/
  | broken (bytes : List UInt8)
  deriving DecidableEq, Repr

/-- A character that has begun. -/
structure Pending where
  /-- The bytes so far. -/
  seen : List UInt8
  /-- The bits so far. -/
  bits : Nat
  /-- How many bytes are to follow after the next one. -/
  missing : Nat
  /-- The least value of the next byte. -/
  low : UInt8
  /-- The largest value of the next byte. -/
  high : UInt8

/-- What a byte is at the beginning of a character: a character or a broken part of its own, or the
beginning of a longer character. The bounds on the second byte leave out overlong forms, surrogates
and numbers above U+10FFFF. -/
def start (b : UInt8) : Piece ⊕ Pending :=
  let begun (missing : Nat) (low high : UInt8) : Piece ⊕ Pending :=
    .inr ⟨[b], b.toNat % Nat.pow 2 (5 - missing), missing, low, high⟩
  if b < 0x80 then .inl (.char (Char.ofNat b.toNat))
  else if b < 0xC2 then .inl (.broken [b])
  else if b < 0xE0 then begun 0 0x80 0xBF
  else if b = 0xE0 then begun 1 0xA0 0xBF
  else if b = 0xED then begun 1 0x80 0x9F
  else if b < 0xF0 then begun 1 0x80 0xBF
  else if b = 0xF0 then begun 2 0x90 0xBF
  else if b < 0xF4 then begun 2 0x80 0xBF
  else if b = 0xF4 then begun 2 0x80 0x8F
  else .inl (.broken [b])

/-- Whether the byte continues the character. -/
def Pending.admits (p : Pending) (b : UInt8) : Bool := p.low ≤ b && b ≤ p.high

/-- The character with one more byte. -/
def Pending.next (p : Pending) (b : UInt8) : Piece ⊕ Pending :=
  let bits := p.bits * 64 + b.toNat % 64
  match p.missing with
  | 0 => .inl (.char (Char.ofNat bits))
  | m + 1 => .inr ⟨p.seen ++ [b], bits, m, 0x80, 0xBF⟩

/-- The pieces of the bytes that follow, with a character that may have begun. -/
def piecesFrom : Option Pending → List UInt8 → List Piece
  | none, [] => []
  | some p, [] => [.broken p.seen]
  | none, b :: r =>
    match start b with
    | .inl piece => piece :: piecesFrom none r
    | .inr p => piecesFrom (some p) r
  | some p, b :: r =>
    if p.admits b then
      match p.next b with
      | .inl piece => piece :: piecesFrom none r
      | .inr q => piecesFrom (some q) r
    else
      .broken p.seen ::
        match start b with
        | .inl piece => piece :: piecesFrom none r
        | .inr q => piecesFrom (some q) r

/-- The bytes as characters and broken parts, in order. -/
def pieces (bytes : List UInt8) : List Piece := piecesFrom none bytes

/-! ## 2. Readings -/

/-- The character of a piece. -/
def Piece.char? : Piece → Option Char
  | .char c => some c
  | .broken _ => none

/-- The text of bytes without a broken part. -/
def decode? (bytes : List UInt8) : Option String :=
  ((pieces bytes).mapM Piece.char?).map String.ofList

/-- The character, or U+FFFD for a broken part. -/
def Piece.shown : Piece → Char
  | .char c => c
  | .broken _ => '\uFFFD'

/-- The text of any bytes: each broken part is shown as U+FFFD. -/
def display (bytes : List UInt8) : String := String.ofList ((pieces bytes).map Piece.shown)

/-- The bytes of a text. -/
def encode (s : String) : List UInt8 := s.toList.flatMap String.utf8EncodeChar

end ScriptHost.Utf8

import ScriptHost.Text.Faint
import ScriptHost.Text.Utf8

/-!
# Quotations

A text between double quotes in which every character can be seen: backslash, double quote and the
common controls as a backslash and a letter, every other faint character by its number. A quoted
byte string shows its text in the same way, and each byte of a broken part in two hexadecimal
digits. A quoted list shows its members between square brackets.
-/

namespace ScriptHost.Text

/-! ## 1. Characters and bytes -/

/-- How a character is written between double quotes. -/
def quotedChar (c : Char) : List Char :=
  match c with
  | '\x00' => ['\\', '0']
  | '\t' => ['\\', 't']
  | '\n' => ['\\', 'n']
  | '\r' => ['\\', 'r']
  | '\\' => ['\\', '\\']
  | '"' => ['\\', '"']
  | c =>
    if isFaint c then ['\\', 'u', '\x7b'] ++ Nat.toDigits 16 c.toNat ++ ['\x7d']
    else [c]

/-- A byte in two hexadecimal digits, its letters capital. -/
def quotedByte (b : UInt8) : List Char :=
  let digit (n : Nat) : Char := (Nat.digitChar n).toUpper
  ['\\', 'x', digit (b.toNat / 16), digit (b.toNat % 16)]

/-- How a piece of a byte string is written between double quotes. -/
def quotedPiece : Utf8.Piece → List Char
  | .char c => quotedChar c
  | .broken bytes => bytes.flatMap quotedByte

/-! ## 2. Texts, byte strings and lists -/

/-- The text between double quotes. -/
def quoted (s : String) : String :=
  String.ofList ('"' :: s.toList.flatMap quotedChar ++ ['"'])

/-- The byte string between double quotes. -/
def quotedBytes (bytes : List UInt8) : String :=
  String.ofList ('"' :: (Utf8.pieces bytes).flatMap quotedPiece ++ ['"'])

/-- The quoted texts between square brackets, parted by commas. -/
def quotedList (texts : List String) : String :=
  "[" ++ String.intercalate ", " (texts.map quoted) ++ "]"

end ScriptHost.Text

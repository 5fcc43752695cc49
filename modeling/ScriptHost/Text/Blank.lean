/-!
# Blank characters

The characters with the Unicode property White_Space, and the two cuts made at them: a text loses
its blanks at both ends (`trim`), and a text parts at its first blank (`splitWord`).
-/

namespace ScriptHost.Text

/-! ## 1. The property -/

/-- The characters with the property White_Space. -/
def isBlank (c : Char) : Bool :=
  let n := c.toNat
  (9 ≤ n && n ≤ 13) || n == 0x20 || n == 0x85 || n == 0xA0 || n == 0x1680 ||
    (0x2000 ≤ n && n ≤ 0x200A) || n == 0x2028 || n == 0x2029 || n == 0x202F || n == 0x205F ||
    n == 0x3000

/-! ## 2. Cuts -/

/-- The text without the blanks it begins with. -/
def trimStart (s : List Char) : List Char := s.dropWhile isBlank

/-- The text without the blanks it ends with. -/
def trimEnd (s : List Char) : List Char := (s.reverse.dropWhile isBlank).reverse

/-- The text without the blanks at its two ends. -/
def trim (s : List Char) : List Char := trimEnd (trimStart s)

/-- The text before the first blank, and what follows the blanks there. -/
def splitWord (s : List Char) : List Char × List Char :=
  (s.takeWhile (!isBlank ·), trimStart (s.dropWhile (!isBlank ·)))

end ScriptHost.Text

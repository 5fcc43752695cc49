import ScriptHost.Catalog

/-!
# Expansion

In a text of an Echo script `$#` stands for the number of parameters, `$1` to `$9` for a parameter,
and `$` before a name for a variable; a name is as long as it can be. A parameter that was not given
and a variable that was not set stand for nothing. Every other `$` stands for itself.

The text is read once from left to right, so what is put in is never looked at again.
-/

namespace ScriptHost.Echo

/-! ## 1. Names -/

/-- Whether a name can begin with the character. -/
def isNameStart (c : Char) : Bool := c.isAlpha || c == '_'

/-- Whether a name can go on with the character. -/
def isNameChar (c : Char) : Bool := c.isAlphanum || c == '_'

/-- Whether the text is a name. -/
def isName (s : List Char) : Bool :=
  match s with
  | [] => false
  | c :: r => isNameStart c && r.all isNameChar

/-! ## 2. What can be put in -/

/-- The variables that are set. -/
abbrev Globals := Catalog (List Char) (List Char)

/-- What an expansion can refer to. -/
structure Scope where
  params : List (List Char)
  globals : Globals

/-- The number of parameters. -/
def Scope.count (σ : Scope) : List Char := Nat.toDigits 10 σ.params.length

/-- The parameter that a digit from 1 to 9 asks for. -/
def Scope.param (σ : Scope) (digit : Char) : List Char :=
  (σ.params[digit.toNat - '1'.toNat]?).getD []

/-- The value of the variable. -/
def Scope.global (σ : Scope) (name : List Char) : List Char := (σ.globals.get? name).getD []

/-! ## 3. Reading on -/

/-- What has been read and is not settled yet. -/
inductive Open where
  /-- Nothing. -/
  | nothing
  /-- A `$`. -/
  | dollar
  /-- A `$` and the beginning of a name. -/
  | name (read : List Char)

/-- The expansion of the text that follows. -/
def Scope.expandFrom (σ : Scope) : Open → List Char → List Char
  | .nothing, [] => []
  | .dollar, [] => ['$']
  | .name n, [] => σ.global n
  | .nothing, c :: r => if c = '$' then σ.expandFrom .dollar r else c :: σ.expandFrom .nothing r
  | .dollar, c :: r =>
    if c = '#' then σ.count ++ σ.expandFrom .nothing r
    else if '1' ≤ c ∧ c ≤ '9' then σ.param c ++ σ.expandFrom .nothing r
    else if isNameStart c then σ.expandFrom (.name [c]) r
    else if c = '$' then '$' :: σ.expandFrom .dollar r
    else '$' :: c :: σ.expandFrom .nothing r
  | .name n, c :: r =>
    if isNameChar c then σ.expandFrom (.name (n ++ [c])) r
    else if c = '$' then σ.global n ++ σ.expandFrom .dollar r
    else σ.global n ++ c :: σ.expandFrom .nothing r

/-- The text with everything put in. -/
def Scope.expand (σ : Scope) (text : List Char) : List Char := σ.expandFrom .nothing text

end ScriptHost.Echo

import ScriptHost.Echo.Expansion
import ScriptHost.Proofs.Text.Blank

/-!
# Tokens of a text

What a text of an Echo script stands for is said token by token.

* `Token`: a character, `$#`, `$1` to `$9`, `$` before a name, or a `$` that stands for itself. Each
  has its spelling and its value in a scope.
* `Reads`: the tokens of a text, by their spellings. A name is as long as it can be, and a `$`
  stands for itself only where no other token begins.
* `reads_unique`, `exists_reads`: a text has exactly one list of tokens. Both come from
  `Token.first`, the token that a text begins with.
* `Scope.expand_token`: a token is expanded to its value, and what follows is expanded on its own.
* `expand_tokens`: **the expansion of a text is the values of its tokens**, which the text alone
  determines; and texts are expanded one by one where the second one does not go on with a token
  of the first.
-/

namespace ScriptHost.Echo

/-! ## 1. Tokens -/

/-- A part of a text that is expanded as one. -/
inductive Token where
  | plain (c : Char)
  /-- The number of parameters. -/
  | count
  /-- A parameter. -/
  | param (index : Fin 9)
  /-- The value of a variable. -/
  | global (name : List Char)
  /-- A `$` that stands for itself. -/
  | dollar
  deriving DecidableEq, Repr

namespace Token

/-- The digit that asks for the parameter. -/
def digit (index : Fin 9) : Char := Char.ofNat ('1'.toNat + index)

/-- How the token is written. -/
def spelling : Token → List Char
  | .plain c => [c]
  | .count => ['$', '#']
  | .param index => ['$', digit index]
  | .global name => '$' :: name
  | .dollar => ['$']

/-- What the token stands for. A parameter that was not given and a variable that was not set stand
for nothing. -/
def value (σ : Scope) : Token → List Char
  | .plain c => [c]
  | .count => (toString σ.params.length).toList
  | .param index => (σ.params[index.val]?).getD []
  | .global name => (σ.globals.get? name).getD []
  | .dollar => ['$']

/-- Whether the token is one where this text follows. -/
def Fits : Token → List Char → Prop
  | .plain c, _ => c ≠ '$'
  | .count, _ => True
  | .param _, _ => True
  | .global name, rest => isName name = true ∧ ∀ c, rest.head? = some c → isNameChar c = false
  | .dollar, rest => ∀ c, rest.head? = some c →
    c ≠ '#' ∧ ¬ ('1' ≤ c ∧ c ≤ '9') ∧ isNameStart c = false

end Token

/-- The text is read as these tokens. -/
inductive Reads : List Char → List Token → Prop where
  | nil : Reads [] []
  | cons {t : Token} {rest : List Char} {tokens : List Token} (fits : t.Fits rest)
      (reads : Reads rest tokens) : Reads (t.spelling ++ rest) (t :: tokens)

/-! ## 2. The first token -/

/-- Letters stand between the two ends of their ranges. -/
theorem letter_bounds {c : Char} (h : c.isAlpha = true) : 65 ≤ c.toNat ∧ c.toNat ≤ 122 := by
  rcases (Bool.or_eq_true _ _).mp h with hupper | hlower
  · have hbounds : 65 ≤ c.toNat ∧ c.toNat ≤ 90 := of_decide_eq_true hupper
    omega
  · obtain ⟨hge, hle⟩ := (Bool.and_eq_true _ _).mp hlower
    have hge : 97 ≤ c.toNat := of_decide_eq_true hge
    have hle : c.toNat ≤ 122 := of_decide_eq_true hle
    omega

theorem digit_bounds {c : Char} (h : c.isDigit = true) : 48 ≤ c.toNat ∧ c.toNat ≤ 57 := by
  obtain ⟨hge, hle⟩ := (Bool.and_eq_true _ _).mp h
  exact ⟨of_decide_eq_true hge, of_decide_eq_true hle⟩

namespace Token

theorem digit_mem : ∀ index, '1' ≤ digit index ∧ digit index ≤ '9' := by decide

theorem isDigit_of_bounds {c : Char} (h : '1' ≤ c ∧ c ≤ '9') : c.isDigit = true := by
  have hge : '0' ≤ c := Nat.le_trans (by decide) h.1
  exact (Bool.and_eq_true _ _).mpr ⟨decide_eq_true hge, decide_eq_true h.2⟩

theorem digit_ne : ∀ index, digit index ≠ '#' := by decide

theorem digit_toNat : ∀ index, (digit index).toNat - '1'.toNat = index.val := by decide

/-- The index of the parameter that the digit asks for. -/
def index (c : Char) (h : '1' ≤ c ∧ c ≤ '9') : Fin 9 :=
  ⟨c.toNat - '1'.toNat, by
    have hle : c.toNat ≤ '9'.toNat := h.2
    have h9 : '9'.toNat = '1'.toNat + 8 := rfl
    omega⟩

theorem digit_index {c : Char} (h : '1' ≤ c ∧ c ≤ '9') : digit (index c h) = c := by
  have hle : '1'.toNat ≤ c.toNat := h.1
  show Char.ofNat ('1'.toNat + (c.toNat - '1'.toNat)) = c
  rw [Nat.add_sub_cancel' hle, Char.ofNat_toNat]

/-- The letters and the `_` stand behind the digits. -/
theorem lt_of_isNameStart {c : Char} (h : isNameStart c = true) : '9' < c := by
  show '9'.toNat < c.toNat
  have h9 : '9'.toNat = 57 := rfl
  simp only [isNameStart, Bool.or_eq_true, beq_iff_eq] at h
  rcases h with halpha | rfl
  · have hge := (letter_bounds halpha).1
    omega
  · decide

theorem not_digit_of_isNameStart {c : Char} (h : isNameStart c = true) :
    c ≠ '#' ∧ ¬ ('1' ≤ c ∧ c ≤ '9') := by
  have hlt := lt_of_isNameStart h
  refine ⟨?_, fun hc => ?_⟩
  · rintro rfl
    exact absurd hlt (by decide)
  · exact absurd hc.2 (Nat.not_le_of_lt hlt)

/-- The token that begins with a `$` before this text. -/
def afterDollar : List Char → Token
  | [] => .dollar
  | c :: r =>
    if c = '#' then .count
    else if h : '1' ≤ c ∧ c ≤ '9' then .param (index c h)
    else if isNameStart c then .global (c :: r.takeWhile isNameChar)
    else .dollar

/-- The token that a text begins with. -/
def first : List Char → Token
  | [] => .dollar
  | c :: r => if c = '$' then afterDollar r else .plain c

theorem exists_of_isName {name : List Char} (h : isName name = true) :
    ∃ c r, name = c :: r ∧ isNameStart c = true ∧ ∀ d ∈ r, isNameChar d = true := by
  cases name with
  | nil => cases h
  | cons c r =>
    simp only [isName, Bool.and_eq_true, List.all_eq_true] at h
    exact ⟨c, r, rfl, h.1, h.2⟩

/-- **A text begins with the token that fits there.** -/
theorem first_of_fits {t : Token} {rest : List Char} (h : t.Fits rest) :
    first (t.spelling ++ rest) = t := by
  cases t with
  | plain c => exact if_neg h
  | count => rfl
  | param i =>
    have hne : digit i ≠ '#' := digit_ne i
    show afterDollar (digit i :: rest) = _
    rw [afterDollar, if_neg hne, dif_pos (digit_mem i)]
    exact congrArg Token.param (Fin.ext (digit_toNat i))
  | global name =>
    obtain ⟨hname, hend⟩ := h
    obtain ⟨c, r, rfl, hc, hr⟩ := exists_of_isName hname
    obtain ⟨hne, hdigit⟩ := not_digit_of_isNameStart hc
    show afterDollar (c :: (r ++ rest)) = _
    rw [afterDollar, if_neg hne, dif_neg hdigit, if_pos hc, Text.takeWhile_of_boundary hr hend]
  | dollar =>
    show afterDollar rest = _
    cases rest with
    | nil => rfl
    | cons c r =>
      obtain ⟨hne, hdigit, hstart⟩ := h c rfl
      rw [afterDollar, if_neg hne, dif_neg hdigit, hstart]
      rfl

theorem afterDollar_spec (r : List Char) :
    ∃ rest, '$' :: r = (afterDollar r).spelling ++ rest ∧ (afterDollar r).Fits rest := by
  cases r with
  | nil =>
    refine ⟨[], rfl, fun c hc => ?_⟩
    cases hc
  | cons c r =>
    by_cases hcount : c = '#'
    · rw [afterDollar, if_pos hcount, hcount]
      exact ⟨r, rfl, trivial⟩
    by_cases hdigit : '1' ≤ c ∧ c ≤ '9'
    · rw [afterDollar, if_neg hcount, dif_pos hdigit]
      refine ⟨r, ?_, trivial⟩
      rw [spelling, digit_index hdigit]
      rfl
    rw [afterDollar, if_neg hcount, dif_neg hdigit]
    by_cases hstart : isNameStart c = true
    · rw [if_pos hstart]
      refine ⟨r.dropWhile isNameChar, ?_, ?_, fun d hd => ?_⟩
      · simp [spelling, List.takeWhile_append_dropWhile]
      · simp [isName, hstart]
      · have hstop := List.head?_dropWhile_not isNameChar r
        rwa [hd] at hstop
    · rw [if_neg hstart]
      refine ⟨c :: r, rfl, fun d hd => ?_⟩
      obtain rfl : c = d := Option.some.inj hd
      exact ⟨hcount, hdigit, Bool.eq_false_iff.2 hstart⟩

/-- **What a text begins with fits before the rest.** -/
theorem first_spec {text : List Char} (h : text ≠ []) :
    ∃ rest, text = (first text).spelling ++ rest ∧ (first text).Fits rest := by
  obtain ⟨c, r, rfl⟩ := List.exists_cons_of_ne_nil h
  by_cases hc : c = '$'
  · subst hc
    exact afterDollar_spec r
  · rw [first, if_neg hc]
    exact ⟨r, rfl, hc⟩

theorem length_spelling_pos (t : Token) : 0 < t.spelling.length := by
  cases t <;> exact Nat.succ_pos _

end Token

/-! ## 3. One list of tokens -/

/-- **A text is read in one way at most.** -/
theorem reads_unique {text : List Char} {tokens tokens' : List Token} (h : Reads text tokens)
    (h' : Reads text tokens') : tokens' = tokens := by
  induction h generalizing tokens' with
  | nil =>
    generalize hnil : ([] : List Char) = text at h'
    cases h' with
    | nil => rfl
    | @cons t rest _ _ _ =>
      have hlength := congrArg List.length hnil
      have hpos := t.length_spelling_pos
      rw [List.length_nil, List.length_append] at hlength
      omega
  | @cons t rest tokens fits reads ih =>
    generalize htext : t.spelling ++ rest = text at h'
    cases h' with
    | nil =>
      have hlength := congrArg List.length htext
      have hpos := t.length_spelling_pos
      rw [List.length_nil, List.length_append] at hlength
      omega
    | @cons t' rest' tokens' fits' reads' =>
      have ht : t = t' := by
        rw [← Token.first_of_fits fits, htext, Token.first_of_fits fits']
      subst ht
      have hrest : rest = rest' := List.append_cancel_left htext
      subst hrest
      rw [ih reads']

/-- **Every text is read in some way**, one token after the other. -/
theorem exists_reads (text : List Char) : ∃ tokens, Reads text tokens := by
  generalize hn : text.length = n
  induction n using Nat.strongRecOn generalizing text with
  | ind n ih =>
    by_cases hnil : text = []
    · subst hnil
      exact ⟨[], .nil⟩
    obtain ⟨rest, htext, hfits⟩ := Token.first_spec hnil
    have hlt : rest.length < n := by
      have hpos := (Token.first text).length_spelling_pos
      rw [← hn, htext, List.length_append]
      omega
    obtain ⟨tokens, hreads⟩ := ih rest.length hlt rest rfl
    rw [htext]
    exact ⟨_, .cons hfits hreads⟩

/-! ## 4. What a token is expanded to -/

namespace Scope

variable {σ : Scope}

/-- Behind a name the variable is put in, and what follows is expanded on its own. -/
theorem expandFrom_name : ∀ (inner read : List Char) {rest : List Char},
    (∀ c ∈ inner, isNameChar c = true) → (∀ c, rest.head? = some c → isNameChar c = false) →
      σ.expandFrom (.name read) (inner ++ rest) = σ.global (read ++ inner) ++ σ.expand rest
  | [], read, [], _, _ => by simp [expandFrom, expand]
  | [], read, c :: r, _, hend => by
    have hc : ¬ isNameChar c = true := Bool.eq_false_iff.1 (hend c rfl)
    rw [List.nil_append, List.append_nil, expandFrom, if_neg hc, expand, expandFrom]
    by_cases hd : c = '$'
    · rw [if_pos hd, if_pos hd]
    · rw [if_neg hd, if_neg hd]
  | c :: inner, read, rest, hin, hend => by
    have ih := expandFrom_name inner (read ++ [c])
      (fun d hd => hin d (List.mem_cons_of_mem _ hd)) hend
    rw [List.append_assoc] at ih
    rw [List.cons_append, expandFrom, if_pos (hin c List.mem_cons_self)]
    exact ih

/-- **A token is expanded to its value, and what follows on its own.** -/
theorem expand_token {t : Token} {rest : List Char} (h : t.Fits rest) :
    σ.expand (t.spelling ++ rest) = t.value σ ++ σ.expand rest := by
  cases t with
  | plain c => exact if_neg h
  | count =>
    show σ.count ++ σ.expand rest = (toString σ.params.length).toList ++ σ.expand rest
    rw [Nat.toString_eq_repr, Nat.repr, String.toList_ofList]
    rfl
  | param i =>
    show σ.expandFrom .dollar (Token.digit i :: rest) = _
    rw [expandFrom, if_neg (Token.digit_ne i), if_pos (Token.digit_mem i), param,
      Token.digit_toNat i]
    rfl
  | global name =>
    obtain ⟨hname, hend⟩ := h
    obtain ⟨c, r, rfl, hc, hr⟩ := Token.exists_of_isName hname
    obtain ⟨hne, hdigit⟩ := Token.not_digit_of_isNameStart hc
    show σ.expandFrom .dollar (c :: (r ++ rest)) = _
    rw [expandFrom, if_neg hne, if_neg hdigit, if_pos hc]
    exact expandFrom_name r [c] hr hend
  | dollar =>
    show σ.expandFrom .dollar rest = '$' :: σ.expandFrom .nothing rest
    cases rest with
    | nil => rfl
    | cons c r =>
      obtain ⟨hne, hdigit, hstart⟩ := h c rfl
      rw [expandFrom, expandFrom, if_neg hne, if_neg hdigit, if_neg (Bool.eq_false_iff.1 hstart)]
      by_cases hd : c = '$'
      · rw [if_pos hd, if_pos hd]
      · rw [if_neg hd, if_neg hd]

end Scope

/-- **The expansion of a text is the values of its tokens.** -/
theorem Reads.expand {text : List Char} {tokens : List Token} (h : Reads text tokens) (σ : Scope) :
    σ.expand text = tokens.flatMap (Token.value σ) := by
  induction h with
  | nil => rfl
  | cons fits reads ih => rw [Scope.expand_token fits, ih, List.flatMap_cons]

/-! ## 5. One text behind the other -/

/-- The text does not begin with what could go on with a token before it. -/
def Detached (text : List Char) : Prop :=
  ∀ c, text.head? = some c → c ≠ '#' ∧ c.isAlpha = false ∧ c.isDigit = false ∧ c ≠ '_'

/-- What fits at the end of all fits before a text that is detached. -/
theorem Detached.fits {t : Token} {more : List Char} (hmore : Detached more) (h : t.Fits []) :
    t.Fits more := by
  cases t with
  | plain _ => exact h
  | count => trivial
  | param _ => trivial
  | global name =>
    refine ⟨h.1, fun c hc => ?_⟩
    obtain ⟨-, halpha, hdigit, hne⟩ := hmore c hc
    simp [isNameChar, Char.isAlphanum, halpha, hdigit, hne]
  | dollar =>
    intro c hc
    obtain ⟨hcount, halpha, hdigit, hne⟩ := hmore c hc
    refine ⟨hcount, fun hbounds => ?_, by simp [isNameStart, halpha, hne]⟩
    rw [Token.isDigit_of_bounds hbounds] at hdigit
    cases hdigit

/-- What fits at the end of a text fits before a text that is detached. -/
theorem Token.Fits.before {t : Token} {rest more : List Char} (h : t.Fits rest)
    (hmore : Detached more) : t.Fits (rest ++ more) := by
  cases rest with
  | nil => exact hmore.fits h
  | cons c r =>
    cases t with
    | plain _ => exact h
    | count => trivial
    | param _ => trivial
    | global _ => exact h
    | dollar => exact h

theorem Reads.append {text more : List Char} {tokens tokens' : List Token} (h : Reads text tokens)
    (h' : Reads more tokens') (hmore : Detached more) :
    Reads (text ++ more) (tokens ++ tokens') := by
  induction h with
  | nil => exact h'
  | cons fits reads ih =>
    rw [List.append_assoc]
    exact .cons (fits.before hmore) ih

/-- **A text is expanded on its own before one that is detached.** -/
theorem Scope.expand_append (σ : Scope) (text : List Char) {more : List Char}
    (hmore : Detached more) : σ.expand (text ++ more) = σ.expand text ++ σ.expand more := by
  obtain ⟨tokens, h⟩ := exists_reads text
  obtain ⟨tokens', h'⟩ := exists_reads more
  rw [(h.append h' hmore).expand, h.expand, h'.expand, List.flatMap_append]

/-- **A text has one list of tokens, which it alone determines; in every scope its expansion is
their values**, so nothing that is put in is read again. Before a text that is detached it is
expanded on its own. -/
theorem expand_tokens (text : List Char) :
    (∃ tokens, Reads text tokens ∧ (∀ other, Reads text other → other = tokens) ∧
      ∀ σ : Scope, σ.expand text = tokens.flatMap (Token.value σ)) ∧
    ∀ more, Detached more → ∀ σ : Scope,
      σ.expand (text ++ more) = σ.expand text ++ σ.expand more := by
  obtain ⟨tokens, h⟩ := exists_reads text
  exact ⟨⟨tokens, h, fun other h' => reads_unique h h', fun σ => h.expand σ⟩,
    fun more hmore σ => σ.expand_append text hmore⟩

end ScriptHost.Echo

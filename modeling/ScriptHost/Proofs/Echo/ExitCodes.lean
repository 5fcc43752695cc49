import ScriptHost.Proofs.Echo.Course
import ScriptHost.Proofs.Text.Blank
import ScriptHost.Proofs.Text.Numeral

/-!
# Exit codes

An `exit` ends the run with the code that its operand denotes, or with a failure.

* `exitCode_eq_ok_iff`, `exitCode_eq_error_iff`: **the numerals of 32 bits are taken, and nothing
  else is.**
* `Interpreter.Recounts.exited`: an `exit` that a run comes to is its last line and makes its
  result.
* **`Interpreter.run_exits`**: both for the runs of an interpreter. A written code that is handed in
  as a parameter comes out unchanged.
-/

namespace ScriptHost.Echo

open Numeral (Denotes Digits Fits)

/-! ## 1. Codes -/

theorem exitCode_eq_ok_iff {line : Nat} {text : List Char} {n : Int32} :
    exitCode line text = .ok n ↔ Denotes (Text.trim text) n.toInt := by
  rw [← Numeral.int32?_eq_some_iff, exitCode]
  cases Numeral.int32? (Text.trim text) <;> simp

theorem exitCode_eq_error_iff {line : Nat} {text : List Char} :
    exitCode line text = .error (.invalidExit line (Text.trim text)) ↔
      ¬ ∃ i, Denotes (Text.trim text) i ∧ Fits i := by
  rw [← Numeral.int32?_eq_none_iff, exitCode]
  cases Numeral.int32? (Text.trim text) <;> simp

/-- The run ends with the code that the text denotes, or fails on the line because it denotes
none. -/
structure EndsWith (line : Nat) (code : List Char) (r : Run) : Prop where
  /-- It returns what the text denotes and nothing else. -/
  returned : ∀ i : Int, (∃ n : Int32, n.toInt = i ∧ r.outcome = .success n) ↔
    Denotes code i ∧ -2147483648 ≤ i ∧ i ≤ 2147483647
  refused : (¬ ∃ i, Denotes code i ∧ -2147483648 ≤ i ∧ i ≤ 2147483647) →
    r.outcome = .failure s!"line {line}: invalid exit code '{String.ofList code}'"

theorem Run.outcome_eq_success_iff {r : Run} {n : Int32} :
    r.outcome = .success n ↔ r.result = .ok n := by
  unfold Run.outcome
  cases r.result <;> simp

theorem EndsWith.of_exitCode {r : Run} {line : Nat} {text : List Char}
    (h : r.result = exitCode line text) : EndsWith line (Text.trim text) r where
  returned i := by
    simp only [Run.outcome_eq_success_iff, h, exitCode_eq_ok_iff]
    constructor
    · rintro ⟨n, rfl, hn⟩
      exact ⟨hn, Numeral.fits_toInt n⟩
    · rintro ⟨hi, hlow, hhigh⟩
      have htoInt : (Int32.ofInt i).toInt = i := Int32.toInt_ofInt_of_le hlow (by omega)
      exact ⟨Int32.ofInt i, htoInt, by rwa [htoInt]⟩
  refused hnone := by
    rw [Run.outcome, h, exitCode_eq_error_iff.2 hnone]
    rfl

/-! ## 2. The last line of a run -/

variable {i : Interpreter} {script : String} {params : List String}

theorem resultOf_concat {before : List Visit} {v : Visit} {result : Except Failure Int32}
    (h : v.result? = some result) : resultOf (before ++ [v]) = result := by
  rw [resultOf, List.getLast?_concat, Option.bind_some, h, Option.getD_some]

/-- **An `exit` that a run comes to is its last line and makes its result.** -/
theorem Interpreter.Recounts.exited {before later : List Visit} {v : Visit} {text : List Char}
    (h : i.Recounts script params (before ++ v :: later)) (hexit : v.statement = .exit text) :
    later = [] ∧ (i.run script params).result = exitCode v.line
      (Scope.expand ⟨params.map String.toList, (replay i.globals before).globals⟩ text) := by
  have hdeed := h.genuine.deeds before v later rfl
  rw [hexit] at hdeed
  have hresult : v.result? = some (exitCode v.line
      (Scope.expand ⟨params.map String.toList, (replay i.globals before).globals⟩ text)) := by
    rw [Visit.result?, hdeed]
    rfl
  have hlater : later = [] :=
    h.genuine.ends before v later rfl (by rw [hresult]; exact Option.some_ne_none _)
  refine ⟨hlater, ?_⟩
  subst hlater
  rw [h.run]
  exact resultOf_concat hresult

/-! ## 3. Codes as parameters -/

/-- What denotes an integer is one word. -/
theorem word_of_denotes {s : List Char} {i : Int} (h : Denotes s i) : Text.Word s := by
  have hdigit : ∀ {c : Char}, '0' ≤ c ∧ c ≤ '9' → Text.isBlank c = false := by
    intro c hc
    have hlow : 48 ≤ c.toNat := hc.1
    have hhigh : c.toNat ≤ 57 := hc.2
    exact Text.not_blank_of_bounds (by omega) (by omega)
  have hsigned : ∀ {sign : Char} {digits : List Char}, Text.isBlank sign = false →
      Digits digits → Text.Word (sign :: digits) := fun hsign hdigits =>
    ⟨List.cons_ne_nil _ _, List.forall_mem_cons.2 ⟨hsign, fun c hc => hdigit (hdigits.2 c hc)⟩⟩
  cases h with
  | bare h => exact ⟨h.1, fun c hc => hdigit (h.2 c hc)⟩
  | plus h => exact hsigned rfl h
  | minus h => exact hsigned rfl h

theorem trim_of_denotes {s : List Char} {i : Int} (h : Denotes s i) : Text.trim s = s := by
  have htrim := Text.trim_word_append (word_of_denotes h) []
  simpa [Text.trimEnd] using htrim

/-- A written code is taken for what it is. -/
theorem exitCode_toString (line : Nat) (n : Int32) : exitCode line (toString n).toList = .ok n := by
  have htrim : Text.trim (toString n).toList = (toString n).toList :=
    trim_of_denotes (Numeral.denotes_toString n.toInt)
  rw [exitCode, htrim, Numeral.int32?_toString]

/-! ## 4. Runs -/

theorem Interpreter.run_exit_param (name : String) (globals : Globals) (param : String)
    (more : List String) : ((withConsole name globals).run "exit $1" (param :: more)).result =
      exitCode 1 param.toList := by
  have hstatements : statements "exit $1".toList = [.exit ['$', '1']] := by decide +kernel
  show (execute _ 1 (statements "exit $1".toList) globals).result = _
  rw [hstatements]
  show exitCode 1 (param.toList ++ []) = _
  rw [List.append_nil]

/-- **An `exit` takes the numerals of 32 bits and nothing else.** Where a run comes to one, its
operand is expanded with what is set by then and trimmed. If that is at most one sign and one or
more digits, and the integer they denote has 32 bits, the run returns it; otherwise the run fails
and names the line and the text. A written code that is handed in comes out unchanged. -/
theorem Interpreter.run_exits (name : String) (globals : Globals) (script : String)
    (params : List String) :
    let i := withConsole name globals
    i.Recounts script params (i.course script params) ∧
    (∀ before v later text, i.course script params = before ++ v :: later →
      v.statement = .exit text →
        let σ : Scope := ⟨params.map String.toList, (replay globals before).globals⟩
        v.line = before.length + 1 ∧
        (statements script.toList)[before.length]? = some (.exit text) ∧
        later = [] ∧
        EndsWith v.line (Text.trim (σ.expand text)) (i.run script params)) ∧
    ∀ (n : Int32) (more : List String),
      (i.run "exit $1" (toString n :: more)).outcome = .success n := by
  intro i
  have hrecounts : i.Recounts script params (i.course script params) :=
    recounts_course name globals script params
  refine ⟨hrecounts, ?_, ?_⟩
  · intro before v later text hcourse hexit σ
    rw [hcourse] at hrecounts
    obtain ⟨hline, hstatement⟩ := hrecounts.genuine.position rfl
    obtain ⟨hlater, hresult⟩ := hrecounts.exited hexit
    rw [hexit] at hstatement
    exact ⟨by omega, hstatement, hlater, .of_exitCode hresult⟩
  · intro n more
    rw [Run.outcome_eq_success_iff, run_exit_param, exitCode_toString]

/-- The smallest code, put together from a variable and two parameters. With the other sign it is
one too large. -/
theorem Interpreter.run_exits_smallest :
    let i := withConsole "console" Catalog.empty
    let script := "set high 21474836\nexit $1$high$2"
    let code (sign : Char) := sign :: "2147483648".toList
    let first : Visit := ⟨1, .assign "high".toList "21474836".toList,
      .assigned "high".toList "21474836".toList⟩
    let second (sign : Char) : Visit := ⟨2, .exit "$1$high$2".toList, .exited (code sign)⟩
    i.course script ["-", "48"] = [first] ++ second '-' :: [] ∧
      i.course script ["+", "48"] = [first] ++ second '+' :: [] ∧
      EndsWith 2 (code '-') (i.run script ["-", "48"]) ∧
      EndsWith 2 (code '+') (i.run script ["+", "48"]) ∧
      (i.run script ["-", "48"]).outcome = .success (-2147483648) ∧
      (i.run script ["+", "48"]).outcome =
        .failure "line 2: invalid exit code '+2147483648'" := by
  intro i script code first second
  have hminus : i.course script ["-", "48"] = [first] ++ second '-' :: [] := by decide +kernel
  have hplus : i.course script ["+", "48"] = [first] ++ second '+' :: [] := by decide +kernel
  have hsmallest : Text.trim (Scope.expand ⟨[['-'], "48".toList],
      (replay Catalog.empty [first]).globals⟩ "$1$high$2".toList) = code '-' := by decide +kernel
  have hlarge : Text.trim (Scope.expand ⟨[['+'], "48".toList],
      (replay Catalog.empty [first]).globals⟩ "$1$high$2".toList) = code '+' := by decide +kernel
  obtain ⟨-, hends, -⟩ := run_exits "console" Catalog.empty script ["-", "48"]
  obtain ⟨-, hends', -⟩ := run_exits "console" Catalog.empty script ["+", "48"]
  obtain ⟨-, -, -, hfirst⟩ := hends _ _ _ _ hminus rfl
  obtain ⟨-, -, -, hsecond⟩ := hends' _ _ _ _ hplus rfl
  exact ⟨hminus, hplus, hsmallest ▸ hfirst, hlarge ▸ hsecond, by decide +kernel,
    by decide +kernel⟩

end ScriptHost.Echo

import Mathlib.Data.List.Forall2
import ScriptHost.Proofs.Echo.Joining
import ScriptHost.Proofs.Echo.Variables

/-!
# The layout of a script

Blanks at the ends of a line and how many stand between its words do not count, nor does what a
comment says. A line that says nothing counts as a line only.

* `Respaced`: two lines that differ in these ways. `Respaced.ofLine`: **they say the same
  statement.**
* `Relaid`: two scripts that differ so line by line.
* `execute_without`: a run without a line that says nothing is the same run; the lines behind it
  stand one further up.
* **`Interpreter.run_relaid`**: both for the runs of an interpreter.
-/

namespace ScriptHost.Echo

open Text (Blank Word Gap)

/-! ## 1. Lines -/

/-- A line that is read as a comment. -/
def Comment (line : List Char) : Prop := ∃ front text, Blank front ∧ line = front ++ '#' :: text

theorem Statement.ofLine_of_blank {line : List Char} (h : Blank line) :
    Statement.ofLine line = .blank := by
  rw [ofLine, Text.trim_of_blank h]

theorem Statement.ofLine_of_comment {line : List Char} (h : Comment line) :
    Statement.ofLine line = .blank := by
  obtain ⟨front, text, hfront, rfl⟩ := h
  have hhash : Word ['#'] := Text.word_of_all (List.cons_ne_nil _ _) rfl
  rw [ofLine, Text.trim_blank_append hfront, ← List.singleton_append,
    Text.trim_word_append hhash]
  rfl

/-- The lines differ in their layout only: in blanks at their ends, in the gap behind the first word
or behind the name of a `set`, in a comment in place of blanks, or in several of these. -/
inductive Respaced : List Char → List Char → Prop where
  | ends (words : List Char) {front back front' back' : List Char} (hfront : Blank front)
      (hback : Blank back) (hfront' : Blank front') (hback' : Blank back') :
      Respaced (front ++ words ++ back) (front' ++ words ++ back')
  | keyword {front keyword gap gap' : List Char} (hfront : Blank front) (hkeyword : Word keyword)
      (hgap : Gap gap) (hgap' : Gap gap') (text : List Char) :
      Respaced (front ++ keyword ++ gap ++ text) (front ++ keyword ++ gap' ++ text)
  | name {front before name gap gap' : List Char} (hfront : Blank front) (hbefore : Gap before)
      (hname : Word name) (hgap : Gap gap) (hgap' : Gap gap') (text : List Char) :
      Respaced (front ++ "set".toList ++ before ++ (name ++ gap ++ text))
        (front ++ "set".toList ++ before ++ (name ++ gap' ++ text))
  | comment {line blanks : List Char} (hline : Comment line) (hblanks : Blank blanks) :
      Respaced line blanks
  | trans {a b c : List Char} (hab : Respaced a b) (hbc : Respaced b c) : Respaced a c

/-- A line may stay as it is. -/
theorem Respaced.refl (line : List Char) : Respaced line line := by
  have h := Respaced.ends line Text.blank_nil Text.blank_nil Text.blank_nil Text.blank_nil
  simpa using h

/-- **Lines that differ in their layout only say the same statement.** -/
theorem Respaced.ofLine {line line' : List Char} (h : Respaced line line') :
    Statement.ofLine line' = Statement.ofLine line := by
  induction h with
  | ends words hfront hback hfront' hback' =>
    rw [Statement.ofLine, Statement.ofLine, Text.trim_between hfront hback,
      Text.trim_between hfront' hback']
  | keyword hfront hkeyword hgap hgap' text =>
    rw [Statement.ofLine_words hfront hkeyword hgap, Statement.ofLine_words hfront hkeyword hgap']
  | name hfront hbefore hname hgap hgap' text =>
    have hset : Word "set".toList := Text.word_of_all (by decide) rfl
    rw [Statement.ofLine_words hfront hset hbefore, Statement.ofLine_words hfront hset hbefore,
      Statement.ofWords_gap hname hgap, Statement.ofWords_gap hname hgap']
  | comment hline hblanks =>
    rw [Statement.ofLine_of_comment hline, Statement.ofLine_of_blank hblanks]
  | trans hab hbc ihab ihbc => rw [ihbc, ihab]

/-! ## 2. Scripts -/

/-- Line by line the scripts differ in their layout only. -/
def Relaid (script script' : String) : Prop :=
  List.Forall₂ Respaced (Text.split '\n' script.toList) (Text.split '\n' script'.toList)

theorem map_ofLine_eq : ∀ {a b : List (List Char)}, List.Forall₂ Respaced a b →
    b.map Statement.ofLine = a.map Statement.ofLine
  | _, _, .nil => rfl
  | _, _, .cons hline hrest => by
    rw [List.map_cons, List.map_cons, hline.ofLine, map_ofLine_eq hrest]

variable {params : List (List Char)} {globals : Globals}

/-- A blank line at the end does nothing. -/
theorem execute_concat_blank (params : List (List Char)) (script : List Statement) :
    ∀ (line : Nat) (globals : Globals),
      execute params line (script ++ [.blank]) globals = execute params line script globals := by
  induction script with
  | nil =>
    intro line globals
    rfl
  | cons s rest ih =>
    intro line globals
    rw [List.cons_append, execute_cons, execute_cons, ih]

/-- Runs the statements; without a console it runs none. -/
def Interpreter.perform (i : Interpreter) (params : List String) (script : List Statement) : Run :=
  match i.console with
  | .error e => ⟨.error e, [], i.globals⟩
  | .ok _ => execute (params.map String.toList) 1 script i.globals

/-- What stands between the line breaks can be run in place of the lines. -/
theorem Interpreter.run_eq_perform (i : Interpreter) (script : String) (params : List String) :
    i.run script params =
      i.perform params ((Text.split '\n' script.toList).map Statement.ofLine) := by
  unfold run perform
  cases i.console with
  | error e => rfl
  | ok console =>
    show execute _ 1 ((lines script.toList).map Statement.ofLine) _ = execute _ 1 _ _
    rcases split_eq_lines script.toList with h | h
    · rw [h]
    · rw [h, List.map_append]
      exact (execute_concat_blank _ _ _ _).symm

/-! ## 3. One line less -/

/-- The number of a line when the line `gap` is taken out. -/
def closeUp (gap line : Nat) : Nat := if gap < line then line - 1 else line

/-- The failure when the line `gap` is taken out. -/
def Failure.without (gap : Nat) : Failure → Failure
  | .invalidName line name => .invalidName (closeUp gap line) name
  | .invalidExit line code => .invalidExit (closeUp gap line) code
  | .unknownStatement line keyword => .unknownStatement (closeUp gap line) keyword
  | f => f

/-- The run when the line `gap` is taken out. -/
def Run.without (gap : Nat) (r : Run) : Run :=
  { r with result := r.result.mapError (Failure.without gap) }

theorem Failure.about_without (f : Failure) (gap : Nat) :
    (f.without gap).about? = f.about?.map fun a => (closeUp gap a.1, a.2) := by
  cases f <;> rfl

theorem exitCode_without (gap line : Nat) (text : List Char) :
    (exitCode line text).mapError (Failure.without gap) = exitCode (closeUp gap line) text := by
  unfold exitCode
  cases Numeral.int32? (Text.trim text) <;> rfl

theorem Deed.result?_without (d : Deed) (gap line : Nat) :
    (d.result? line).map (·.mapError (Failure.without gap)) = d.result? (closeUp gap line) := by
  cases d with
  | exited operand => exact congrArg some (exitCode_without gap line operand)
  | _ => rfl

/-- A statement does the same on its new line, and so does the run if the rest of it does. -/
theorem execute_cons_without {s : Statement} {rest rest' : List Statement} {gap line line' : Nat}
    (hline : closeUp gap line = line')
    (hrest : ∀ globals, execute params (line' + 1) rest' globals =
      (execute params (line + 1) rest globals).without gap) :
    execute params line' (s :: rest') globals =
      (execute params line (s :: rest) globals).without gap := by
  have hresult := (s.deed ⟨params, globals⟩).result?_without gap line
  rw [hline] at hresult
  cases h : (s.deed ⟨params, globals⟩).result? line with
  | some result =>
    rw [h, Option.map_some] at hresult
    rw [execute_ends h, execute_ends hresult.symm]
    rfl
  | none =>
    rw [h, Option.map_none] at hresult
    rw [execute_goesOn h, execute_goesOn hresult.symm, hrest]
    rfl

/-- Behind the line that is taken out the run is the same, one line further up. -/
theorem execute_up (params : List (List Char)) (script : List Statement) {gap : Nat} :
    ∀ {line : Nat} (globals : Globals), gap ≤ line →
      execute params line script globals =
        (execute params (line + 1) script globals).without gap := by
  induction script with
  | nil =>
    intro line globals _
    rfl
  | cons s rest ih =>
    intro line globals h
    have hline : closeUp gap (line + 1) = line := if_pos (Nat.lt_succ_of_le h)
    exact execute_cons_without hline fun globals => ih globals (Nat.le_succ_of_le h)

/-- **Without a blank line the run is the same**, but for the lines that failures behind it name. -/
theorem execute_without (params : List (List Char)) (before after : List Statement) :
    ∀ (line : Nat) (globals : Globals),
      execute params line (before ++ after) globals =
        (execute params line (before ++ .blank :: after) globals).without
          (line + before.length) := by
  induction before with
  | nil =>
    intro line globals
    exact execute_up params after globals (Nat.le_refl line)
  | cons s rest ih =>
    intro line globals
    have hgap : line + (s :: rest).length = line + 1 + rest.length := by
      rw [List.length_cons, Nat.add_right_comm, Nat.add_assoc]
    have hline : closeUp (line + (s :: rest).length) line = line :=
      if_neg (Nat.not_lt.2 (Nat.le_add_right _ _))
    refine execute_cons_without hline fun globals => ?_
    rw [hgap]
    exact ih (line + 1) globals

theorem Interpreter.perform_without (i : Interpreter) (params : List String)
    (before after : List Statement) :
    i.perform params (before ++ after) =
      (i.perform params (before ++ .blank :: after)).without (before.length + 1) := by
  obtain ⟨api, globals⟩ := i
  rw [Nat.add_comm]
  cases api with
  | none => rfl
  | some handle =>
    cases handle with
    | console name => exact execute_without (params.map String.toList) before after 1 globals
    | other name => rfl

/-- What a run is when the line `gap` of its script, which says nothing, is taken out. -/
structure ClosesUp (gap : Nat) (r r' : Run) : Prop where
  printed : r'.printed = r.printed
  globals : r'.globals = r.globals
  returned : ∀ value, r.result = .ok value → r'.result = .ok value
  failed : ∀ f, r.result = .error f → r'.result = .error (f.without gap)
  /-- A failure that names a line behind the gap says the same of the line before that one. -/
  messages : ∀ f line what, r.result = .error f → f.about? = some (line, what) →
    f.message = s!"line {line}: {what}" ∧
      (f.without gap).message = s!"line {if gap < line then line - 1 else line}: {what}"
  /-- A failure that names no line says the same. -/
  otherMessages : ∀ f, r.result = .error f → f.about? = none → f.without gap = f

theorem closesUp_without (gap : Nat) (r : Run) : ClosesUp gap r (r.without gap) where
  printed := rfl
  globals := rfl
  returned value h := by
    show r.result.mapError (Failure.without gap) = .ok value
    rw [h]
    rfl
  failed f h := by
    show r.result.mapError (Failure.without gap) = .error (f.without gap)
    rw [h]
    rfl
  messages f line what _ h := by
    refine ⟨Failure.message_of_about h, Failure.message_of_about ?_⟩
    rw [Failure.about_without, h]
    rfl
  otherMessages f _ h := by
    cases f with
    | noApi | noConsole | declared text => rfl
    | invalidName line name | invalidExit line code | unknownStatement line keyword => cases h

/-! ## 4. Runs -/

/-- The script without the line between these. -/
def withoutLine (before after : List (List Char)) : String :=
  String.ofList (Text.joined '\n' (before ++ after))

/-- The statements of a script without one of its lines. -/
theorem split_withoutLine {script : String} {before after : List (List Char)} {line : List Char}
    (h : Text.split '\n' script.toList = before ++ line :: after) :
    (Text.split '\n' (withoutLine before after).toList).map Statement.ofLine =
        (before ++ after).map Statement.ofLine ∨
      before ++ after = [] ∧
        (Text.split '\n' (withoutLine before after).toList).map Statement.ofLine = [.blank] := by
  unfold withoutLine
  rw [String.toList_ofList]
  by_cases hne : before ++ after = []
  · right
    rw [hne]
    exact ⟨rfl, rfl⟩
  · left
    rw [Text.split_joined hne]
    intro part hpart
    refine Text.not_mem_of_mem_split '\n' script.toList part (h ▸ ?_)
    rcases List.mem_append.1 hpart with hbefore | hafter
    · exact List.mem_append_left _ hbefore
    · exact List.mem_append_right _ (List.mem_cons_of_mem _ hafter)

theorem Interpreter.run_withoutLine (i : Interpreter) (params : List String) {script : String}
    {before after : List (List Char)} {line : List Char}
    (h : Text.split '\n' script.toList = before ++ line :: after)
    (hline : Statement.ofLine line = .blank) :
    i.run (withoutLine before after) params =
      (i.run script params).without (before.length + 1) := by
  have hwithout := i.perform_without params (before.map Statement.ofLine)
    (after.map Statement.ofLine)
  rw [List.length_map] at hwithout
  have hscript : i.run script params = i.perform params
      (before.map Statement.ofLine ++ .blank :: after.map Statement.ofLine) := by
    rw [run_eq_perform, h, List.map_append, List.map_cons, hline]
  rw [hscript, ← hwithout, run_eq_perform]
  rcases split_withoutLine h with hlines | ⟨hnil, hlines⟩
  · rw [hlines, List.map_append]
  · obtain ⟨rfl, rfl⟩ := List.append_eq_nil_iff.1 hnil
    rw [hlines]
    -- an empty script has no line, and a blank one does nothing
    unfold perform
    cases i.console <;> rfl

/-- **The layout of a script does not count.** Scripts that differ line by line in their layout only
have the same runs, on every interpreter and with all parameters. A line that is blank or a comment
can be taken out: the run stays the same, and a failure that names a line behind it names the one
before that. -/
theorem Interpreter.run_relaid (i : Interpreter) (script : String) (params : List String) :
    (∀ script', Relaid script script' → i.run script' params = i.run script params) ∧
    ∀ before line after, Text.split '\n' script.toList = before ++ line :: after →
      Blank line ∨ Comment line →
        ClosesUp (before.length + 1) (i.run script params)
          (i.run (withoutLine before after) params) := by
  constructor
  · intro script' h
    rw [run_eq_perform, run_eq_perform, map_ofLine_eq h]
  · intro before line after h hline
    have hblank : Statement.ofLine line = .blank := by
      rcases hline with hline | hline
      · exact Statement.ofLine_of_blank hline
      · exact Statement.ofLine_of_comment hline
    rw [i.run_withoutLine params h hblank]
    exact closesUp_without _ _

/-- Blanks of several kinds in other places, and a comment that becomes a blank line or goes. -/
theorem Interpreter.run_relaid_blanks :
    let i := withConsole "console" Catalog.empty
    let script := "set  a b\n# note\nshout $a"
    let script' := " set a\tb\r\n \nshout \u3000$a"
    let before := ["set  a b".toList]
    let after := ["shout $a".toList]
    Relaid script script' ∧ i.run script' [] = i.run script [] ∧
      Text.split '\n' script.toList = before ++ "# note".toList :: after ∧
      Comment "# note".toList ∧
      ClosesUp 2 (i.run script []) (i.run (withoutLine before after) []) ∧
      (i.run script []).outcome = .failure "line 3: unknown statement 'shout'" ∧
      (i.run (withoutLine before after) []).outcome =
        .failure "line 2: unknown statement 'shout'" := by
  intro i script script' before after
  have hsplit : Text.split '\n' script.toList = before ++ "# note".toList :: after := by
    decide +kernel
  have hcomment : Comment "# note".toList := ⟨[], " note".toList, Text.blank_nil, by decide +kernel⟩
  have hset : Word "set".toList := Text.word_of_all (by decide) rfl
  have hshout : Word "shout".toList := Text.word_of_all (by decide) rfl
  have ha : Word ['a'] := Text.word_of_all (by decide) rfl
  have hgap : Gap [' '] := ⟨by decide, Text.blank_of_all rfl⟩
  have htwo : Gap [' ', ' '] := ⟨by decide, Text.blank_of_all rfl⟩
  have htab : Gap ['\t'] := ⟨by decide, Text.blank_of_all rfl⟩
  have hwide : Gap [' ', '\u3000'] := ⟨by decide, Text.blank_of_all rfl⟩
  have hrelaid : Relaid script script' := by
    have hscript' : Text.split '\n' script'.toList =
        [[' '] ++ "set a\tb".toList ++ ['\r'], [' '], "shout \u3000$a".toList] := by
      decide +kernel
    unfold Relaid
    rw [hsplit, hscript']
    refine .cons ?_ (.cons (.comment hcomment hgap.2) (.cons ?_ .nil))
    · have hkeyword := Respaced.keyword Text.blank_nil hset htwo hgap "a b".toList
      have hname := Respaced.name Text.blank_nil hgap ha hgap htab ['b']
      have hends := Respaced.ends "set a\tb".toList Text.blank_nil Text.blank_nil hgap.2
        (Text.blank_of_all rfl : Blank ['\r'])
      exact (hkeyword.trans hname).trans hends
    · exact Respaced.keyword Text.blank_nil hshout hgap hwide "$a".toList
  obtain ⟨hrun, hline⟩ := i.run_relaid script []
  exact ⟨hrelaid, hrun script' hrelaid, hsplit, hcomment,
    hline before _ after hsplit (.inr hcomment), by decide +kernel, by decide +kernel⟩

end ScriptHost.Echo

import ScriptHost.Proofs.Echo.Course

/-!
# Scripts one behind the other

Two scripts joined by a line break run like one after the other, with the variables that the first
one leaves, unless the first one stops early.

* `statements_joined`: the statements of the joined script are those of the first one, a blank line
  if it ended with a line break, and those of the second one.
* `execute_append`: **running on behind a run that reached its end**, and nothing behind one that
  stopped early.
* `execute_down`: further down the same happens, and failures that name a line name one further
  down.
* `Interpreter.run_joined`: all three together. `Interpreter.run_joined_declared`: the text of a
  `fail` statement stays as it is, whatever it looks like.
-/

namespace ScriptHost

/-! ## 1. The lines of a joined text -/

theorem Text.length_split {α : Type} [DecidableEq α] (sep : α) (s : List α) :
    (split sep s).length = s.count sep + 1 := by
  induction s with
  | nil => rfl
  | cons c r ih =>
    by_cases hc : c = sep
    · subst hc
      simp [split, ih]
    · rw [List.count_cons_of_ne hc, ← ih]
      cases hs : split sep r with
      | nil => exact absurd hs (split_ne_nil sep r)
      | cons part parts => simp [split, hc, hs]

namespace Echo

/-- The parts of a text between its line breaks are its lines, and an empty one if the text ends with
a line break. -/
theorem split_eq_lines (s : List Char) :
    Text.split '\n' s = lines s ∨ Text.split '\n' s = lines s ++ [[]] := by
  unfold lines
  by_cases h : (Text.split '\n' s).getLast? = some []
  · right
    obtain ⟨parts, hparts⟩ := List.getLast?_eq_some_iff.1 h
    rw [if_pos h, hparts, List.dropLast_concat]
  · left
    rw [if_neg h]

/-- Whether the last part of a joined text is a line is up to the second text. -/
theorem lines_joined (s t : List Char) :
    lines (s ++ '\n' :: t) = Text.split '\n' s ++ lines t := by
  have hne := Text.split_ne_nil '\n' t
  have hlast : (Text.split '\n' s ++ Text.split '\n' t).getLast? =
      (Text.split '\n' t).getLast? := by
    rw [List.getLast?_append, List.getLast?_eq_some_getLast hne, Option.some_or]
  simp only [lines, Text.split_append, hlast, List.dropLast_append_of_ne_nil hne]
  split
  · rfl
  · rfl

/-- **The statements of a joined script**: those of the first one, a blank line if there is an empty
line at the seam, and those of the second one; the second one begins as many lines further down as
there are line breaks before it. -/
theorem statements_joined (s t : List Char) :
    ∃ gap : List Statement, (gap = [] ∨ gap = [.blank]) ∧
      statements (s ++ '\n' :: t) = statements s ++ (gap ++ statements t) ∧
      (statements s).length + gap.length = s.count '\n' + 1 := by
  have hlength := Text.length_split '\n' s
  unfold statements
  rw [lines_joined]
  rcases split_eq_lines s with h | h
  · refine ⟨[], .inl rfl, ?_, ?_⟩
    · rw [h, List.map_append, List.nil_append]
    · rw [← hlength, h, List.length_map, List.length_nil, Nat.add_zero]
  · refine ⟨[.blank], .inr rfl, ?_, ?_⟩
    · rw [h, List.append_assoc, List.map_append]
      rfl
    · rw [← hlength, h, List.length_map, List.length_append]
      rfl

/-! ## 2. Lines further down -/

/-- The line that the failure names, and what it says about it. -/
def Failure.about? : Failure → Option (Nat × String)
  | .invalidName line name => some (line, s!"invalid variable name '{String.ofList name}'")
  | .invalidExit line code => some (line, s!"invalid exit code '{String.ofList code}'")
  | .unknownStatement line keyword => some (line, s!"unknown statement '{String.ofList keyword}'")
  | .noApi | .noConsole | .declared _ => none

/-- The failure, so many lines further down. -/
def Failure.down (k : Nat) : Failure → Failure
  | .invalidName line name => .invalidName (line + k) name
  | .invalidExit line code => .invalidExit (line + k) code
  | .unknownStatement line keyword => .unknownStatement (line + k) keyword
  | f => f

theorem Failure.message_of_about {f : Failure} {line : Nat} {what : String}
    (h : f.about? = some (line, what)) : f.message = s!"line {line}: {what}" := by
  cases f with
  | noApi => cases h
  | noConsole => cases h
  | declared text => cases h
  | invalidName line name | invalidExit line code | unknownStatement line keyword =>
    cases h
    rw [← String.toList_inj]
    simp [message, toString]

theorem Failure.about_down (f : Failure) (k : Nat) :
    (f.down k).about? = f.about?.map fun a => (a.1 + k, a.2) := by
  cases f <;> rfl

/-- The run, so many lines further down. -/
def Run.down (k : Nat) (r : Run) : Run := { r with result := r.result.mapError (Failure.down k) }

theorem exitCode_down (line k : Nat) (text : List Char) :
    exitCode (line + k) text = (exitCode line text).mapError (Failure.down k) := by
  unfold exitCode
  cases Numeral.int32? (Text.trim text) <;> rfl

theorem Deed.result?_down (d : Deed) (line k : Nat) :
    d.result? (line + k) = (d.result? line).map (·.mapError (Failure.down k)) := by
  cases d with
  | exited operand => exact congrArg some (exitCode_down line k operand)
  | _ => rfl

/-- **Further down a run is the same**, but for the lines that failures name. -/
theorem execute_down (params : List (List Char)) (k : Nat) (script : List Statement) :
    ∀ (line : Nat) (globals : Globals),
      execute params (line + k) script globals = (execute params line script globals).down k := by
  induction script with
  | nil =>
    intro line globals
    rfl
  | cons s rest ih =>
    intro line globals
    have hdown := (s.deed ⟨params, globals⟩).result?_down line k
    cases h : (s.deed ⟨params, globals⟩).result? line with
    | some result =>
      rw [h, Option.map_some] at hdown
      rw [execute_ends h, execute_ends hdown]
      rfl
    | none =>
      rw [h, Option.map_none] at hdown
      rw [execute_goesOn h, execute_goesOn hdown, Nat.add_right_comm, ih]
      rfl

/-! ## 3. Running on -/

/-- No line of the course ends the run. -/
def ReachesEnd (visits : List Visit) : Prop := ∀ v ∈ visits, v.result? = none

/-- A run that continues the first one with the second one. -/
def Run.followedBy (first second : Run) : Run := second.behind first.printed

theorem Run.behind_behind (a b : List (List Char)) (r : Run) :
    (r.behind b).behind a = r.behind (a ++ b) := by
  unfold behind
  rw [List.append_assoc]

/-- **Behind a run that reaches its end the rest is run on**, with the variables that it leaves;
behind one that stops early nothing is. -/
theorem execute_append (params : List (List Char)) (script more : List Statement) :
    ∀ (line : Nat) (globals : Globals),
      let first := execute params line script globals
      (ReachesEnd (course params line script globals) →
        execute params line (script ++ more) globals =
          first.followedBy (execute params (line + script.length) more first.globals)) ∧
      (¬ ReachesEnd (course params line script globals) →
        execute params line (script ++ more) globals = first) := by
  induction script with
  | nil =>
    intro line globals first
    exact ⟨fun _ => rfl, fun h => absurd (fun _ hv => nomatch hv) h⟩
  | cons s rest ih =>
    intro line globals first
    cases h : (s.deed ⟨params, globals⟩).result? line with
    | some result =>
      have hfirst : first = ⟨result, [], globals⟩ := execute_ends h
      have hnot : ¬ ReachesEnd (course params line (s :: rest) globals) := by
        intro hend
        rw [course_ends h] at hend
        have hv := hend _ List.mem_cons_self
        rw [Visit.result?, h] at hv
        cases hv
      refine ⟨fun hend => absurd hend hnot, fun _ => ?_⟩
      rw [hfirst, List.cons_append, execute_ends h]
    | none =>
      have hfirst : first = (execute params (line + 1) rest
          ((s.deed ⟨params, globals⟩).after globals)).behind (s.deed ⟨params, globals⟩).lines :=
        execute_goesOn h
      obtain ⟨hend, hstop⟩ := ih (line + 1) ((s.deed ⟨params, globals⟩).after globals)
      have hreaches : ReachesEnd (course params line (s :: rest) globals) ↔
          ReachesEnd (course params (line + 1) rest ((s.deed ⟨params, globals⟩).after globals)) := by
        rw [course_goesOn h]
        unfold ReachesEnd
        rw [List.forall_mem_cons]
        exact ⟨fun hall => hall.2, fun hall => ⟨h, hall⟩⟩
      rw [hreaches, hfirst, List.cons_append, execute_goesOn h, List.length_cons,
        Nat.add_comm rest.length 1, ← Nat.add_assoc]
      refine ⟨fun hr => ?_, fun hr => ?_⟩
      · rw [hend hr]
        exact Run.behind_behind _ _ _
      · rw [hstop hr]

/-- A blank line only counts. -/
theorem execute_gap (params : List (List Char)) {gap : List Statement}
    (h : gap = [] ∨ gap = [.blank]) (line : Nat) (more : List Statement) (globals : Globals) :
    execute params line (gap ++ more) globals = execute params (line + gap.length) more globals := by
  rcases h with rfl | rfl
  · rfl
  · rfl

/-! ## 4. Joined scripts -/

/-- What the run of the joined script is, when the first script reaches its end, compared with the
runs of the first script and then of the second one; the second one stands `k` lines further
down. -/
structure Continues (k : Nat) (first second both : Run) : Prop where
  printed : both.printed = first.printed ++ second.printed
  globals : both.globals = second.globals
  returned : ∀ value, second.result = .ok value → both.result = .ok value
  failed : ∀ f, second.result = .error f → both.result = .error (f.down k)
  /-- A failure that names a line says the same of a line `k` further down. -/
  messages : ∀ f line what, second.result = .error f → f.about? = some (line, what) →
    f.message = s!"line {line}: {what}" ∧ (f.down k).message = s!"line {line + k}: {what}"
  /-- A failure that names none says the same; so does a declared one, whatever its text. -/
  otherMessages : ∀ f, second.result = .error f → f.about? = none → f.down k = f

theorem continues_followedBy (k : Nat) (first second : Run) :
    Continues k first second (first.followedBy (second.down k)) where
  printed := rfl
  globals := rfl
  returned value h := by
    show (second.result.mapError (Failure.down k)) = .ok value
    rw [h]
    rfl
  failed f h := by
    show (second.result.mapError (Failure.down k)) = .error (f.down k)
    rw [h]
    rfl
  messages f line what _ h := by
    refine ⟨Failure.message_of_about h, Failure.message_of_about ?_⟩
    rw [Failure.about_down, h]
    rfl
  otherMessages f _ h := by
    cases f with
    | noApi | noConsole | declared text => rfl
    | invalidName line name | invalidExit line code | unknownStatement line keyword => cases h

/-- **The run of two scripts joined by a line break** continues the run of the first one with that
of the second one on the variables that the first one leaves, if the first one reaches its end; and
else it is the run of the first one. The second script stands one line further down than there are
line breaks in the first. -/
theorem Interpreter.run_joined (name : String) (globals : Globals) (s t : String)
    (params : List String) :
    let i := withConsole name globals
    let first := i.run s params
    let second := ({ i with globals := first.globals } : Interpreter).run t params
    let both := i.run (s ++ "\n" ++ t) params
    (ReachesEnd (i.course s params) →
      Continues (1 + s.toList.count '\n') first second both) ∧
    (¬ ReachesEnd (i.course s params) → both = first) := by
  intro i first second both
  have hjoined : (s ++ "\n" ++ t).toList = s.toList ++ '\n' :: t.toList := by
    simp [String.toList_append]
  obtain ⟨gap, hgap, hstatements, hlength⟩ := statements_joined s.toList t.toList
  have hboth : both = execute (params.map String.toList) 1
      (statements s.toList ++ (gap ++ statements t.toList)) globals := by
    show execute _ 1 (statements (s ++ "\n" ++ t).toList) globals = _
    rw [hjoined, hstatements]
  obtain ⟨hend, hstop⟩ := execute_append (params.map String.toList) (statements s.toList)
    (gap ++ statements t.toList) 1 globals
  refine ⟨fun hr => ?_, fun hr => ?_⟩
  · have hsecond : execute (params.map String.toList) (1 + (statements s.toList).length)
        (gap ++ statements t.toList) first.globals = second.down (1 + s.toList.count '\n') := by
      rw [execute_gap _ hgap, Nat.add_assoc, hlength, Nat.add_comm _ 1, execute_down]
      rfl
    rw [hboth, hend hr]
    show Continues _ first second (first.followedBy (execute (params.map String.toList)
      (1 + (statements s.toList).length) (gap ++ statements t.toList) first.globals))
    rw [hsecond]
    exact continues_followedBy _ first second
  · rw [hboth]
    exact hstop hr

/-- A declared failure is no other further down, even if its text looks as if it named a line. -/
theorem Interpreter.run_joined_declared :
    let i := withConsole "console" Catalog.empty
    let s := ""
    let t := "fail line 3: x"
    let second := ({ i with globals := (i.run s []).globals } : Interpreter).run t []
    let both := i.run (s ++ "\n" ++ t) []
    let k := 1 + s.toList.count '\n'
    ReachesEnd (i.course s []) ∧
      ¬ ∀ (line : Nat) (what : String), second.outcome = .failure s!"line {line}: {what}" →
        both.outcome = .failure s!"line {line + k}: {what}" := by
  intro i s t second both k
  refine ⟨fun v hv => ?_, fun h => ?_⟩
  · have hcourse : i.course s [] = [] := by decide +kernel
    rw [hcourse] at hv
    cases hv
  · have hsecond : second.outcome = .failure "line 3: x" := by decide +kernel
    have hboth : both.outcome = .failure "line 3: x" := by decide +kernel
    have hdown := h 3 "x" hsecond
    rw [hboth] at hdown
    revert hdown
    decide +kernel

end Echo

end ScriptHost

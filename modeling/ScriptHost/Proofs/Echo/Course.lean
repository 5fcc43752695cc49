import ScriptHost.Echo.Interpreter

/-!
# The course of a run

A run of an Echo script goes from line to line, up to a line that ends it or to the end of the
script.

* `Deed`: what a line does, its text expanded. `execute_cons`: **what a run does on a line and how
  it goes on from there**; all else about runs is shown from this.
* `course`: the lines that a run comes to, each with its statement and its deed. The course tells
  the whole run (`execute_eq_replay`).
* `Genuine`: what makes a list of visits the course of a run (`course_genuine`).
* `course_skeleton`: **without the expanded texts the course is the same for all parameters and
  variables.** `Interpreter.run_parallel` says so of the runs of two interpreters.
-/

namespace ScriptHost.Echo

/-! ## 1. Deeds -/

/-- What a line does, its text expanded. -/
inductive Deed where
  /-- Nothing. -/
  | nothing
  | printed (text : List Char)
  | assigned (name value : List Char)
  | exited (operand : List Char)
  | failed (text : List Char)
  /-- It refuses to set a variable whose name is none. -/
  | refusedName (name : List Char)
  /-- It refuses a keyword that is none. -/
  | refusedKeyword (keyword : List Char)
  deriving DecidableEq, Repr

/-- What the statement does in the scope. -/
def Statement.deed (σ : Scope) : Statement → Deed
  | .blank => .nothing
  | .print text => .printed (σ.expand text)
  | .assign name text => .assigned name (σ.expand text)
  | .exit text => .exited (σ.expand text)
  | .fail text => .failed (σ.expand text)
  | .badName name => .refusedName name
  | .unknown keyword => .refusedKeyword keyword

namespace Deed

/-- The result with which the deed ends the run on the line, if it ends it. -/
def result? (line : Nat) : Deed → Option (Except Failure Int32)
  | .nothing | .printed _ | .assigned .. => none
  | .exited operand => some (exitCode line operand)
  | .failed text => some (.error (.declared text))
  | .refusedName name => some (.error (.invalidName line name))
  | .refusedKeyword keyword => some (.error (.unknownStatement line keyword))

/-- The lines that the deed prints. -/
def lines : Deed → List (List Char)
  | .printed text => [text]
  | _ => []

/-- The name of the variable that the deed sets. -/
def name? : Deed → Option (List Char)
  | .assigned name _ => some name
  | _ => none

/-- The variables after the deed. -/
def after (globals : Globals) : Deed → Globals
  | .assigned name value => globals.insert name value
  | _ => globals

end Deed

/-- A deed that ends the run prints nothing and sets nothing. -/
theorem Deed.quiet_of_ends {d : Deed} {line : Nat} {result : Except Failure Int32}
    (h : d.result? line = some result) : d.lines = [] ∧ ∀ globals, d.after globals = globals := by
  cases d with
  | nothing => cases h
  | printed text => cases h
  | assigned name value => cases h
  | exited _ | failed _ | refusedName _ | refusedKeyword _ => exact ⟨rfl, fun _ => rfl⟩

/-- The run with these lines printed before it. -/
def Run.behind (lines : List (List Char)) (r : Run) : Run := { r with printed := lines ++ r.printed }

variable {params : List (List Char)} {line : Nat} {s : Statement} {rest : List Statement}
  {globals : Globals}

/-- **A line either ends the run with its result, or the run goes on behind what the line prints
and with the variables that it leaves.** -/
theorem execute_cons (params : List (List Char)) (line : Nat) (s : Statement)
    (rest : List Statement) (globals : Globals) :
    execute params line (s :: rest) globals =
      match (s.deed ⟨params, globals⟩).result? line with
      | some result => ⟨result, [], globals⟩
      | none =>
        (execute params (line + 1) rest ((s.deed ⟨params, globals⟩).after globals)).behind
          (s.deed ⟨params, globals⟩).lines := by
  cases s <;> rfl

theorem execute_ends {result : Except Failure Int32}
    (h : (s.deed ⟨params, globals⟩).result? line = some result) :
    execute params line (s :: rest) globals = ⟨result, [], globals⟩ := by
  rw [execute_cons, h]

theorem execute_goesOn (h : (s.deed ⟨params, globals⟩).result? line = none) :
    execute params line (s :: rest) globals =
      (execute params (line + 1) rest ((s.deed ⟨params, globals⟩).after globals)).behind
        (s.deed ⟨params, globals⟩).lines := by
  rw [execute_cons, h]

/-! ## 2. Courses -/

/-- A line that a run comes to. -/
structure Visit where
  line : Nat
  statement : Statement
  deed : Deed
  deriving DecidableEq, Repr

/-- The result with which the line ends the run, if it ends it. -/
def Visit.result? (v : Visit) : Option (Except Failure Int32) := v.deed.result? v.line

/-- The lines that a run comes to, in order. -/
def course (params : List (List Char)) : Nat → List Statement → Globals → List Visit
  | _, [], _ => []
  | line, s :: rest, globals =>
    let d := s.deed ⟨params, globals⟩
    ⟨line, s, d⟩ ::
      match d.result? line with
      | some _ => []
      | none => course params (line + 1) rest (d.after globals)

theorem course_ends {result : Except Failure Int32}
    (h : (s.deed ⟨params, globals⟩).result? line = some result) :
    course params line (s :: rest) globals = [⟨line, s, s.deed ⟨params, globals⟩⟩] := by
  simp only [course, h]

theorem course_goesOn (h : (s.deed ⟨params, globals⟩).result? line = none) :
    course params line (s :: rest) globals =
      ⟨line, s, s.deed ⟨params, globals⟩⟩ ::
        course params (line + 1) rest ((s.deed ⟨params, globals⟩).after globals) := by
  simp only [course, h]

/-- What the last line of a course makes of the run: one that ends nothing returns 0. -/
def resultOf (visits : List Visit) : Except Failure Int32 :=
  (visits.getLast?.bind Visit.result?).getD (.ok 0)

/-- The run that goes through these lines, from the variables on. -/
def replay (globals : Globals) (visits : List Visit) : Run where
  result := resultOf visits
  printed := visits.flatMap (·.deed.lines)
  globals := visits.foldl (fun g v => v.deed.after g) globals

theorem resultOf_cons {v : Visit} (h : v.result? = none) (visits : List Visit) :
    resultOf (v :: visits) = resultOf visits := by
  unfold resultOf
  rw [List.getLast?_cons]
  cases visits.getLast? with
  | none => simp [h]
  | some last => rfl

/-- **The course tells the whole run**: its result, what it prints, and the variables it leaves. -/
theorem execute_eq_replay (params : List (List Char)) (script : List Statement) :
    ∀ (line : Nat) (globals : Globals),
      execute params line script globals = replay globals (course params line script globals) := by
  induction script with
  | nil =>
    intro line globals
    rfl
  | cons s rest ih =>
    intro line globals
    cases h : (s.deed ⟨params, globals⟩).result? line with
    | some result =>
      have hv : (⟨line, s, s.deed ⟨params, globals⟩⟩ : Visit).result? = some result := h
      obtain ⟨hlines, hafter⟩ := Deed.quiet_of_ends h
      rw [execute_ends h, course_ends h]
      simp [replay, resultOf, hv, hlines, hafter]
    | none =>
      have hv : (⟨line, s, s.deed ⟨params, globals⟩⟩ : Visit).result? = none := h
      rw [execute_goesOn h, course_goesOn h, ih]
      simp [replay, resultOf_cons hv, Run.behind]

/-! ## 3. What makes a list of visits the course -/

/-- The visits are those of the run of the script from the line on: the lines one by one, each doing
what its statement does with the variables it meets, up to the first line that ends the run or else
to the end of the script. -/
structure Genuine (params : List (List Char)) (line : Nat) (script : List Statement)
    (globals : Globals) (visits : List Visit) : Prop where
  lines : visits.map (·.line) = List.range' line visits.length
  statements : visits.map (·.statement) = script.take visits.length
  deeds : ∀ before v later, visits = before ++ v :: later →
    v.deed = v.statement.deed ⟨params, (replay globals before).globals⟩
  /-- Behind a line that ends the run there is none. -/
  ends : ∀ before v later, visits = before ++ v :: later → v.result? ≠ none → later = []
  /-- If no line ends the run, there is no line left. -/
  whole : (∀ v ∈ visits, v.result? = none) → visits.length = script.length

theorem Genuine.nil (params : List (List Char)) (line : Nat) (globals : Globals) :
    Genuine params line [] globals [] where
  lines := rfl
  statements := rfl
  deeds _ _ _ h := by simp at h
  ends _ _ _ h := by simp at h
  whole _ := rfl

theorem eq_of_singleton_eq {α : Type} {u v : α} {before later : List α}
    (h : [u] = before ++ v :: later) : before = [] ∧ v = u ∧ later = [] := by
  rcases List.append_eq_singleton_iff.1 h.symm with ⟨hbefore, hlater⟩ | ⟨-, hlater⟩
  · obtain ⟨hv, hnil⟩ := List.cons.inj hlater
    exact ⟨hbefore, hv, hnil⟩
  · cases hlater

/-- A first line that ends the run is the whole course. -/
theorem Genuine.ended {result : Except Failure Int32}
    (h : (s.deed ⟨params, globals⟩).result? line = some result) :
    Genuine params line (s :: rest) globals [⟨line, s, s.deed ⟨params, globals⟩⟩] where
  lines := rfl
  statements := rfl
  deeds before v later he := by
    obtain ⟨rfl, rfl, -⟩ := eq_of_singleton_eq he
    rfl
  ends before v later he _ := (eq_of_singleton_eq he).2.2
  whole hall := by
    have hv := hall _ List.mem_cons_self
    rw [Visit.result?, h] at hv
    cases hv

/-- Behind a first line that does not end the run comes the course from the next line on. -/
theorem Genuine.cons {visits : List Visit}
    (h : (s.deed ⟨params, globals⟩).result? line = none)
    (hrest : Genuine params (line + 1) rest ((s.deed ⟨params, globals⟩).after globals) visits) :
    Genuine params line (s :: rest) globals (⟨line, s, s.deed ⟨params, globals⟩⟩ :: visits) where
  lines := by rw [List.map_cons, hrest.lines, List.length_cons, List.range'_succ]
  statements := by rw [List.map_cons, hrest.statements, List.length_cons, List.take_succ_cons]
  deeds before v later he := by
    cases before with
    | nil =>
      cases he
      rfl
    | cons u before =>
      obtain ⟨rfl, htail⟩ := List.cons.inj he
      exact hrest.deeds before v later htail
  ends before v later he hv := by
    cases before with
    | nil =>
      cases he
      exact absurd h hv
    | cons u before =>
      obtain ⟨-, htail⟩ := List.cons.inj he
      exact hrest.ends before v later htail hv
  whole hall := by
    have hlength := hrest.whole fun v hv => hall v (List.mem_cons_of_mem _ hv)
    rw [List.length_cons, List.length_cons, hlength]

/-- **The course of a run is what it is to be.** -/
theorem course_genuine (params : List (List Char)) (script : List Statement) :
    ∀ (line : Nat) (globals : Globals),
      Genuine params line script globals (course params line script globals) := by
  induction script with
  | nil =>
    intro line globals
    exact .nil params line globals
  | cons s rest ih =>
    intro line globals
    cases h : (s.deed ⟨params, globals⟩).result? line with
    | some result =>
      rw [course_ends h]
      exact .ended h
    | none =>
      rw [course_goesOn h]
      exact .cons h (ih _ _)

/-- The visits stand on the lines of the script, in order. -/
theorem Genuine.position {visits before later : List Visit} {v : Visit}
    (h : Genuine params line rest globals visits) (hvisits : visits = before ++ v :: later) :
    v.line = line + before.length ∧ rest[before.length]? = some v.statement := by
  have hlt : before.length < visits.length := by
    rw [hvisits, List.length_append, List.length_cons]
    omega
  have hat : visits[before.length]? = some v := by simp [hvisits]
  constructor
  · have hline := congrArg (·[before.length]?) h.lines
    simp only [List.getElem?_map, hat, Option.map_some, List.getElem?_range' hlt, Nat.one_mul,
      Option.some.injEq] at hline
    exact hline
  · have hstatement := congrArg (·[before.length]?) h.statements
    simpa [hat, List.getElem?_take_of_lt hlt] using hstatement.symm

/-! ## 4. What does not depend on the data -/

/-- The deed without its expanded text. -/
def Deed.skeleton : Deed → Deed
  | .printed _ => .printed []
  | .assigned name _ => .assigned name []
  | .exited _ => .exited []
  | .failed _ => .failed []
  | d => d

/-- The visit without the expanded text of its deed. -/
def Visit.skeleton (v : Visit) : Visit := { v with deed := v.deed.skeleton }

/-- A statement does the same in all scopes, but for the text that it expands. -/
theorem Statement.deed_skeleton (s : Statement) (σ τ : Scope) :
    (s.deed σ).skeleton = (s.deed τ).skeleton := by
  cases s <;> rfl

theorem Deed.result?_isSome (line : Nat) (d : Deed) :
    (d.skeleton.result? line).isSome = (d.result? line).isSome := by
  cases d <;> rfl

theorem Deed.length_lines (d : Deed) : d.skeleton.lines.length = d.lines.length := by
  cases d <;> rfl

theorem Deed.name?_skeleton (d : Deed) : d.skeleton.name? = d.name? := by
  cases d <;> rfl

/-- Whether a statement ends the run does not depend on the scope. -/
theorem Statement.ends_eq (s : Statement) (σ τ : Scope) (line : Nat) :
    ((s.deed σ).result? line).isSome = ((s.deed τ).result? line).isSome := by
  rw [← Deed.result?_isSome line (s.deed σ), ← Deed.result?_isSome line (s.deed τ),
    s.deed_skeleton σ τ]

/-- **Without the expanded texts the course is the same for all parameters and variables.** -/
theorem course_skeleton (params params' : List (List Char)) (script : List Statement) :
    ∀ (line : Nat) (globals globals' : Globals),
      (course params line script globals).map Visit.skeleton =
        (course params' line script globals').map Visit.skeleton := by
  induction script with
  | nil =>
    intro line globals globals'
    rfl
  | cons s rest ih =>
    intro line globals globals'
    have hdeed := s.deed_skeleton ⟨params, globals⟩ ⟨params', globals'⟩
    have hends := s.ends_eq ⟨params, globals⟩ ⟨params', globals'⟩ line
    cases h : (s.deed ⟨params, globals⟩).result? line with
    | some result =>
      rw [h, Option.isSome_some, eq_comm, Option.isSome_iff_exists] at hends
      obtain ⟨result', h'⟩ := hends
      rw [course_ends h, course_ends h']
      simp only [List.map_cons, List.map_nil, Visit.skeleton, hdeed]
    | none =>
      rw [h, Option.isSome_none, eq_comm, Option.isSome_eq_false_iff, Option.isNone_iff_eq_none]
        at hends
      rw [course_goesOn h, course_goesOn hends]
      simp only [List.map_cons, Visit.skeleton, hdeed, List.cons.injEq, true_and]
      exact ih _ _ _

/-! ## 5. Runs of one script -/

/-- The results of two runs that stop on the same line in the same way: they agree unless the line
is an `exit` or a `fail`, which read an expanded text. -/
inductive SameStop : Except Failure Int32 → Except Failure Int32 → Prop where
  | same (result : Except Failure Int32) : SameStop result result
  | exited (line : Nat) (operand operand' : List Char) :
      SameStop (exitCode line operand) (exitCode line operand')
  | failed (text text' : List Char) :
      SameStop (.error (.declared text)) (.error (.declared text'))

theorem Deed.sameStop {d d' : Deed} (h : d.skeleton = d'.skeleton) (line : Nat) :
    SameStop ((d.result? line).getD (.ok 0)) ((d'.result? line).getD (.ok 0)) := by
  cases d with
  | nothing =>
    cases d' <;> cases h
    exact .same _
  | printed text =>
    cases d' <;> cases h
    exact .same _
  | assigned name value =>
    cases d' <;> cases h
    exact .same _
  | exited operand =>
    cases d' <;> cases h
    exact .exited line _ _
  | failed text =>
    cases d' <;> cases h
    exact .failed _ _
  | refusedName name =>
    cases d' <;> cases h
    exact .same _
  | refusedKeyword keyword =>
    cases d' <;> cases h
    exact .same _

/-- Two courses agree in everything but expanded texts. -/
structure Parallel (a b : List Visit) : Prop where
  /-- The same lines. -/
  lines : a.map (·.line) = b.map (·.line)
  /-- The same statements on them. -/
  statements : a.map (·.statement) = b.map (·.statement)
  /-- Each line does the same, but for the text that it expands. -/
  deeds : a.map (·.deed.skeleton) = b.map (·.deed.skeleton)
  /-- As many lines are printed. -/
  printed : (a.flatMap (·.deed.lines)).length = (b.flatMap (·.deed.lines)).length
  /-- The same variables are set in the same order. -/
  names : a.filterMap (·.deed.name?) = b.filterMap (·.deed.name?)
  /-- Both stop on a line that ends the run, or neither does. -/
  stops : a.getLast?.map (·.result?.isSome) = b.getLast?.map (·.result?.isSome)
  results : SameStop (resultOf a) (resultOf b)

theorem Parallel.of_skeleton {a b : List Visit}
    (h : a.map Visit.skeleton = b.map Visit.skeleton) : Parallel a b := by
  -- whatever can be read off the skeleton of a visit is the same along both
  have hread : ∀ {α : Type} (f : Visit → α), (∀ v, f v.skeleton = f v) → a.map f = b.map f := by
    intro α f hf
    have hmap := congrArg (List.map f) h
    rw [List.map_map, List.map_map] at hmap
    rwa [show f ∘ Visit.skeleton = f from funext hf] at hmap
  have hlast := congrArg List.getLast? h
  rw [List.getLast?_map, List.getLast?_map] at hlast
  refine ⟨hread _ fun v => rfl, hread _ fun v => rfl, hread _ fun v => ?_, ?_, ?_, ?_, ?_⟩
  · cases v with
    | mk line statement deed => cases deed <;> rfl
  · have hlengths := hread (·.deed.lines.length) fun v => v.deed.length_lines
    rw [List.length_flatMap, List.length_flatMap]
    exact congrArg List.sum hlengths
  · have hnames := hread (·.deed.name?) fun v => v.deed.name?_skeleton
    have := congrArg (List.filterMap id) hnames
    rwa [List.filterMap_map, List.filterMap_map] at this
  · have hends := hread (·.result?.isSome) fun v => v.deed.result?_isSome v.line
    have := congrArg List.getLast? hends
    rwa [List.getLast?_map, List.getLast?_map] at this
  · unfold resultOf
    cases ha : a.getLast? with
    | none =>
      rw [ha, Option.map_none, eq_comm, Option.map_eq_none_iff] at hlast
      rw [hlast]
      exact .same _
    | some v =>
      rw [ha, Option.map_some, eq_comm, Option.map_eq_some_iff] at hlast
      obtain ⟨w, hw, hskeleton⟩ := hlast
      obtain ⟨hline, -, hdeed⟩ := Visit.mk.inj hskeleton
      rw [hw, Option.bind_some, Option.bind_some, Visit.result?, Visit.result?, hline]
      exact Deed.sameStop hdeed.symm v.line

/-- An interpreter with a console of the host. -/
def Interpreter.withConsole (name : String) (globals : Globals) : Interpreter :=
  ⟨some (.console name), globals⟩

/-- The course of the interpreter's run. -/
def Interpreter.course (i : Interpreter) (script : String) (params : List String) : List Visit :=
  Echo.course (params.map String.toList) 1 (statements script.toList) i.globals

/-- The visits are those of the interpreter's run of the script, and they tell the whole run. -/
structure Interpreter.Recounts (i : Interpreter) (script : String) (params : List String)
    (visits : List Visit) : Prop where
  genuine : Genuine (params.map String.toList) 1 (statements script.toList) i.globals visits
  run : i.run script params = replay i.globals visits

theorem Interpreter.recounts_course (name : String) (globals : Globals) (script : String)
    (params : List String) : (withConsole name globals).Recounts script params
      ((withConsole name globals).course script params) :=
  ⟨course_genuine _ _ _ _, execute_eq_replay _ _ _ _⟩

/-- **The runs of a script on any two interpreters with a console, with any parameters, come to the
same lines and do the same there**: only the expanded texts differ, and with them what an `exit`
reads. -/
theorem Interpreter.run_parallel (script : String) (name name' : String)
    (globals globals' : Globals) (params params' : List String) :
    let i := withConsole name globals
    let j := withConsole name' globals'
    let a := i.course script params
    let b := j.course script params'
    i.Recounts script params a ∧ j.Recounts script params' b ∧ Parallel a b ∧
      (i.run script params).printed.length = (j.run script params').printed.length ∧
      SameStop (i.run script params).result (j.run script params').result := by
  intro i j a b
  have ha : i.Recounts script params a := recounts_course name globals script params
  have hb : j.Recounts script params' b := recounts_course name' globals' script params'
  have hparallel : Parallel a b := .of_skeleton (course_skeleton _ _ _ _ _ _)
  refine ⟨ha, hb, hparallel, ?_, ?_⟩
  · rw [ha.run, hb.run]
    exact hparallel.printed
  · rw [ha.run, hb.run]
    exact hparallel.results

end ScriptHost.Echo

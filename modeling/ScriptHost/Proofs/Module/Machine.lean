import ScriptHost.Module.Interpreter

/-!
# Custom interpreters

What a custom interpreter answers and prints is told by the host from what the interpreter has gone
through. No interpreter is left out by this: whatever it keeps, and whatever it makes of that with
each call, there is a conduct that comes to the same.

* `Machine`: an interpreter with states of any type. `Machine.conduct`: its runs, told from what it
  has gone through.
* `Interpreter.Acts`: a custom interpreter that stands for a state of the machine. A call of the one
  is a call of the other (`Interpreter.Acts.equip`, `Interpreter.Acts.run`).
* **`Machine.runsOf_created`**: in any calls, the runs of a new interpreter with the conduct of a
  machine come to what the runs of the machine come to.
-/

namespace ScriptHost

/-! ## 1. Machines -/

/-- An interpreter with a state of its own. -/
structure Machine (σ : Type) where
  start : σ
  equip : σ → ApiHandle → σ
  run : σ → String → List String → CustomRun × σ

namespace Machine

variable {σ : Type} (m : Machine σ)

/-- The state after one more thing that happens. -/
def next (s : σ) : Life → σ
  | .equipped api => m.equip s api
  | .ran script params => (m.run s script params).2
  | _ => s

/-- The state after all that the machine has gone through. -/
def after (past : List Life) : σ := past.foldl m.next m.start

theorem after_concat (past : List Life) (event : Life) :
    m.after (past ++ [event]) = m.next (m.after past) event := by
  simp only [after, List.foldl_append, List.foldl_cons, List.foldl_nil]

/-- The runs of the machine. -/
def conduct (past : List Life) (script : String) (params : List String) : CustomRun :=
  (m.run (m.after past) script params).1

end Machine

/-! ## 2. One call -/

/-- The lines that the effects print, each with its console. -/
def consoleLines (effects : List Effect) : List (ApiHandle × String) :=
  effects.filterMap fun
    | .printed console line => some (console, line)
    | _ => none

theorem consoleLines_record (i : Instance) (event : Life) : consoleLines (i.record event) = [] := by
  unfold Instance.record
  split <;> rfl

theorem consoleLines_append (a b : List Effect) :
    consoleLines (a ++ b) = consoleLines a ++ consoleLines b :=
  List.filterMap_append

/-- Printed lines are found again. -/
theorem consoleLines_map (lines : List (ApiHandle × String)) :
    consoleLines (lines.map fun line => .printed line.1 line.2) = lines := by
  rw [consoleLines, List.filterMap_map]
  exact List.filterMap_some

/-- What a run came to. -/
def Turn.customRun (t : Turn (Outcome × Interpreter)) : CustomRun :=
  ⟨t.answer.1, consoleLines t.effects⟩

/-- The custom interpreter of this name stands for the state of the machine. -/
def Interpreter.Acts {σ : Type} (m : Machine σ) (name : String) (s : σ) (i : Interpreter) : Prop :=
  ∃ past, i.memory = .custom name past ∧ m.after past = s

namespace Interpreter

variable {σ : Type} {m : Machine σ} {name : String} {s : σ} {i : Interpreter} {host : Host}

theorem acts_create (source : Instance) (h : source.plugin.engine = .custom name) :
    (create source).1.Acts m name m.start := by
  refine ⟨[], ?_, rfl⟩
  show source.plugin.engine.memory = .custom name []
  rw [h]
  rfl

theorem Acts.equip (h : i.Acts m name s) (api : ApiHandle) :
    (i.equip api).1.Acts m name (m.equip s api) := by
  obtain ⟨past, hmemory, hs⟩ := h
  refine ⟨past ++ [.equipped api], ?_, ?_⟩
  · simp only [Interpreter.equip, hmemory]
  · rw [m.after_concat, hs]
    rfl

/-- **A run of the interpreter is a run of the machine.** -/
theorem Acts.run (h : i.Acts m name s) (hconduct : host.conduct name = m.conduct) (script : String)
    (params : List String) :
    (i.run host script params).customRun = (m.run s script params).1 ∧
      (i.run host script params).answer.2.Acts m name (m.run s script params).2 := by
  obtain ⟨past, hmemory, hs⟩ := h
  have hrun : host.conduct name past script params = (m.run s script params).1 := by
    rw [hconduct, Machine.conduct, hs]
  simp only [Interpreter.run, hmemory, hrun]
  constructor
  · rw [Turn.customRun, consoleLines_append, consoleLines_record, consoleLines_map]
    rfl
  · refine ⟨past ++ [.ran script params], rfl, ?_⟩
    rw [m.after_concat, hs]
    rfl

end Interpreter

/-! ## 3. Any calls -/

namespace Machine

/-- A call of an interpreter. -/
inductive Call where
  | equip (api : ApiHandle)
  | run (script : String) (params : List String)
  deriving DecidableEq, Repr

/-- What the runs of the machine come to in these calls, one after the other. -/
def runs {σ : Type} (m : Machine σ) (s : σ) : List Call → List CustomRun
  | [] => []
  | .equip api :: rest => m.runs (m.equip s api) rest
  | .run script params :: rest =>
    (m.run s script params).1 :: m.runs (m.run s script params).2 rest

/-- What the runs of the interpreter come to in these calls, one after the other. -/
def runsOf (host : Host) (i : Interpreter) : List Call → List CustomRun
  | [] => []
  | .equip api :: rest => runsOf host (i.equip api).1 rest
  | .run script params :: rest =>
    let ran := i.run host script params
    ran.customRun :: runsOf host ran.answer.2 rest

variable {σ : Type} {m : Machine σ} {name : String} {host : Host}

theorem runsOf_acts (hconduct : host.conduct name = m.conduct) (calls : List Call) :
    ∀ {i : Interpreter} {s : σ}, i.Acts m name s → runsOf host i calls = m.runs s calls := by
  induction calls with
  | nil => exact fun _ => rfl
  | cons call rest ih =>
    intro i s h
    cases call with
    | equip api => exact ih (h.equip api)
    | run script params =>
      obtain ⟨hrun, hnext⟩ := h.run hconduct script params
      simp only [runsOf, runs, hrun, ih hnext]

/-- **A new interpreter with the conduct of a machine comes to what the machine comes to.** -/
theorem runsOf_created (hconduct : host.conduct name = m.conduct) {source : Instance}
    (h : source.plugin.engine = .custom name) (calls : List Call) :
    runsOf host (Interpreter.create source).1 calls = m.runs m.start calls :=
  runsOf_acts hconduct calls (Interpreter.acts_create source h)

end Machine

end ScriptHost

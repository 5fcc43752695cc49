import ScriptHost.Command.Perform
import ScriptHost.Proofs.Command.Arguments
import ScriptHost.Proofs.Embedder.Printing

/-!
# Checking before running

A check of a manifest tells whether its scripts can be run: it succeeds if and only if the embedder
of the manifest is valid, and when it fails, every run fails with the same error.

* `exitStatus_eq_zero`: only the value 0 has the exit status 0.
* `outOf_eq_written`: the output of a command is the printed lines, each with a line break.
* `manifest?`: the manifest that a command loads.
* `Refused`: check and run end with the error of the embedder. `Performed`: how a run ends, by what
  the script does.
* **`check_predicts_run`**: a command that checks and one that runs a script, on the same files and
  with the same manifest.
-/

namespace ScriptHost.Command

/-! ## 1. Exit statuses and outputs -/

theorem exitStatus_inside {value : Int32} (h : 0 ≤ value.toInt ∧ value.toInt ≤ 255) :
    (exitStatus value : Int) = value.toInt := by
  rw [exitStatus, if_pos h]
  exact Int.toNat_of_nonneg h.1

theorem exitStatus_outside {value : Int32} (h : ¬ (0 ≤ value.toInt ∧ value.toInt ≤ 255)) :
    exitStatus value = 1 := by
  rw [exitStatus, if_neg h]

/-- Only the value 0 has the exit status 0. -/
theorem exitStatus_eq_zero {value : Int32} : exitStatus value = 0 ↔ value = 0 := by
  constructor
  · intro h
    by_cases hrange : 0 ≤ value.toInt ∧ value.toInt ≤ 255
    · have hvalue := exitStatus_inside hrange
      rw [h] at hvalue
      exact Int32.toInt_inj.1 hvalue.symm
    · rw [exitStatus_outside hrange] at h
      cases h
  · rintro rfl
    rfl

theorem statusOf_eq_zero {result : Except ExecutionError Int32} :
    statusOf result = 0 ↔ result = .ok 0 := by
  cases result with
  | error err =>
    constructor
    · intro h
      cases h
    · intro h
      cases h
  | ok value =>
    rw [statusOf, exitStatus_eq_zero]
    constructor
    · rintro rfl
      rfl
    · intro h
      exact Except.ok.inj h

/-- The lines on a stream. -/
def written (lines : List String) : String := String.join (lines.map (· ++ "\n"))

/-- The output of a command is the printed lines. -/
theorem outOf_eq_written (effects : List Effect) :
    outOf effects = written (printedLines effects) := by
  induction effects with
  | nil => rfl
  | cons x rest ih =>
    have hcons : outOf (x :: rest) = printedText x ++ outOf rest := String.join_cons
    rw [hcons, ih]
    cases x with
    | printed console line => exact String.join_cons.symm
    | life serial label event => exact String.empty_append
    | reported name report => exact String.empty_append
    | traced event => exact String.empty_append

/-! ## 2. Building the embedder -/

/-- The configuration of a manifest has the interface that is given to it. -/
theorem configuration_api (m : Manifest) (api : ApiHandle) :
    (m.configuration api).api = some api := by
  have hinterpreters : ∀ (entries : List InterpreterEntry) (c : Configuration),
      (entries.foldl (fun c e => (c.addInterpreter e).2) c).api = c.api := by
    intro entries
    induction entries with
    | nil => exact fun _ => rfl
    | cons entry rest ih => exact fun c => ih _
  have hscripts : ∀ (entries : List ScriptEntry) (c : Configuration),
      (entries.foldl (fun c e => (c.addScript e).2) c).api = c.api := by
    intro entries
    induction entries with
    | nil => exact fun _ => rfl
    | cons entry rest ih => exact fun c => ih _
  unfold Manifest.configuration Configuration.ofParts
  rw [hscripts, hinterpreters]

theorem embed_built (m : Manifest) (host : Host) : Embedder.Built console host (embed m host) :=
  Embedder.new_built _ _ _ (configuration_api m console)

/-- The manifest that a command with these options loads, if one loads. -/
def manifest? (files : FileTree) (home : Path) (o : Options) : Option Manifest :=
  (manifestPath files home (o.config.map Path.ofString)).toOption.bind fun path =>
    (Manifest.ofFile files path).toOption

theorem perform_of_manifest {files : FileTree} {home : Path} {args : List String}
    {invocation : Invocation} {m : Manifest} (hargs : Invocation.ofArguments args = .ok invocation)
    (hm : manifest? files home invocation.options = some m) (backend : Backend)
    (conduct : Conduct) : perform files home args backend conduct =
      performAction m (hostOf files backend conduct) invocation := by
  unfold manifest? at hm
  simp only [perform, hargs, performInvocation, hostOf]
  cases hpath : manifestPath files home (invocation.options.config.map Path.ofString) with
  | error err =>
    rw [hpath] at hm
    cases hm
  | ok path =>
    rw [hpath] at hm
    cases hfile : Manifest.ofFile files path with
    | error err =>
      have hnone : (Manifest.ofFile files path).toOption = some m := hm
      rw [hfile] at hnone
      cases hnone
    | ok read =>
      have hsome : (Manifest.ofFile files path).toOption = some m := hm
      rw [hfile] at hsome
      cases hsome
      simp only [hfile]

/-! ## 3. Checks and runs -/

/-- Check and run end with the error of the embedder. -/
structure Refused (built : Turn Embedder) (format format' : Report.Format)
    (check run : Completion) : Prop where
  status : check.status = 1 ∧ run.status = 1
  /-- Nothing was printed, and the outputs are empty. -/
  silent : printedLines built.effects = [] ∧ check.out = "" ∧ run.out = ""
  /-- The same error of the configuration ends both. -/
  error : ∃ err, built.answer.lastError = some err ∧
    check.err = errOf format built.effects ++ errorText err.message [] ∧
    run.err = errOf format' built.effects ++ errorText err.message []

/-- How a run ends, by what the script does. -/
structure Performed (built : Turn Embedder) (host : Host) (id : UInt32) (args : List String)
    (run : Completion) : Prop where
  returned : ∀ value, (built.answer.execute built.host id args).answer.1 = .ok value →
    0 ≤ value.toInt ∧ value.toInt ≤ 255 → (run.status : Int) = value.toInt
  unshown : ∀ value, (built.answer.execute built.host id args).answer.1 = .ok value →
    ¬ (0 ≤ value.toInt ∧ value.toInt ≤ 255) → run.status = 1
  failed : ∀ err, (built.answer.execute built.host id args).answer.1 = .error err → run.status = 1
  /-- The status is 0 if and only if the script was run and returned 0. -/
  zero : run.status = 0 ↔ ∃ text i, built.answer.handout? host.files id = some (text, i) ∧
    (i.run built.host text args).answer.1 = .success 0
  /-- The output is what the script prints. -/
  out : run.out = written (built.answer.scriptLines host id args)
  /-- An Echo script runs on the console with no variables set. -/
  echo : ∀ text i x, built.answer.handout? host.files id = some (text, i) → i.memory = .echo x →
    x = { api := some console } ∧ built.answer.scriptLines host id args =
      (x.run text args).printed.map String.ofList

variable {m : Manifest} {host : Host} {format format' : Report.Format} {id : UInt32}
  {args : List String}

/-- A check says that all is well if and only if the embedder is valid. -/
theorem performCheck_ok (m : Manifest) (host : Host) (format : Report.Format) :
    ((performCheck m host format).status = 0 ∧
      (performCheck m host format).out = "configuration ok\n") ↔
    (embed m host).answer.isValid = true := by
  have hout : outOf (embed m host).effects = "" := by
    rw [outOf_eq_written, (embed_built m host).silent]
    rfl
  simp only [performCheck, withEmbedder]
  cases hv : (embed m host).answer.isValid with
  | true =>
    rw [if_pos rfl, hout, String.empty_append]
    exact ⟨fun _ => rfl, fun _ => ⟨rfl, rfl⟩⟩
  | false =>
    rw [if_neg Bool.false_ne_true]
    constructor
    · rintro ⟨hstatus, -⟩
      cases hstatus
    · intro h
      cases h

/-- An embedder that is not valid ends the command. -/
theorem withEmbedder_invalid (hv : (embed m host).answer.isValid = false)
    (next : Turn Embedder → Completion) : withEmbedder m host format next =
      .failed (errOf format (embed m host).effects) (embed m host).answer.errorText [] := by
  simp only [withEmbedder, hv]
  exact if_neg Bool.false_ne_true

theorem refused (hv : (embed m host).answer.isValid = false) :
    Refused (embed m host) format format' (performCheck m host format)
      (performRun m host format' id args) := by
  have hcheck : performCheck m host format = _ := withEmbedder_invalid hv _
  have hrun : performRun m host format' id args = _ := withEmbedder_invalid hv _
  rw [hcheck, hrun]
  refine ⟨⟨rfl, rfl⟩, ⟨(embed_built m host).silent, rfl, rfl⟩, ?_⟩
  cases hlast : (embed m host).answer.lastError with
  | none =>
    rw [Embedder.isValid, hlast] at hv
    cases hv
  | some err =>
    have htext : (embed m host).answer.errorText = err.message := by
      rw [Embedder.errorText, hlast]
    rw [htext]
    exact ⟨err, rfl, rfl, rfl⟩

theorem performRun_status (hv : (embed m host).answer.isValid = true) :
    (performRun m host format id args).status =
      statusOf ((embed m host).answer.execute (embed m host).host id args).answer.1 := by
  have hrun : performRun m host format id args = _ := if_pos hv
  rw [hrun]

/-- The output of a run is what the script prints: building the embedder prints nothing. -/
theorem performRun_out (hv : (embed m host).answer.isValid = true) :
    (performRun m host format id args).out =
      written ((embed m host).answer.scriptLines host id args) := by
  have hbuilt := embed_built m host
  have hlines : (embed m host).answer.scriptLines (embed m host).host id args =
      (embed m host).answer.scriptLines host id args := by
    unfold Embedder.scriptLines
    rw [hbuilt.files, hbuilt.conduct]
  have hrun : performRun m host format id args = _ := if_pos hv
  rw [hrun]
  show outOf ((embed m host).effects ++
    ((embed m host).answer.execute (embed m host).host id args).effects) = _
  rw [outOf_eq_written, printedLines_append, hbuilt.silent, List.nil_append,
    Embedder.printedLines_execute, hlines]

theorem performed (hv : (embed m host).answer.isValid = true) :
    Performed (embed m host) host id args (performRun m host format id args) where
  returned value hvalue hrange := by
    rw [performRun_status hv, hvalue]
    exact exitStatus_inside hrange
  unshown value hvalue hrange := by
    rw [performRun_status hv, hvalue]
    exact exitStatus_outside hrange
  failed err herr := by
    rw [performRun_status hv, herr]
    rfl
  zero := by
    have hfiles : (embed m host).host.files = host.files := (embed_built m host).files
    rw [performRun_status hv, statusOf_eq_zero, Embedder.execute_ok_iff, hfiles]
  out := performRun_out hv
  echo text i x hi hx := by
    refine ⟨(embed_built m host).allNew.echo hi hx, ?_⟩
    simp only [Embedder.scriptLines, hi, Interpreter.lines, hx]

/-! ## 4. Commands -/

/-- **A check tells beforehand how a run ends.** On the same files and with the same manifest, a
check says that all is well if and only if the embedder is valid; if it is not, check and run end
with its error; and if it is, the run ends as the script does and prints what the script prints. It
makes no difference how modules are opened and what custom interpreters do. -/
theorem check_predicts_run (files : FileTree) (home : Path) (backend : Backend) (conduct : Conduct)
    {checking running : List String} {o o' : Options}
    (hcheck : Invocation.ofArguments checking = .ok ⟨o, .check⟩)
    (hrun : Invocation.ofArguments running = .ok ⟨o', .run id args⟩)
    (hm : manifest? files home o = some m) (hm' : manifest? files home o' = some m) :
    let host := hostOf files backend conduct
    let built := embed m host
    let check := perform files home checking backend conduct
    let run := perform files home running backend conduct
    ((check.status = 0 ∧ check.out = "configuration ok\n") ↔ built.answer.isValid = true) ∧
    (built.answer.isValid = false → Refused built o.format o'.format check run) ∧
    (built.answer.isValid = true → Performed built host id args run) := by
  intro host built check run
  have hc : check = performCheck m host o.format := perform_of_manifest hcheck hm backend conduct
  have hr : run = performRun m host o'.format id args :=
    perform_of_manifest hrun hm' backend conduct
  rw [hc, hr]
  exact ⟨performCheck_ok m host o.format, refused, performed⟩

/-- A script that greets and exits with 3, and the same manifest without the file of the script. -/
theorem check_predicts_run_greeting :
    let home := Path.ofString "home"
    let m : Manifest :=
      ⟨[⟨"Echo", Path.ofString "./e.so"⟩], [⟨7, Path.ofString "s", "Echo", false, 0⟩]⟩
    let missing := ((FileTree.empty []).write Manifest.fileName (.file (Utf8.encode
      "interpreter = [[\"Echo\", \"./e.so\"]]\nscript = [[7, \"s\", \"Echo\"]]"))).write
        (Path.ofString "e.so") (.library (some Declaration.echo))
    let files := missing.write (Path.ofString "s") (.file (Utf8.encode "print hi $1\nexit 3"))
    let running := "run" :: toString (7 : UInt32) :: "--" :: ["you"]
    manifest? files home {} = some m ∧ manifest? missing home {} = some m ∧
      (perform files home ["check"]).out = "configuration ok\n" ∧
      ((perform files home running).status : Int) = 3 ∧
      (perform files home running).out = "hi you\n" ∧
      (perform missing home ["check"]).status = 1 ∧ (perform missing home running).status = 1 := by
  intro home m missing files running
  have hcheck : Invocation.ofArguments ["check"] = .ok ⟨{}, .check⟩ := rfl
  have hrun : Invocation.ofArguments running = .ok ⟨{}, .run 7 ["you"]⟩ := ofArguments_run 7 ["you"]
  have hm : manifest? files home {} = some m := by decide +kernel
  have hm' : manifest? missing home {} = some m := by decide +kernel
  let host := hostOf files .dynamic Conduct.idle
  have hvalid : (embed m host).answer.isValid = true := by decide +kernel
  have hinvalid : (embed m (hostOf missing .dynamic Conduct.idle)).answer.isValid = false := by
    decide +kernel
  obtain ⟨hok, -, hperformed⟩ :=
    check_predicts_run files home .dynamic Conduct.idle hcheck hrun hm hm
  obtain ⟨-, hrefused, -⟩ :=
    check_predicts_run missing home .dynamic Conduct.idle hcheck hrun hm' hm'
  have hlines : (embed m host).answer.scriptLines host 7 ["you"] = ["hi you"] := by decide +kernel
  have hvalue : ((embed m host).answer.execute (embed m host).host 7 ["you"]).answer.1 = .ok 3 := by
    have hreturned : Embedder.Answer.ofExecution ((embed m host).answer.execute
        (embed m host).host 7 ["you"]).answer.1 = .returned 3 := by decide +kernel
    generalize ((embed m host).answer.execute (embed m host).host 7 ["you"]).answer.1 = result
      at hreturned ⊢
    cases result with
    | error err => cases hreturned
    | ok value =>
      cases hreturned
      rfl
  have hran := hperformed hvalid
  refine ⟨hm, hm', (hok.2 hvalid).2, hran.returned 3 hvalue (by decide), ?_,
    (hrefused hinvalid).status.1, (hrefused hinvalid).status.2⟩
  rw [hran.out, hlines]
  rfl

end ScriptHost.Command

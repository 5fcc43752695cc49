import ScriptHost.Proofs.Embedder.Frame

/-!
# Languages side by side

Scripts of one language are served by its one interpreter, one after the other. Executions of
scripts of other languages that come between make no difference.

* `Interpreter.KeepsToItself`: nothing of the host bears on what the interpreter does.
* `Interpreter.serve`: what an interpreter answers to requests that come one after the other.
* `Embedder.Underway`: how an embedder stands after some calls, seen from one language. A call of
  another language keeps this (`Underway.other`), and a call of the language itself is one request to
  its interpreter (`Underway.sourceless`, `Underway.ran`).
* **`Embedder.isolated_history`**: after every history, whatever the files have become, the calls of
  one language among any calls have the results that they have alone, which are those of serving
  them on its interpreter.
-/

namespace ScriptHost

/-! ## 1. Interpreters that keep to themselves -/

/-- Nothing that changes in the host bears on what the interpreter does: it is no recorder, or there
is no failure for a recorder to answer with. -/
def Interpreter.KeepsToItself (i : Interpreter) (host : Host) : Prop :=
  (∀ n, i.memory ≠ .recorder n) ∨ host.pendingFailure = none

variable {i : Interpreter} {host after : Host}

/-- On another host, with the same custom interpreters and with no failure but what was pending
before, the run is the same. -/
theorem Interpreter.KeepsToItself.run_eq (h : i.KeepsToItself host)
    (hconduct : after.conduct = host.conduct)
    (hpending : after.pendingFailure = host.pendingFailure ∨ after.pendingFailure = none)
    (script : String) (params : List String) :
    (i.run after script params).answer = (i.run host script params).answer := by
  unfold Interpreter.run
  cases hm : i.memory with
  | echo e => rfl
  | recorder successes =>
    have hnone : host.pendingFailure = none := h.resolve_left fun hne => hne successes hm
    have hafter : after.pendingFailure = none := by
      rcases hpending with hsame | hafter
      · rw [hsame, hnone]
      · exact hafter
    simp only [hnone, hafter]
  | custom name past => simp only [hconduct]

theorem Interpreter.KeepsToItself.next (h : i.KeepsToItself host) (script : String)
    (params : List String) : (i.run host script params).answer.2.KeepsToItself host := by
  refine h.imp_left fun hne n => ?_
  unfold Interpreter.run
  cases hm : i.memory with
  | echo e => exact fun hn => by cases hn
  | recorder successes => exact absurd hm (hne successes)
  | custom name past => exact fun hn => by cases hn

/-! ## 2. Requests to one interpreter -/

/-- What an execution asks of an interpreter: to run the text, if the script's file has one. -/
structure Request where
  path : Path
  text : Option String
  params : List String
  deriving DecidableEq, Repr

/-- What the interpreter answers to the requests, one after the other, and what it is then. -/
def Interpreter.serve (host : Host) (i : Interpreter) :
    List Request → List (Except ExecutionError Int32) × Interpreter
  | [] => ([], i)
  | ⟨path, none, _⟩ :: rest =>
    let served := i.serve host rest
    (.error (.sourceUnreadable path) :: served.1, served.2)
  | ⟨_, some text, params⟩ :: rest =>
    let ran := (i.run host text params).answer
    let served := ran.2.serve host rest
    (Embedder.answerOf ran.1 :: served.1, served.2)

namespace Embedder

/-! ## 3. Calls -/

/-- A call: which script to execute with which parameters. -/
structure Call where
  id : UInt32
  params : List String
  deriving DecidableEq, Repr

/-- The call as a step. -/
def Call.step (c : Call) : Step := .execute c.id c.params

/-- The calls with their results, one after the other. -/
def executions (e : Embedder) (host : Host) :
    List Call → List (Call × Except ExecutionError Int32)
  | [] => []
  | c :: rest =>
    let t := e.execute host c.id c.params
    (c, t.answer.1) :: t.answer.2.executions t.host rest

/-- What the call asks of the interpreter of the language, if its script is one of the language. -/
def request? (e : Embedder) (files : FileTree) (l : String) (c : Call) : Option Request :=
  (e.configuration.script? c.id).bind fun s =>
    if s.language = l then some ⟨s.path, (e.sourceOf files s).1, c.params⟩ else none

/-- Whether the call is one of a script of the language. -/
def speaks (e : Embedder) (l : String) (c : Call) : Bool :=
  (e.configuration.script? c.id).any (·.language == l)

variable {e e₀ : Embedder}

/-- The first call is made, and the others on what it leaves. -/
theorem executions_cons (e : Embedder) (host : Host) (c : Call) (rest : List Call) :
    e.executions host (c :: rest) = (c, (e.execute host c.id c.params).answer.1) ::
      (e.execute host c.id c.params).answer.2.executions (e.execute host c.id c.params).host rest :=
  rfl

theorem isSome_request? (e : Embedder) (files : FileTree) (l : String) (c : Call) :
    (e.request? files l c).isSome = e.speaks l c := by
  unfold request? speaks
  cases e.configuration.script? c.id with
  | none => rfl
  | some s =>
    rw [Option.bind_some, Option.any_some]
    by_cases hl : s.language = l
    · simp [hl]
    · simp [hl]

theorem filter_executions_of_neg {l : String} {c : Call} (h : ¬ e₀.speaks l c = true)
    (e : Embedder) (host : Host) (rest : List Call) :
    (e.executions host (c :: rest)).filter (fun x => e₀.speaks l x.1) =
      ((e.execute host c.id c.params).answer.2.executions (e.execute host c.id c.params).host
        rest).filter (fun x => e₀.speaks l x.1) :=
  List.filter_cons_of_neg h

theorem filter_executions_of_pos {l : String} {c : Call} (h : e₀.speaks l c = true)
    (e : Embedder) (host : Host) (rest : List Call) :
    (e.executions host (c :: rest)).filter (fun x => e₀.speaks l x.1) =
      (c, (e.execute host c.id c.params).answer.1) ::
        ((e.execute host c.id c.params).answer.2.executions (e.execute host c.id c.params).host
          rest).filter (fun x => e₀.speaks l x.1) :=
  List.filter_cons_of_pos h

theorem map_executions_fst : ∀ (calls : List Call) (e : Embedder) (host : Host),
    (e.executions host calls).map (·.1) = calls
  | [], _, _ => rfl
  | c :: rest, e, host => by
    rw [executions_cons, List.map_cons, map_executions_fst rest]

/-- An execution uses up the pending failure or leaves the host as it is. -/
theorem execute_host_eq (e : Embedder) (host : Host) (id : UInt32) (params : List String) :
    (e.execute host id params).host = host ∨
      (e.execute host id params).host = { host with pendingFailure := none } := by
  have hx := execute_execution e host id params
  generalize e.execute host id params = t at hx ⊢
  cases hx with
  | unknown unknown => exact .inl rfl
  | sourceless found source => exact .inl rfl
  | unserved found source unserved => exact .inl rfl
  | @ran script text a found source served => exact a.interpreter.run_host_eq host text params

/-! ## 4. One language among all -/

/-- How an embedder that was `e₀` stands after some calls, seen from one language: scripts, texts and
files are as they were, and what is loaded for the language keeps to itself. -/
structure Underway (e₀ : Embedder) (host₀ : Host) (l : String) (a : Active) (e : Embedder)
    (host : Host) : Prop where
  configuration : e.configuration = e₀.configuration
  cache : e.cache = e₀.cache
  files : host.files = host₀.files
  conduct : host.conduct = host₀.conduct
  pending : host.pendingFailure = host₀.pendingFailure ∨ host.pendingFailure = none
  active : e.active.get? l = some a
  keeps : a.interpreter.KeepsToItself host₀

variable {host₀ : Host} {l : String} {a : Active} {c : Call} {path : Path}
  {text : String} {params : List String}

theorem Underway.start (h : e.active.get? l = some a) (hkeeps : a.interpreter.KeepsToItself host) :
    Underway e host l a e host :=
  ⟨rfl, rfl, rfl, rfl, .inl rfl, h, hkeeps⟩

/-- A call of any script goes on, whatever it makes of the interpreter of the language. -/
theorem Underway.go (h : Underway e₀ host₀ l a e host) (c : Call) {a' : Active}
    (hactive : (e.execute host c.id c.params).answer.2.active.get? l = some a')
    (hkeeps : a'.interpreter.KeepsToItself host₀) :
    Underway e₀ host₀ l a' (e.execute host c.id c.params).answer.2
      (e.execute host c.id c.params).host := by
  have hruns := execute_runsOnly e host c.id c.params
  have hsame : (e.execute host c.id c.params).host.files = host.files ∧
      (e.execute host c.id c.params).host.conduct = host.conduct := by
    rcases execute_host_eq e host c.id c.params with hhost | hhost
    · rw [hhost]
      exact ⟨rfl, rfl⟩
    · rw [hhost]
      exact ⟨rfl, rfl⟩
  refine ⟨hruns.configuration.trans h.configuration, hruns.cache.trans h.cache,
    hsame.1.trans h.files, hsame.2.trans h.conduct, ?_, hactive, hkeeps⟩
  rcases execute_host_eq e host c.id c.params with hhost | hhost
  · rw [hhost]
    exact h.pending
  · rw [hhost]
    exact .inr rfl

/-- The text of a script is the one that it had before the calls. -/
theorem Underway.sourceOf_eq (h : Underway e₀ host₀ l a e host) (s : ScriptEntry) :
    e.sourceOf host.files s = e₀.sourceOf host₀.files s := by
  unfold sourceOf
  rw [h.cache, h.files]

/-- A request of a call comes from a registered script of the language. -/
theorem script_of_request {e : Embedder} {files : FileTree} {source : Option String}
    (h : e.request? files l c = some ⟨path, source, params⟩) :
    ∃ s, e.configuration.script? c.id = some s ∧ s.language = l ∧ s.path = path ∧
      (e.sourceOf files s).1 = source ∧ c.params = params := by
  obtain ⟨s, hs, hrequest⟩ := Option.bind_eq_some_iff.1 h
  by_cases hl : s.language = l
  · rw [if_pos hl] at hrequest
    obtain ⟨hpath, hsource, hparams⟩ := Request.mk.inj (Option.some.inj hrequest)
    exact ⟨s, hs, hl, hpath, hsource, hparams⟩
  · rw [if_neg hl] at hrequest
    cases hrequest

/-- **A call of another language, or of an unknown script, makes no difference.** -/
theorem Underway.other (h : Underway e₀ host₀ l a e host)
    (hc : e₀.request? host₀.files l c = none) :
    Underway e₀ host₀ l a (e.execute host c.id c.params).answer.2
      (e.execute host c.id c.params).host := by
  refine h.go c ?_ h.keeps
  rw [(execute_runsOnly e host c.id c.params).others l ?_]
  · exact h.active
  · intro s hs hl
    rw [h.configuration] at hs
    unfold request? at hc
    rw [hs, Option.bind_some, if_pos hl] at hc
    cases hc

/-- **A call of the language without a text** fails, and the interpreter stays as it is. -/
theorem Underway.sourceless (h : Underway e₀ host₀ l a e host)
    (hc : e₀.request? host₀.files l c = some ⟨path, none, params⟩) :
    (e.execute host c.id c.params).answer.1 = .error (.sourceUnreadable path) ∧
      Underway e₀ host₀ l a (e.execute host c.id c.params).answer.2
        (e.execute host c.id c.params).host := by
  obtain ⟨s, hs, hl, rfl, hsource, -⟩ := script_of_request hc
  rw [← h.configuration] at hs
  rw [← h.sourceOf_eq] at hsource
  have hx := execute_execution e host c.id c.params
  have hgo : (e.execute host c.id c.params).answer.2.active.get? l = some a → _ :=
    fun hactive => h.go c hactive h.keeps
  generalize e.execute host c.id c.params = t at hx hgo ⊢
  cases hx with
  | unknown unknown => cases hs.symm.trans unknown
  | sourceless found source =>
    cases hs.symm.trans found
    exact ⟨rfl, hgo h.active⟩
  | unserved found source unserved =>
    cases hs.symm.trans found
    rw [source] at hsource
    cases hsource
  | ran found source served =>
    cases hs.symm.trans found
    rw [source] at hsource
    cases hsource

/-- **A call of the language with a text** is one run on its interpreter. -/
theorem Underway.ran (h : Underway e₀ host₀ l a e host)
    (hc : e₀.request? host₀.files l c = some ⟨path, some text, params⟩) :
    (e.execute host c.id c.params).answer.1 =
        answerOf (a.interpreter.run host₀ text params).answer.1 ∧
      Underway e₀ host₀ l { a with interpreter := (a.interpreter.run host₀ text params).answer.2 }
        (e.execute host c.id c.params).answer.2 (e.execute host c.id c.params).host := by
  obtain ⟨s, hs, rfl, -, hsource, rfl⟩ := script_of_request hc
  rw [← h.configuration] at hs
  rw [← h.sourceOf_eq] at hsource
  have hrun := h.keeps.run_eq h.conduct h.pending text c.params
  have hx := execute_execution e host c.id c.params
  have hgo : (e.execute host c.id c.params).answer.2.active.get? s.language =
      some { a with interpreter := (a.interpreter.run host₀ text c.params).answer.2 } → _ :=
    fun hactive => h.go c hactive (h.keeps.next text c.params)
  generalize e.execute host c.id c.params = t at hx hgo ⊢
  cases hx with
  | unknown unknown => cases hs.symm.trans unknown
  | sourceless found source =>
    cases hs.symm.trans found
    rw [source] at hsource
    cases hsource
  | unserved found source unserved =>
    cases hs.symm.trans found
    cases h.active.symm.trans unserved
  | @ran script text' a' found source served =>
    cases hs.symm.trans found
    cases h.active.symm.trans served
    rw [source] at hsource
    cases hsource
    refine ⟨?_, hgo ?_⟩
    · show answerOf (a.interpreter.run host text c.params).answer.1 = _
      rw [hrun]
    · rw [← hrun]
      exact Catalog.get?_insert_self _ _ _

/-- **The calls of the language among any calls are served one after the other.** -/
theorem Underway.calls : ∀ (calls : List Call) {a : Active} {e : Embedder} {host : Host},
    Underway e₀ host₀ l a e host →
      let served := a.interpreter.serve host₀ (calls.filterMap (e₀.request? host₀.files l))
      ((e.executions host calls).filter fun x => e₀.speaks l x.1).map (·.2) = served.1 ∧
        (e.run host (calls.map Call.step)).answer.active.get? l =
          some { a with interpreter := served.2 }
  | [], a, e, host, h => ⟨rfl, h.active⟩
  | c :: rest, a, e, host, h => by
    have hspeaks := isSome_request? e₀ host₀.files l c
    cases hc : e₀.request? host₀.files l c with
    | none =>
      obtain ⟨hresults, hactive⟩ := Underway.calls rest (h.other hc)
      have hnot : ¬ e₀.speaks l c = true := by
        rw [← hspeaks, hc]
        exact Bool.false_ne_true
      rw [List.filterMap_cons_none hc, filter_executions_of_neg hnot]
      exact ⟨hresults, hactive⟩
    | some request =>
      have hpos : e₀.speaks l c = true := by
        rw [← hspeaks, hc]
        rfl
      rw [List.filterMap_cons_some hc, filter_executions_of_pos hpos, List.map_cons]
      obtain ⟨path, _ | text, params⟩ := request
      · obtain ⟨hresult, hgo⟩ := h.sourceless hc
        obtain ⟨hresults, hactive⟩ := Underway.calls rest hgo
        rw [hresult, hresults]
        exact ⟨rfl, hactive⟩
      · obtain ⟨hresult, hgo⟩ := h.ran hc
        obtain ⟨hresults, hactive⟩ := Underway.calls rest hgo
        rw [hresult, hresults]
        exact ⟨rfl, hactive⟩

/-! ## 5. After every history -/

/-- The calls of the language, among all the calls and alone. -/
structure Isolated (e : Embedder) (host : Host) (l : String) (a : Active) (calls : List Call) :
    Prop where
  /-- Among all the calls they have the results that they have alone. -/
  apart : (e.executions host calls).filter (fun x => e.speaks l x.1) =
    e.executions host (calls.filter (e.speaks l))
  /-- These are the results of running the same texts one after the other on the interpreter. -/
  served : (e.executions host (calls.filter (e.speaks l))).map (·.2) =
    (a.interpreter.serve host (calls.filterMap (e.request? host.files l))).1
  /-- And so is the state that the interpreter is left in, by all the calls -/
  state : (e.run host (calls.map Call.step)).answer.active.get? l =
    some { a with interpreter :=
      (a.interpreter.serve host (calls.filterMap (e.request? host.files l))).2 }
  /-- and by those of the language alone. -/
  stateApart : (e.run host ((calls.filter (e.speaks l)).map Call.step)).answer.active.get? l =
    some { a with interpreter :=
      (a.interpreter.serve host (calls.filterMap (e.request? host.files l))).2 }

/-- The calls of the language alone ask the same of its interpreter. -/
theorem requests_filter (e : Embedder) (files : FileTree) (l : String) (calls : List Call) :
    (calls.filter (e.speaks l)).filterMap (e.request? files l) =
      calls.filterMap (e.request? files l) := by
  rw [List.filterMap_filter]
  refine congrArg (fun f => List.filterMap f calls) (funext fun c => ?_)
  rw [← isSome_request? e files l c]
  cases e.request? files l c <;> rfl

/-- Calls with results are the same if the calls and the results are. -/
theorem eq_of_map_eq {α β : Type} : ∀ {xs ys : List (α × β)}, xs.map (·.1) = ys.map (·.1) →
    xs.map (·.2) = ys.map (·.2) → xs = ys
  | [], [], _, _ => rfl
  | [], _ :: _, h, _ => by cases h
  | _ :: _, [], h, _ => by cases h
  | (x, r) :: xs, (y, r') :: ys, h, h' => by
    obtain ⟨hx, hxs⟩ := List.cons.inj h
    obtain ⟨hr, hrs⟩ := List.cons.inj h'
    rw [eq_of_map_eq hxs hrs]
    cases hx
    cases hr
    rfl

theorem isolated (h : e.active.get? l = some a) (hkeeps : a.interpreter.KeepsToItself host)
    (calls : List Call) : e.Isolated host l a calls := by
  obtain ⟨hresults, hstate⟩ := Underway.calls calls (.start h hkeeps)
  obtain ⟨hresults', hstate'⟩ := Underway.calls (calls.filter (e.speaks l)) (.start h hkeeps)
  -- alone, every call is one of the language
  have hall : (e.executions host (calls.filter (e.speaks l))).filter (fun x => e.speaks l x.1) =
      e.executions host (calls.filter (e.speaks l)) := by
    refine List.filter_eq_self.2 fun x hx => ?_
    have hcall : x.1 ∈ calls.filter (e.speaks l) := by
      rw [← map_executions_fst (calls.filter (e.speaks l)) e host]
      exact List.mem_map_of_mem hx
    exact (List.mem_filter.1 hcall).2
  rw [hall, requests_filter] at hresults'
  rw [requests_filter] at hstate'
  refine ⟨eq_of_map_eq ?_ (hresults.trans hresults'.symm), hresults', hstate, hstate'⟩
  rw [map_executions_fst]
  have hfilter : ((e.executions host calls).map (·.1)).filter (e.speaks l) =
      ((e.executions host calls).filter (fun x => e.speaks l x.1)).map (·.1) := List.filter_map
  rw [map_executions_fst] at hfilter
  exact hfilter.symm

/-- **After every history**, whatever the files have become and whatever is called then: every
registered script has an interpreter of its language; and if that of a language keeps to itself,
the calls of the language have the results and leave the state that they have and leave alone, namely
those of running their texts one after the other on this interpreter. -/
theorem isolated_history (conf : Configuration) (observer : Option Observer) (host : Host)
    (steps : List Step) (files : FileTree) (calls : List Call) :
    let e := (history conf observer host steps).answer
    let now : Host := { (history conf observer host steps).host with files }
    (∀ id s, e.configuration.script? id = some s → ∃ a, e.active.get? s.language = some a) ∧
    ∀ l a, e.active.get? l = some a → a.interpreter.KeepsToItself now →
      e.Isolated now l a calls := by
  intro e now
  have hc : e.Consistent := history_consistent conf observer host steps
  exact ⟨fun id s hs => hc.interpreter hs, fun l a ha hkeeps => isolated ha hkeeps calls⟩

/-- A recorder called twice, with a failing Echo script and an unknown id in between. -/
theorem isolated_recorder :
    let module : Path := ⟨[0x61, 0x2E, 0x73, 0x6F]⟩
    let echo : Path := ⟨[0x65, 0x2E, 0x73, 0x6F]⟩
    let r : Registry := ⟨[(module, .plugin ⟨"A", .recorder module⟩), (echo, .plugin .echo)]⟩
    let files := ((FileTree.empty []).write ⟨[0x73]⟩ (.file [0x78])).write ⟨[0x74]⟩
      (.file [0x66, 0x61, 0x69, 0x6C, 0x20, 0x78])
    let host : Host := { files, backend := r.backend }
    let conf := Configuration.ofParts (some (.console "c")) [⟨"A", module⟩, ⟨"Echo", echo⟩]
      [⟨1, ⟨[0x73]⟩, "A", true, 0⟩, ⟨2, ⟨[0x74]⟩, "Echo", false, 0⟩]
    let t := history conf none host []
    let now : Host := { t.host with files }
    let calls : List Call := [⟨1, []⟩, ⟨2, ["p"]⟩, ⟨7, []⟩, ⟨1, []⟩]
    (t.answer.executions now calls).map (fun x => Answer.ofExecution x.2) =
        [.returned 1, .failed (.scriptFailed "x"), .failed (.noSuchScript 7), .returned 2] ∧
      ∃ a, t.answer.active.get? "A" = some a ∧ t.answer.Isolated now "A" a calls := by
  intro module echo r files host conf t now calls
  have hpending : now.pendingFailure = none := by decide +kernel
  have hloaded : (t.answer.active.get? "A").isSome = true := by decide +kernel
  obtain ⟨a, ha⟩ := Option.isSome_iff_exists.1 hloaded
  exact ⟨by decide +kernel, a, ha,
    (isolated_history conf none host [] files calls).2 "A" a ha (.inr hpending)⟩

end Embedder

end ScriptHost

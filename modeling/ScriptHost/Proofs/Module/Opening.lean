import ScriptHost.Embedder.Active

/-!
# How openings end

What becomes of asking the backend for a module, exit by exit.

* `Host.Asked`: the backend was asked some more times, and nothing else of the host that a caller
  can read has changed.
* `Host.Asking`: the two exits of `Host.openModule`, without a module and with one.
* `Loader.Opening`: the four exits of `Loader.openVerified` -- no module, no interface, another
  language, the module -- each with what the backend answered and with its effects.
* `Loader.Loading` and `Active.Loading`: the same for `Loader.load`, which hands out the module that
  is kept, and for `Active.load`, which makes and equips the interpreter.
* `Interpreter.run_effects`, `Interpreter.run_host_eq`: what a run of a script leaves, whatever the
  interpreter is.
-/

namespace ScriptHost

/-! ## 1. The host -/

/-- The host after the backend was asked `n` times more. -/
structure Host.Asked (n : Nat) (before after : Host) : Prop where
  files : after.files = before.files
  backend : after.backend = before.backend
  pendingFailure : after.pendingFailure = before.pendingFailure
  conduct : after.conduct = before.conduct
  asked : after.asked = before.asked + n

theorem Host.Asked.refl (h : Host) : Host.Asked 0 h h := ⟨rfl, rfl, rfl, rfl, rfl⟩

theorem Host.Asked.trans {m n : Nat} {h₁ h₂ h₃ : Host} (h : Host.Asked m h₁ h₂)
    (h' : Host.Asked n h₂ h₃) : Host.Asked (m + n) h₁ h₃ where
  files := h'.files.trans h.files
  backend := h'.backend.trans h.backend
  pendingFailure := h'.pendingFailure.trans h.pendingFailure
  conduct := h'.conduct.trans h.conduct
  asked := by rw [h'.asked, h.asked, Nat.add_assoc]

/-- The backend gives this answer for the path, in some scene. -/
def Backend.Answers (b : Backend) (path : Path) (answer : Except OpenError FoundModule) : Prop :=
  ∃ scene, (b.answer scene path).answer = answer

/-- The diagnostic of an opened module, if the backend writes one. -/
def Backend.announcement (b : Backend) (path : Path) (plugin : Plugin) : List Effect :=
  if b.announces then [.traced (.moduleOpened path plugin.language)] else []

/-- The instance that opening a found module makes. -/
def Host.newInstance (h : Host) (found : FoundModule) : Instance :=
  ⟨h.asked, found.plugin, found.library⟩

/-- The exits of asking the backend for a module. -/
inductive Host.Asking (host : Host) (path : Path) : Turn (Except OpenError Instance) → Prop where
  | unanswered {err : OpenError} {after : Host} (asked : host.Asked 1 after)
      (answer : host.backend.Answers path (.error err)) : Asking host path ⟨.error err, after, []⟩
  | found {found : FoundModule} {after : Host} (asked : host.Asked 1 after)
      (answer : host.backend.Answers path (.ok found)) :
      Asking host path ⟨.ok (host.newInstance found), after,
        (host.newInstance found).record .opened ++ host.backend.announcement path found.plugin⟩

theorem Host.openModule_asking (host : Host) (held : List Instance) (path : Path) :
    host.Asking path (host.openModule held path) := by
  have hscene : host.backend.Answers path (host.backend.answer (host.scene held) path).answer :=
    ⟨_, rfl⟩
  simp only [Host.openModule]
  cases ha : (host.backend.answer (host.scene held) path).answer with
  | error err => exact .unanswered ⟨rfl, rfl, rfl, rfl, rfl⟩ (ha ▸ hscene)
  | ok found => exact .found ⟨rfl, rfl, rfl, rfl, rfl⟩ (ha ▸ hscene)

/-! ## 2. Opening and checking -/

/-- The exits of opening the module of an entry and checking its language. -/
inductive Loader.Opening (entry : InterpreterEntry) (host : Host) :
    Turn (Except LoadError Instance) → Prop where
  | unopened {reason : String} {after : Host} (asked : host.Asked 1 after)
      (answer : host.backend.Answers entry.module (.error (.cannotOpen reason))) :
      Opening entry host ⟨.error (.cannotOpen entry.language entry.module reason), after, []⟩
  | foreign {reason : String} {after : Host} (asked : host.Asked 1 after)
      (answer : host.backend.Answers entry.module (.error (.noInterface reason))) :
      Opening entry host ⟨.error (.noInterface entry.module), after,
        [.traced (.interfaceRefused entry.module reason)]⟩
  | otherLanguage {found : FoundModule} {after : Host} (asked : host.Asked 1 after)
      (answer : host.backend.Answers entry.module (.ok found))
      (other : found.plugin.language ≠ entry.language) :
      Opening entry host
        ⟨.error (.otherLanguage entry.module entry.language found.plugin.language), after,
          (host.newInstance found).record .opened ++
            host.backend.announcement entry.module found.plugin ++
            (host.newInstance found).record .closed⟩
  | opened {found : FoundModule} {after : Host} (asked : host.Asked 1 after)
      (answer : host.backend.Answers entry.module (.ok found))
      (declared : found.plugin.language = entry.language) :
      Opening entry host
        ⟨.ok (host.newInstance found), after,
          (host.newInstance found).record .opened ++
            host.backend.announcement entry.module found.plugin⟩

theorem Loader.openVerified_opening (l : Loader) (held : List Instance) (host : Host) :
    Loader.Opening l.entry host (l.openVerified held host) := by
  have h := Host.openModule_asking host held l.entry.module
  simp only [Loader.openVerified]
  generalize host.openModule held l.entry.module = t at h ⊢
  cases h with
  | @unanswered err after asked answer =>
    cases err with
    | cannotOpen reason => exact .unopened asked answer
    | noInterface reason => exact .foreign asked answer
  | @found found after asked answer =>
    by_cases hl : (host.newInstance found).plugin.language = l.entry.language
    · simp only [if_pos hl]
      exact .opened asked answer hl
    · simp only [if_neg hl]
      exact .otherLanguage asked answer hl

theorem Loader.Opening.asked {entry : InterpreterEntry} {host : Host}
    {t : Turn (Except LoadError Instance)} (h : Loader.Opening entry host t) :
    host.Asked 1 t.host := by
  cases h <;> assumption

/-- The diagnostic of a rejected module. -/
def InterpreterEntry.rejection (entry : InterpreterEntry) (err : LoadError) : Effect :=
  .traced (.moduleRejected entry.language entry.module err.message)

/-- The exits of asking a loader for its module. -/
inductive Loader.Loading (l : Loader) (host : Host) :
    Turn (Except LoadError Instance × Loader) → Prop where
  | handed {i : Instance} (kept : l.kept = some i) : Loading l host ⟨(.ok i, l), host, []⟩
  | loaded {i : Instance} {after : Host} {effects : List Effect} (unkept : l.kept = none)
      (opening : Loader.Opening l.entry host ⟨.ok i, after, effects⟩) :
      Loading l host ⟨(.ok i, { l with kept := some i, lastError := none }), after,
        effects ++ [.traced (.moduleLoaded l.entry.language l.entry.module)]⟩
  | rejected {err : LoadError} {after : Host} {effects : List Effect} (unkept : l.kept = none)
      (opening : Loader.Opening l.entry host ⟨.error err, after, effects⟩) :
      Loading l host ⟨(.error err, { l with lastError := some err }), after,
        effects ++ [l.entry.rejection err]⟩

theorem Loader.load_loading (l : Loader) (held : List Instance) (host : Host) :
    Loader.Loading l host (l.load held host) := by
  unfold Loader.load
  split
  · rename_i i hk
    exact .handed hk
  · rename_i hk
    have h := Loader.openVerified_opening l held host
    generalize l.openVerified held host = t at h ⊢
    obtain ⟨err | i, after, effects⟩ := t
    · exact .rejected hk h
    · exact .loaded hk h

/-! ## 3. Loading an interpreter -/

/-- A new interpreter of the instance, with the host's interface. -/
def Interpreter.fresh (i : Instance) (api : ApiHandle) : Interpreter :=
  ((Interpreter.create i).1.equip api).1

@[simp] theorem Interpreter.fresh_source (i : Instance) (api : ApiHandle) :
    (Interpreter.fresh i api).source = i := by
  unfold fresh equip
  split <;> rfl

/-- Equipping a new interpreter is a record of its instance. -/
theorem Interpreter.equip_create (i : Instance) (api : ApiHandle) :
    (Interpreter.create i).1.equip api = (Interpreter.fresh i api, i.record (.equipped api)) := by
  refine Prod.ext rfl ?_
  cases h : i.plugin.engine <;>
    simp [equip, create, Engine.memory, h, Instance.record, Engine.label?]

/-- What is loaded for the entry from the instance. -/
def Active.fresh (entry : InterpreterEntry) (i : Instance) (api : ApiHandle) : Active :=
  ⟨{ entry, kept := some i }, Interpreter.fresh i api⟩

/-- The exits of loading an interpreter. -/
inductive Active.Loading (entry : InterpreterEntry) (api : ApiHandle) (host : Host) :
    Turn (Except LoadError Active) → Prop where
  | refused {err : LoadError} {after : Host} {effects : List Effect}
      (opening : Loader.Opening entry host ⟨.error err, after, effects⟩) :
      Loading entry api host ⟨.error err, after, effects ++ [entry.rejection err]⟩
  | loaded {i : Instance} {after : Host} {effects : List Effect}
      (opening : Loader.Opening entry host ⟨.ok i, after, effects⟩) :
      Loading entry api host
        ⟨.ok (Active.fresh entry i api), after,
          effects ++ [.traced (.moduleLoaded entry.language entry.module)] ++
            i.record .created ++ i.record (.equipped api)⟩

theorem Active.load_loading (entry : InterpreterEntry) (api : ApiHandle) (held : List Instance)
    (host : Host) : Active.Loading entry api host (Active.load entry api held host) := by
  have h := Loader.load_loading { entry } held host
  simp only [Active.load]
  generalize Loader.load { entry } held host = t at h ⊢
  cases h with
  | handed kept => cases kept
  | @loaded i after effects unkept opening =>
    have hc : (Interpreter.create i).2 = i.record .created := rfl
    simp only [Interpreter.equip_create, hc]
    exact .loaded opening
  | rejected unkept opening => exact .refused opening

theorem Active.Loading.asked {entry : InterpreterEntry} {api : ApiHandle} {host : Host}
    {t : Turn (Except LoadError Active)} (h : Active.Loading entry api host t) :
    host.Asked 1 t.host := by
  cases h with
  | refused opening => exact opening.asked
  | loaded opening => exact opening.asked

/-! ## 4. Running -/

/-- An interpreter that is equipped stays that of its instance. -/
theorem Interpreter.equip_source (i : Interpreter) (api : ApiHandle) :
    (i.equip api).1.source = i.source := by
  unfold equip
  split <;> rfl

/-- A run keeps the interpreter of its instance. -/
theorem Interpreter.run_source (i : Interpreter) (host : Host) (script : String)
    (params : List String) : (i.run host script params).answer.2.source = i.source := by
  unfold Interpreter.run
  cases i.memory with
  | echo e => rfl
  | recorder successes => cases host.pendingFailure <;> rfl
  | custom name past => rfl

/-- Nothing but printed lines. -/
def Prints (effects : List Effect) : Prop :=
  ∀ x ∈ effects, ∃ console line, x = .printed console line

theorem prints_nil : Prints [] := fun _ hx => absurd hx List.not_mem_nil

theorem prints_map {α : Type} (console : α → ApiHandle) (line : α → String) (l : List α) :
    Prints (l.map fun a => .printed (console a) (line a)) := by
  intro x hx
  obtain ⟨a, -, rfl⟩ := List.mem_map.1 hx
  exact ⟨console a, line a, rfl⟩

theorem Interpreter.prints_printedOn (e : Echo.Interpreter) (run : Echo.Run) :
    Prints (printedOn e run) := by
  unfold printedOn
  split
  · exact prints_map _ _ _
  · exact prints_nil

/-- What a run of a script leaves: printed lines, behind one record if the interpreter is noted. -/
theorem Interpreter.run_effects (i : Interpreter) (host : Host) (script : String)
    (params : List String) :
    ∃ noted printed, (i.run host script params).effects = noted ++ printed ∧
      (noted = [] ∨ noted = i.source.record (.ran script params)) ∧ Prints printed := by
  unfold Interpreter.run
  cases i.memory with
  | echo e => exact ⟨[], _, rfl, .inl rfl, prints_printedOn e _⟩
  | recorder successes =>
    have hrecord := (List.append_nil (i.source.record (.ran script params))).symm
    cases host.pendingFailure with
    | none => exact ⟨_, [], hrecord, .inr rfl, prints_nil⟩
    | some message => exact ⟨_, [], hrecord, .inr rfl, prints_nil⟩
  | custom name past => exact ⟨_, _, rfl, .inr rfl, prints_map _ _ _⟩

/-- A run uses up the pending failure or leaves the host as it is. -/
theorem Interpreter.run_host_eq (i : Interpreter) (host : Host) (script : String)
    (params : List String) : (i.run host script params).host = host ∨
      (i.run host script params).host = { host with pendingFailure := none } := by
  unfold Interpreter.run
  cases i.memory with
  | echo e => exact .inl rfl
  | recorder successes =>
    cases host.pendingFailure with
    | none => exact .inl rfl
    | some message => exact .inr rfl
  | custom name past => exact .inl rfl

/-- Of the host a run changes the pending failure at most. -/
theorem Interpreter.run_host (i : Interpreter) (host : Host) (script : String)
    (params : List String) :
    ∃ left, (i.run host script params).host = { host with pendingFailure := left } := by
  rcases i.run_host_eq host script params with hsame | hused
  · exact ⟨host.pendingFailure, hsame⟩
  · exact ⟨none, hused⟩

end ScriptHost

import ScriptHost.Proofs.Module.Life
import ScriptHost.Proofs.Module.Opening

/-!
# Records of openings and runs

Which records the small steps leave: opening a module, loading an interpreter, running a script,
letting go.

* Over any backend these records are about one instance: the one that is opened, which has the next
  serial number, or that of the interpreter.
* `Backend.Recording`: of every module is noted what happens to it. Then each small step has exactly
  its records.
-/

namespace ScriptHost

/-! ## 1. Over any backend -/

/-- The serial number of the loaded instance. -/
def Active.serial (a : Active) : Nat := a.interpreter.source.serial

theorem diagnostics_announcement (b : Backend) (path : Path) (plugin : Plugin) :
    Diagnostics (b.announcement path plugin) := by
  unfold Backend.announcement
  split
  · exact diagnostics_nil.traced rfl
  · exact diagnostics_nil

theorem spoken_announcement (b : Backend) (path : Path) (plugin : Plugin) :
    Spoken (b.announcement path plugin) :=
  (diagnostics_announcement b path plugin).spoken

theorem Loader.diagnostics_unloadedTrace (l : Loader) : Diagnostics l.unloadedTrace := by
  unfold unloadedTrace
  split
  · exact diagnostics_nil.traced rfl
  · exact diagnostics_nil

theorem Loader.spoken_unloadedTrace (l : Loader) : Spoken l.unloadedTrace :=
  l.diagnostics_unloadedTrace.spoken

/-- Opening a module is about the instance with the next serial number. -/
theorem Loader.Opening.about {entry : InterpreterEntry} {host : Host}
    {t : Turn (Except LoadError Instance)} (h : Loader.Opening entry host t) :
    About host.asked t.effects := by
  cases h with
  | unopened asked answer => exact spoken_nil.about _
  | foreign asked answer => exact (spoken_nil.traced _).about _
  | @otherLanguage found after asked answer other =>
    have hopened := ((host.newInstance found).about_record .opened).append
      ((spoken_announcement host.backend entry.module found.plugin).about _)
    exact hopened.append ((host.newInstance found).about_record .closed)
  | @opened found after asked answer declared =>
    exact ((host.newInstance found).about_record .opened).append
      ((spoken_announcement host.backend entry.module found.plugin).about _)

theorem Loader.Opening.serial {entry : InterpreterEntry} {host after : Host} {i : Instance}
    {effects : List Effect} (h : Loader.Opening entry host ⟨.ok i, after, effects⟩) :
    i.serial = host.asked := by
  cases h with
  | opened asked answer declared => rfl

/-- Loading an interpreter is about the instance that is opened for it. -/
theorem Active.Loading.about {entry : InterpreterEntry} {api : ApiHandle} {host : Host}
    {t : Turn (Except LoadError Active)} (h : Active.Loading entry api host t) :
    About host.asked t.effects := by
  cases h with
  | @refused err after effects opening =>
    have hr : Spoken [entry.rejection err] := spoken_nil.traced _
    exact opening.about.append (hr.about _)
  | @loaded i after effects opening =>
    have hl : Spoken [.traced (.moduleLoaded entry.language entry.module)] := spoken_nil.traced _
    have hi := opening.serial
    exact ((opening.about.append (hl.about _)).append (hi ▸ i.about_record .created)).append
      (hi ▸ i.about_record (.equipped api))

theorem Active.Loading.serial {entry : InterpreterEntry} {api : ApiHandle} {host after : Host}
    {a : Active} {effects : List Effect}
    (h : Active.Loading entry api host ⟨.ok a, after, effects⟩) : a.serial = host.asked := by
  cases h with
  | loaded opening =>
    exact (congrArg Instance.serial (Interpreter.fresh_source _ api)).trans opening.serial

/-- Printed lines are no records. -/
theorem Prints.lives {effects : List Effect} (h : Prints effects) (n : Nat) :
    lives n effects = [] := by
  refine List.filterMap_eq_nil_iff.2 fun x hx => ?_
  obtain ⟨console, line, rfl⟩ := h x hx
  rfl

theorem Prints.records {effects : List Effect} (h : Prints effects) (n : Nat) :
    Records n [] effects := by
  intro m
  rw [h.lives m]
  split <;> rfl

/-- A run is about the instance of the interpreter. -/
theorem Interpreter.about_run (i : Interpreter) (host : Host) (script : String)
    (params : List String) : About i.source.serial (i.run host script params).effects := by
  obtain ⟨noted, printed, heffects, hnoted, hprinted⟩ := i.run_effects host script params
  have habout : About i.source.serial noted := by
    rcases hnoted with rfl | rfl
    · exact spoken_nil.about _
    · exact i.source.about_record _
  rw [heffects]
  exact habout.append fun m _ => hprinted.lives m

/-! ## 2. Over noted modules -/

/-- Of every module that the backend finds is noted what happens to it. -/
def Backend.Recording (b : Backend) : Prop :=
  ∀ scene path found, (b.answer scene path).answer = .ok found →
    ∃ label, found.plugin.engine.label? = some label

/-- A registry of noted modules. -/
theorem Registry.recording {r : Registry}
    (h : ∀ x ∈ r.registrations, ∀ plugin, x.2 = .plugin plugin →
      ∃ label, plugin.engine.label? = some label) : r.backend.Recording := by
  intro scene path found ha
  have ho : r.opening path = .ok found := ha
  unfold Registry.opening at ho
  split at ho
  · rename_i plugin hf
    cases ho
    obtain ⟨x, hx, he⟩ := Option.map_eq_some_iff.1 hf
    exact h x (List.mem_of_find?_eq_some hx) plugin he
  · cases ho
  · cases ho

/-- An interpreter of a noted module; it is no Echo interpreter. -/
def Interpreter.Recording (i : Interpreter) : Prop :=
  i.source.Recording ∧ ∀ x, i.memory ≠ .echo x

theorem Backend.Recording.newInstance {b : Backend} (h : b.Recording) (host : Host) {path : Path}
    {found : FoundModule} (ha : b.Answers path (.ok found)) :
    (host.newInstance found).Recording := by
  obtain ⟨scene, hs⟩ := ha
  exact h scene path found hs

/-- A module that is not loaded was not opened, or it was rejected. -/
theorem Loader.Opening.refused_records {entry : InterpreterEntry} {host after : Host}
    {err : LoadError} {effects : List Effect} (hb : host.backend.Recording)
    (h : Loader.Opening entry host ⟨.error err, after, effects⟩) :
    Spoken effects ∨ Records host.asked [.opened, .closed] effects := by
  cases h with
  | unopened asked answer => exact .inl spoken_nil
  | foreign asked answer => exact .inl (spoken_nil.traced _)
  | @otherLanguage found after asked answer other =>
    have hi := hb.newInstance host answer
    have hopened := (hi.records .opened).append
      ((spoken_announcement host.backend entry.module found.plugin).records _)
    exact .inr (hopened.append (hi.records .closed))

theorem Active.Loading.refused_records {entry : InterpreterEntry} {api : ApiHandle}
    {host after : Host} {err : LoadError} {effects : List Effect} (hb : host.backend.Recording)
    (h : Active.Loading entry api host ⟨.error err, after, effects⟩) :
    Spoken effects ∨ Records host.asked [.opened, .closed] effects := by
  cases h with
  | refused opening =>
    have hr : Spoken [entry.rejection err] := spoken_nil.traced _
    rcases opening.refused_records hb with h | h
    · exact .inl (h.append hr)
    · exact .inr (h.append (hr.records _))

/-- A module that is opened has the next serial number. -/
theorem Loader.Opening.opened_records {entry : InterpreterEntry} {host after : Host} {i : Instance}
    {effects : List Effect} (hb : host.backend.Recording)
    (h : Loader.Opening entry host ⟨.ok i, after, effects⟩) :
    i.serial = host.asked ∧ i.Recording ∧ Records host.asked [.opened] effects := by
  cases h with
  | opened asked answer declared =>
    have hi := hb.newInstance host answer
    exact ⟨rfl, hi, (hi.records .opened).append ((spoken_announcement _ _ _).records _)⟩

/-- A noted module makes no Echo interpreter. -/
theorem Instance.Recording.create {i : Instance} (h : i.Recording) :
    (Interpreter.create i).1.Recording := by
  refine ⟨h, fun x hx => ?_⟩
  obtain ⟨label, hl⟩ := h
  have hmemory : i.plugin.engine.memory = .echo x := hx
  cases he : i.plugin.engine with
  | echo =>
    rw [he] at hl
    cases hl
  | recorder label | custom name =>
    rw [he] at hmemory
    cases hmemory

/-- Equipping an interpreter is one record, and the interpreter stays one of its module. -/
theorem Interpreter.Recording.equip {i : Interpreter} (h : i.Recording) (api : ApiHandle) :
    Records i.source.serial [.equipped api] (i.equip api).2 ∧ (i.equip api).1.Recording := by
  obtain ⟨hs, hne⟩ := h
  unfold Interpreter.equip
  cases hm : i.memory with
  | echo x => exact absurd hm (hne x)
  | recorder successes => exact ⟨hs.records _, hs, hne⟩
  | custom name past => exact ⟨hs.records _, hs, fun x hx => by cases hx⟩

/-- A module that is loaded has the next serial number; it was opened, and its interpreter was made
and equipped. -/
theorem Active.Loading.loaded_records {entry : InterpreterEntry} {api : ApiHandle}
    {host after : Host} {a : Active} {effects : List Effect} (hb : host.backend.Recording)
    (h : Active.Loading entry api host ⟨.ok a, after, effects⟩) :
    a.serial = host.asked ∧ a.interpreter.Recording ∧
      Records host.asked [.opened, .created, .equipped api] effects := by
  cases h with
  | @loaded i after effects opening =>
    obtain ⟨hserial, hi, hopened⟩ := opening.opened_records hb
    refine ⟨?_, (hi.create.equip api).2, ?_⟩
    · exact (congrArg Instance.serial (Interpreter.fresh_source i api)).trans hserial
    · have hloaded := hopened.append
        ((spoken_nil.traced (.moduleLoaded entry.language entry.module)).records host.asked)
      rw [← hserial] at hloaded ⊢
      exact (hloaded.append (hi.records .created)).append (hi.records (.equipped api))

/-- Letting go of an interpreter drops it and closes its instance. -/
theorem Active.close_records {a : Active} (h : a.interpreter.Recording) :
    Records a.serial [.dropped, .closed] a.close :=
  (h.1.records .dropped).append (h.1.records .closed)

theorem Active.unload_records {a : Active} (h : a.interpreter.Recording) :
    Records a.serial [.dropped, .closed] a.unload :=
  (Active.close_records h).append (a.loader.spoken_unloadedTrace.records _)

/-- A run is one record, and the interpreter stays one of its module. -/
theorem Interpreter.Recording.run {i : Interpreter} (h : i.Recording) (host : Host)
    (script : String) (params : List String) :
    Records i.source.serial [.ran script params] (i.run host script params).effects ∧
      (i.run host script params).answer.2.Recording ∧
      (i.run host script params).host.backend = host.backend ∧
      (i.run host script params).host.asked = host.asked := by
  obtain ⟨hs, hne⟩ := h
  unfold Interpreter.run
  cases hm : i.memory with
  | echo x => exact absurd hm (hne x)
  | recorder successes =>
    cases host.pendingFailure with
    | none => exact ⟨hs.records _, ⟨hs, fun x hx => by cases hx⟩, rfl, rfl⟩
    | some message => exact ⟨hs.records _, ⟨hs, hne⟩, rfl, rfl⟩
  | custom name past =>
    have hprinted := (prints_map Prod.fst Prod.snd (host.conduct name past script params).printed)
    exact ⟨(hs.records _).append (hprinted.records _), ⟨hs, fun x hx => by cases hx⟩, rfl, rfl⟩

end ScriptHost

import Mathlib.Control.Monad.Basic
import ScriptHost.Proofs.Embedder.Lifetime

/-!
# Order of opening and closing

What the account of the instances comes to: the life of every module that was opened, how many are
open, and in which order a reset and a replacement open and close.

* `Equips`: interpreters get no other handle than that of the configuration they are loaded under.
* `ClosesFirst`: a reset closes what was loaded before it opens anything.
* `ReleasesLast`: a replaced interpreter is dropped and closed after the new one was equipped.
* **`orderly_history`**: after every history each opened instance serves with one interpreter,
  equipped once before any run, or is over; as many are open as languages are loaded, and none after
  the embedder's end.
-/

namespace ScriptHost

/-! ## 1. Handles -/

/-- Whatever interpreter is equipped in these effects gets this handle. -/
def Equips (api : Option ApiHandle) (effects : List Effect) : Prop :=
  ∀ n handle, Life.equipped handle ∈ lives n effects → api = some handle

section Equips

variable {api : Option ApiHandle}

theorem Spoken.equips {effects : List Effect} (h : Spoken effects) : Equips api effects := by
  intro n handle hm
  rw [h.lives n] at hm
  cases hm

theorem Equips.append {a b : List Effect} (ha : Equips api a) (hb : Equips api b) :
    Equips api (a ++ b) := by
  intro n handle hm
  rw [lives_append] at hm
  exact (List.mem_append.1 hm).elim (ha n handle) (hb n handle)

theorem Equips.flatMap {α : Type} {f : α → List Effect} (h : ∀ x, Equips api (f x)) :
    ∀ l : List α, Equips api (l.flatMap f)
  | [] => spoken_nil.equips
  | x :: rest => by
    rw [List.flatMap_cons]
    exact (h x).append (Equips.flatMap h rest)

theorem Instance.equips_record (i : Instance) (event : Life)
    (h : ∀ handle, event = .equipped handle → api = some handle) : Equips api (i.record event) :=
  fun _ handle hm => h handle (mem_lives_record hm).2.symm

theorem Prints.equips {effects : List Effect} (h : Prints effects) : Equips api effects := by
  intro n handle hm
  rw [h.lives n] at hm
  cases hm

/-- Opening a module equips nothing. -/
theorem Loader.Opening.equips {entry : InterpreterEntry} {host : Host}
    {t : Turn (Except LoadError Instance)} (h : Loader.Opening entry host t) :
    Equips api t.effects := by
  cases h with
  | unopened asked answer => exact spoken_nil.equips
  | foreign asked answer => exact (spoken_nil.traced _).equips
  | otherLanguage asked answer other =>
    exact ((Instance.equips_record _ .opened fun _ h => nomatch h).append
      (spoken_announcement _ _ _).equips).append
        (Instance.equips_record _ .closed fun _ h => nomatch h)
  | opened asked answer declared =>
    exact (Instance.equips_record _ .opened fun _ h => nomatch h).append
      (spoken_announcement _ _ _).equips

/-- Loading an interpreter equips it with the handle it is loaded with. -/
theorem Active.Loading.equips {entry : InterpreterEntry} {api : ApiHandle} {host : Host}
    {t : Turn (Except LoadError Active)} (h : Active.Loading entry api host t) :
    Equips (some api) t.effects := by
  cases h with
  | refused opening => exact opening.equips.append (spoken_nil.traced _).equips
  | loaded opening =>
    refine ((opening.equips.append (spoken_nil.traced _).equips).append
      (Instance.equips_record _ .created fun _ h => nomatch h)).append
        (Instance.equips_record _ (.equipped api) fun handle h => ?_)
    exact congrArg some (Life.equipped.inj h)

theorem Active.equips_unload (a : Active) : Equips api a.unload := by
  have hclose : Equips api a.close :=
    (Instance.equips_record _ .dropped fun _ h => nomatch h).append
      (Instance.equips_record _ .closed fun _ h => nomatch h)
  exact hclose.append a.loader.spoken_unloadedTrace.equips

theorem Interpreter.equips_run (i : Interpreter) (host : Host) (script : String)
    (params : List String) : Equips api (i.run host script params).effects := by
  obtain ⟨noted, printed, heffects, hnoted, hprinted⟩ := i.run_effects host script params
  have hequips : Equips api noted := by
    rcases hnoted with rfl | rfl
    · exact spoken_nil.equips
    · exact i.source.equips_record (.ran script params) fun _ h => nomatch h
  rw [heffects]
  exact hequips.append hprinted.equips

end Equips

namespace Embedder

variable {e : Embedder} {host : Host} {past : List Effect}

theorem equips_unloadAll (api : Option ApiHandle) (active : Catalog String Active) :
    Equips api (unloadAll active) :=
  Equips.flatMap (fun x => (spoken_nil.traced (.interpreterDropped x.1)).equips.append
    x.2.equips_unload) active.entries

theorem equips_loadAll (api : ApiHandle) : ∀ (entries : List InterpreterEntry)
    (active : Catalog String Active) (host : Host),
      Equips (some api) (loadAll api entries active host).effects
  | [], _, _ => spoken_nil.equips
  | entry :: rest, active, host => by
    rcases loadAll_cons api entry rest active host with
      ⟨err, after, effects, hload, h⟩ | ⟨a, after, effects, hload, h⟩
    · rw [h]
      exact hload.equips
    · rw [h]
      exact hload.equips.append (equips_loadAll api rest _ after)

theorem equips_reset (e : Embedder) (conf : Configuration) (host : Host) :
    Equips conf.api (e.reset conf host).effects := by
  have hloading : ∀ {api : ApiHandle} {answer : Except LoadError Unit × Catalog String Active}
      {after : Host} {loading : List Effect},
      loadAll api conf.interpreters.values Catalog.empty host = ⟨answer, after, loading⟩ →
      Equips (some api) loading := fun {api _ _ _} hload => by
    have h := equips_loadAll api conf.interpreters.values Catalog.empty host
    rwa [hload] at h
  have hfilling : ∀ (api : ApiHandle) {files : FileTree}
      {result : Except ScriptEntry (Catalog UInt32 String)} {why : List Effect},
      fillCache files conf.scripts.values Catalog.empty = (result, why) →
      Equips (some api) why := fun _ {files _ _} hfill => by
    have h := spoken_fillCache files conf.scripts.values Catalog.empty
    rw [hfill] at h
    exact h.equips
  have hx := reset_resetting e conf host
  generalize e.reset conf host = t at hx ⊢
  cases hx with
  | invalid violation => exact (equips_unloadAll _ _).append (spoken_refusal _ _).equips
  | notLoaded valid hapi hload =>
    rw [hapi]
    exact (((equips_unloadAll _ _).append (hloading hload)).append (equips_unloadAll _ _)).append
      (spoken_refusal _ _).equips
  | sourceless valid hapi hload hfill =>
    rw [hapi]
    exact (((equips_unloadAll _ _).append ((hloading hload).append (hfilling _ hfill))).append
      (equips_unloadAll _ _)).append (spoken_refusal _ _).equips
  | applied valid hapi hload hfill =>
    rw [hapi]
    exact ((equips_unloadAll _ _).append ((hloading hload).append (hfilling _ hfill))).append
      ((spoken_note _ _).traced _).equips

theorem equips_addInterpreter (e : Embedder) (host : Host) (entry : InterpreterEntry) :
    Equips e.configuration.api (e.addInterpreter host entry).effects := by
  have hx := addInterpreter_addition e host entry
  generalize e.addInterpreter host entry = t at hx ⊢
  cases hx with
  | known found alike => exact (spoken_note _ _).equips
  | notLoadable new notLoadable => exact (quiet_refuse e host _ spoken_nil).spoken.equips
  | missingApi new loadable missing => exact (quiet_refuse e host _ spoken_nil).spoken.equips
  | notLoaded new loadable hapi hload =>
    rw [hapi]
    exact hload.equips.append (spoken_refusal _ _).equips
  | added new loadable hapi hload =>
    rw [hapi]
    refine (hload.equips.append ?_).append ((spoken_note _ _).traced _).equips
    cases e.active.get? entry.language with
    | none => exact spoken_nil.equips
    | some old => exact old.equips_unload

theorem equips_execute (e : Embedder) (host : Host) (id : UInt32) (params : List String) :
    Equips e.configuration.api (e.execute host id params).effects := by
  have hx := execute_execution e host id params
  generalize e.execute host id params = t at hx ⊢
  cases hx with
  | unknown unknown => exact ((spoken_tell _ _).traced _).equips
  | @sourceless script why found source =>
    have hs := spoken_sourceOf e host.files script
    rw [source] at hs
    exact ((hs.traced _).append (spoken_runReport _ _ _ _)).equips
  | @unserved script text why found source unserved =>
    have hs := spoken_sourceOf e host.files script
    rw [source] at hs
    exact ((hs.traced _).append (spoken_runReport _ _ _ _)).equips
  | ran found source served =>
    exact ((spoken_nil.traced _).equips.append (Interpreter.equips_run _ _ _ _)).append
      (spoken_runReport _ _ _ _).equips

/-- The configuration that a step loads interpreters under. -/
def Step.configuration (e : Embedder) : Step → Configuration
  | .reset conf => conf
  | _ => e.configuration

/-- **A step equips interpreters with the handle of the configuration they are loaded under.** -/
theorem equips_step (e : Embedder) (host : Host) (s : Step) :
    Equips (s.configuration e).api (e.step host s).effects := by
  cases s with
  | reset conf => exact equips_reset e conf host
  | resetSame => exact equips_reset e e.configuration host
  | addScript script => exact (quiet_addScript e host script).spoken.equips
  | removeScript id => exact (quiet_removeScript e host id).spoken.equips
  | addInterpreter entry => exact equips_addInterpreter e host entry
  | execute id params => exact equips_execute e host id params
  | setObserver _ | validate | failNext _ | write _ _ | delete _ => exact spoken_nil.equips

/-! ## 2. Closing before opening -/

theorem lives_unloadAll {active : Catalog String Active}
    (hrec : ∀ a ∈ active.values, a.interpreter.Recording) (hn : (serials active).Nodup) (n : Nat) :
    lives n (unloadAll active) = if n ∈ serials active then [.dropped, .closed] else [] := by
  have hserials : serials active = active.entries.map fun x => x.2.serial := by
    unfold serials Catalog.values
    exact List.map_map
  rw [hserials] at hn ⊢
  exact lives_flatMap n (unloadAll_records hrec) hn

/-- Unloading what was loaded is the first thing that a reset does. -/
theorem reset_effects (e : Embedder) (conf : Configuration) (host : Host) :
    ∃ opening, (e.reset conf host).effects = unloadAll e.active ++ opening := by
  have hx := reset_resetting e conf host
  generalize e.reset conf host = t at hx ⊢
  cases hx with
  | invalid violation => exact ⟨_, rfl⟩
  | notLoaded valid hapi hload =>
    simp only [List.append_assoc]
    exact ⟨_, rfl⟩
  | sourceless valid hapi hload hfill =>
    simp only [List.append_assoc]
    exact ⟨_, rfl⟩
  | applied valid hapi hload hfill =>
    simp only [List.append_assoc]
    exact ⟨_, rfl⟩

/-- A reset closes what was loaded, and only then opens modules. -/
def ClosesFirst (e : Embedder) (host : Host) (conf : Configuration) : Prop :=
  ∃ closing opening, (e.reset conf host).effects = closing ++ opening ∧
    (∀ n, Life.opened ∉ lives n closing) ∧
    ∀ a ∈ e.active.values,
      lives a.serial closing = [.dropped, .closed] ∧ lives a.serial opening = []

theorem closesFirst (h : e.Accounted host past) (conf : Configuration) :
    e.ClosesFirst host conf := by
  obtain ⟨opening, heffects⟩ := reset_effects e conf host
  have hclosing := lives_unloadAll h.recording h.ledger.nodup
  refine ⟨unloadAll e.active, opening, heffects, fun n hm => ?_, fun a ha => ?_⟩
  · rw [hclosing n] at hm
    split at hm
    · exact absurd hm (by decide)
    · cases hm
  · have hin : a.serial ∈ serials e.active := List.mem_map_of_mem ha
    have hself : lives a.serial (unloadAll e.active) = [.dropped, .closed] := by
      rw [hclosing, if_pos hin]
    refine ⟨hself, ?_⟩
    obtain ⟨handle, -, hserving⟩ := h.ledger.serving a.serial hin
    have hover : Over (lives a.serial past ++ [.dropped, .closed]) := .released hserving
    -- the account after the reset knows the life as a whole, so nothing follows the closing
    have hafter := (accounted_reset h conf).ledger.shape a.serial
    rw [heffects, lives_append, lives_append, hself, ← List.append_assoc] at hafter
    exact hover.append_eq_nil (hafter (by simp))

/-! ## 3. Releasing after equipping -/

/-- When the interpreter of the language is replaced, the old one is dropped and closed after the
new one was equipped. -/
def ReleasesLast (e : Embedder) (host : Host) (entry : InterpreterEntry) (old : Active) : Prop :=
  ∃ new handle loading releasing,
    (e.addInterpreter host entry).answer.2.active.get? entry.language = some new ∧
    (e.addInterpreter host entry).effects = loading ++ releasing ∧
    lives new.serial loading = [.opened, .created, .equipped handle] ∧
    lives new.serial releasing = [] ∧
    lives old.serial loading = [] ∧
    lives old.serial releasing = [.dropped, .closed]

theorem releasesLast (h : e.Accounted host past) {entry : InterpreterEntry} {old : Active}
    (hold : e.active.get? entry.language = some old)
    (hnew : old.loader.entry.alike entry = false)
    (hok : (e.addInterpreter host entry).answer.1 = .ok ()) : e.ReleasesLast host entry old := by
  unfold ReleasesLast
  have hx := addInterpreter_addition e host entry
  generalize e.addInterpreter host entry = t at hx hok ⊢
  cases hx with
  | known found alike =>
    cases hold.symm.trans found
    rw [hnew] at alike
    cases alike
  | notLoadable new notLoadable => cases hok
  | missingApi new loadable missing => cases hok
  | notLoaded new loadable hapi hload => cases hok
  | @added api a after loading new loadable hapi hload =>
    have hmem : old ∈ e.active.values := Catalog.mem_values.2 ⟨entry.language, hold⟩
    obtain ⟨hserial, -, hloading⟩ := hload.loaded_records h.backend
    have hreleasing := (Active.unload_records (h.recording old hmem)).append
      (((spoken_note e (interpreterNote entry.language .replaced)).traced
        (.interpreterRegistered entry.language .replaced)).records old.serial)
    have hne : old.serial ≠ host.asked :=
      Nat.ne_of_lt (h.ledger.lt_asked (List.mem_map_of_mem hmem))
    rw [hold]
    refine ⟨a, api, loading, _, Catalog.get?_insert_self _ _ _, List.append_assoc _ _ _,
      ?_, ?_, ?_, ?_⟩
    · rw [hloading, if_pos hserial]
    · refine (hreleasing _).trans (if_neg ?_)
      rw [hserial]
      exact hne.symm
    · rw [hloading, if_neg hne]
    · exact (hreleasing _).trans (if_pos rfl)

/-! ## 4. After every history -/

/-- What the records say about all instances, and how any step would continue them. -/
structure Orderly (e : Embedder) (host : Host) (past : List Effect) : Prop where
  /-- What is loaded serves with the handle of the committed configuration. -/
  serving : ∀ a ∈ e.active.values, ∃ handle,
    e.configuration.api = some handle ∧ Serving handle (lives a.serial past)
  /-- Every other instance that was opened is over. -/
  others : ∀ n, (∀ a ∈ e.active.values, a.serial ≠ n) → lives n past = [] ∨ Over (lives n past)
  /-- As many instances are open as languages are loaded. -/
  open_length : (openInstances past).length = e.languages.length
  /-- With the embedder's end every instance that was opened is over, and none is open. -/
  ended : (∀ n, lives n (past ++ e.close) = [] ∨ Over (lives n (past ++ e.close))) ∧
    openInstances (past ++ e.close) = []
  /-- Any step equips with the handle of the configuration it loads under. -/
  equips : ∀ s, Equips (s.configuration e).api (e.step host s).effects
  /-- Any reset closes before it opens. -/
  closesFirst : ∀ conf, e.ClosesFirst host conf
  /-- Any replacement releases the old instance last. -/
  releasesLast : ∀ entry old, e.active.get? entry.language = some old →
    old.loader.entry.alike entry = false → (e.addInterpreter host entry).answer.1 = .ok () →
    e.ReleasesLast host entry old

theorem Accounted.orderly (h : e.Accounted host past) : e.Orderly host past := by
  have hclosed := ledger_close h
  refine ⟨fun a ha => h.ledger.serving a.serial (List.mem_map_of_mem ha), fun n hn => ?_, ?_,
    ⟨fun n => hclosed.others n List.not_mem_nil, List.Perm.eq_nil hclosed.openInstances_perm⟩,
    equips_step e host, closesFirst h, fun _ _ => releasesLast h⟩
  · refine h.ledger.others n fun hm => ?_
    obtain ⟨a, ha, hs⟩ := List.mem_map.1 hm
    exact hn a ha hs
  · rw [h.ledger.openInstances_perm.length_eq]
    simp only [serials, languages, Catalog.values, Catalog.keys, List.length_map]

/-- **After every history over noted modules the lives of all instances are in order**, and the
construction equipped with the handle of its configuration. -/
theorem orderly_history (conf : Configuration) (observer : Option Observer) (host : Host)
    (hb : host.backend.Recording) (steps : List Step) :
    (history conf observer host steps).answer.Orderly (history conf observer host steps).host
        (history conf observer host steps).effects ∧
      Equips conf.api (Embedder.new conf observer host).effects :=
  ⟨(accounted_history conf observer host hb steps).orderly, equips_reset { observer } conf host⟩

/-- A recorder is replaced by one of another module, which runs a script and is then loaded again by
a reset. -/
theorem orderly_recorder :
    let module : Path := ⟨[0x61, 0x2E, 0x73, 0x6F]⟩
    let other : Path := ⟨[0x62, 0x2E, 0x73, 0x6F]⟩
    let registry : Registry := ⟨[(module, .plugin ⟨"A", .recorder module⟩),
      (other, .plugin ⟨"A", .recorder other⟩)]⟩
    let files := (FileTree.empty []).write ⟨[0x73]⟩ (.file [0x78])
    let host : Host := { files, backend := registry.backend }
    let conf := Configuration.ofParts (some (.other "h")) [⟨"A", module⟩]
      [⟨1, ⟨[0x73]⟩, "A", true, 0⟩]
    let begun := history conf none host []
    let steps : List Step := [.addInterpreter ⟨"A", other⟩, .execute 1 ["p"], .resetSame]
    let t := history conf none host steps
    let brief : List Life := [.opened, .created, .equipped (.other "h")]
    host.backend.Recording ∧
      (∃ old, begun.answer.active.get? "A" = some old ∧
        begun.answer.ReleasesLast begun.host ⟨"A", other⟩ old) ∧
      (lives 0 t.effects = brief ++ [.dropped, .closed] ∧
        lives 1 t.effects = brief ++ [.ran "x" ["p"], .dropped, .closed] ∧
        lives 2 t.effects = brief) ∧
      t.answer.languages = ["A"] ∧ t.answer.Orderly t.host t.effects := by
  intro module other registry files host conf begun steps t brief
  have h : host.backend.Recording := Registry.recording fun x hx plugin he => by
    obtain rfl | hx := List.mem_cons.1 hx
    · cases he
      exact ⟨module, rfl⟩
    · obtain rfl := List.mem_singleton.1 hx
      cases he
      exact ⟨other, rfl⟩
  have hbegun := (orderly_history conf none host h []).1
  have hentry : (begun.answer.active.get? "A").map (·.loader.entry) = some ⟨"A", module⟩ := by
    decide +kernel
  obtain ⟨old, hold, holdentry⟩ := Option.map_eq_some_iff.1 hentry
  have hnew : old.loader.entry.alike ⟨"A", other⟩ = false := by
    rw [holdentry]
    decide +kernel
  have hok : (begun.answer.addInterpreter begun.host ⟨"A", other⟩).answer.1 = .ok () := by
    decide +kernel
  exact ⟨h, ⟨old, hold, hbegun.releasesLast _ old hold hnew hok⟩, by decide +kernel,
    by decide +kernel, (orderly_history conf none host h steps).1⟩

end Embedder

end ScriptHost

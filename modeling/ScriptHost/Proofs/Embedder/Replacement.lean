import Mathlib.Control.Monad.Basic
import Mathlib.Logic.Equiv.Basic
import ScriptHost.Proofs.Embedder.Reapplication

/-!
# Adding and replacing interpreters

An added interpreter takes the place of the one for its language, and nothing else changes.

* `Replacement`: what an addition does that is not of something known -- one entry of the
  configuration, one fresh interpreter, and all the rest as before.
* `additionOf`: over a registry, what an addition comes to depends on what stands under its language,
  on the host interface and on the entry, and on nothing else (`addInterpreter_comes`).
* `Renumbered`: the same embedder, but for the serial numbers of its instances. Additions for two
  languages can be exchanged up to this (`exchangeable`).
* **`replacement_history`**: all this after every history.
-/

namespace ScriptHost

/-! ## 1. Other serial numbers -/

/-- The instance with another serial number. -/
def Instance.renumber (σ : Equiv.Perm Nat) (i : Instance) : Instance :=
  { i with serial := σ i.serial }

/-- What is loaded, with other serial numbers. -/
def Active.renumber (σ : Equiv.Perm Nat) (a : Active) : Active :=
  { loader := { a.loader with kept := a.loader.kept.map (Instance.renumber σ) },
    interpreter := { a.interpreter with source := a.interpreter.source.renumber σ } }

theorem Instance.renumber_eq {σ : Equiv.Perm Nat} {i : Instance} (h : σ i.serial = i.serial) :
    i.renumber σ = i := by
  simp [renumber, h]

theorem Active.renumber_eq {σ : Equiv.Perm Nat} {a : Active}
    (hkept : a.loader.kept = some a.interpreter.source) (h : σ a.serial = a.serial) :
    a.renumber σ = a := by
  have hi : a.interpreter.source.renumber σ = a.interpreter.source := Instance.renumber_eq h
  obtain ⟨⟨entry, kept, lastError⟩, ⟨source, memory⟩⟩ := a
  simp only at hkept hi
  subst hkept
  simp [renumber, hi]

/-- What an interpreter remembers first does not depend on its instance's number. -/
theorem Active.renumber_fresh (σ : Equiv.Perm Nat) (entry : InterpreterEntry) (i : Instance)
    (api : ApiHandle) : (Active.fresh entry i api).renumber σ =
      Active.fresh entry (i.renumber σ) api := by
  cases he : i.plugin.engine <;>
    simp [Active.renumber, Active.fresh, Interpreter.fresh, Interpreter.create, Interpreter.equip,
      Instance.renumber, Engine.memory, he]

namespace Embedder

variable {e : Embedder} {host : Host}

/-- The same embedder with other serial numbers. -/
structure Renumbered (σ : Equiv.Perm Nat) (e e' : Embedder) : Prop where
  configuration : e'.configuration = e.configuration
  cache : e'.cache = e.cache
  lastError : e'.lastError = e.lastError
  observer : e'.observer = e.observer
  active : ∀ l, e'.active.get? l = (e.active.get? l).map (Active.renumber σ)

/-! ## 2. One addition -/

/-- What an addition leaves that has registered the entry and loaded its module. -/
structure Replacement (e : Embedder) (host : Host) (entry : InterpreterEntry) (t : Change) :
    Prop where
  /-- The configuration has the entry under its language, and else it is the same. -/
  interpreter? : ∀ l, t.answer.2.configuration.interpreter? l =
    if l = entry.language then some entry else e.configuration.interpreter? l
  api : t.answer.2.configuration.api = e.configuration.api
  scripts : t.answer.2.configuration.scripts = e.configuration.scripts
  /-- The entry was not there before. -/
  new : ∀ old, e.configuration.interpreter? entry.language = some old → old.alike entry = false
  cache : t.answer.2.cache = e.cache
  lastError : t.answer.2.lastError = e.lastError
  observer : t.answer.2.observer = e.observer
  /-- All other interpreters are the same, state included. -/
  others : ∀ l, l ≠ entry.language → t.answer.2.active.get? l = e.active.get? l
  /-- The entry's module was opened once, by the path that the entry has, and declares the entry's
  language. What is loaded is a new interpreter of this new instance, with the host interface. -/
  fresh : ∃ found api, host.backend.Answers entry.module (.ok found) ∧
    found.plugin.language = entry.language ∧ e.configuration.api = some api ∧
    t.answer.2.active.get? entry.language =
      some (Active.fresh entry (host.newInstance found) api) ∧
    host.Asked 1 t.host ∧ ∀ a ∈ e.active.values, a.serial ≠ (host.newInstance found).serial

/-- Adding what is known already changes nothing at all. -/
theorem addInterpreter_known {entry : InterpreterEntry} {a : Active}
    (found : e.active.get? entry.language = some a) (alike : a.loader.entry.alike entry = true) :
    e.addInterpreter host entry =
      ⟨(.ok (), e), host, e.note s!"Interpreter for '{entry.language}' already exists."⟩ := by
  have hk : (e.active.get? entry.language).any (·.loader.entry.alike entry) = true := by
    rw [found]
    exact alike
  unfold addInterpreter
  simp only [if_pos hk]

/-- **An addition that succeeds and adds something new is a replacement.** -/
theorem addInterpreter_replacement (hc : e.Consistent) (hn : e.Numbered host)
    {entry : InterpreterEntry}
    (new : ∀ a, e.active.get? entry.language = some a → a.loader.entry.alike entry = false)
    (ok : (e.addInterpreter host entry).answer.1 = .ok ()) :
    e.Replacement host entry (e.addInterpreter host entry) := by
  have hx := addInterpreter_addition e host entry
  generalize e.addInterpreter host entry = t at hx ok ⊢
  cases hx with
  | known found alike =>
    rw [new _ found] at alike
    cases alike
  | notLoadable new notLoadable => cases ok
  | missingApi new loadable missing => cases ok
  | notLoaded new loadable hapi hload => cases ok
  | @added api a after loading _ loadable hapi hload =>
    refine ⟨withEntry_interpreter? e entry a, rfl, rfl, fun old hold => ?_, rfl, rfl, rfl,
      fun l hl => ?_, ?_⟩
    · obtain ⟨a', ha', hh⟩ := hc.holds hold
      rw [← hh.entry_eq]
      exact new a' ha'
    · show (e.withEntry entry a).active.get? l = _
      rw [withEntry_active, if_neg hl]
    · cases hload with
      | loaded opening =>
        cases opening with
        | @opened found after asked answer declared =>
          refine ⟨found, api, answer, declared, hapi, ?_, asked, fun b hb => ?_⟩
          · exact (withEntry_active e entry _ _).trans (if_pos rfl)
          · exact Nat.ne_of_lt (hn b hb)

/-! ## 3. Over a registry -/

/-- What an addition comes to: why it is refused, or else what is newly found and equipped, if it is
not known already; and how many modules are opened. -/
structure Addition where
  result : Except EmbedderError (Option (FoundModule × ApiHandle))
  openings : Nat

/-- What adding the entry comes to over the registry, where this stands under its language. -/
def additionOf (r : Registry) (previous : Option Active) (api : Option ApiHandle)
    (entry : InterpreterEntry) : Addition :=
  if previous.any (·.loader.entry.alike entry) then ⟨.ok none, 0⟩
  else if !entry.module.isLoadable then ⟨.error (.notLoadable entry.module), 0⟩
  else
    match api with
    | none => ⟨.error .missingApi, 0⟩
    | some api =>
      match entry.fault? r with
      | some err => ⟨.error (.interpreterNotAdded err), 1⟩
      | none => ⟨.ok ((r.opening entry.module).toOption.map (·, api)), 1⟩

/-- The answer to such an addition. -/
def Addition.answer (a : Addition) : Except EmbedderError Unit := a.result.map fun _ => ()

/-- What is newly loaded for the entry, the module having been opened as the `serial`-th. -/
def Addition.loaded? (a : Addition) (serial : Nat) (entry : InterpreterEntry) : Option Active :=
  match a.result with
  | .ok (some (found, api)) =>
    some (Active.fresh entry ⟨serial, found.plugin, found.library⟩ api)
  | _ => none

/-- The embedder after such an addition. -/
def Addition.apply (a : Addition) (serial : Nat) (entry : InterpreterEntry) (e : Embedder) :
    Embedder :=
  match a.loaded? serial entry with
  | some new => e.withEntry entry new
  | none => e

variable {r : Registry}

/-- **Over a registry an addition comes to what stands under its language makes of it.** -/
theorem addInterpreter_comes (e : Embedder) (hr : host.backend = r.backend)
    (entry : InterpreterEntry) :
    let a := additionOf r (e.active.get? entry.language) e.configuration.api entry
    (e.addInterpreter host entry).answer = (a.answer, a.apply host.asked entry e) ∧
      host.Asked a.openings (e.addInterpreter host entry).host := by
  intro a
  have ha : a = additionOf r (e.active.get? entry.language) e.configuration.api entry := rfl
  unfold additionOf at ha
  have hx := addInterpreter_addition e host entry
  generalize e.addInterpreter host entry = t at hx ⊢
  cases hx with
  | known found alike =>
    simp only [found, Option.any_some, alike, if_true] at ha
    rw [ha]
    exact ⟨rfl, Host.Asked.refl host⟩
  | notLoadable new notLoadable =>
    simp only [new, notLoadable, Bool.not_false, Bool.false_eq_true, if_false, if_true] at ha
    rw [ha]
    exact ⟨rfl, Host.Asked.refl host⟩
  | missingApi new loadable missing =>
    simp only [new, loadable, missing, Bool.not_true, Bool.false_eq_true, if_false] at ha
    rw [ha]
    exact ⟨rfl, Host.Asked.refl host⟩
  | @notLoaded api err after loading new loadable hapi hload =>
    have hfault : entry.fault? r = some err := hload.fault? hr
    simp only [new, loadable, hapi, hfault, Bool.not_true, Bool.false_eq_true, if_false] at ha
    rw [ha]
    exact ⟨rfl, hload.asked⟩
  | @added api loaded after loading new loadable hapi hload =>
    have hfault : entry.fault? r = none := hload.fault? hr
    have hasked : host.Asked 1 after := hload.asked
    cases hload with
    | loaded opening =>
      cases opening with
      | opened asked answer declared =>
        have hopening := Registry.opening_of_answers (hr ▸ answer)
        simp only [new, loadable, hapi, hfault, hopening, Bool.not_true, Bool.false_eq_true,
          if_false] at ha
        rw [ha]
        exact ⟨rfl, hasked⟩

/-! ## 4. Two additions -/

namespace Addition

variable {a : Addition} {entry : InterpreterEntry}

theorem apply_active (a : Addition) (serial : Nat) (entry : InterpreterEntry) (e : Embedder)
    (l : String) : (a.apply serial entry e).active.get? l =
      if l = entry.language then (a.loaded? serial entry).or (e.active.get? l)
      else e.active.get? l := by
  unfold apply
  cases a.loaded? serial entry with
  | none => simp
  | some new => exact withEntry_active e entry new l

theorem apply_interpreter? (a : Addition) (serial : Nat) (entry : InterpreterEntry) (e : Embedder)
    (l : String) : (a.apply serial entry e).configuration.interpreter? l =
      if l = entry.language then
        ((a.loaded? serial entry).map fun _ => entry).or (e.configuration.interpreter? l)
      else e.configuration.interpreter? l := by
  unfold apply
  cases a.loaded? serial entry with
  | none => simp
  | some new => exact withEntry_interpreter? e entry new l

section Rest

variable (a : Addition) (serial : Nat) (entry : InterpreterEntry) (e : Embedder)

@[simp] theorem apply_api :
    (a.apply serial entry e).configuration.api = e.configuration.api := by
  unfold apply
  split <;> rfl

@[simp] theorem apply_script? (id : UInt32) :
    (a.apply serial entry e).configuration.script? id = e.configuration.script? id := by
  unfold apply
  split <;> rfl

@[simp] theorem apply_cache : (a.apply serial entry e).cache = e.cache := by
  unfold apply
  split <;> rfl

@[simp] theorem apply_lastError : (a.apply serial entry e).lastError = e.lastError := by
  unfold apply
  split <;> rfl

@[simp] theorem apply_observer : (a.apply serial entry e).observer = e.observer := by
  unfold apply
  split <;> rfl

end Rest

/-- Something is loaded only if a module was opened. -/
theorem openings_of_loaded (r : Registry) (previous : Option Active) (api : Option ApiHandle)
    (entry : InterpreterEntry) {serial : Nat} {new : Active}
    (h : (additionOf r previous api entry).loaded? serial entry = some new) :
    (additionOf r previous api entry).openings = 1 := by
  unfold additionOf at h ⊢
  split at h
  · cases h
  · split at h
    · cases h
    · split at h
      · cases h
      · split at h
        · cases h
        · simp_all

/-- The serial number is all that depends on when the module is opened. -/
theorem loaded?_renumber (a : Addition) (serial : Nat) (entry : InterpreterEntry)
    (σ : Equiv.Perm Nat) :
    (a.loaded? serial entry).map (Active.renumber σ) = a.loaded? (σ serial) entry := by
  unfold loaded?
  split
  · exact congrArg some (Active.renumber_fresh σ entry _ _)
  · rfl

/-- Where a module that is loaded was opened, what is loaded is the same for numbers that agree in
that case. -/
theorem loaded?_congr {m n : Nat}
    (hopenings : ∀ serial new, a.loaded? serial entry = some new → a.openings = 1)
    (h : a.openings = 1 → m = n) : a.loaded? m entry = a.loaded? n entry := by
  by_cases hone : a.openings = 1
  · rw [h hone]
  · have hnone : ∀ serial, a.loaded? serial entry = none := fun serial =>
      Option.eq_none_iff_forall_ne_some.2 fun new hnew => hone (hopenings serial new hnew)
    rw [hnone, hnone]

end Addition

/-- **Two additions for different languages in either order** differ in serial numbers only: those of
the two modules are swapped if both are opened. -/
theorem renumbered_apply {a b : Addition} {x y : InterpreterEntry} {n : Nat}
    (hne : x.language ≠ y.language)
    (ha : ∀ serial new, a.loaded? serial x = some new → a.openings = 1)
    (hb : ∀ serial new, b.loaded? serial y = some new → b.openings = 1)
    (hold : ∀ l, (e.active.get? l).map
      (Active.renumber (Equiv.swap n (n + a.openings * b.openings))) = e.active.get? l) :
    Renumbered (Equiv.swap n (n + a.openings * b.openings))
      (b.apply (n + a.openings) y (a.apply n x e)) (a.apply (n + b.openings) x (b.apply n y e)) := by
  have hna : a.loaded? (n + b.openings) x =
      a.loaded? (Equiv.swap n (n + a.openings * b.openings) n) x := by
    refine Addition.loaded?_congr ha fun hone => ?_
    rw [Equiv.swap_apply_left, hone, Nat.one_mul]
  have hnb : b.loaded? n y =
      b.loaded? (Equiv.swap n (n + a.openings * b.openings) (n + a.openings)) y := by
    refine Addition.loaded?_congr hb fun hone => ?_
    rw [hone, Nat.mul_one, Equiv.swap_apply_right]
  refine ⟨Configuration.ext_lookups (by simp) (fun l => ?_) (by simp), by simp, by simp, by simp,
    fun l => ?_⟩
  · simp only [Addition.apply_interpreter?]
    by_cases hx : l = x.language
    · subst hx
      simp only [if_pos, if_neg hne]
      rw [hna, ← Addition.loaded?_renumber, Option.map_map]
      rfl
    · by_cases hy : l = y.language
      · subst hy
        simp only [if_pos, if_neg hx]
        rw [hnb, ← Addition.loaded?_renumber, Option.map_map]
        rfl
      · simp only [if_neg hx, if_neg hy]
  · simp only [Addition.apply_active]
    by_cases hx : l = x.language
    · subst hx
      simp only [if_pos, if_neg hne]
      rw [Option.map_or, Addition.loaded?_renumber, hold, hna]
    · by_cases hy : l = y.language
      · subst hy
        simp only [if_pos, if_neg hx]
        rw [Option.map_or, Addition.loaded?_renumber, hold, hnb]
      · simp only [if_neg hx, if_neg hy]
        exact (hold l).symm

/-- Two additions give the same answers in either order, and equivalent embedders after as many
openings. All instances that were there before keep their serial numbers. -/
def Exchangeable (e : Embedder) (host : Host) (x y : InterpreterEntry) : Prop :=
  let x₁ := e.addInterpreter host x
  let y₂ := x₁.answer.2.addInterpreter x₁.host y
  let y₁ := e.addInterpreter host y
  let x₂ := y₁.answer.2.addInterpreter y₁.host x
  x₁.answer.1 = x₂.answer.1 ∧ y₁.answer.1 = y₂.answer.1 ∧
    (∃ n, host.Asked n y₂.host ∧ host.Asked n x₂.host) ∧
    ∃ σ : Equiv.Perm Nat, (∀ m < host.asked, σ m = m) ∧
      Renumbered σ y₂.answer.2 x₂.answer.2

/-- **Over a registry, additions for two languages can be exchanged.** -/
theorem exchangeable (hc : e.Consistent) (hn : e.Numbered host) (hr : host.backend = r.backend)
    {x y : InterpreterEntry} (hne : x.language ≠ y.language) : e.Exchangeable host x y := by
  unfold Exchangeable
  obtain ⟨hx₁, hxhost₁⟩ := addInterpreter_comes e hr x
  obtain ⟨hy₁, hyhost₁⟩ := addInterpreter_comes e hr y
  have ha := @Addition.openings_of_loaded r (e.active.get? x.language) e.configuration.api x
  have hb := @Addition.openings_of_loaded r (e.active.get? y.language) e.configuration.api y
  generalize e.addInterpreter host x = x₁ at hx₁ hxhost₁ ⊢
  generalize e.addInterpreter host y = y₁ at hy₁ hyhost₁ ⊢
  obtain ⟨hy₂, hyhost₂⟩ := addInterpreter_comes x₁.answer.2 (hxhost₁.backend.trans hr) y
  obtain ⟨hx₂, hxhost₂⟩ := addInterpreter_comes y₁.answer.2 (hyhost₁.backend.trans hr) x
  -- what stands under its own language is not touched by the other addition
  have hslot : x₁.answer.2.active.get? y.language = e.active.get? y.language ∧
      x₁.answer.2.configuration.api = e.configuration.api := by
    rw [hx₁]
    exact ⟨(Addition.apply_active _ _ _ _ _).trans (if_neg hne.symm), Addition.apply_api _ _ _ _⟩
  have hslot' : y₁.answer.2.active.get? x.language = e.active.get? x.language ∧
      y₁.answer.2.configuration.api = e.configuration.api := by
    rw [hy₁]
    exact ⟨(Addition.apply_active _ _ _ _ _).trans (if_neg hne), Addition.apply_api _ _ _ _⟩
  rw [hslot.1, hslot.2] at hy₂ hyhost₂
  rw [hslot'.1, hslot'.2] at hx₂ hxhost₂
  generalize additionOf r (e.active.get? x.language) e.configuration.api x = a at *
  generalize additionOf r (e.active.get? y.language) e.configuration.api y = b at *
  refine ⟨?_, ?_, ⟨a.openings + b.openings, hxhost₁.trans hyhost₂, ?_⟩,
    Equiv.swap host.asked (host.asked + a.openings * b.openings), fun m hm => ?_, ?_⟩
  · rw [hx₁, hx₂]
  · rw [hy₁, hy₂]
  · rw [Nat.add_comm]
    exact hyhost₁.trans hxhost₂
  · refine Equiv.swap_apply_of_ne_of_ne ?_ ?_ <;> omega
  · rw [hy₂, hx₂, hx₁, hy₁, hxhost₁.asked, hyhost₁.asked]
    refine renumbered_apply hne (fun _ _ => ha) (fun _ _ => hb) fun l => ?_
    cases hl : e.active.get? l with
    | none => rfl
    | some old =>
      have hkept := (hc.active l old hl).2.1.kept
      have hlt : old.serial < host.asked := hn old (Catalog.mem_values.2 ⟨l, hl⟩)
      rw [Option.map_some, Active.renumber_eq hkept]
      refine Equiv.swap_apply_of_ne_of_ne ?_ ?_ <;> omega

/-- The order can be told by the serial numbers. -/
example :
    let a : InterpreterEntry := ⟨"A", ⟨[0x61, 0x2E, 0x73, 0x6F]⟩⟩
    let b : InterpreterEntry := ⟨"B", ⟨[0x62, 0x2E, 0x73, 0x6F]⟩⟩
    let registry : Registry := ⟨[(a.module, .plugin ⟨"A", .echo⟩), (b.module, .plugin ⟨"B", .echo⟩)]⟩
    let host : Host := { files := FileTree.empty [], backend := registry.backend }
    let e : Embedder := { configuration := Configuration.empty.setApi (.console "c") }
    let aFirst := e.addInterpreter host a
    let bFirst := e.addInterpreter host b
    (aFirst.answer.2.addInterpreter aFirst.host b).answer.2 ≠
      (bFirst.answer.2.addInterpreter bFirst.host a).answer.2 := by
  decide +kernel

/-! ## 5. Histories -/

/-- **Adding interpreters, after every history.** What is known already, in an alike entry, is
neither opened nor changed. Any other addition that succeeds is a replacement under its language and
changes nothing else. Over a registry, additions for two languages can be exchanged. -/
theorem replacement_history (conf : Configuration) (observer : Option Observer) (host : Host)
    (steps : List Step) :
    let e := (history conf observer host steps).answer
    let now := (history conf observer host steps).host
    (∀ entry a, e.active.get? entry.language = some a → a.loader.entry.alike entry = true →
      (e.addInterpreter now entry).answer = (.ok (), e) ∧
        (e.addInterpreter now entry).host = now ∧ Spoken (e.addInterpreter now entry).effects) ∧
    (∀ entry, (∀ a, e.active.get? entry.language = some a → a.loader.entry.alike entry = false) →
      (e.addInterpreter now entry).answer.1 = .ok () →
      e.Replacement now entry (e.addInterpreter now entry)) ∧
    ∀ files r x y, x.language ≠ y.language → e.Exchangeable (now.having files r) x y := by
  intro e now
  have hc : e.Consistent := history_consistent conf observer host steps
  have hn : e.Numbered now := history_numbered conf observer host steps
  refine ⟨fun entry a found alike => ?_, fun entry new ok => addInterpreter_replacement hc hn new ok,
    fun files r x y hne => ?_⟩
  · rw [addInterpreter_known found alike]
    exact ⟨rfl, rfl, spoken_note e _⟩
  · have hn : e.Numbered (now.having files r) := hn
    exact exchangeable hc hn rfl hne

/-- A recorder is added as it is spelled otherwise, and replaced by one of another module, with an
Echo interpreter added before or after that. -/
theorem replacement_recorder :
    let module : Path := ⟨[0x61, 0x2E, 0x73, 0x6F]⟩
    let spelled : Path := ⟨[0x61, 0x2E, 0x73, 0x6F, 0x2F]⟩
    let other : Path := ⟨[0x62, 0x2E, 0x73, 0x6F]⟩
    let echo : Path := ⟨[0x65, 0x2E, 0x73, 0x6F]⟩
    let r : Registry := ⟨[(module, .plugin ⟨"A", .recorder module⟩),
      (other, .plugin ⟨"A", .recorder other⟩), (echo, .plugin .echo)]⟩
    let host : Host := { files := FileTree.empty [], backend := r.backend }
    let conf := Configuration.ofParts (some (.console "c")) [⟨"A", module⟩] []
    let t := history conf none host []
    let e := t.answer
    (∃ a, e.active.get? "A" = some a ∧ a.loader.entry.alike ⟨"A", spelled⟩ = true ∧
      a.loader.entry.alike ⟨"A", other⟩ = false) ∧
      (e.addInterpreter t.host ⟨"A", spelled⟩).answer = (.ok (), e) ∧
      (e.addInterpreter t.host ⟨"A", other⟩).answer.1 = .ok () ∧
      e.Replacement t.host ⟨"A", other⟩ (e.addInterpreter t.host ⟨"A", other⟩) ∧
      e.Exchangeable (t.host.having t.host.files r) ⟨"A", other⟩ ⟨"Echo", echo⟩ := by
  intro module spelled other echo r host conf t e
  have hentry : (e.active.get? "A").map (·.loader.entry) = some ⟨"A", module⟩ := by decide +kernel
  obtain ⟨a, ha, haentry⟩ := Option.map_eq_some_iff.1 hentry
  have halike : a.loader.entry.alike ⟨"A", spelled⟩ = true := by
    rw [haentry]
    decide +kernel
  have hother : a.loader.entry.alike ⟨"A", other⟩ = false := by
    rw [haentry]
    decide +kernel
  have hok : (e.addInterpreter t.host ⟨"A", other⟩).answer.1 = .ok () := by decide +kernel
  obtain ⟨hknown, hreplaced, hexchanged⟩ := replacement_history conf none host []
  have hnew : ∀ b, e.active.get? "A" = some b → b.loader.entry.alike ⟨"A", other⟩ = false := by
    intro b hb
    obtain rfl := Option.some.inj (ha.symm.trans hb)
    exact hother
  exact ⟨⟨a, ha, halike, hother⟩, (hknown _ a ha halike).1, hok, hreplaced _ hnew hok,
    hexchanged t.host.files r _ _ (by decide)⟩

end Embedder

end ScriptHost

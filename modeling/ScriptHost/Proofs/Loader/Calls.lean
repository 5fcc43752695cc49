import Mathlib.Data.List.Chain
import ScriptHost.Proofs.Module.Opening

/-!
# Calls of a loader

A loader is asked for its module and told to let go of it, in any order. Each call meets a host of
its own, so that the backend may answer otherwise than before, and files may have changed.

* `Loader.Visit`: a call with the loader that it meets. `Loader.visits`: calls one after the other.
* `Loader.Told`: what the calls so far tell about the loader: the error of the latest load, and the
  module that the latest call handed out. Each call keeps this (`Loader.Told.call`).
* `Loader.keeps_module`: what is kept is handed out until the loader is told to let go.
* `Loader.load_otherLanguage`: a module for another language is closed within the load.
* `Loader.accounted_visits`: **after any calls** the loader holds what they tell, and the backend was
  asked once for each load that met the loader without a module.
-/

namespace ScriptHost

/-- What the backend answers, while these instances are held. -/
def Host.opening (h : Host) (held : List Instance) (path : Path) : Opening :=
  h.backend.answer (h.scene held) path

namespace Loader

/-! ## 1. Calls -/

/-- A call of a loader. -/
inductive Call where
  /-- It is asked for its module, in this host and while these instances are held. -/
  | load (held : List Instance) (host : Host)
  | unload

/-- A call and the loader that it meets. -/
structure Visit where
  loader : Loader
  call : Call

namespace Visit

/-- What a load answers. -/
def answer? (v : Visit) : Option (Except LoadError Instance) :=
  match v.call with
  | .load held host => some (v.loader.load held host).answer.1
  | .unload => none

/-- The loader after the call. -/
def after (v : Visit) : Loader :=
  match v.call with
  | .load held host => (v.loader.load held host).answer.2
  | .unload => v.loader.unload.2

/-- How many times the backend is asked. -/
def openings (v : Visit) : Nat :=
  match v.call with
  | .load held host => (v.loader.load held host).host.asked - host.asked
  | .unload => 0

/-- The effects of a load. -/
def effects (v : Visit) : List Effect :=
  match v.call with
  | .load held host => (v.loader.load held host).effects
  | .unload => v.loader.unloadedTrace

end Visit

/-- The loader after the calls. -/
def through (l : Loader) : List Call → Loader
  | [] => l
  | c :: rest => through (Visit.after ⟨l, c⟩) rest

/-- The calls, each with the loader that it meets. -/
def visits (l : Loader) : List Call → List Visit
  | [] => []
  | c :: rest => ⟨l, c⟩ :: visits (Visit.after ⟨l, c⟩) rest

/-- What the latest load answered. -/
def latestAnswer? (past : List Visit) : Option (Except LoadError Instance) :=
  past.reverse.findSome? Visit.answer?

theorem latestAnswer?_concat (past : List Visit) (v : Visit) :
    latestAnswer? (past ++ [v]) = v.answer?.or (latestAnswer? past) := by
  unfold latestAnswer?
  rw [List.reverse_append, List.reverse_singleton, List.singleton_append, List.findSome?_cons]
  cases v.answer? <;> rfl

/-! ## 2. What the calls tell -/

/-- The loader holds what the calls tell. -/
structure Told (past : List Visit) (l : Loader) : Prop where
  /-- Its error is that of the latest load. -/
  lastError : ∀ e, l.lastError = some e ↔ latestAnswer? past = some (.error e)
  /-- Its module is what the latest call handed out. -/
  kept : ∀ i, l.kept = some i ↔ ∃ v, past.getLast? = some v ∧ v.answer? = some (.ok i)

theorem told_new (entry : InterpreterEntry) : Told [] { entry } where
  lastError _ := by simp [latestAnswer?]
  kept _ := by simp

/-- A loader that keeps a module has no error. -/
theorem Told.lastError_eq_none {past : List Visit} {l : Loader} (h : Told past l) {i : Instance}
    (hi : l.kept = some i) : l.lastError = none := by
  obtain ⟨v, hlast, hv⟩ := (h.kept i).1 hi
  obtain ⟨before, rfl⟩ := List.getLast?_eq_some_iff.1 hlast
  cases he : l.lastError with
  | none => rfl
  | some e =>
    have hanswer := (h.lastError e).1 he
    rw [latestAnswer?_concat, hv] at hanswer
    cases hanswer

section Load

variable {l : Loader} {host : Host} {t : Turn (Except LoadError Instance × Loader)}

/-- What a loader keeps after a load is what the load hands out. -/
theorem Loading.kept_iff (h : Loading l host t) (i : Instance) :
    t.answer.2.kept = some i ↔ t.answer.1 = .ok i := by
  cases h with
  | handed kept => simp [kept]
  | loaded unkept opening => simp
  | rejected unkept opening => simp [unkept]

/-- The error after a load is that of the load, if a loader that keeps a module had none. -/
theorem Loading.lastError_iff (h : Loading l host t)
    (hl : ∀ i, l.kept = some i → l.lastError = none) (e : LoadError) :
    t.answer.2.lastError = some e ↔ t.answer.1 = .error e := by
  cases h with
  | handed kept => simp [hl _ kept]
  | loaded unkept opening => simp
  | rejected unkept opening => simp

/-- The backend is asked once by a load that meets the loader without a module, and else not. -/
theorem Loading.asked (h : Loading l host t) :
    t.host.asked = host.asked + if l.isLoaded = true then 0 else 1 := by
  cases h with
  | handed kept => simp [isLoaded, kept]
  | loaded unkept opening => simpa [isLoaded, unkept] using opening.asked.asked
  | rejected unkept opening => simpa [isLoaded, unkept] using opening.asked.asked

end Load

/-- **Each call keeps what is told.** -/
theorem Told.call {past : List Visit} {l : Loader} (h : Told past l) (c : Call) :
    Told (past ++ [⟨l, c⟩]) (Visit.after ⟨l, c⟩) := by
  cases c with
  | unload =>
    refine ⟨fun e => ?_, fun i => ?_⟩
    · rw [latestAnswer?_concat]
      exact h.lastError e
    · simp [Visit.after, Visit.answer?, unload]
  | load held host =>
    have hloading := l.load_loading held host
    refine ⟨fun e => ?_, fun i => ?_⟩
    · rw [latestAnswer?_concat]
      exact (hloading.lastError_iff (fun i hi => h.lastError_eq_none hi) e).trans
        (by simp [Visit.answer?])
    · rw [List.getLast?_concat]
      exact (hloading.kept_iff i).trans (by simp [Visit.answer?])

theorem told_visits : ∀ (calls : List Call) {past : List Visit} {l : Loader}, Told past l →
    Told (past ++ l.visits calls) (l.through calls)
  | [], past, l, h => by
    rw [visits, List.append_nil]
    exact h
  | c :: rest, past, l, h => by
    have ih := told_visits rest (h.call c)
    rw [List.append_assoc] at ih
    exact ih

/-! ## 3. The module that is handed out -/

/-- Each call meets the loader that the one before it left. -/
theorem isChain_visits : ∀ (calls : List Call) (l : Loader),
    (l.visits calls).IsChain fun u v => v.loader = u.after
  | [], _ => .nil
  | [_], _ => .singleton _
  | _ :: c' :: rest, _ => .cons_cons rfl (isChain_visits (c' :: rest) _)

theorem Visit.kept_of_answer {v : Visit} {i : Instance} (h : v.answer? = some (.ok i)) :
    v.after.kept = some i := by
  obtain ⟨l, c⟩ := v
  cases c with
  | unload => cases h
  | load held host => exact ((l.load_loading held host).kept_iff i).2 (Option.some.inj h)

/-- A load of a loader that keeps a module hands out this module and leaves the loader as it is. -/
theorem Visit.of_kept {v : Visit} {i : Instance} (hi : v.loader.kept = some i)
    (hload : v.call ≠ .unload) : v.answer? = some (.ok i) ∧ v.after = v.loader := by
  obtain ⟨l, c⟩ := v
  cases c with
  | unload => exact absurd rfl hload
  | load held host =>
    have hloaded : l.load held host = ⟨(.ok i, l), host, []⟩ := by
      simp only [load, show l.kept = some i from hi]
    simp [Visit.answer?, Visit.after, hloaded]

/-- **What is kept after a call is kept until the loader is told to let go of it.** -/
theorem keeps_module {i : Instance} {v : Visit} {later : List Visit} : ∀ {mid : List Visit}
    {u : Visit}, (u :: (mid ++ v :: later)).IsChain (fun u v => v.loader = u.after) →
      u.after.kept = some i → (∀ w ∈ mid, w.call ≠ .unload) → v.loader.kept = some i
  | [], u, hchain, hi, _ => by
    rw [(List.isChain_cons_cons.1 hchain).1]
    exact hi
  | w :: mid, u, hchain, hi, hloads => by
    obtain ⟨hw, hchain⟩ := List.isChain_cons_cons.1 hchain
    have hkept : w.loader.kept = some i := by
      rw [hw]
      exact hi
    obtain ⟨-, hafter⟩ := Visit.of_kept hkept (hloads w List.mem_cons_self)
    refine keeps_module hchain ?_ fun x hx => hloads x (List.mem_cons_of_mem _ hx)
    rw [hafter]
    exact hkept

/-- **Loads between which the loader is not told to let go hand out one module.** -/
theorem same_module {before mid later : List Visit} {u v : Visit} {i j : Instance}
    (hchain : (before ++ u :: (mid ++ v :: later)).IsChain fun u v => v.loader = u.after)
    (hloads : ∀ w ∈ mid, w.call ≠ .unload) (hu : u.answer? = some (.ok i))
    (hv : v.answer? = some (.ok j)) : i = j := by
  have hkept := keeps_module hchain.right_of_append (Visit.kept_of_answer hu) hloads
  have hload : v.call ≠ .unload := by
    intro hunload
    rw [Visit.answer?, hunload] at hv
    cases hv
  rw [(Visit.of_kept hkept hload).1] at hv
  exact Except.ok.inj (Option.some.inj hv)

/-! ## 4. How often the backend is asked -/

theorem Visit.openings_of_load {v : Visit} (h : v.call ≠ .unload) :
    v.openings = if v.loader.isLoaded = true then 0 else 1 := by
  obtain ⟨l, c⟩ := v
  cases c with
  | unload => exact absurd rfl h
  | load held host =>
    show (l.load held host).host.asked - host.asked = _
    rw [(l.load_loading held host).asked, Nat.add_sub_cancel_left]

theorem Visit.of_unload {v : Visit} (h : v.call = .unload) :
    v.after.lastError = v.loader.lastError ∧ v.openings = 0 := by
  obtain ⟨l, c⟩ := v
  obtain rfl : c = .unload := h
  exact ⟨rfl, rfl⟩

/-! ## 5. Modules for another language -/

/-- **A module that declares another language is closed within the load**, and the loader keeps
none. -/
theorem load_otherLanguage {l : Loader} {held : List Instance} {host : Host} {found : FoundModule}
    (unkept : l.kept = none) (answer : (host.opening held l.entry.module).answer = .ok found)
    (other : found.plugin.language ≠ l.entry.language) :
    let i := host.newInstance found
    let e := LoadError.otherLanguage l.entry.module l.entry.language found.plugin.language
    (l.load held host).answer = (.error e, { l with lastError := some e }) ∧
      (l.load held host).effects = i.record .opened ++
        host.backend.announcement l.entry.module found.plugin ++ i.record .closed ++
        [l.entry.rejection e] := by
  intro i e
  unfold Host.opening at answer
  simp only [load, unkept, openVerified, Host.openModule, answer, if_neg other]
  exact ⟨rfl, rfl⟩

/-! ## 6. After any calls -/

/-- What the calls of a loader come to. -/
structure Accounted (past : List Visit) (l : Loader) : Prop where
  /-- There is an error exactly if the latest load answered with it. -/
  lastError : ∀ e, l.lastError = some e ↔ latestAnswer? past = some (.error e)
  /-- Letting go does not touch the error. -/
  unload_lastError : ∀ v ∈ past, v.call = .unload → v.after.lastError = v.loader.lastError
  /-- There is a module exactly if the latest call was a load that handed one out. -/
  isLoaded : l.isLoaded = true ↔ ∃ v i, past.getLast? = some v ∧ v.answer? = some (.ok i)
  /-- The backend is asked once by each load that meets the loader without a module. -/
  load_openings : ∀ v ∈ past, v.call ≠ .unload →
    v.openings = if v.loader.isLoaded = true then 0 else 1
  /-- Otherwise it is not asked. -/
  unload_openings : ∀ v ∈ past, v.call = .unload → v.openings = 0
  /-- Loads that succeed and between which the loader is not told to let go hand out the same
  module. -/
  same : ∀ before u mid v later i j, past = before ++ u :: (mid ++ v :: later) →
    (∀ w ∈ mid, w.call ≠ .unload) → u.answer? = some (.ok i) → v.answer? = some (.ok j) → i = j
  /-- A module that was opened and declares another language is closed within the load, which
  answers with the error; the loader keeps no module. -/
  otherLanguage : ∀ v ∈ past, ∀ held host found, v.call = .load held host →
    v.loader.isLoaded = false →
    (host.opening held v.loader.entry.module).answer = .ok found →
    found.plugin.language ≠ v.loader.entry.language →
    let i := host.newInstance found
    let e := LoadError.otherLanguage v.loader.entry.module v.loader.entry.language
      found.plugin.language
    v.answer? = some (.error e) ∧ v.after.kept = none ∧
      v.effects = i.record .opened ++
        host.backend.announcement v.loader.entry.module found.plugin ++ i.record .closed ++
        [v.loader.entry.rejection e]

/-- **After any calls of a new loader**, whatever the backend answered to each, the loader holds the
error of the latest load and the module that the latest call handed out, if there is one, and the
backend was asked once for each load that found no module kept. -/
theorem accounted_visits (entry : InterpreterEntry) (calls : List Call) :
    Accounted (visits { entry } calls) (through { entry } calls) := by
  have htold : Told (visits { entry } calls) (through { entry } calls) :=
    told_visits calls (told_new entry)
  refine ⟨htold.lastError, fun v _ hv => (Visit.of_unload hv).1, ?_,
    fun v _ hv => Visit.openings_of_load hv, fun v _ hv => (Visit.of_unload hv).2,
    fun before u mid v later i j hpast hloads hu hv => ?_,
    fun v _ held host found hv hunloaded answer other => ?_⟩
  · unfold isLoaded
    rw [Option.isSome_iff_exists, exists_comm]
    exact exists_congr htold.kept
  · have hchain := isChain_visits calls { entry }
    rw [hpast] at hchain
    exact same_module hchain hloads hu hv
  · obtain ⟨l, c⟩ := v
    obtain rfl : c = .load held host := hv
    have hunkept : l.kept = none :=
      Option.isNone_iff_eq_none.1 (Option.isSome_eq_false_iff.1 hunloaded)
    obtain ⟨hanswer, heffects⟩ := load_otherLanguage hunkept answer other
    refine ⟨?_, ?_, heffects⟩
    · show some (l.load held host).answer.1 = _
      rw [hanswer]
    · show (l.load held host).answer.2.kept = none
      rw [hanswer]
      exact hunkept

end Loader

end ScriptHost

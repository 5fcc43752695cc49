import Mathlib.Data.List.Induction
import ScriptHost.Manifest.Basic
import ScriptHost.Proofs.Likeness
import ScriptHost.Proofs.Precedence

/-!
# Histories of a configuration

A configuration starts empty or with parts, and is edited. What it holds in the end is what the last
edit at each place has put there.

* `Edit`, `Place`: the edits, and where each of them takes effect. `at?_apply`: **an edit decides
  what stands at its place and leaves every other place alone**, and so after any edits the last one
  at a place decides (`at?_foldl`).
* `Leaves`: a list of edits leaves an addition if nothing is edited at its place afterwards.
  `at?_eq_some_iff`: **what stands at a place is what the edits leave there.**
* `History.trail`: all edits of a history, the parts at its start told as additions.
  `History.configuration_eq`: histories that leave the same come to the same configuration.
* `Reordered`: entries in another order, but those with equal keys in the same one. `ofParts_eq`: as
  parts they make the same configuration.
* **`history_recorded`**: all of it together.
-/

namespace ScriptHost.Configuration

/-! ## 1. Edits -/

/-- A change of a configuration. -/
inductive Edit where
  | setApi (api : ApiHandle)
  | addInterpreter (entry : InterpreterEntry)
  | removeInterpreter (language : String)
  | addScript (entry : ScriptEntry)
  | removeScript (id : UInt32)
  deriving DecidableEq, Repr

/-- What a configuration holds at most one of. -/
inductive Place where
  | api
  | interpreter (language : String)
  | script (id : UInt32)
  deriving DecidableEq, Repr

namespace Edit

/-- Where the edit takes effect. -/
def place : Edit → Place
  | setApi _ => .api
  | addInterpreter entry => .interpreter entry.language
  | removeInterpreter language => .interpreter language
  | addScript entry => .script entry.id
  | removeScript id => .script id

/-- Whether the edit puts something there. -/
def adds : Edit → Bool
  | removeInterpreter _ | removeScript _ => false
  | _ => true

/-- What stands at its place after the edit, told as the addition that puts it there. -/
def left? (edit : Edit) : Option Edit := if edit.adds then some edit else none

theorem left?_eq_some_iff {edit left : Edit} :
    edit.left? = some left ↔ edit.adds = true ∧ edit = left := by
  unfold left?
  rw [Option.ite_none_right_eq_some, Option.some.injEq]

/-- The configuration after the edit. -/
def apply (c : Configuration) : Edit → Configuration
  | setApi api => c.setApi api
  | addInterpreter entry => (c.addInterpreter entry).2
  | removeInterpreter language => (c.removeInterpreter language).2
  | addScript entry => (c.addScript entry).2
  | removeScript id => (c.removeScript id).2

end Edit

/-! ## 2. What stands where -/

/-- What stands at the place, told as the addition that puts it there. -/
def at? (c : Configuration) : Place → Option Edit
  | .api => c.api.map .setApi
  | .interpreter language => (c.interpreter? language).map .addInterpreter
  | .script id => (c.script? id).map .addScript

theorem at?_empty (place : Place) : empty.at? place = none := by
  cases place <;> rfl

/-- A configuration is determined by what stands where. -/
theorem ext_at? {c d : Configuration} (h : ∀ place, c.at? place = d.at? place) : c = d := by
  refine ext_lookups ?_ (fun language => ?_) fun id => ?_
  · exact Option.map_injective (fun _ _ => Edit.setApi.inj) (h .api)
  · exact Option.map_injective (fun _ _ => Edit.addInterpreter.inj) (h (.interpreter language))
  · exact Option.map_injective (fun _ _ => Edit.addScript.inj) (h (.script id))

/-- **An edit decides what stands at its place, and leaves every other place alone.** -/
theorem at?_apply (c : Configuration) (edit : Edit) (place : Place) :
    (edit.apply c).at? place = if edit.place = place then edit.left? else c.at? place := by
  cases edit with
  | setApi api => cases place <;> rfl
  | addInterpreter entry =>
    cases place with
    | api | script _ => rfl
    | interpreter language =>
      show ((c.addInterpreter entry).2.interpreter? language).map Edit.addInterpreter = _
      rw [interpreter?_addInterpreter, apply_ite (Option.map _)]
      simp [at?, Edit.place, Edit.left?, Edit.adds, eq_comm]
  | removeInterpreter removed =>
    cases place with
    | api | script _ => rfl
    | interpreter language =>
      show ((c.removeInterpreter removed).2.interpreter? language).map Edit.addInterpreter = _
      rw [interpreter?_removeInterpreter, apply_ite (Option.map _)]
      simp [at?, Edit.place, Edit.left?, Edit.adds, eq_comm]
  | addScript entry =>
    cases place with
    | api | interpreter _ => rfl
    | script id =>
      show ((c.addScript entry).2.script? id).map Edit.addScript = _
      rw [script?_addScript, apply_ite (Option.map _)]
      simp [at?, Edit.place, Edit.left?, Edit.adds, eq_comm]
  | removeScript removed =>
    cases place with
    | api | interpreter _ => rfl
    | script id =>
      show ((c.removeScript removed).2.script? id).map Edit.addScript = _
      rw [script?_removeScript, apply_ite (Option.map _)]
      simp [at?, Edit.place, Edit.left?, Edit.adds, eq_comm]

/-! ## 3. What edits leave -/

/-- The last of the edits at the place. -/
def last? (edits : List Edit) (place : Place) : Option Edit :=
  (edits.filter (·.place = place)).getLast?

theorem last?_concat (edits : List Edit) (edit : Edit) (place : Place) :
    last? (edits ++ [edit]) place = if edit.place = place then some edit else last? edits place := by
  unfold last?
  rw [List.filter_append]
  by_cases h : edit.place = place
  · have hedit : [edit].filter (·.place = place) = [edit] := by simp [h]
    rw [if_pos h, hedit, List.getLast?_concat]
  · have hedit : [edit].filter (·.place = place) = [] := by simp [h]
    rw [if_neg h, hedit, List.append_nil]

theorem last?_eq_some_iff {edits : List Edit} {place : Place} {edit : Edit} :
    last? edits place = some edit ↔ edit.place = place ∧
      ∃ before after, edits = before ++ edit :: after ∧ ∀ later ∈ after, later.place ≠ place := by
  unfold last?
  -- the last one from the front is the first one from the end
  rw [List.getLast?_filter, List.find?_eq_some_iff_append]
  simp only [decide_eq_true_eq, Bool.not_eq_true', decide_eq_false_iff_not]
  refine and_congr_right fun _ => ⟨fun h => ?_, fun h => ?_⟩
  · obtain ⟨after, before, hsplit, hafter⟩ := h
    have hedits : edits = before.reverse ++ edit :: after.reverse := by
      rw [← List.reverse_reverse edits, hsplit]
      simp
    exact ⟨before.reverse, after.reverse, hedits, fun later hlater =>
      hafter later (List.mem_reverse.1 hlater)⟩
  · obtain ⟨before, after, hedits, hafter⟩ := h
    have hsplit : edits.reverse = after.reverse ++ edit :: before.reverse := by
      rw [hedits]
      simp
    exact ⟨after.reverse, before.reverse, hsplit, fun later hlater =>
      hafter later (List.mem_reverse.1 hlater)⟩

/-- **After any edits the last one at a place decides what stands there.** -/
theorem at?_foldl (edits : List Edit) (place : Place) :
    (edits.foldl Edit.apply empty).at? place = (last? edits place).bind Edit.left? := by
  induction edits using List.reverseRecOn with
  | nil => exact at?_empty place
  | append_singleton edits edit ih =>
    rw [List.foldl_append, List.foldl_cons, List.foldl_nil, at?_apply, last?_concat, ih]
    split <;> rfl

/-- The edits leave the addition: it is one of them, and none after it takes effect at its place. -/
def Leaves (edits : List Edit) (edit : Edit) : Prop :=
  edit.adds = true ∧ ∃ before after, edits = before ++ edit :: after ∧
    ∀ later ∈ after, later.place ≠ edit.place

theorem leaves_iff {edits : List Edit} {edit : Edit} :
    Leaves edits edit ↔ edit.adds = true ∧ last? edits edit.place = some edit := by
  unfold Leaves
  rw [last?_eq_some_iff]
  simp

instance (edits : List Edit) (edit : Edit) : Decidable (Leaves edits edit) :=
  decidable_of_iff _ leaves_iff.symm

theorem Leaves.mem {edits : List Edit} {edit : Edit} (h : Leaves edits edit) : edit ∈ edits := by
  obtain ⟨-, before, after, rfl, -⟩ := h
  exact List.mem_append_right _ List.mem_cons_self

/-- Whether edits leave the same shows at the edits themselves. -/
theorem leaves_congr {edits edits' : List Edit}
    (h : ∀ edit ∈ edits ++ edits', Leaves edits edit ↔ Leaves edits' edit) (edit : Edit) :
    Leaves edits edit ↔ Leaves edits' edit :=
  ⟨fun hleft => (h edit (List.mem_append_left _ hleft.mem)).1 hleft,
    fun hleft => (h edit (List.mem_append_right _ hleft.mem)).2 hleft⟩

/-- **What stands at a place is what the edits leave there.** -/
theorem at?_eq_some_iff {edits : List Edit} {place : Place} {edit : Edit} :
    (edits.foldl Edit.apply empty).at? place = some edit ↔
      edit.place = place ∧ Leaves edits edit := by
  rw [at?_foldl, leaves_iff, Option.bind_eq_some_iff]
  constructor
  · intro h
    obtain ⟨last, hlast, hleft⟩ := h
    obtain ⟨hadds, rfl⟩ := Edit.left?_eq_some_iff.1 hleft
    have hplace := (last?_eq_some_iff.1 hlast).1
    rw [hplace]
    exact ⟨rfl, hadds, hlast⟩
  · intro h
    obtain ⟨rfl, hadds, hlast⟩ := h
    exact ⟨edit, hlast, if_pos hadds⟩

/-! ## 4. Histories -/

/-- How a configuration comes to be. -/
inductive Start where
  | new
  | parts (api : Option ApiHandle) (interpreters : List InterpreterEntry)
      (scripts : List ScriptEntry)
  deriving DecidableEq, Repr

namespace Start

/-- The configuration at the start. -/
def configuration : Start → Configuration
  | new => empty
  | parts api interpreters scripts => ofParts api interpreters scripts

/-- The edits that the start comes to. -/
def edits : Start → List Edit
  | new => []
  | parts api interpreters scripts =>
    api.toList.map .setApi ++ interpreters.map .addInterpreter ++ scripts.map .addScript

theorem configuration_eq (start : Start) :
    start.configuration = start.edits.foldl Edit.apply empty := by
  cases start with
  | new => rfl
  | parts api interpreters scripts =>
    have hapi : { empty with api := api } =
        (api.toList.map Edit.setApi).foldl Edit.apply empty := by
      cases api <;> rfl
    unfold configuration edits ofParts
    rw [List.foldl_append, List.foldl_append, List.foldl_map, List.foldl_map, ← hapi]
    rfl

end Start

/-- A start and the edits after it, in order. -/
structure History where
  start : Start
  edits : List Edit
  deriving DecidableEq, Repr

namespace History

/-- What the history comes to. -/
def configuration (h : History) : Configuration := h.edits.foldl Edit.apply h.start.configuration

/-- All edits, those that the start comes to included. -/
def trail (h : History) : List Edit := h.start.edits ++ h.edits

theorem configuration_eq_foldl (h : History) :
    h.configuration = h.trail.foldl Edit.apply empty := by
  unfold configuration trail
  rw [List.foldl_append, ← h.start.configuration_eq]

theorem at?_iff (h : History) (place : Place) (edit : Edit) :
    h.configuration.at? place = some edit ↔ edit.place = place ∧ Leaves h.trail edit := by
  rw [configuration_eq_foldl, at?_eq_some_iff]

/-- **Histories that leave the same come to the same configuration.** -/
theorem configuration_eq {h h' : History}
    (hleft : ∀ edit, Leaves h.trail edit ↔ Leaves h'.trail edit) :
    h.configuration = h'.configuration := by
  refine ext_at? fun place => Option.ext fun edit => ?_
  rw [at?_iff, at?_iff, hleft]

end History

/-! ## 5. Reorderings -/

/-- The same entries in another order; those with equal keys come in the same one. -/
structure Reordered {α κ : Type} [DecidableEq κ] (key : α → κ) (l l' : List α) : Prop where
  perm : l.Perm l'
  order : ∀ entry ∈ l, l.filter (key · = key entry) = l'.filter (key · = key entry)

instance {α κ : Type} [DecidableEq α] [DecidableEq κ] (key : α → κ) (l l' : List α) :
    Decidable (Reordered key l l') :=
  decidable_of_iff
    (l.Perm l' ∧ ∀ entry ∈ l, l.filter (key · = key entry) = l'.filter (key · = key entry))
    ⟨fun h => ⟨h.1, h.2⟩, fun h => ⟨h.perm, h.order⟩⟩

theorem Reordered.filter_eq {α κ : Type} [DecidableEq κ] {key : α → κ} {l l' : List α}
    (h : Reordered key l l') (k : κ) : l.filter (key · = k) = l'.filter (key · = k) := by
  by_cases hk : ∃ entry ∈ l, key entry = k
  · obtain ⟨entry, hentry, rfl⟩ := hk
    exact h.order entry hentry
  · have hnone : ∀ entry ∈ l, ¬ key entry = k := fun entry hentry heq => hk ⟨entry, hentry, heq⟩
    have hl : l.filter (key · = k) = [] := List.filter_eq_nil_iff.2 (by simpa using hnone)
    have hl' : l'.filter (key · = k) = [] := List.filter_eq_nil_iff.2 (by
      intro entry hentry
      simpa using hnone entry (h.perm.mem_iff.2 hentry))
    rw [hl, hl']

/-- Added one after the other, reordered entries are added at each place in the same order. -/
theorem Reordered.filter_map_eq {α κ : Type} [DecidableEq κ] {key : α → κ} {l l' : List α}
    (h : Reordered key l l') {add : α → Edit} {home : κ → Place}
    (hplace : ∀ entry, (add entry).place = home (key entry)) (hhome : Function.Injective home)
    (place : Place) :
    (l.map add).filter (·.place = place) = (l'.map add).filter (·.place = place) := by
  rw [List.filter_map, List.filter_map]
  refine congrArg _ ?_
  by_cases hk : ∃ k, home k = place
  · obtain ⟨k, rfl⟩ := hk
    have hhere : ∀ l : List α, l.filter ((·.place = home k) ∘ add) = l.filter (key · = k) :=
      fun l => List.filter_congr fun entry _ => by simp [hplace, hhome.eq_iff]
    rw [hhere, hhere, h.filter_eq]
  · have hnone : ∀ entry, (add entry).place ≠ place := fun entry heq =>
      hk ⟨key entry, (hplace entry).symm.trans heq⟩
    have hnil : ∀ l : List α, l.filter ((·.place = place) ∘ add) = [] := fun l =>
      List.filter_eq_nil_iff.2 (by simp [hnone])
    rw [hnil, hnil]

/-- **Reordered parts make the same configuration.** -/
theorem ofParts_eq (api : Option ApiHandle) {interpreters interpreters' : List InterpreterEntry}
    {scripts scripts' : List ScriptEntry}
    (hinterpreters : Reordered (·.language) interpreters interpreters')
    (hscripts : Reordered (·.id) scripts scripts') :
    ofParts api interpreters scripts = ofParts api interpreters' scripts' := by
  have hlast : ∀ place, last? (Start.parts api interpreters scripts).edits place =
      last? (Start.parts api interpreters' scripts').edits place := fun place => by
    unfold last? Start.edits
    rw [List.filter_append, List.filter_append, List.filter_append, List.filter_append,
      hinterpreters.filter_map_eq (fun _ => rfl) (fun _ _ => Place.interpreter.inj),
      hscripts.filter_map_eq (fun _ => rfl) (fun _ _ => Place.script.inj)]
  refine ext_at? fun place => ?_
  show (Start.parts api interpreters scripts).configuration.at? place =
    (Start.parts api interpreters' scripts').configuration.at? place
  rw [Start.configuration_eq, Start.configuration_eq, at?_foldl, at?_foldl, hlast]

/-! ## 6. What a history comes to -/

/-- An operation at the key: it answers with what stood there, it puts there what stands there now,
and under other keys nothing changes. -/
structure Exchanged {κ ν : Type} (before after : κ → Option ν) (key : κ) (now answer : Option ν) :
    Prop where
  answer : answer = before key
  now : after key = now
  others : ∀ other, other ≠ key → after other = before other

theorem Exchanged.of_ite {κ ν : Type} [DecidableEq κ] {before after : κ → Option ν} {key : κ}
    {now : Option ν} (h : ∀ k, after k = if k = key then now else before k) :
    Exchanged before after key now (before key) where
  answer := rfl
  now := (h key).trans (if_pos rfl)
  others other hne := (h other).trans (if_neg hne)

/-- What is known of the configuration that a history comes to. -/
structure History.Recorded (h : History) : Prop where
  /-- The handle is the one that was set last. -/
  api : ∀ handle, h.configuration.api = some handle ↔ Leaves h.trail (.setApi handle)
  /-- Under a language stands the interpreter that was added there last and is not removed since. -/
  interpreter? : ∀ language entry, h.configuration.interpreter? language = some entry ↔
    entry.language = language ∧ Leaves h.trail (.addInterpreter entry)
  /-- Under an id stands the script that was added there last and is not removed since. -/
  script? : ∀ id entry, h.configuration.script? id = some entry ↔
    entry.id = id ∧ Leaves h.trail (.addScript entry)
  /-- These interpreters are listed, each under its own language. -/
  interpreters : ∀ language entry, (language, entry) ∈ h.configuration.interpreters.entries ↔
    entry.language = language ∧ Leaves h.trail (.addInterpreter entry)
  /-- These scripts are listed, each under its own id. -/
  scripts : ∀ id entry, (id, entry) ∈ h.configuration.scripts.entries ↔
    entry.id = id ∧ Leaves h.trail (.addScript entry)
  /-- The languages ascend by their bytes. -/
  languages : (h.configuration.interpreters.keys.map Utf8.encode).Pairwise (· < ·)
  /-- The ids ascend. -/
  ids : h.configuration.scripts.keys.Pairwise (· < ·)
  /-- One more interpreter is answered with the one that it replaces. -/
  addInterpreter : ∀ entry, Exchanged h.configuration.interpreter?
    (h.configuration.addInterpreter entry).2.interpreter? entry.language (some entry)
    (h.configuration.addInterpreter entry).1
  /-- Removing an interpreter is answered with the one taken out. -/
  removeInterpreter : ∀ language, Exchanged h.configuration.interpreter?
    (h.configuration.removeInterpreter language).2.interpreter? language none
    (h.configuration.removeInterpreter language).1
  /-- One more script is answered with the one that it replaces. -/
  addScript : ∀ entry, Exchanged h.configuration.script?
    (h.configuration.addScript entry).2.script? entry.id (some entry)
    (h.configuration.addScript entry).1
  /-- Removing a script is answered with the one taken out. -/
  removeScript : ∀ id, Exchanged h.configuration.script?
    (h.configuration.removeScript id).2.script? id none (h.configuration.removeScript id).1

namespace History

variable (h : History)

theorem api_iff (handle : ApiHandle) :
    h.configuration.api = some handle ↔ Leaves h.trail (.setApi handle) := by
  have hat := h.at?_iff .api (.setApi handle)
  simpa [at?, Edit.place] using hat

theorem interpreter?_iff (language : String) (entry : InterpreterEntry) :
    h.configuration.interpreter? language = some entry ↔
      entry.language = language ∧ Leaves h.trail (.addInterpreter entry) := by
  have hat := h.at?_iff (.interpreter language) (.addInterpreter entry)
  simpa [at?, Edit.place] using hat

theorem script?_iff (id : UInt32) (entry : ScriptEntry) :
    h.configuration.script? id = some entry ↔
      entry.id = id ∧ Leaves h.trail (.addScript entry) := by
  have hat := h.at?_iff (.script id) (.addScript entry)
  simpa [at?, Edit.place] using hat

theorem recorded : h.Recorded where
  api := h.api_iff
  interpreter? := h.interpreter?_iff
  script? := h.script?_iff
  interpreters language entry := Catalog.mem_entries.trans (h.interpreter?_iff language entry)
  scripts id entry := Catalog.mem_entries.trans (h.script?_iff id entry)
  languages := List.pairwise_map.2 ((Catalog.keys_pairwise _).imp fun hlt =>
    Utf8.encode_lt_iff.2 (compareOfLessAndEq_eq_lt.1 hlt))
  ids := (Catalog.keys_pairwise _).imp fun hlt => compareOfLessAndEq_eq_lt.1 hlt
  addInterpreter entry := .of_ite (interpreter?_addInterpreter _ entry)
  removeInterpreter language := .of_ite (interpreter?_removeInterpreter _ language)
  addScript entry := .of_ite (script?_addScript _ entry)
  removeScript id := .of_ite (script?_removeScript _ id)

end History

/-- Configurations that nothing tells apart. -/
structure Indistinct (c d : Configuration) : Prop where
  same : c = d
  /-- They compare equal. -/
  alike : c.alike d = true
  /-- They are gone through in the same order. -/
  interpreters : c.interpreters.entries = d.interpreters.entries
  scripts : c.scripts.entries = d.scripts.entries
  /-- Whatever the files are, the same rule is broken or none. -/
  violation? : ∀ files, c.violation? files = d.violation? files

theorem Indistinct.of_eq {c d : Configuration} (h : c = d) : Indistinct c d := by
  subst h
  exact ⟨rfl, c.alike_refl, rfl, rfl, fun _ => rfl⟩

/-- **A configuration holds what its history leaves.** Under each key stands the entry added last
and not removed since; adding and removing answer with what is gone. Histories that leave the same
come to configurations that nothing tells apart; so do parts, and manifests, whose entries are
reordered but for those with equal keys. -/
theorem history_recorded :
    (∀ h : History, h.Recorded) ∧
    (∀ h h' : History, (∀ edit, Leaves h.trail edit ↔ Leaves h'.trail edit) →
      Indistinct h.configuration h'.configuration) ∧
    (∀ api interpreters interpreters' scripts scripts',
      Reordered (·.language) interpreters interpreters' → Reordered (·.id) scripts scripts' →
      Indistinct (ofParts api interpreters scripts) (ofParts api interpreters' scripts')) ∧
    ∀ (m m' : Manifest) api, Reordered (·.language) m.interpreters m'.interpreters →
      Reordered (·.id) m.scripts m'.scripts →
      Indistinct (m.configuration api) (m'.configuration api) :=
  ⟨History.recorded, fun _ _ hleft => .of_eq (History.configuration_eq hleft),
    fun api _ _ _ _ hinterpreters hscripts => .of_eq (ofParts_eq api hinterpreters hscripts),
    fun _ _ api hinterpreters hscripts => .of_eq (ofParts_eq (some api) hinterpreters hscripts)⟩

/-- Two histories that leave a handle, an interpreter and a script, by other edits and in another
order; and parts in another order, with two scripts of one id among them. -/
theorem history_recorded_detours :
    let file (name : String) : Path := Path.ofString name
    let h : History := ⟨.new, [.addScript ⟨7, file "a", "B", false, 0⟩, .setApi (.other "x"),
      .addInterpreter ⟨"A", file "a.so"⟩, .addInterpreter ⟨"B", file "b.so"⟩, .setApi (.other "y"),
      .addScript ⟨7, file "b", "B", true, 1⟩, .removeInterpreter "A"]⟩
    let h' : History := ⟨.parts (some (.other "y")) [⟨"B", file "b.so"⟩]
      [⟨9, file "c", "B", false, 0⟩, ⟨7, file "b", "B", true, 1⟩], [.removeScript 9]⟩
    let scripts : List ScriptEntry := [⟨7, file "a", "B", false, 0⟩, ⟨9, file "c", "B", false, 0⟩,
      ⟨7, file "b", "B", true, 1⟩]
    let scripts' : List ScriptEntry := [⟨9, file "c", "B", false, 0⟩, ⟨7, file "a", "B", false, 0⟩,
      ⟨7, file "b", "B", true, 1⟩]
    h.Recorded ∧ (∀ edit, Leaves h.trail edit ↔ Leaves h'.trail edit) ∧
      Indistinct h.configuration h'.configuration ∧
      h.configuration.script? 7 = some ⟨7, file "b", "B", true, 1⟩ ∧
      Reordered (·.language) ([] : List InterpreterEntry) [] ∧ Reordered (·.id) scripts scripts' ∧
      scripts ≠ scripts' ∧ Indistinct (ofParts none [] scripts) (ofParts none [] scripts') ∧
      Indistinct ((⟨[], scripts⟩ : Manifest).configuration (.other "y"))
        ((⟨[], scripts'⟩ : Manifest).configuration (.other "y")) := by
  intro file h h' scripts scripts'
  obtain ⟨hrecorded, hsame, hparts, hmanifests⟩ := history_recorded
  have hleft : ∀ edit, Leaves h.trail edit ↔ Leaves h'.trail edit :=
    leaves_congr (by decide +kernel)
  have hnone : Reordered (·.language) ([] : List InterpreterEntry) [] := by decide
  have hscripts : Reordered (·.id) scripts scripts' := by decide +kernel
  exact ⟨hrecorded h, hleft, hsame h h' hleft, by decide +kernel, hnone, hscripts,
    by decide +kernel, hparts none _ _ _ _ hnone hscripts, hmanifests _ _ _ hnone hscripts⟩

end ScriptHost.Configuration

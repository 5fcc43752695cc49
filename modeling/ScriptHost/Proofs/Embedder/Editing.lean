import ScriptHost.Proofs.Likeness
import ScriptHost.Proofs.Embedder.Consistency

/-!
# Adding and removing scripts

A call that adds or removes a script works at one id: it reads and writes the script and the text
that stand there, and nothing else of them.

* `Slot`: script and text under an id. `edit` is what a call makes of its slot; it depends on the
  languages that are served and on the files besides, and both stay as they are.
* `step_edits`: **a call does to the embedder what it does to its slot.** So calls at different ids
  can be exchanged (`edits_commute`).
* `removeScript_added`, `addScript_again`: what was added can be taken back, and adding it once more
  changes nothing.
* **`editing_history`**: all three after every history.
-/

namespace ScriptHost.Embedder

variable {e : Embedder} {host : Host}

/-! ## 1. Slots -/

/-- What stands under an id. -/
structure Slot where
  script : Option ScriptEntry
  text : Option String

/-- The script and the text under the id. -/
def slot (e : Embedder) (id : UInt32) : Slot := ⟨e.configuration.script? id, e.cache.get? id⟩

/-- Only what stands under the id has changed, to this. -/
structure Edited (id : UInt32) (after : Slot) (e e' : Embedder) : Prop where
  api : e'.configuration.api = e.configuration.api
  interpreters : e'.configuration.interpreters = e.configuration.interpreters
  active : e'.active = e.active
  lastError : e'.lastError = e.lastError
  observer : e'.observer = e.observer
  slot : ∀ id', e'.slot id' = if id' = id then after else e.slot id'

theorem Edited.refl (e : Embedder) (id : UInt32) : Edited id (e.slot id) e e := by
  refine ⟨rfl, rfl, rfl, rfl, rfl, fun id' => ?_⟩
  split
  · rename_i h
    rw [h]
  · rfl

theorem Edited.slot_ne {id id' : UInt32} {after : Slot} {e' : Embedder}
    (h : Edited id after e e') (hne : id' ≠ id) : e'.slot id' = e.slot id' := by
  rw [h.slot, if_neg hne]

/-- Embedders with the same interpreters are the same if all slots are. -/
theorem eq_of_slots {e₁ e₂ : Embedder} (hapi : e₁.configuration.api = e₂.configuration.api)
    (hinterpreters : e₁.configuration.interpreters = e₂.configuration.interpreters)
    (hactive : e₁.active = e₂.active) (herror : e₁.lastError = e₂.lastError)
    (hobserver : e₁.observer = e₂.observer) (hslot : ∀ id, e₁.slot id = e₂.slot id) :
    e₁ = e₂ := by
  have hconf : e₁.configuration = e₂.configuration :=
    Configuration.ext_lookups hapi (fun l => congrArg (·.get? l) hinterpreters)
      fun id => congrArg Slot.script (hslot id)
  have hcache : e₁.cache = e₂.cache :=
    Catalog.ext_get? fun id => congrArg Slot.text (hslot id)
  cases e₁
  cases e₂
  simp_all

/-! ## 2. Calls -/

/-- The id that the call is about, if it adds or removes a script. -/
def Step.scriptId? : Step → Option UInt32
  | .addScript script => some script.id
  | .removeScript id => some id
  | _ => none

/-- What a call answers and makes of its slot, with these languages served and these files. -/
def edit (served : String → Bool) (files : FileTree) (before : Slot) : Step → Answer × Slot
  | .addScript script =>
    if before.script.any (·.alike script) then (.done, before)
    else if !served script.language then
      (.refused (.noInterpreterFor script.id script.language), before)
    else if !files.exists? script.path then (.refused (.missingFile script.path), before)
    else if script.cached then
      match (readSource files script.path).1 with
      | none => (.refused (.sourceUnreadable script.id script.path), before)
      | some text => (.done, ⟨some script, some text⟩)
    else (.done, ⟨some script, none⟩)
  | .removeScript _ =>
    match before.script with
    | none => (.removed none, before)
    | some script => (.removed (some script), ⟨none, none⟩)
  | _ => (.nothing, before)

/-- Registering a script with a text or without one. -/
theorem registerScript_edited (e : Embedder) (host : Host) (script : ScriptEntry)
    {cache : Catalog UInt32 String} (how : Registration) {text : Option String}
    (hown : cache.get? script.id = text)
    (hother : ∀ id, id ≠ script.id → cache.get? id = e.cache.get? id) :
    Edited script.id ⟨some script, text⟩ e
      (e.registerScript host script cache how).answer.2 := by
  refine ⟨rfl, rfl, rfl, rfl, rfl, fun id => ?_⟩
  show Slot.mk ((e.configuration.addScript script).2.script? id) (cache.get? id) = _
  rw [Configuration.script?_addScript]
  by_cases hid : id = script.id
  · rw [if_pos hid, if_pos hid, hid, hown]
  · rw [if_neg hid, if_neg hid, hother id hid]
    rfl

/-- Adding a script does to the embedder what it does to its slot. -/
theorem addScript_edits (e : Embedder) (host : Host) (script : ScriptEntry) :
    let after := edit e.active.contains host.files (e.slot script.id) (.addScript script)
    (e.addScript host script).host = host ∧
      Answer.ofChange (e.addScript host script).answer.1 = after.1 ∧
      Edited script.id after.2 e (e.addScript host script).answer.2 := by
  intro after
  have ha : after = edit e.active.contains host.files (e.slot script.id) (.addScript script) := rfl
  simp only [edit, slot] at ha
  have hx := addScript_addition e host script
  generalize e.addScript host script = t at hx ⊢
  cases hx with
  | known found alike =>
    simp only [found, Option.any_some, alike, if_true] at ha
    rw [ha, ← found]
    exact ⟨rfl, rfl, Edited.refl e script.id⟩
  | unserved new unserved =>
    simp only [new, unserved, Bool.not_false, Bool.false_eq_true, if_false, if_true] at ha
    rw [ha]
    exact ⟨rfl, rfl, Edited.refl e script.id⟩
  | missing new served missing =>
    simp only [new, served, missing, Bool.not_true, Bool.not_false, Bool.false_eq_true, if_false,
      if_true] at ha
    rw [ha]
    exact ⟨rfl, rfl, Edited.refl e script.id⟩
  | sourceless new served present cached read =>
    simp only [new, served, present, cached, read, Bool.not_true, Bool.false_eq_true, if_false,
      if_true] at ha
    rw [ha]
    exact ⟨rfl, rfl, Edited.refl e script.id⟩
  | cached new served present cached read =>
    simp only [new, served, present, cached, read, Bool.not_true, Bool.false_eq_true, if_false,
      if_true] at ha
    rw [ha]
    exact ⟨rfl, rfl, registerScript_edited e host script _ (Catalog.get?_insert_self _ _ _)
      fun id hid => Catalog.get?_insert_ne _ _ hid⟩
  | uncached new served present uncached =>
    simp only [new, served, present, uncached, Bool.not_true, Bool.false_eq_true, if_false] at ha
    rw [ha]
    exact ⟨rfl, rfl, registerScript_edited e host script _ (Catalog.get?_erase_self _ _)
      fun id hid => Catalog.get?_erase_ne _ hid⟩

/-- Removing a script does to the embedder what it does to its slot. -/
theorem removeScript_edits (e : Embedder) (host : Host) (id : UInt32) :
    let after := edit e.active.contains host.files (e.slot id) (.removeScript id)
    (e.removeScript host id).host = host ∧
      Answer.removed (e.removeScript host id).answer.1 = after.1 ∧
      Edited id after.2 e (e.removeScript host id).answer.2 := by
  intro after
  have ha : after = edit e.active.contains host.files (e.slot id) (.removeScript id) := rfl
  simp only [edit, slot] at ha
  have hx := removeScript_removal e host id
  generalize e.removeScript host id = t at hx ⊢
  cases hx with
  | unknown unknown =>
    simp only [unknown] at ha
    rw [ha, ← unknown]
    exact ⟨rfl, rfl, Edited.refl e id⟩
  | removed found =>
    simp only [found] at ha
    rw [ha]
    refine ⟨rfl, rfl, rfl, rfl, rfl, rfl, rfl, fun id' => ?_⟩
    show Slot.mk ((e.configuration.removeScript id).2.script? id') ((e.cache.erase id).get? id') = _
    rw [Configuration.script?_removeScript, Catalog.get?_erase]
    split <;> rfl

/-- **A call does to the embedder what it does to its slot**, and the host stays as it is. -/
theorem step_edits (e : Embedder) (host : Host) {s : Step} {id : UInt32}
    (hs : s.scriptId? = some id) :
    let after := edit e.active.contains host.files (e.slot id) s
    (e.step host s).host = host ∧ (e.step host s).answer.1 = after.1 ∧
      Edited id after.2 e (e.step host s).answer.2 := by
  cases s with
  | addScript script =>
    cases hs
    exact addScript_edits e host script
  | removeScript id' =>
    cases hs
    exact removeScript_edits e host id
  | _ => cases hs

/-! ## 3. Two calls -/

/-- Both orders of two steps give the same answers and end alike. -/
def Commuting (e : Embedder) (host : Host) (a b : Step) : Prop :=
  let a₁ := e.step host a
  let b₂ := a₁.answer.2.step a₁.host b
  let b₁ := e.step host b
  let a₂ := b₁.answer.2.step b₁.host a
  a₁.answer.1 = a₂.answer.1 ∧ b₁.answer.1 = b₂.answer.1 ∧ b₂.answer.2 = a₂.answer.2 ∧
    b₂.host = host ∧ a₂.host = host

/-- **Calls at different ids can be exchanged.** -/
theorem edits_commute (e : Embedder) (host : Host) {a b : Step} {i j : UInt32}
    (ha : a.scriptId? = some i) (hb : b.scriptId? = some j) (hne : i ≠ j) :
    e.Commuting host a b := by
  unfold Commuting
  obtain ⟨hhost₁, hanswer₁, hedit₁⟩ := step_edits e host ha
  obtain ⟨hhost₂, hanswer₂, hedit₂⟩ := step_edits e host hb
  generalize e.step host a = a₁ at hhost₁ hanswer₁ hedit₁ ⊢
  generalize e.step host b = b₁ at hhost₂ hanswer₂ hedit₂ ⊢
  simp only [hhost₁, hhost₂]
  obtain ⟨hhost₃, hanswer₃, hedit₃⟩ := step_edits a₁.answer.2 host hb
  obtain ⟨hhost₄, hanswer₄, hedit₄⟩ := step_edits b₁.answer.2 host ha
  -- neither call touches what the other one reads
  rw [hedit₁.slot_ne hne.symm, hedit₁.active] at hanswer₃ hedit₃
  rw [hedit₂.slot_ne hne, hedit₂.active] at hanswer₄ hedit₄
  refine ⟨hanswer₁.trans hanswer₄.symm, hanswer₂.trans hanswer₃.symm, ?_, hhost₃, hhost₄⟩
  refine eq_of_slots ?_ ?_ ?_ ?_ ?_ fun id => ?_
  · rw [hedit₃.api, hedit₁.api, hedit₄.api, hedit₂.api]
  · rw [hedit₃.interpreters, hedit₁.interpreters, hedit₄.interpreters, hedit₂.interpreters]
  · rw [hedit₃.active, hedit₁.active, hedit₄.active, hedit₂.active]
  · rw [hedit₃.lastError, hedit₁.lastError, hedit₄.lastError, hedit₂.lastError]
  · rw [hedit₃.observer, hedit₁.observer, hedit₄.observer, hedit₂.observer]
  · rw [hedit₃.slot, hedit₁.slot, hedit₄.slot, hedit₂.slot]
    by_cases hi : id = i
    · subst hi
      simp [hne]
    · simp [hi]

/-! ## 4. The same call again, and back -/

/-- Adding what is known already changes nothing at all. -/
theorem addScript_known {script previous : ScriptEntry}
    (found : e.configuration.script? script.id = some previous)
    (alike : previous.alike script = true) :
    e.addScript host script =
      ⟨(.ok (), e), host, e.note s!"Script '{script.id}' already exists."⟩ := by
  have hk : (e.configuration.script? script.id).any (·.alike script) = true := by
    rw [found]
    exact alike
  unfold addScript
  simp only [if_pos hk]

/-- What was added is known: itself, or what was there and is alike. -/
theorem script?_added {script : ScriptEntry} (ok : (e.addScript host script).answer.1 = .ok ()) :
    ∃ s, (e.addScript host script).answer.2.configuration.script? script.id = some s ∧
      s.alike script = true ∧ (e.configuration.script? script.id = none → s = script) := by
  have hx := addScript_addition e host script
  generalize e.addScript host script = t at hx ok ⊢
  have hregistered : ∀ (cache : Catalog UInt32 String) how,
      (e.registerScript host script cache how).answer.2.configuration.script? script.id =
        some script := fun _ _ => (Configuration.script?_addScript _ _ _).trans (if_pos rfl)
  cases hx with
  | @known previous found alike =>
    refine ⟨previous, found, alike, fun hnone => ?_⟩
    rw [found] at hnone
    cases hnone
  | unserved new unserved => cases ok
  | missing new served missing => cases ok
  | sourceless new served present cached read => cases ok
  | cached new served present cached read =>
    exact ⟨script, hregistered _ _, script.alike_refl, fun _ => rfl⟩
  | uncached new served present uncached =>
    exact ⟨script, hregistered _ _, script.alike_refl, fun _ => rfl⟩

/-- **Adding a script once more changes nothing.** -/
theorem addScript_again {script : ScriptEntry}
    (ok : (e.addScript host script).answer.1 = .ok ()) (now : Host) :
    ((e.addScript host script).answer.2.addScript now script).answer =
      (.ok (), (e.addScript host script).answer.2) := by
  obtain ⟨s, found, alike, -⟩ := script?_added ok
  rw [addScript_known found alike]

/-- **What was added under a free id can be taken back.** -/
theorem removeScript_added (h : e.Consistent) {script : ScriptEntry}
    (free : e.configuration.script? script.id = none)
    (ok : (e.addScript host script).answer.1 = .ok ()) (now : Host) :
    ((e.addScript host script).answer.2.removeScript now script.id).answer = (some script, e) := by
  obtain ⟨s, found, -, hs⟩ := script?_added ok
  obtain rfl := hs free
  have huncached : e.cache.get? s.id = none := Option.eq_none_iff_forall_ne_some.2 fun text ht => by
    obtain ⟨s', hs', -⟩ := (h.cached s.id).1 (isCached_iff.2 ⟨text, ht⟩)
    rw [free] at hs'
    cases hs'
  obtain ⟨-, -, hadded⟩ := addScript_edits e host s
  obtain ⟨-, hanswer, hremoved⟩ := removeScript_edits (e.addScript host s).answer.2 now s.id
  have hslot : (e.addScript host s).answer.2.slot s.id =
      ⟨some s, (e.addScript host s).answer.2.cache.get? s.id⟩ := by
    rw [← found]
    rfl
  rw [hslot] at hanswer hremoved
  refine Prod.ext (Answer.removed.inj hanswer) (eq_of_slots ?_ ?_ ?_ ?_ ?_ fun id => ?_)
  · rw [hremoved.api, hadded.api]
  · rw [hremoved.interpreters, hadded.interpreters]
  · rw [hremoved.active, hadded.active]
  · rw [hremoved.lastError, hadded.lastError]
  · rw [hremoved.observer, hadded.observer]
  · rw [hremoved.slot]
    by_cases hid : id = s.id
    · rw [if_pos hid, hid]
      simp only [edit, slot, free, huncached]
    · rw [if_neg hid, hadded.slot_ne hid]

/-! ## 5. Histories -/

/-- **Adding and removing scripts, after every history**, while the files stay as they are. Calls at
different ids give the same answers in either order and end with the same embedder. A script that
was added under a free id is handed back by its removal, which restores the embedder. A script that
was added can be added once more, which changes nothing. -/
theorem editing_history (conf : Configuration) (observer : Option Observer) (host : Host)
    (steps : List Step) :
    let e := (history conf observer host steps).answer
    let now := (history conf observer host steps).host
    (∀ a b i j, a.scriptId? = some i → b.scriptId? = some j → i ≠ j → e.Commuting now a b) ∧
    ∀ script : ScriptEntry,
      let t := e.addScript now script
      t.answer.1 = .ok () →
        (e.configuration.script? script.id = none →
          (t.answer.2.removeScript t.host script.id).answer = (some script, e)) ∧
        (t.answer.2.addScript t.host script).answer = (.ok (), t.answer.2) := by
  intro e now
  have hc : e.Consistent := history_consistent conf observer host steps
  refine ⟨fun a b i j ha hb hne => edits_commute e now ha hb hne, ?_⟩
  intro script t ok
  exact ⟨fun free => removeScript_added hc free ok t.host, addScript_again ok t.host⟩

/-- A kept script is added for a recorder, taken back and added again; another one is removed before
or after. -/
theorem editing_recorder :
    let module : Path := ⟨[0x61, 0x2E, 0x73, 0x6F]⟩
    let r : Registry := ⟨[(module, .plugin ⟨"A", .recorder module⟩)]⟩
    let files := (FileTree.empty []).write ⟨[0x73]⟩ (.file [0x78])
    let host : Host := { files, backend := r.backend }
    let conf := Configuration.ofParts (some (.console "c")) [⟨"A", module⟩]
      [⟨2, ⟨[0x73]⟩, "A", true, 0⟩]
    let t := history conf none host []
    let script : ScriptEntry := ⟨1, ⟨[0x73]⟩, "A", true, 0⟩
    let added := t.answer.addScript t.host script
    (t.answer.configuration.script? 1 = none ∧ added.answer.1 = .ok ()) ∧
      t.answer.Commuting t.host (.addScript script) (.removeScript 2) ∧
      (added.answer.2.removeScript added.host 1).answer = (some script, t.answer) ∧
      (added.answer.2.addScript added.host script).answer = (.ok (), added.answer.2) := by
  intro module r files host conf t script added
  have hfree : t.answer.configuration.script? 1 = none := by decide +kernel
  have hok : added.answer.1 = .ok () := by decide +kernel
  obtain ⟨hcommuting, hscript⟩ := editing_history conf none host []
  obtain ⟨hback, hagain⟩ := hscript script hok
  exact ⟨⟨hfree, hok⟩, hcommuting _ _ 1 2 rfl rfl (by decide), hback hfree, hagain⟩

end ScriptHost.Embedder

import ScriptHost.Proofs.Loader.Holders

/-!
# Custody in sessions

In a session over noted modules every instance is in the custody of its holders.

* `Session.Guarded`: the records account for who holds what. Each step keeps this
  (`Session.Guarded.step`), by one lemma for each kind of step.
* **`Session.custodial_run`**: after any steps from an empty session the instances that are held are
  those that are open, and any further step closes exactly those whose last holder it lets go.
-/

namespace ScriptHost.Session

variable {s : Session} {host : Host} {past : List Effect}

/-! ## 1. Sessions over noted modules -/

/-- Of all instances of the session is noted what happens to them. -/
structure Recording (s : Session) : Prop where
  loaders : ∀ l ∈ s.loaders.values, ∀ i, l.kept = some i → i.Recording
  factories : ∀ i ∈ s.factories.values, i.Recording
  interpreters : ∀ i ∈ s.interpreters.values, i.Recording
  modules : ∀ i ∈ s.modules.values, i.Recording

/-- The records account for who holds what. -/
structure Guarded (s : Session) (host : Host) (past : List Effect) : Prop where
  backend : host.backend.Recording
  recording : s.Recording
  custody : Custody s.Keeps s.made host.asked past

/-- After the turn the records account for who holds what. -/
def GuardedAfter (past : List Effect) (t : Turn (Answer × Session)) : Prop :=
  t.answer.2.Guarded t.host (past ++ t.effects)

namespace Guarded

/-- Nothing is done but to set the pending failure. -/
theorem idle (h : s.Guarded host past) (answer : Answer) (failure : Option String) :
    GuardedAfter past ⟨(answer, s), { host with pendingFailure := failure }, []⟩ := by
  refine ⟨h.backend, h.recording, ?_⟩
  rw [List.append_nil]
  exact h.custody

/-- The step names a value that there is not. -/
theorem unknownName (h : s.Guarded host past) :
    GuardedAfter past ⟨(.unknownName, s), host, []⟩ :=
  h.idle .unknownName host.pendingFailure

/-! ## 2. Opening and loading -/

theorem openModule (h : s.Guarded host past) (path : Path) (as : String) :
    GuardedAfter past (s.step host (.openModule path as)) := by
  have hx := host.openModule_asking s.held path
  simp only [Session.step]
  generalize host.openModule s.held path = t at hx ⊢
  cases hx with
  | @unanswered err after asked answer =>
    refine ⟨asked.backend ▸ h.backend, h.recording, ?_⟩
    show Custody _ _ after.asked (past ++ [])
    rw [asked.asked, List.append_nil]
    exact h.custody.askedMore (Nat.le_succ _)
  | @found found after asked answer =>
    have hi : (host.newInstance found).Recording := h.backend.newInstance host answer
    refine ⟨asked.backend ▸ h.backend, { h.recording with
      modules := Catalog.forall_values_insert h.recording.modules hi }, ?_⟩
    have hopened := h.custody.opened ((hi.records .opened).append
      ((spoken_announcement host.backend path found.plugin).records _))
    simp only [asked.asked]
    rw [← List.append_assoc]
    exact custody_release { s with modules := s.modules.insert as (host.newInstance found) } _
      hopened
      (fun n => (keeps_insert_modules as (host.newInstance found) n).symm)
      fun i hold => h.recording.modules i (Catalog.mem_values.2 ⟨as, hold⟩)

theorem newLoader (h : s.Guarded host past) (entry : InterpreterEntry) (loader : String) :
    GuardedAfter past (s.step host (.newLoader entry loader)) := by
  refine ⟨h.backend, { h.recording with
    loaders := Catalog.forall_values_insert h.recording.loaders fun _ hk => nomatch hk }, ?_⟩
  refine custody_release _ _ h.custody (fun n => ?_) fun i hold => ?_
  · exact ((keeps_insert_loaders loader { entry } n).trans (or_iff_left not_names_none)).symm
  · obtain ⟨l, hl, hi⟩ := Option.bind_eq_some_iff.1 hold
    exact h.recording.loaders l (Catalog.mem_values.2 ⟨loader, hl⟩) i hi

/-- A factory of an instance that is held is stored. -/
theorem custody_storeFactory {keeps : Nat → Prop} {asked : Nat} {i : Instance} {name : String}
    (h : Custody keeps s.made asked past) (hk : ∀ n, keeps n ↔ s.Keeps n ∨ n = i.serial)
    (hs : s.Recording) :
    Custody (s.storeFactory name i).1.Keeps (s.storeFactory name i).1.made asked
      (past ++ (s.storeFactory name i).2) := by
  refine custody_release (s.storeFactory name i).1 _ h (fun n => ?_) fun i hold => ?_
  · rw [hk]
    exact (keeps_insert_factories name i n).symm
  · exact hs.factories i (Catalog.mem_values.2 ⟨name, hold⟩)

theorem storeFactory (h : s.Guarded host past) {i : Instance} (hi : s.Keeps i.serial)
    (hrec : i.Recording) (name : String) (answer : Answer) :
    GuardedAfter past ⟨(answer, (s.storeFactory name i).1), host, (s.storeFactory name i).2⟩ := by
  refine ⟨h.backend, { h.recording with
    factories := Catalog.forall_values_insert h.recording.factories hrec }, ?_⟩
  refine custody_storeFactory h.custody (fun n => ⟨.inl, ?_⟩) h.recording
  rintro (hn | rfl)
  · exact hn
  · exact hi

theorem load (h : s.Guarded host past) (loader as : String) :
    GuardedAfter past (s.step host (.load loader as)) := by
  simp only [Session.step]
  cases hl : s.loaders.get? loader with
  | none => exact h.unknownName
  | some l =>
    have hmem : l ∈ s.loaders.values := Catalog.mem_values.2 ⟨loader, hl⟩
    have hx := l.load_loading s.held host
    simp only
    generalize l.load s.held host = t at hx ⊢
    cases hx with
    | @handed i kept =>
      simp only [Catalog.insert_of_get? hl, List.nil_append]
      refine h.storeFactory (.inl ⟨l, hmem, ?_⟩) (h.recording.loaders l hmem i kept) as _
      show Names l.kept _
      rw [kept, names_some]
    | @loaded i after effects unkept opening =>
      obtain ⟨hserial, hi, hopened⟩ := opening.opened_records h.backend
      have hasked : host.Asked 1 after := opening.asked
      have hcustody := h.custody.opened (hopened.append
        ((spoken_nil.traced (.moduleLoaded l.entry.language l.entry.module)).records _))
      have hloaders := Catalog.forall_values_insert (k := loader)
        (v := { l with kept := some i, lastError := none }) h.recording.loaders
        fun _ hk => Option.some.inj hk ▸ hi
      refine ⟨hasked.backend ▸ h.backend, { h.recording with
        loaders := hloaders
        factories := Catalog.forall_values_insert h.recording.factories hi }, ?_⟩
      simp only [hasked.asked]
      rw [← List.append_assoc]
      refine custody_storeFactory hcustody (fun n => ?_) { h.recording with loaders := hloaders }
      rw [keeps_insert_loaders_unkept hl unkept, names_some, hserial, or_assoc, or_self]
    | @rejected err after effects unkept opening =>
      have hasked : host.Asked 1 after := opening.asked
      have hspoken : Spoken [l.entry.rejection err] := spoken_nil.traced _
      refine ⟨hasked.backend ▸ h.backend, { h.recording with
        loaders := Catalog.forall_values_insert h.recording.loaders fun i hk =>
          h.recording.loaders l hmem i hk }, ?_⟩
      have hcustody : Custody s.Keeps s.made after.asked
          (past ++ (effects ++ [l.entry.rejection err])) := by
        rw [hasked.asked]
        rcases opening.refused_records h.backend with hs | hs
        · exact (h.custody.spoken (hs.append hspoken)).askedMore (Nat.le_succ _)
        · exact h.custody.rejected (hs.append (hspoken.records _))
      refine hcustody.congr (fun n => or_congr_left ?_) (List.Perm.refl _)
      rw [keeps_insert_loaders_unkept hl unkept, unkept, or_iff_left not_names_none]

/-! ## 3. Factories and interpreters -/

/-- What a factory makes an interpreter of is kept. -/
theorem keeps_factory {name : String} {i : Instance} (hi : s.factories.get? name = some i) :
    s.Keeps i.serial :=
  .inr (.inl ⟨i, Catalog.mem_values.2 ⟨name, hi⟩, names_some.2 rfl⟩)

theorem cloneFactory (h : s.Guarded host past) (factory target : String) :
    GuardedAfter past (s.step host (.cloneFactory factory target)) := by
  simp only [Session.step]
  cases hi : s.factories.get? factory with
  | none => exact h.unknownName
  | some i =>
    exact h.storeFactory (keeps_factory hi)
      (h.recording.factories i (Catalog.mem_values.2 ⟨factory, hi⟩)) target _

/-- An interpreter comes in the place of another. -/
theorem made_insert (name : String) (i : Interpreter) :
    ((s.interpreters.get? name).toList.map (·.source.serial) ++
      ({ s with interpreters := s.interpreters.insert name i } : Session).made).Perm
      (i.source.serial :: s.made) := by
  have hnew := (Catalog.values_insert_perm s.interpreters name i).map (·.source.serial)
  have hold := (Catalog.values_perm s.interpreters name).map (·.source.serial)
  rw [List.map_append] at hold
  exact ((hnew.append_left _).trans List.perm_middle).trans (hold.symm.cons _)

theorem createInterpreter (h : s.Guarded host past) (factory target : String) :
    GuardedAfter past (s.step host (.createInterpreter factory target)) := by
  simp only [Session.step]
  cases hi : s.factories.get? factory with
  | none => exact h.unknownName
  | some i =>
    have hrec : i.Recording := h.recording.factories i (Catalog.mem_values.2 ⟨factory, hi⟩)
    have hcreated := h.custody.created (.inl (keeps_factory hi)) (hrec.records .created)
    refine ⟨h.backend, { h.recording with
      interpreters := Catalog.forall_values_insert h.recording.interpreters hrec.create }, ?_⟩
    have hperm := (made_insert (s := s) target (Interpreter.create i).1).symm
    simp only
    rw [← List.append_assoc]
    exact custody_forget (hcreated.congr (fun n => or_congr_right hperm.mem_iff) hperm)
      fun i hold => h.recording.interpreters i (Catalog.mem_values.2 ⟨target, hold⟩)

/-- The instance that an interpreter was made from is among those. -/
theorem made_interpreter {name : String} {i : Interpreter}
    (hi : s.interpreters.get? name = some i) : i.source.serial ∈ s.made :=
  List.mem_map_of_mem (Catalog.mem_values.2 ⟨name, hi⟩)

/-- An interpreter that goes on in its own place is made from the same instance. -/
theorem made_perm {name : String} {i j : Interpreter} (hi : s.interpreters.get? name = some i)
    (hj : j.source = i.source) :
    (Session.made { s with interpreters := s.interpreters.insert name j }).Perm s.made := by
  have hperm := made_insert (s := s) name j
  rw [hi, hj] at hperm
  exact (List.perm_cons _).1 hperm

theorem equip (h : s.Guarded host past) (interpreter : String) (api : Option ApiHandle) :
    GuardedAfter past (s.step host (.equip interpreter api)) := by
  simp only [Session.step]
  cases hi : s.interpreters.get? interpreter with
  | none => exact h.unknownName
  | some i =>
    cases api with
    | none => exact h.idle .nothing host.pendingFailure
    | some handle =>
      have hrec : i.Recording :=
        h.recording.interpreters i (Catalog.mem_values.2 ⟨interpreter, hi⟩)
      obtain ⟨hequipped, hafter⟩ := hrec.equip handle
      refine ⟨h.backend, { h.recording with
        interpreters := Catalog.forall_values_insert h.recording.interpreters hafter }, ?_⟩
      have hperm := made_perm hi (Interpreter.equip_source i handle)
      exact (h.custody.used (made_interpreter hi) rfl hequipped).congr
        (fun n => or_congr_right hperm.mem_iff.symm) hperm.symm

theorem run (h : s.Guarded host past) (interpreter script : String) (params : List String) :
    GuardedAfter past (s.step host (.run interpreter script params)) := by
  simp only [Session.step]
  cases hi : s.interpreters.get? interpreter with
  | none => exact h.unknownName
  | some i =>
    have hrec : i.Recording :=
      h.recording.interpreters i (Catalog.mem_values.2 ⟨interpreter, hi⟩)
    have hsource := Interpreter.run_source i host script params
    obtain ⟨hran, hafter, hbackend, hasked⟩ := hrec.run host script params
    refine ⟨hbackend.symm ▸ h.backend, { h.recording with
      interpreters := Catalog.forall_values_insert h.recording.interpreters hafter }, ?_⟩
    have hperm := made_perm hi hsource
    show Custody _ _ (i.run host script params).host.asked _
    rw [hasked]
    exact (h.custody.used (made_interpreter hi) rfl hran).congr
      (fun n => or_congr_right hperm.mem_iff.symm) hperm.symm

/-! ## 4. Unloading and dropping -/

theorem unload (h : s.Guarded host past) (loader : String) :
    GuardedAfter past (s.step host (.unload loader)) := by
  simp only [Session.step]
  cases hl : s.loaders.get? loader with
  | none => exact h.unknownName
  | some l =>
    have hmem : l ∈ s.loaders.values := Catalog.mem_values.2 ⟨loader, hl⟩
    refine ⟨h.backend, { h.recording with
      loaders := Catalog.forall_values_insert h.recording.loaders fun _ hk => nomatch hk }, ?_⟩
    have hkeeps : ∀ n, s.Keeps n ↔
        ({ s with loaders := s.loaders.insert loader l.unload.2 } : Session).Keeps n ∨
          Names l.unload.1 n := by
      intro n
      have hloader := keeps_insert_loaders (s := s) loader l.unload.2 n
      rw [hl] at hloader
      exact (hloader.trans (or_iff_left not_names_none)).symm
    simp only
    rw [← List.append_assoc]
    have hreleased := custody_release { s with loaders := s.loaders.insert loader l.unload.2 }
      l.unload.1 h.custody hkeeps fun i hold => h.recording.loaders l hmem i hold
    exact hreleased.spoken l.spoken_unloadedTrace

theorem dropFactory (h : s.Guarded host past) (name : String) :
    GuardedAfter past (s.step host (.dropFactory name)) := by
  refine ⟨h.backend, { h.recording with
    factories := fun i hi => h.recording.factories i (Catalog.mem_values_of_erase hi) }, ?_⟩
  refine custody_release _ _ h.custody (fun n => (keeps_erase_factories name n).symm) fun i hold =>
    h.recording.factories i (Catalog.mem_values.2 ⟨name, hold⟩)

theorem dropModule (h : s.Guarded host past) (name : String) :
    GuardedAfter past (s.step host (.dropModule name)) := by
  refine ⟨h.backend, { h.recording with
    modules := fun i hi => h.recording.modules i (Catalog.mem_values_of_erase hi) }, ?_⟩
  refine custody_release _ _ h.custody (fun n => (keeps_erase_modules name n).symm) fun i hold =>
    h.recording.modules i (Catalog.mem_values.2 ⟨name, hold⟩)

theorem dropLoader (h : s.Guarded host past) (name : String) :
    GuardedAfter past (s.step host (.dropLoader name)) := by
  refine ⟨h.backend, { h.recording with
    loaders := fun l hl => h.recording.loaders l (Catalog.mem_values_of_erase hl) }, ?_⟩
  refine custody_release _ _ h.custody (fun n => (keeps_erase_loaders name n).symm) fun i hold => ?_
  obtain ⟨l, hl, hi⟩ := Option.bind_eq_some_iff.1 hold
  exact h.recording.loaders l (Catalog.mem_values.2 ⟨name, hl⟩) i hi

theorem dropInterpreter (h : s.Guarded host past) (name : String) :
    GuardedAfter past (s.step host (.dropInterpreter name)) := by
  refine ⟨h.backend, { h.recording with
    interpreters := fun i hi => h.recording.interpreters i (Catalog.mem_values_of_erase hi) }, ?_⟩
  have hperm := (Catalog.values_perm s.interpreters name).map (·.source.serial)
  rw [List.map_append] at hperm
  exact custody_forget (h.custody.congr (fun n => or_congr_right hperm.mem_iff) hperm)
    fun i hold => h.recording.interpreters i (Catalog.mem_values.2 ⟨name, hold⟩)

/-- **Each step keeps the account.** -/
theorem step (h : s.Guarded host past) (st : Step) : GuardedAfter past (s.step host st) := by
  cases st with
  | openModule path as => exact h.openModule path as
  | newLoader entry loader => exact h.newLoader entry loader
  | load loader as => exact h.load loader as
  | cloneFactory factory target => exact h.cloneFactory factory target
  | createInterpreter factory target => exact h.createInterpreter factory target
  | equip interpreter api => exact h.equip interpreter api
  | run interpreter script params => exact h.run interpreter script params
  | failNext message => exact h.idle .nothing (some message)
  | unload loader => exact h.unload loader
  | dropFactory name => exact h.dropFactory name
  | dropInterpreter name => exact h.dropInterpreter name
  | dropModule name => exact h.dropModule name
  | dropLoader name => exact h.dropLoader name

end Guarded

/-! ## 5. After any steps -/

/-- What the steps come to, one after the other. -/
def run (s : Session) (host : Host) : List Step → Turn Session
  | [] => ⟨s, host, []⟩
  | st :: rest =>
    let t := s.step host st
    (t.answer.2.run t.host rest).after t.effects

theorem guarded_run : ∀ (steps : List Step) {s : Session} {host : Host} {past : List Effect},
    s.Guarded host past →
      (s.run host steps).answer.Guarded (s.run host steps).host
        (past ++ (s.run host steps).effects)
  | [], s, host, past, h => by
    simp only [run, List.append_nil]
    exact h
  | st :: rest, s, host, past, h => by
    have ih := guarded_run rest (h.step st)
    rw [List.append_assoc] at ih
    exact ih

/-- A session without values. -/
theorem guarded_empty (hb : host.backend.Recording) : Guarded {} host [] where
  backend := hb
  recording := by constructor <;> exact fun _ hv => absurd hv List.not_mem_nil
  custody := by
    refine (Custody.start host.asked).congr (fun n => or_congr_left ?_) (List.Perm.refl _)
    have hnone : ∀ {ν : Type} {kept : ν → Option Instance},
        ¬ (Catalog.empty : Catalog String ν).Keeps kept n := fun ⟨_, hv, _⟩ => nomatch hv
    exact ⟨False.elim, fun h => h.elim hnone (·.elim hnone hnone)⟩

/-- What the records say about all instances, and how any step would continue them. -/
structure Custodial (s : Session) (host : Host) (past : List Effect) : Prop where
  /-- What is held is open, and as many of its interpreters were made and not dropped as there
  are. -/
  held : ∀ n, s.Holds n → Held (s.made.count n) (lives n past)
  /-- Every other instance that was opened has ended. -/
  others : ∀ n, ¬ s.Holds n → lives n past = [] ∨ Ended (lives n past)
  /-- What was closed was closed once, with its last record, when all interpreters that were made
  from it were dropped. -/
  closed : ∀ n, .closed ∈ lives n past → (lives n past).count .closed = 1 ∧
    (lives n past).getLast? = some .closed ∧
    (lives n past).count .created = (lives n past).count .dropped
  /-- The open instances are those that are held. -/
  mem_openInstances : ∀ n, n ∈ openInstances past ↔ s.Holds n
  /-- Once nothing is held, every instance that was opened is closed. -/
  released : s.held = [] → openInstances past = []
  /-- Any step closes exactly the instances whose last holder it lets go, also one that it opens
  itself and does not keep. -/
  closes : ∀ st n, .closed ∈ lives n (s.step host st).effects ↔
    (s.Holds n ∨ .opened ∈ lives n (s.step host st).effects) ∧ ¬ (s.step host st).answer.2.Holds n
  /-- No step touches what is closed. -/
  silent : ∀ st n, .closed ∈ lives n past → lives n (s.step host st).effects = []

theorem Guarded.custodial (h : s.Guarded host past) : s.Custodial host past := by
  have hstep : ∀ st, GuardedAfter past (s.step host st) := h.step
  have hopen : ∀ n, n ∈ openInstances past ↔ s.Holds n := by
    intro n
    rw [h.custody.mem_openInstances, holds_iff]
  refine ⟨fun n hn => h.custody.held n (holds_iff.1 hn),
    fun n hn => h.custody.others n fun hm => hn (holds_iff.2 hm),
    fun n hn => (h.custody.ended hn).closed_last, hopen, fun hnone => ?_,
    fun st n => ?_, fun st n hn => h.custody.silent (hstep st).custody hn⟩
  · refine List.eq_nil_iff_forall_not_mem.2 fun n hn => ?_
    obtain ⟨i, hi, -⟩ := (hopen n).1 hn
    rw [hnone] at hi
    cases hi
  · rw [h.custody.closes (hstep st).custody, holds_iff, holds_iff]

/-- **After any steps over noted modules** the instances that are held are those that are open, and
any further step closes exactly those whose last holder it lets go. -/
theorem custodial_run (host : Host) (hb : host.backend.Recording) (steps : List Step) :
    (run {} host steps).answer.Custodial (run {} host steps).host (run {} host steps).effects :=
  (guarded_run steps (guarded_empty hb)).custodial

/-- An interpreter outlives loader and factory, and closes the instance with its own end. -/
theorem custodial_recorder :
    let module : Path := ⟨[0x61, 0x2E, 0x73, 0x6F]⟩
    let registry : Registry := ⟨[(module, .plugin ⟨"A", .recorder module⟩)]⟩
    let host : Host := { files := FileTree.empty [], backend := registry.backend }
    let steps : List Step := [.newLoader ⟨"A", module⟩ "l", .load "l" "f",
      .createInterpreter "f" "i", .dropLoader "l", .dropFactory "f", .run "i" "s" []]
    let t := run {} host steps
    host.backend.Recording ∧ lives 0 t.effects = [.opened, .created, .ran "s" []] ∧
      lives 0 (t.answer.step t.host (.dropInterpreter "i")).effects = [.dropped, .closed] ∧
      t.answer.Custodial t.host t.effects := by
  intro module registry host steps t
  have h : host.backend.Recording := Registry.recording fun x hx plugin he => by
    obtain rfl := List.mem_singleton.1 hx
    cases he
    exact ⟨module, rfl⟩
  exact ⟨h, by decide +kernel, by decide +kernel, custodial_run host h steps⟩

end ScriptHost.Session

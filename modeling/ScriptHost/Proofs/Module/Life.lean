import ScriptHost.Embedder.Active

/-!
# Lives of modules

What is noted of each opened module, and an account of the instances that are in use.

* `lives n`: the records of the instance with serial number `n`, in order.
* `Serving` and `Over`: the two shapes of a life. An instance that serves was opened, made one
  interpreter, equipped it once and then ran scripts; one that is over was rejected at once, or
  served until its interpreter was dropped and it was closed.
* `Ledger`: the instances in use and what the effects so far say about all others. Each of the few
  moves -- opening, rejecting, running, releasing -- keeps it.
* `Ledger.openInstances_perm`: **the instances that were opened and not yet closed are those in
  use.**
-/

namespace ScriptHost

/-! ## 1. Records of an instance -/

/-- What the effect notes about the instance with this serial number. -/
def Effect.life? (n : Nat) : Effect → Option Life
  | .life m _ event => if m = n then some event else none
  | _ => none

/-- The records of the instance with this serial number, in order. -/
def lives (n : Nat) (effects : List Effect) : List Life := effects.filterMap (·.life? n)

theorem lives_append (n : Nat) (a b : List Effect) :
    lives n (a ++ b) = lives n a ++ lives n b :=
  List.filterMap_append

/-- The effects hold these records of one instance and none of any other. -/
def Records (n : Nat) (events : List Life) (effects : List Effect) : Prop :=
  ∀ m, lives m effects = if m = n then events else []

/-- Nothing but reports and diagnostics: no module takes part, and no script prints. -/
def Spoken (effects : List Effect) : Prop :=
  ∀ x ∈ effects, (∃ observer report, x = .reported observer report) ∨ ∃ event, x = .traced event

theorem spoken_nil : Spoken [] := fun _ hx => absurd hx List.not_mem_nil

theorem Spoken.append {a b : List Effect} (ha : Spoken a) (hb : Spoken b) : Spoken (a ++ b) := by
  intro x hx
  exact (List.mem_append.1 hx).elim (ha x) (hb x)

theorem Spoken.traced {effects : List Effect} (h : Spoken effects) (event : TraceEvent) :
    Spoken (.traced event :: effects) :=
  List.forall_mem_cons.2 ⟨.inr ⟨event, rfl⟩, h⟩

theorem spoken_tell (observer : Option Observer) (report : Report) :
    Spoken (tell observer report) := by
  intro x hx
  rcases observer with _ | name | _
  · cases hx
  · exact .inl ⟨name, report, List.mem_singleton.1 hx⟩
  · exact .inr ⟨.observed report, List.mem_singleton.1 hx⟩

/-- Who is told what by the effect. -/
def Effect.report? : Effect → Option (Observer × Report)
  | .reported name report => some (.named name, report)
  | .traced (.observed report) => some (.diagnostics, report)
  | _ => none

/-- Nothing but diagnostics, and no report among them. -/
def Diagnostics (effects : List Effect) : Prop :=
  ∀ x ∈ effects, x.report? = none ∧ ∃ event, x = .traced event

theorem diagnostics_nil : Diagnostics [] := fun _ hx => absurd hx List.not_mem_nil

theorem Diagnostics.traced {effects : List Effect} (h : Diagnostics effects) {event : TraceEvent}
    (he : (Effect.traced event).report? = none) : Diagnostics (.traced event :: effects) :=
  List.forall_mem_cons.2 ⟨⟨he, event, rfl⟩, h⟩

theorem Diagnostics.append {a b : List Effect} (ha : Diagnostics a) (hb : Diagnostics b) :
    Diagnostics (a ++ b) :=
  List.forall_mem_append.2 ⟨ha, hb⟩

theorem Diagnostics.spoken {effects : List Effect} (h : Diagnostics effects) : Spoken effects :=
  fun x hx => .inr (h x hx).2

theorem Spoken.lives {effects : List Effect} (h : Spoken effects) (n : Nat) :
    lives n effects = [] := by
  refine List.filterMap_eq_nil_iff.2 fun x hx => ?_
  rcases h x hx with ⟨observer, report, rfl⟩ | ⟨event, rfl⟩ <;> rfl

theorem Spoken.records {effects : List Effect} (h : Spoken effects) (n : Nat) :
    Records n [] effects := by
  intro m
  rw [h.lives m]
  split <;> rfl

theorem Records.append {n : Nat} {x y : List Life} {a b : List Effect} (ha : Records n x a)
    (hb : Records n y b) : Records n (x ++ y) (a ++ b) := by
  intro m
  rw [lives_append, ha m, hb m]
  split <;> rfl

/-- The records of one instance leave the lives of all others as they were. -/
theorem Records.lives_of_ne {n m : Nat} {events : List Life} {past effects : List Effect}
    (he : Records n events effects) (hm : m ≠ n) : lives m (past ++ effects) = lives m past := by
  rw [lives_append, he m, if_neg hm, List.append_nil]

theorem Records.lives_of_self {n : Nat} {events : List Life} {past effects : List Effect}
    (he : Records n events effects) : lives n (past ++ effects) = lives n past ++ events := by
  rw [lives_append, he n, if_pos rfl]

theorem Spoken.lives_append {past effects : List Effect} (he : Spoken effects) (n : Nat) :
    ScriptHost.lives n (past ++ effects) = ScriptHost.lives n past := by
  rw [ScriptHost.lives_append, he.lives n, List.append_nil]

/-- No instance but this one has a record among the effects. -/
def About (n : Nat) (effects : List Effect) : Prop := ∀ m, m ≠ n → lives m effects = []

theorem Spoken.about {effects : List Effect} (h : Spoken effects) (n : Nat) : About n effects :=
  fun m _ => h.lives m

theorem About.append {n : Nat} {a b : List Effect} (ha : About n a) (hb : About n b) :
    About n (a ++ b) := by
  intro m hm
  rw [lives_append, ha m hm, hb m hm, List.append_nil]

/-- What is recorded of an instance is this one event. -/
theorem Instance.mem_lives_record {i : Instance} {event x : Life} {n : Nat}
    (h : x ∈ lives n (i.record event)) : n = i.serial ∧ x = event := by
  unfold record at h
  split at h
  · obtain ⟨y, hy, he⟩ := List.mem_filterMap.1 h
    obtain rfl := List.mem_singleton.1 hy
    by_cases hn : i.serial = n
    · rw [Effect.life?, if_pos hn] at he
      exact ⟨hn.symm, (Option.some.inj he).symm⟩
    · rw [Effect.life?, if_neg hn] at he
      cases he
  · cases h

theorem Instance.about_record (i : Instance) (event : Life) : About i.serial (i.record event) :=
  fun _ hm => List.eq_nil_iff_forall_not_mem.2 fun _ hx => hm (mem_lives_record hx).1

/-- Where many instances have the same records, each has them once. -/
theorem lives_flatMap {α : Type} {serial : α → Nat} {events : List Life} {f : α → List Effect}
    (n : Nat) : ∀ {l : List α}, (∀ x ∈ l, Records (serial x) events (f x)) →
      (l.map serial).Nodup →
      lives n (l.flatMap f) = if n ∈ l.map serial then events else []
  | [], _, _ => rfl
  | x :: rest, hr, hn => by
    obtain ⟨hnot, hn⟩ := List.nodup_cons.1 hn
    have ih := lives_flatMap n (fun y hy => hr y (List.mem_cons_of_mem _ hy)) hn
    rw [List.flatMap_cons, List.map_cons, lives_append, hr x List.mem_cons_self, ih]
    by_cases hx : n = serial x
    · subst hx
      rw [if_pos rfl, if_neg hnot, if_pos List.mem_cons_self, List.append_nil]
    · have hm : n ∈ serial x :: rest.map serial ↔ n ∈ rest.map serial := by
        rw [List.mem_cons]
        exact or_iff_right hx
      rw [if_neg hx, List.nil_append]
      simp only [hm]

/-- An instance of which is noted what happens to it. -/
def Instance.Recording (i : Instance) : Prop := ∃ label, i.plugin.engine.label? = some label

theorem Instance.Recording.records {i : Instance} (h : i.Recording) (event : Life) :
    Records i.serial [event] (i.record event) := by
  intro m
  obtain ⟨label, hl⟩ := h
  simp only [record, hl, lives, List.filterMap_cons, Effect.life?, List.filterMap_nil]
  by_cases hm : m = i.serial
  · simp [hm]
  · simp [hm, Ne.symm hm]

/-! ## 2. Shapes of a life -/

/-- Whether the record is that of a run. -/
def Life.isRun : Life → Bool
  | .ran .. => true
  | _ => false

/-- Opened, one interpreter made and equipped with the handle, then runs. -/
def Serving (api : ApiHandle) (life : List Life) : Prop :=
  ∃ runs, (∀ x ∈ runs, x.isRun = true) ∧ life = .opened :: .created :: .equipped api :: runs

/-- Rejected at once, or served, dropped and closed. -/
inductive Over : List Life → Prop where
  | rejected : Over [.opened, .closed]
  | released {api : ApiHandle} {life : List Life} (served : Serving api life) :
      Over (life ++ [.dropped, .closed])

theorem Serving.ran {api : ApiHandle} {life : List Life} (h : Serving api life) {event : Life}
    (he : event.isRun = true) : Serving api (life ++ [event]) := by
  obtain ⟨runs, hr, rfl⟩ := h
  refine ⟨runs ++ [event], fun x hx => ?_, rfl⟩
  rcases List.mem_append.1 hx with hx | hx
  · exact hr x hx
  · exact List.mem_singleton.1 hx ▸ he

theorem Serving.ne_nil {api : ApiHandle} {life : List Life} (h : Serving api life) : life ≠ [] := by
  obtain ⟨runs, -, rfl⟩ := h
  exact fun h => nomatch h

/-- Runs hold no other record. -/
theorem not_mem_runs {runs : List Life} (h : ∀ x ∈ runs, x.isRun = true) {event : Life}
    (he : event.isRun = false) : event ∉ runs := by
  intro hm
  rw [h event hm] at he
  cases he

theorem Serving.count_opened {api : ApiHandle} {life : List Life} (h : Serving api life) :
    life.count .opened = 1 := by
  obtain ⟨runs, hr, rfl⟩ := h
  have hn : runs.count .opened = 0 := List.count_eq_zero.2 (not_mem_runs hr rfl)
  simp [hn]

theorem Serving.not_mem_closed {api : ApiHandle} {life : List Life} (h : Serving api life) :
    Life.closed ∉ life := by
  obtain ⟨runs, hr, rfl⟩ := h
  have hn : Life.closed ∉ runs := not_mem_runs hr rfl
  simp [hn]

theorem Over.count_opened {life : List Life} (h : Over life) : life.count .opened = 1 := by
  cases h with
  | rejected => decide
  | released served => simp [List.count_append, served.count_opened]

theorem Over.mem_closed {life : List Life} (h : Over life) : Life.closed ∈ life := by
  cases h with
  | rejected => decide
  | released served => simp

/-- Closing is the last record, and there is no other of it. -/
theorem Over.eq_concat {life : List Life} (h : Over life) :
    ∃ before, life = before ++ [.closed] ∧ Life.closed ∉ before := by
  cases h with
  | rejected => exact ⟨[.opened], rfl, by decide⟩
  | @released api life served =>
    refine ⟨life ++ [.dropped], by simp, ?_⟩
    have hn := served.not_mem_closed
    simp [hn]

/-- Nothing follows a closing, where a longer life is closed at its end only or not at all. -/
theorem append_eq_nil_of_closed {life more : List Life} (hclosed : Life.closed ∈ life)
    (hmore : Life.closed ∉ life ++ more ∨
      ∃ before, life ++ more = before ++ [.closed] ∧ Life.closed ∉ before) : more = [] := by
  have hlife : ∀ more, Life.closed ∈ life ++ more := fun _ => List.mem_append_left _ hclosed
  obtain ⟨before, hl, hb⟩ := hmore.resolve_left fun hn => hn (hlife more)
  rcases List.eq_nil_or_concat more with rfl | ⟨more', x, rfl⟩
  · rfl
  · -- the closing that ends the longer life would be the second one
    refine absurd ?_ hb
    rw [List.concat_eq_append, ← List.append_assoc] at hl
    rw [← List.append_inj_left' hl rfl]
    exact hlife more'

/-- What is over does not go on: no longer life has one of the shapes. -/
theorem Over.append_eq_nil {life more : List Life} (h : Over life)
    (hmore : Over (life ++ more) ∨ ∃ api, Serving api (life ++ more)) : more = [] := by
  refine append_eq_nil_of_closed h.mem_closed ?_
  rcases hmore with ho | ⟨api, hs⟩
  · exact .inr ho.eq_concat
  · exact .inl hs.not_mem_closed

/-! ## 3. The account -/

/-- The account of the instances in use, equipped with the handle, after so many openings and with
these effects so far. -/
structure Ledger (api : Option ApiHandle) (used : List Nat) (asked : Nat) (past : List Effect) :
    Prop where
  /-- No instance is used twice. -/
  nodup : used.Nodup
  /-- Those in use serve. -/
  serving : ∀ n ∈ used, ∃ handle, api = some handle ∧ Serving handle (lives n past)
  /-- All others are over, or never were. -/
  others : ∀ n, n ∉ used → lives n past = [] ∨ Over (lives n past)
  /-- The next serial numbers are free. -/
  fresh : ∀ n, asked ≤ n → lives n past = []

namespace Ledger

variable {api : Option ApiHandle} {used : List Nat} {asked : Nat} {past effects : List Effect}

theorem start (api : Option ApiHandle) (asked : Nat) : Ledger api [] asked [] :=
  ⟨List.nodup_nil, fun _ h => absurd h List.not_mem_nil, fun _ _ => .inl rfl, fun _ _ => rfl⟩

theorem lt_asked (h : Ledger api used asked past) {n : Nat} (hn : n ∈ used) : n < asked := by
  obtain ⟨handle, -, hs⟩ := h.serving n hn
  exact Nat.lt_of_not_le fun hle => hs.ne_nil (h.fresh n hle)

/-- Whatever was opened is over or serves. -/
theorem shape (h : Ledger api used asked past) (n : Nat) (hn : lives n past ≠ []) :
    Over (lives n past) ∨ ∃ handle, Serving handle (lives n past) := by
  by_cases hu : n ∈ used
  · obtain ⟨handle, -, hs⟩ := h.serving n hu
    exact .inr ⟨handle, hs⟩
  · exact .inl ((h.others n hu).resolve_left hn)

/-- The order of the instances does not matter. -/
theorem perm (h : Ledger api used asked past) {used' : List Nat} (hp : used.Perm used') :
    Ledger api used' asked past :=
  ⟨hp.nodup_iff.1 h.nodup, fun n hn => h.serving n (hp.mem_iff.2 hn),
    fun n hn => h.others n fun hm => hn (hp.mem_iff.1 hm), h.fresh⟩

/-- With nothing in use the handle does not matter. -/
theorem rehandle (h : Ledger api [] asked past) (api' : Option ApiHandle) :
    Ledger api' [] asked past :=
  ⟨h.nodup, fun _ hn => absurd hn List.not_mem_nil, h.others, h.fresh⟩

/-- Reports and diagnostics change nothing; nor do further openings. -/
theorem spoken (h : Ledger api used asked past) (he : Spoken effects) :
    Ledger api used asked (past ++ effects) := by
  refine ⟨h.nodup, fun n hn => ?_, fun n hn => ?_, fun n hn => ?_⟩
  · rw [he.lives_append]
    exact h.serving n hn
  · rw [he.lives_append]
    exact h.others n hn
  · rw [he.lives_append]
    exact h.fresh n hn

theorem askedMore (h : Ledger api used asked past) {asked' : Nat} (hle : asked ≤ asked') :
    Ledger api used asked' past :=
  ⟨h.nodup, h.serving, h.others, fun n hn => h.fresh n (Nat.le_trans hle hn)⟩

/-- What a step has to show that goes on with the life of one instance: how that life looks then.
All other lives, and who else is in use, stay as they were. -/
theorem move (h : Ledger api used asked past) {n : Nat} {events : List Life} {used' : List Nat}
    {asked' : Nat} (he : Records n events effects) (hnodup : used'.Nodup)
    (hother : ∀ m, m ≠ n → (m ∈ used' ↔ m ∈ used))
    (hserving : n ∈ used' → ∃ handle, api = some handle ∧
      Serving handle (lives n past ++ events))
    (hover : n ∉ used' → Over (lives n past ++ events)) (hlt : n < asked') (hle : asked ≤ asked') :
    Ledger api used' asked' (past ++ effects) := by
  refine ⟨hnodup, fun m hm => ?_, fun m hm => ?_, fun m hm => ?_⟩
  · by_cases hne : m = n
    · subst hne
      rw [he.lives_of_self]
      exact hserving hm
    · rw [he.lives_of_ne hne]
      exact h.serving m ((hother m hne).1 hm)
  · by_cases hne : m = n
    · subst hne
      rw [he.lives_of_self]
      exact .inr (hover hm)
    · rw [he.lives_of_ne hne]
      exact h.others m fun hu => hm ((hother m hne).2 hu)
  · rw [he.lives_of_ne (by omega)]
    exact h.fresh m (by omega)

/-- The next serial number is not in use. -/
theorem asked_not_mem (h : Ledger api used asked past) : asked ∉ used := fun hm =>
  absurd (h.lt_asked hm) (Nat.lt_irrefl _)

/-- An instance is opened, makes an interpreter and equips it with the handle. -/
theorem opened (h : Ledger api used asked past) {handle : ApiHandle} (hapi : api = some handle)
    (he : Records asked [.opened, .created, .equipped handle] effects) :
    Ledger api (asked :: used) (asked + 1) (past ++ effects) := by
  have hnodup := List.nodup_cons.2 ⟨h.asked_not_mem, h.nodup⟩
  refine h.move he hnodup (fun m hne => ?_) (fun _ => ⟨handle, hapi, ?_⟩) (fun hn => ?_)
    (Nat.lt_succ_self _) (Nat.le_succ _)
  · rw [List.mem_cons]
    exact or_iff_right hne
  · rw [h.fresh asked (Nat.le_refl _), List.nil_append]
    exact ⟨[], fun x hx => absurd hx List.not_mem_nil, rfl⟩
  · exact absurd List.mem_cons_self hn

/-- An instance is opened and rejected. -/
theorem rejected (h : Ledger api used asked past)
    (he : Records asked [.opened, .closed] effects) :
    Ledger api used (asked + 1) (past ++ effects) := by
  refine h.move he h.nodup (fun _ _ => Iff.rfl) (fun hn => absurd hn h.asked_not_mem)
    (fun _ => ?_) (Nat.lt_succ_self _) (Nat.le_succ _)
  rw [h.fresh asked (Nat.le_refl _), List.nil_append]
  exact .rejected

/-- An instance in use runs a script. -/
theorem ran (h : Ledger api used asked past) {n : Nat} (hn : n ∈ used) {event : Life}
    (hr : event.isRun = true) (he : Records n [event] effects) :
    Ledger api used asked (past ++ effects) := by
  obtain ⟨handle, hapi, hs⟩ := h.serving n hn
  exact h.move he h.nodup (fun _ _ => Iff.rfl) (fun _ => ⟨handle, hapi, hs.ran hr⟩)
    (fun hnot => absurd hn hnot) (h.lt_asked hn) (Nat.le_refl _)

/-- An instance in use is let go: its interpreter is dropped and it is closed. -/
theorem released {n : Nat} (h : Ledger api (n :: used) asked past)
    (he : Records n [.dropped, .closed] effects) : Ledger api used asked (past ++ effects) := by
  obtain ⟨hnot, hnodup⟩ := List.nodup_cons.1 h.nodup
  obtain ⟨handle, -, hs⟩ := h.serving n List.mem_cons_self
  refine h.move he hnodup (fun m hne => ?_) (fun hn => absurd hn hnot) (fun _ => .released hs)
    (h.lt_asked List.mem_cons_self) (Nat.le_refl _)
  rw [List.mem_cons]
  exact (or_iff_right hne).symm

/-- All instances in use are let go, one after the other. -/
theorem releasedAll {α : Type} (serial : α → Nat) {release : α → List Effect} :
    ∀ {l : List α} {past : List Effect},
      (∀ x ∈ l, Records (serial x) [.dropped, .closed] (release x)) →
      Ledger api (l.map serial) asked past → Ledger api [] asked (past ++ l.flatMap release)
  | [], past, _, h => by
    rw [List.flatMap_nil, List.append_nil]
    exact h
  | x :: rest, past, hr, h => by
    have h' := releasedAll serial (fun y hy => hr y (List.mem_cons_of_mem _ hy))
      (h.released (hr x List.mem_cons_self))
    rw [List.flatMap_cons, ← List.append_assoc]
    exact h'

end Ledger

/-! ## 4. Counting -/

/-- The serial numbers of the instances that the event is noted of, once for each note. -/
def serialsWith (event : Life) (effects : List Effect) : List Nat :=
  effects.filterMap fun
    | .life n _ event' => if event' = event then some n else none
    | _ => none

/-- The instances that were opened and not yet closed. -/
def openInstances (effects : List Effect) : List Nat :=
  (serialsWith .opened effects).filter fun n => n ∉ serialsWith .closed effects

/-- An instance is counted for an event as often as its life has it. -/
theorem count_serialsWith (event : Life) (n : Nat) : ∀ effects : List Effect,
    (serialsWith event effects).count n = (lives n effects).count event
  | [] => rfl
  | x :: rest => by
    have ih := count_serialsWith event n rest
    unfold serialsWith lives at ih ⊢
    cases x with
    | life m label event' =>
      by_cases hm : m = n <;> by_cases he : event' = event <;>
        simp [Effect.life?, hm, he, ih]
    | printed _ _ | reported _ _ | traced _ => exact ih

theorem mem_serialsWith {event : Life} {n : Nat} {effects : List Effect} :
    n ∈ serialsWith event effects ↔ event ∈ lives n effects := by
  rw [← List.count_pos_iff, ← List.count_pos_iff, count_serialsWith]

/-- An instance is open if it was opened and not closed. -/
theorem mem_openInstances {n : Nat} {effects : List Effect} :
    n ∈ openInstances effects ↔ .opened ∈ lives n effects ∧ .closed ∉ lives n effects := by
  unfold openInstances
  rw [List.mem_filter, decide_eq_true_eq, mem_serialsWith, mem_serialsWith]

namespace Ledger

variable {api : Option ApiHandle} {used : List Nat} {asked : Nat} {past : List Effect}

/-- **The instances that were opened and not yet closed are those in use.** -/
theorem openInstances_perm (h : Ledger api used asked past) : (openInstances past).Perm used := by
  have hcount : ∀ n, (lives n past).count .opened ≤ 1 := by
    intro n
    by_cases hn : n ∈ used
    · obtain ⟨handle, -, hs⟩ := h.serving n hn
      exact Nat.le_of_eq hs.count_opened
    · rcases h.others n hn with h0 | ho
      · rw [h0]
        exact Nat.zero_le _
      · exact Nat.le_of_eq ho.count_opened
  have hnodup : (serialsWith .opened past).Nodup :=
    List.nodup_iff_count.2 fun n => (count_serialsWith _ n past).symm ▸ hcount n
  refine (List.perm_ext_iff_of_nodup (hnodup.filter _) h.nodup).2 fun n => ?_
  rw [← openInstances, mem_openInstances]
  constructor
  · rintro ⟨hopened, hclosed⟩
    refine Classical.byContradiction fun hn => ?_
    rcases h.others n hn with h0 | ho
    · rw [h0] at hopened
      cases hopened
    · exact hclosed ho.mem_closed
  · intro hn
    obtain ⟨handle, -, hs⟩ := h.serving n hn
    refine ⟨?_, hs.not_mem_closed⟩
    rw [← List.count_pos_iff, hs.count_opened]
    exact Nat.zero_lt_one

end Ledger

end ScriptHost

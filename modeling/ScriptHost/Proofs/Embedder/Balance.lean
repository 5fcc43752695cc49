import Mathlib.Data.List.Count
import Mathlib.Data.List.Nodup
import ScriptHost.Proofs.Embedder.Frame
import ScriptHost.Proofs.Embedder.Milestones

/-!
# Loaded and unloaded modules in balance

The diagnostics of an embedder tell of each module that is loaded, and of each that is unloaded.
What was loaded for a language and not unloaded is the interpreter that the embedder has for it.

* `surplus`: how many more loadings than unloadings the diagnostics tell of. `balance` is the same
  for milestones.
* `Stays`: a bound that holds after each milestone. `Stays.append` and `stays_of_counts`: where one
  part ends in balance the next one begins, and within a part of one kind only counting matters.
* `step_balance`: each step keeps the balance, between 0 and 1, and up to 2 where it replaces.
* **`surplus_history`**: after every history the surplus of a language is 1 if an interpreter is
  loaded for it and else 0; on the way it is never less than 0 nor more than 2, and it is 2 only
  within a replacement.
-/

namespace ScriptHost

/-! ## 1. Counting -/

/-- How many more loadings than unloadings for the language the diagnostics tell of. -/
def surplus (language : String) (effects : List Effect) : Int :=
  loadings language effects - unloadings language effects

/-- How many more loadings than unloadings for the language there are. -/
def balance (language : String) (ms : List Milestone) : Int :=
  ms.count (.loaded language) - ms.count (.unloaded language)

theorem surplus_eq (language : String) (effects : List Effect) :
    surplus language effects = balance language (milestones effects) := by
  unfold surplus
  rw [loadings_eq, unloadings_eq]
  rfl

theorem balance_append (language : String) (a b : List Milestone) :
    balance language (a ++ b) = balance language a + balance language b := by
  simp only [balance, List.count_append]
  omega

theorem surplus_append (language : String) (a b : List Effect) :
    surplus language (a ++ b) = surplus language a + surplus language b := by
  rw [surplus_eq, milestones_append, balance_append, ← surplus_eq, ← surplus_eq]

section Counts

variable (language : String)

@[simp] theorem count_loaded (languages : List String) :
    (languages.map Milestone.loaded).count (.loaded language) = languages.count language :=
  List.count_map_of_injective _ _ (fun _ _ h => Milestone.loaded.inj h) _

@[simp] theorem count_unloaded (languages : List String) :
    (languages.map Milestone.unloaded).count (.unloaded language) = languages.count language :=
  List.count_map_of_injective _ _ (fun _ _ h => Milestone.unloaded.inj h) _

@[simp] theorem count_loaded_unloaded (languages : List String) :
    (languages.map Milestone.unloaded).count (.loaded language) = 0 := by
  simp [List.count_eq_zero]

@[simp] theorem count_unloaded_loaded (languages : List String) :
    (languages.map Milestone.loaded).count (.unloaded language) = 0 := by
  simp [List.count_eq_zero]

@[simp] theorem count_loaded_ofText (texts : List (UInt32 × String)) :
    (texts.map Milestone.ofText).count (.loaded language) = 0 := by
  simp [List.count_eq_zero, Milestone.ofText]

@[simp] theorem count_unloaded_ofText (texts : List (UInt32 × String)) :
    (texts.map Milestone.ofText).count (.unloaded language) = 0 := by
  simp [List.count_eq_zero, Milestone.ofText]

end Counts

/-! ## 2. Bounds on the way -/

/-- From this balance on, it stays between the bounds after each of the milestones. -/
def Stays (language : String) (lo hi start : Int) (ms : List Milestone) : Prop :=
  ∀ p, p <+: ms → lo ≤ start + balance language p ∧ start + balance language p ≤ hi

variable {language : String} {lo hi start : Int}

theorem Stays.append {a b : List Milestone} (ha : Stays language lo hi start a)
    (hb : Stays language lo hi (start + balance language a) b) :
    Stays language lo hi start (a ++ b) := by
  intro p hp
  rcases Embedder.prefix_append_cases hp with hp | ⟨q, hq, rfl⟩
  · exact ha p hp
  · have h := hb q hq
    rw [balance_append]
    omega

/-- Not even all loadings lead above the upper bound, nor all unloadings below the lower one. -/
theorem stays_of_counts {ms : List Milestone} (hlo : lo ≤ start - ms.count (.unloaded language))
    (hhi : start + ms.count (.loaded language) ≤ hi) : Stays language lo hi start ms := by
  intro p hp
  have hloaded := hp.sublist.count_le (.loaded language)
  have hunloaded := hp.sublist.count_le (.unloaded language)
  unfold balance
  omega

/-- What holds after each milestone holds at each point among the effects. -/
theorem Stays.surplus {effects inside : List Effect}
    (h : Stays language lo hi start (milestones effects)) (hin : inside <+: effects) :
    lo ≤ start + ScriptHost.surplus language inside ∧
      start + ScriptHost.surplus language inside ≤ hi := by
  rw [surplus_eq]
  exact h _ (hin.filterMap Effect.milestone?)

namespace Embedder

variable {e : Embedder} {host : Host}

/-! ## 3. Steps -/

/-- 1 if an interpreter is loaded for the language, else 0. -/
def present (e : Embedder) (language : String) : Int :=
  if language ∈ e.languages then 1 else 0

theorem present_eq (e : Embedder) (language : String) :
    e.present language = e.languages.count language := by
  have hn : e.languages.Nodup := e.active.keys_nodup
  unfold present
  rw [hn.count]
  split <;> rfl

/-- **A reset keeps the balance, between 0 and 1.** -/
theorem reset_balance (hleaving : leaving e.active = e.languages) (conf : Configuration)
    (host : Host) (language : String) :
    Stays language 0 1 (e.present language) (milestones (e.reset conf host).effects) ∧
      e.present language + balance language (milestones (e.reset conf host).effects) =
        (e.reset conf host).answer.2.present language := by
  obtain ⟨givenUp, hinitial, hmilestones⟩ := reset_milestones e conf host
  have hbefore : e.languages.count language ≤ 1 :=
    List.nodup_iff_count_le_one.1 e.active.keys_nodup language
  have hafter : ((e.reset conf host).answer.2.languages ++ givenUp).count language ≤ 1 :=
    List.nodup_iff_count_le_one.1 (conf.interpreters.keys_nodup.sublist hinitial.sublist) language
  rw [hmilestones, hleaving, present_eq, present_eq]
  generalize (e.reset conf host).answer.2.languages = kept at hafter ⊢
  rw [List.count_append] at hafter
  -- each part has milestones of one kind, so counting them is enough
  refine ⟨Stays.append (stays_of_counts ?_ ?_) (Stays.append (stays_of_counts ?_ ?_)
    (Stays.append (stays_of_counts ?_ ?_) (stays_of_counts ?_ ?_))), ?_⟩ <;>
    simp only [balance, List.count_append, count_loaded, count_unloaded, count_loaded_unloaded,
      count_unloaded_loaded, count_loaded_ofText, count_unloaded_ofText] <;>
    omega

theorem present_le (e : Embedder) (language : String) :
    0 ≤ e.present language ∧ e.present language ≤ 1 := by
  unfold present
  split <;> decide

/-- What is no milestone keeps the balance where the languages stay the same. -/
theorem balance_of_nil {next : Embedder} {ms : List Milestone} (hms : ms = [])
    (hlanguages : next.languages = e.languages) (language : String) :
    Stays language 0 1 (e.present language) ms ∧
      e.present language + balance language ms = next.present language := by
  subst hms
  have hpresent := e.present_le language
  refine ⟨stays_of_counts ?_ ?_, ?_⟩
  · simpa using hpresent.1
  · simpa using hpresent.2
  · simp [balance, present, hlanguages]

/-- The step replaces the interpreter of the language. -/
def Replaces (e : Embedder) (host : Host) (language : String) (s : Step) : Prop :=
  ∃ entry, s = .addInterpreter entry ∧ entry.language = language ∧ language ∈ e.languages ∧
    (e.addInterpreter host entry).answer.1 = .ok ()

/-- **Adding an interpreter keeps the balance**, between 0 and 1, or up to 2 where it replaces. -/
theorem addInterpreter_balance (h : e.Consistent) (host : Host) (entry : InterpreterEntry)
    (language : String) :
    (Stays language 0 1 (e.present language) (milestones (e.addInterpreter host entry).effects) ∨
      Stays language 0 2 (e.present language) (milestones (e.addInterpreter host entry).effects) ∧
        e.Replaces host language (.addInterpreter entry)) ∧
      e.present language + balance language (milestones (e.addInterpreter host entry).effects) =
        (e.addInterpreter host entry).answer.2.present language := by
  rcases addInterpreter_milestones e host entry with ⟨hm, he⟩ | ⟨hm, hok, hlanguages⟩
  · exact (balance_of_nil hm (congrArg languages he) language).imp_left .inl
  · have hpresent := e.present_le language
    have hnext : (e.addInterpreter host entry).answer.2.present language =
        if language = entry.language ∨ language ∈ e.languages then 1 else 0 := by
      simp only [present, hlanguages]
    rw [hm, h.replaced_eq, hnext]
    by_cases hl : entry.language = language
    · subst hl
      by_cases hin : entry.language ∈ e.languages
      · refine ⟨.inr ⟨stays_of_counts ?_ ?_, entry, rfl, rfl, hin, hok⟩, ?_⟩ <;>
          simp [hin, present, balance]
      · refine ⟨.inl (stays_of_counts ?_ ?_), ?_⟩ <;> simp [hin, present, balance]
    · have hother : (if entry.language ∈ e.languages then [entry.language] else []).count
          language = 0 := by
        split <;> simp [hl]
      refine ⟨.inl (stays_of_counts ?_ ?_), ?_⟩
      · simpa [hother] using hpresent.1
      · simpa [hl] using hpresent.2
      · simp [balance, hl, hother, present, Ne.symm hl]

theorem execute_languages (e : Embedder) (host : Host) (id : UInt32) (params : List String) :
    (e.execute host id params).answer.2.languages = e.languages := by
  have hruns := execute_runsOnly e host id params
  refine Catalog.keys_eq fun l => ?_
  have hl := congrArg Option.isSome (hruns.instances l)
  rw [Option.isSome_map, Option.isSome_map] at hl
  rw [Catalog.mem_keys, Catalog.mem_keys, ← Option.isSome_iff_exists, ← Option.isSome_iff_exists,
    hl]

/-- **Each step keeps the balance**, between 0 and 1, or up to 2 where it replaces. -/
theorem step_balance (h : e.Consistent) (host : Host) (s : Step) (language : String) :
    (Stays language 0 1 (e.present language) (milestones (e.step host s).effects) ∨
      Stays language 0 2 (e.present language) (milestones (e.step host s).effects) ∧
        e.Replaces host language s) ∧
      e.present language + balance language (milestones (e.step host s).effects) =
        (e.step host s).answer.2.present language := by
  cases s with
  | reset conf => exact (reset_balance h.leaving_eq conf host language).imp_left .inl
  | resetSame => exact (reset_balance h.leaving_eq e.configuration host language).imp_left .inl
  | addInterpreter entry => exact addInterpreter_balance h host entry language
  | addScript script =>
    have hlanguages := congrArg Catalog.keys (quiet_addScript e host script).active
    exact (balance_of_nil (addScript_milestones e host script) hlanguages language).imp_left .inl
  | removeScript id =>
    have hlanguages := congrArg Catalog.keys (quiet_removeScript e host id).active
    exact (balance_of_nil (removeScript_milestones e host id) hlanguages language).imp_left .inl
  | execute id params =>
    have hlanguages := execute_languages e host id params
    exact (balance_of_nil (execute_milestones e host id params) hlanguages language).imp_left .inl
  | setObserver _ | validate | failNext _ | write _ _ | delete _ =>
    exact (balance_of_nil milestones_nil (Eq.refl e.languages) language).imp_left .inl

/-! ## 4. Histories -/

/-- After every history the surplus tells for which languages an interpreter is loaded. -/
theorem history_surplus (conf : Configuration) (observer : Option Observer) (host : Host)
    (steps : List Step) (language : String) :
    surplus language (history conf observer host steps).effects =
      (history conf observer host steps).answer.present language := by
  refine (history_keeps (P := fun e _ past => e.Consistent ∧
    surplus language past = e.present language) conf observer host ⟨?_, ?_⟩ ?_ steps).2
  · exact reset_consistent { observer } conf host
  · obtain ⟨-, hbalance⟩ := reset_balance (e := { observer }) rfl conf host language
    rw [surplus_eq]
    exact (Int.zero_add _).symm.trans hbalance
  · intro e host s past ⟨hc, hpast⟩
    obtain ⟨-, hbalance⟩ := step_balance hc host s language
    refine ⟨step_consistent hc host s, ?_⟩
    rw [surplus_append, hpast, surplus_eq]
    exact hbalance

/-- **The diagnostics of loaded and unloaded modules are in balance.** After every history the
surplus of a language is 1 if an interpreter is loaded for it, else 0. At every point on the way it
lies between 0 and 2, and it is 2 only within the replacement of that language's interpreter. A
module that is rejected leaves neither of the two. -/
theorem surplus_history (conf : Configuration) (observer : Option Observer) (host : Host)
    (steps : List Step) (language : String) :
    (surplus language (history conf observer host steps).effects =
      if language ∈ (history conf observer host steps).answer.languages then 1 else 0) ∧
    (∀ past, past <+: (history conf observer host steps).effects →
      0 ≤ surplus language past ∧ surplus language past ≤ 2 ∧
      (surplus language past = 2 → ∃ earlier s later inside, steps = earlier ++ s :: later ∧
        past = (history conf observer host earlier).effects ++ inside ∧
        inside <+: ((history conf observer host earlier).answer.step
          (history conf observer host earlier).host s).effects ∧
        (history conf observer host earlier).answer.Replaces
          (history conf observer host earlier).host language s)) ∧
    ∀ entry api held before err, (Active.load entry api held before).answer = .error err →
      loadings language (Active.load entry api held before).effects = 0 ∧
        unloadings language (Active.load entry api held before).effects = 0 := by
  refine ⟨history_surplus conf observer host steps language, fun past hpast => ?_,
    fun entry api held before err herr => ?_⟩
  · rcases history_reaches conf observer host steps hpast with
      hin | ⟨earlier, s, later, inside, hsteps, hin, rfl⟩
    · obtain ⟨hstays, -⟩ := reset_balance (e := { observer }) rfl conf host language
      have hstart : Embedder.present { observer } language = 0 := rfl
      have hbounds := hstays.surplus hin
      rw [hstart] at hbounds
      omega
    · have hc := history_consistent conf observer host earlier
      have hbefore := history_surplus conf observer host earlier language
      rw [surplus_append, hbefore]
      rcases (step_balance hc (history conf observer host earlier).host s language).1 with
        hstays | ⟨hstays, hreplaces⟩
      · have hbounds := hstays.surplus hin
        omega
      · have hbounds := hstays.surplus hin
        exact ⟨hbounds.1, hbounds.2, fun _ =>
          ⟨earlier, s, later, inside, hsteps, rfl, hin, hreplaces⟩⟩
  · have hm := (Active.load_loading entry api held before).milestones
    rw [herr] at hm
    have hnone : milestones (Active.load entry api held before).effects = [] := hm
    rw [loadings_eq, unloadings_eq, hnone]
    exact ⟨rfl, rfl⟩

/-- While a module takes the place of another one both are loaded, afterwards one of them is. Then a
module is rejected that is for another language. -/
theorem surplus_recorder :
    let module : Path := ⟨[0x61, 0x2E, 0x73, 0x6F]⟩
    let other : Path := ⟨[0x62, 0x2E, 0x73, 0x6F]⟩
    let r : Registry :=
      ⟨[(module, .plugin ⟨"A", .recorder module⟩), (other, .plugin ⟨"A", .recorder other⟩)]⟩
    let host : Host := { files := FileTree.empty [], backend := r.backend }
    let conf := Configuration.ofParts (some (.other "h")) [⟨"A", module⟩] []
    let steps : List Step := [.addInterpreter ⟨"A", other⟩, .addInterpreter ⟨"B", module⟩]
    let t := history conf none host steps
    let past := t.effects.take 7
    let rejected := Active.load ⟨"B", module⟩ (.other "h") [] host
    (past <+: t.effects ∧ surplus "A" past = 2 ∧
      rejected.answer = .error (.otherLanguage module "B" "A")) ∧
      surplus "A" t.effects = 1 ∧
      (∃ earlier s later, steps = earlier ++ s :: later ∧
        (history conf none host earlier).answer.Replaces
          (history conf none host earlier).host "A" s) ∧
      loadings "B" rejected.effects = 0 := by
  intro module other r host conf steps t past rejected
  have hpast : past <+: t.effects := List.take_prefix 7 t.effects
  have htwo : surplus "A" past = 2 := by decide +kernel
  have hloaded : "A" ∈ t.answer.languages := by decide +kernel
  have hrejected : rejected.answer = .error (.otherLanguage module "B" "A") := by decide +kernel
  obtain ⟨hlast, hway, -⟩ := surplus_history conf none host steps "A"
  obtain ⟨-, -, hrejects⟩ := surplus_history conf none host steps "B"
  obtain ⟨earlier, s, later, -, hsteps, -, -, hreplaces⟩ := (hway past hpast).2.2 htwo
  exact ⟨⟨hpast, htwo, hrejected⟩, hlast.trans (if_pos hloaded),
    ⟨earlier, s, later, hsteps, hreplaces⟩, (hrejects _ _ _ _ _ hrejected).1⟩

end Embedder

end ScriptHost

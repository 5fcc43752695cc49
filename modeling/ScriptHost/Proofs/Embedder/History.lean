import ScriptHost.Embedder.Step

/-!
# Histories of an embedder

A history begins with the construction of an embedder and goes on with any steps: its operations,
and changes of the files between them.

* `Embedder.run`: what a list of steps comes to, with all effects in order.
* `Embedder.history`: the same from the construction on. What holds after every history holds after
  every operation, since each operation ends a history.
* `Embedder.moments`: the same run told step by step, each with the embedder and the host it met.
* `Embedder.history_keeps`: **what the construction establishes and each step keeps, together with
  the effects so far, holds after every history.**
* `Embedder.history_reaches`: every point among the effects of a history lies within the construction
  or within one of the steps.
-/

namespace ScriptHost.Embedder

/-! ## 1. Runs -/

/-- What the steps come to, one after the other. -/
def run (e : Embedder) (host : Host) : List Step → Turn Embedder
  | [] => ⟨e, host, []⟩
  | s :: rest =>
    let t := e.step host s
    (t.answer.2.run t.host rest).after t.effects

/-- What the construction and the steps after it come to. -/
def history (conf : Configuration) (observer : Option Observer) (host : Host)
    (steps : List Step) : Turn Embedder :=
  let t := Embedder.new conf observer host
  (t.answer.run t.host steps).after t.effects

/-- What each step keeps of embedder, host and effects so far holds after any steps. -/
theorem run_keeps {P : Embedder → Host → List Effect → Prop}
    (hstep : ∀ e host s past, P e host past →
      P (e.step host s).answer.2 (e.step host s).host (past ++ (e.step host s).effects)) :
    ∀ (steps : List Step) (e : Embedder) (host : Host) (past : List Effect), P e host past →
      P (e.run host steps).answer (e.run host steps).host (past ++ (e.run host steps).effects)
  | [], e, host, past, h => by
    simp only [run, List.append_nil]
    exact h
  | s :: rest, e, host, past, h => by
    have ih := run_keeps hstep rest _ _ _ (hstep e host s past h)
    simp only [run, Turn.after]
    rw [← List.append_assoc]
    exact ih

/-- **What the construction establishes and each step keeps holds after every history.** -/
theorem history_keeps {P : Embedder → Host → List Effect → Prop} (conf : Configuration)
    (observer : Option Observer) (host : Host)
    (hnew : P (Embedder.new conf observer host).answer (Embedder.new conf observer host).host
      (Embedder.new conf observer host).effects)
    (hstep : ∀ e host s past, P e host past →
      P (e.step host s).answer.2 (e.step host s).host (past ++ (e.step host s).effects))
    (steps : List Step) :
    P (history conf observer host steps).answer (history conf observer host steps).host
      (history conf observer host steps).effects :=
  run_keeps hstep steps _ _ _ hnew

/-! ## 2. Moments -/

/-- A step with the embedder and the host that it meets. -/
structure Moment where
  embedder : Embedder
  host : Host
  step : Step

/-- What the step comes to. -/
def Moment.turn (m : Moment) : Turn (Answer × Embedder) := m.embedder.step m.host m.step

/-- The moments of the steps. -/
def moments (e : Embedder) (host : Host) : List Step → List Moment
  | [] => []
  | s :: rest =>
    ⟨e, host, s⟩ :: moments (e.step host s).answer.2 (e.step host s).host rest

/-- The moments of a history. The construction is a reset of an embedder that holds nothing. -/
def historyMoments (conf : Configuration) (observer : Option Observer) (host : Host)
    (steps : List Step) : List Moment :=
  ⟨{ observer }, host, .reset conf⟩ ::
    moments (Embedder.new conf observer host).answer (Embedder.new conf observer host).host steps

/-- The latest moment with the property. -/
def latest (p : Moment → Bool) (past : List Moment) : Option Moment := past.reverse.find? p

theorem latest_concat (p : Moment → Bool) (past : List Moment) (m : Moment) :
    latest p (past ++ [m]) = if p m = true then some m else latest p past := by
  unfold latest
  rw [List.reverse_append, List.reverse_singleton, List.singleton_append, List.find?_cons]
  cases p m <;> rfl

/-- What each step keeps of embedder, host and moments so far holds after any steps. -/
theorem run_keeps_moments {P : Embedder → Host → List Moment → Prop}
    (hstep : ∀ e host s past, P e host past →
      P (e.step host s).answer.2 (e.step host s).host (past ++ [⟨e, host, s⟩])) :
    ∀ (steps : List Step) (e : Embedder) (host : Host) (past : List Moment), P e host past →
      P (e.run host steps).answer (e.run host steps).host (past ++ moments e host steps)
  | [], e, host, past, h => by
    simp only [run, moments, List.append_nil]
    exact h
  | s :: rest, e, host, past, h => by
    have ih := run_keeps_moments hstep rest _ _ _ (hstep e host s past h)
    rw [List.append_assoc] at ih
    exact ih

/-- **What the construction establishes and each step keeps, with the moments so far, holds after
every history.** -/
theorem history_keeps_moments {P : Embedder → Host → List Moment → Prop} (conf : Configuration)
    (observer : Option Observer) (host : Host)
    (hnew : P (Embedder.new conf observer host).answer (Embedder.new conf observer host).host
      [⟨{ observer }, host, .reset conf⟩])
    (hstep : ∀ e host s past, P e host past →
      P (e.step host s).answer.2 (e.step host s).host (past ++ [⟨e, host, s⟩]))
    (steps : List Step) :
    P (history conf observer host steps).answer (history conf observer host steps).host
      (historyMoments conf observer host steps) :=
  run_keeps_moments hstep steps _ _ _ hnew

/-! ## 3. Points within a history -/

/-- What comes first of two lists comes first of the one, or is the one and what comes first of the
other. -/
theorem prefix_append_cases {α : Type} {p a b : List α} (h : p <+: a ++ b) :
    p <+: a ∨ ∃ q, q <+: b ∧ p = a ++ q := by
  obtain ⟨r, h⟩ := h
  rcases List.append_eq_append_iff.1 h with ⟨a', ha, -⟩ | ⟨q, hp, hb⟩
  · exact .inl ⟨a', ha.symm⟩
  · exact .inr ⟨q, ⟨r, hb.symm⟩, hp⟩

theorem run_reaches (steps : List Step) (e : Embedder) (host : Host) {past : List Effect}
    (h : past <+: (e.run host steps).effects) : past = [] ∨
      ∃ earlier s later inside, steps = earlier ++ s :: later ∧
        inside <+: ((e.run host earlier).answer.step (e.run host earlier).host s).effects ∧
        past = (e.run host earlier).effects ++ inside := by
  induction steps generalizing e host past with
  | nil => exact .inl (List.prefix_nil.1 h)
  | cons s rest ih =>
    rcases prefix_append_cases h with h | ⟨q, hq, rfl⟩
    · exact .inr ⟨[], s, rest, past, rfl, h, rfl⟩
    · rcases ih _ _ hq with rfl | ⟨earlier, s', later, inside, rfl, hin, rfl⟩
      · exact .inr ⟨[], s, rest, (e.step host s).effects, rfl, List.prefix_refl _,
          List.append_nil _⟩
      · exact .inr ⟨s :: earlier, s', later, inside, rfl, hin, (List.append_assoc _ _ _).symm⟩

/-- **Every point among the effects of a history lies within the construction or within one of the
steps**, behind the effects of the history that ended there. -/
theorem history_reaches (conf : Configuration) (observer : Option Observer) (host : Host)
    (steps : List Step) {past : List Effect}
    (h : past <+: (history conf observer host steps).effects) :
    past <+: (Embedder.new conf observer host).effects ∨
      ∃ earlier s later inside, steps = earlier ++ s :: later ∧
        inside <+: ((history conf observer host earlier).answer.step
          (history conf observer host earlier).host s).effects ∧
        past = (history conf observer host earlier).effects ++ inside := by
  rcases prefix_append_cases h with h | ⟨q, hq, rfl⟩
  · exact .inl h
  · rcases run_reaches steps _ _ hq with rfl | ⟨earlier, s, later, inside, hsteps, hin, rfl⟩
    · rw [List.append_nil]
      exact .inl (List.prefix_refl _)
    · exact .inr ⟨earlier, s, later, inside, hsteps, hin, (List.append_assoc _ _ _).symm⟩

end ScriptHost.Embedder

import Mathlib.Logic.Relation
import ScriptHost.Proofs.Path.Spelling

/-!
# Respellings of a path

Alike paths are spelled differently in three ways only.

* `Respelling`: a slash is written twice, a `.` is put between two slashes, a slash is put at the
  end. `Respelling.alike`: **the components stay the same.**
* `gen_plain`: every path is brought to the spelling that has nothing idle in it, and alike paths
  to the same one.
* **`alike_iff_gen`**: paths are alike exactly if such changes lead from one to the other.
-/

namespace ScriptHost.Path

/-! ## 1. Respellings -/

/-- The second path is the first one with a slash written twice, with a `.` put between two slashes,
or with a slash at the end. Behind the empty path a slash would be the root. -/
inductive Respelling : Path → Path → Prop where
  | slash (a b : List UInt8) : Respelling ⟨a ++ slash :: b⟩ ⟨a ++ slash :: slash :: b⟩
  | dot (a b : List UInt8) : Respelling ⟨a ++ slash :: b⟩ ⟨a ++ slash :: (dot ++ slash :: b)⟩
  | trailing {a : List UInt8} (h : a ≠ []) : Respelling ⟨a⟩ ⟨a ++ [slash]⟩

/-- Paths that begin with the same bytes, and then go on with a slash or end, begin at the same
place. -/
theorem beginning_eq {p q : Path} (habsolute : p.isAbsolute = q.isAbsolute)
    (hfirst : p.segments.head? = q.segments.head?) : p.beginning = q.beginning := by
  rw [beginning, beginning, habsolute, hfirst]

theorem components_eq_of_segments {p q : Path} (habsolute : p.isAbsolute = q.isAbsolute)
    (hfirst : p.segments.head? = q.segments.head?) (hsteps : Component.ofSegments p.segments =
      Component.ofSegments q.segments) : p.components = q.components := by
  rw [components_eq, components_eq, beginning_eq habsolute hfirst, hsteps]

theorem ofSegments_append (a b : List (List UInt8)) :
    Component.ofSegments (a ++ b) = Component.ofSegments a ++ Component.ofSegments b :=
  List.filterMap_append

/-- Something idle names no step. -/
theorem ofSegments_idle {segment : List UInt8} (h : isIdle segment = true) :
    Component.ofSegments [segment] = [] := by
  simp [Component.ofSegments, Component.ofSegment?, h]

theorem segments_append (a b : List UInt8) : (Path.mk (a ++ slash :: b)).segments =
    (Path.mk a).segments ++ (Path.mk b).segments := Text.split_append slash b a

/-- What follows a slash does not change the first segment. -/
theorem head?_segments_append (a b : List UInt8) :
    (Path.mk (a ++ slash :: b)).segments.head? = (Path.mk a).segments.head? := by
  rw [segments_append]
  cases h : (Path.mk a).segments with
  | nil => exact absurd h (Text.split_ne_nil _ _)
  | cons part parts => rfl

/-- **A segment that is idle can be put behind a slash.** -/
theorem components_insert {segment : List UInt8} (hidle : isIdle segment = true)
    (hslash : slash ∉ segment) (a b : List UInt8) :
    (Path.mk (a ++ slash :: (segment ++ slash :: b))).components =
      (Path.mk (a ++ slash :: b)).components := by
  have hsegment : (Path.mk segment).segments = [segment] := Text.split_of_not_mem hslash
  refine components_eq_of_segments ?_ ?_ ?_
  · cases a <;> rfl
  · rw [head?_segments_append, head?_segments_append]
  · rw [segments_append, segments_append, segments_append, hsegment, ofSegments_append,
      ofSegments_append, ofSegments_append, ofSegments_idle hidle, List.nil_append]

/-- **A respelled path names the same steps.** -/
theorem Respelling.alike {p q : Path} (h : Respelling p q) : p.alike q = true := by
  rw [alike_iff]
  cases h with
  | slash a b =>
    have hempty : isIdle [] = true := rfl
    exact (components_insert hempty (by decide) a b).symm
  | dot a b =>
    have hdot : isIdle Path.dot = true := rfl
    exact (components_insert hdot (by decide) a b).symm
  | @trailing a h =>
    refine components_eq_of_segments ?_ ?_ ?_
    · cases a with
      | nil => exact absurd rfl h
      | cons b r => rfl
    · rw [head?_segments_append]
    · have hempty : (Path.mk []).segments = [[]] := rfl
      rw [segments_append, hempty, ofSegments_append, ofSegments_idle rfl, List.append_nil]

theorem alike_of_gen {p q : Path} (h : Relation.EqvGen Respelling p q) : p.alike q = true := by
  rw [alike_iff]
  induction h with
  | rel p q h => exact alike_iff.1 h.alike
  | refl p => rfl
  | symm p q _ ih => exact ih.symm
  | trans p q r _ _ ih ih' => exact ih.trans ih'

/-! ## 2. Plain spellings -/

/-- A segment that is idle is left out between two slashes. -/
theorem gen_inner {segment : List UInt8} (h : isIdle segment = true) (a b : List UInt8) :
    Relation.EqvGen Respelling ⟨a ++ slash :: (segment ++ slash :: b)⟩ ⟨a ++ slash :: b⟩ := by
  rcases isIdle_iff.1 h with rfl | rfl
  · exact .symm _ _ (.rel _ _ (.slash a b))
  · exact .symm _ _ (.rel _ _ (.dot a b))

/-- A segment that is idle is left out at the end. -/
theorem gen_last {segment a : List UInt8} (h : isIdle segment = true) (ha : a ≠ []) :
    Relation.EqvGen Respelling ⟨a ++ slash :: segment⟩ ⟨a⟩ := by
  have hslash : Relation.EqvGen Respelling ⟨a ++ [slash]⟩ ⟨a⟩ :=
    .symm _ _ (.rel _ _ (.trailing ha))
  rcases isIdle_iff.1 h with rfl | rfl
  · exact hslash
  · -- a slash behind the dot, so that the dot stands between two
    have hdot : Relation.EqvGen Respelling ⟨a ++ slash :: dot⟩ ⟨(a ++ slash :: dot) ++ [slash]⟩ :=
      .rel _ _ (.trailing (by simp))
    rw [List.append_assoc] at hdot
    exact .trans _ _ _ hdot (.trans _ _ _ (gen_inner rfl a []) hslash)

/-- Behind a beginning that is not empty all that is idle is left out. -/
theorem gen_rest (rest : List (List UInt8)) : ∀ {a : List UInt8}, a ≠ [] →
    Relation.EqvGen Respelling ⟨a ++ rest.flatMap (slash :: ·)⟩
      ⟨a ++ (rest.filter (!isIdle ·)).flatMap (slash :: ·)⟩ := by
  induction rest with
  | nil =>
    intro a _
    exact .refl _
  | cons segment rest ih =>
    intro a ha
    rw [List.flatMap_cons]
    cases hidle : isIdle segment with
    | false =>
      have h := ih (a := a ++ slash :: segment) (by simp)
      simpa [hidle] using h
    | true =>
      have h : Relation.EqvGen Respelling ⟨a ++ (slash :: segment ++ rest.flatMap (slash :: ·))⟩
          ⟨a ++ rest.flatMap (slash :: ·)⟩ := by
        cases rest with
        | nil => simpa using gen_last hidle ha
        | cons next rest => simpa using gen_inner hidle a (next ++ rest.flatMap (slash :: ·))
      have h' := ih ha
      rw [List.filter_cons_of_neg (by simp [hidle])]
      exact .trans _ _ _ h h'

/-- Behind the root all that is idle is left out. -/
theorem gen_root (segments : List (List UInt8)) :
    Relation.EqvGen Respelling ⟨slash :: Text.joined slash segments⟩
      ⟨slash :: Text.joined slash (segments.filter (!isIdle ·))⟩ := by
  induction segments with
  | nil => exact .refl _
  | cons segment rest ih =>
    cases hidle : isIdle segment with
    | false =>
      have h := gen_rest rest (a := slash :: segment) (List.cons_ne_nil _ _)
      rw [List.filter_cons_of_pos (by simp [hidle]), Text.joined_cons, Text.joined_cons]
      exact h
    | true =>
      rw [List.filter_cons_of_neg (by simp [hidle])]
      refine .trans _ _ _ ?_ ih
      cases rest with
      | cons next rest => exact gen_inner hidle [] (Text.joined slash (next :: rest))
      | nil =>
        rcases isIdle_iff.1 hidle with rfl | rfl
        · exact .refl _
        · have hdot : Relation.EqvGen Respelling ⟨slash :: dot⟩ ⟨slash :: dot ++ [slash]⟩ :=
            .rel _ _ (.trailing (List.cons_ne_nil _ _))
          exact .trans _ _ _ hdot (gen_inner rfl [] [])

/-- The spelling of the path without anything idle. -/
def plain (p : Path) : Path :=
  if p.isAbsolute then ⟨slash :: Text.joined slash p.steps⟩
  else if p.segments.head? = some dot then ⟨dot ++ p.steps.flatMap (slash :: ·)⟩
  else ⟨Text.joined slash p.steps⟩

/-- **Every path is brought to the spelling that has nothing idle in it.** -/
theorem gen_plain (p : Path) : Relation.EqvGen Respelling p p.plain := by
  obtain ⟨bytes⟩ := p
  cases bytes with
  | nil => exact .refl _
  | cons b r =>
    by_cases hb : b = slash
    · subst hb
      have hplain : (Path.mk (slash :: r)).plain = ⟨slash :: Text.joined slash
          ((Text.split slash r).filter (!isIdle ·))⟩ := by
        have hsegments : (Path.mk (slash :: r)).segments = [] :: Text.split slash r := by
          rw [segments, Text.split, if_pos rfl]
        rw [plain, steps, hsegments]
        rfl
      have hroot := gen_root (Text.split slash r)
      rw [Text.joined_split] at hroot
      rw [hplain]
      exact hroot
    · have habsolute : (Path.mk (b :: r)).isAbsolute = false := by simpa [isAbsolute] using hb
      obtain ⟨part, rest, hsegments⟩ := segments_eq_cons (r := r) hb
      have hbytes : b :: r = (b :: part) ++ rest.flatMap (slash :: ·) := by
        rw [← Text.joined_cons, ← hsegments]
        exact (Text.joined_split slash (b :: r)).symm
      have hrest := gen_rest rest (List.cons_ne_nil b part)
      rw [← hbytes] at hrest
      rw [plain, steps, habsolute, hsegments, List.head?_cons]
      by_cases hdot : b :: part = dot
      · rw [hdot] at hrest ⊢
        exact hrest
      · have hidle : isIdle (b :: part) = false := by simpa [isIdle] using hdot
        rw [List.filter_cons_of_pos (by simp [hidle]), Text.joined_cons]
        simpa [hdot] using hrest

/-! ## 3. Alike paths -/

/-- A path names the `.` at its beginning if it is a relative one that has one. -/
theorem current_mem_components {p : Path} : .current ∈ p.components ↔
    p.isAbsolute = false ∧ p.segments.head? = some dot := by
  rw [components_eq, List.mem_append, beginning]
  have hsteps : .current ∉ Component.ofSegments p.segments := fun h =>
    (not_mem_ofSegments h).2 rfl
  cases p.isAbsolute with
  | true => simp [hsteps]
  | false =>
    by_cases hdot : p.segments.head? = some dot
    · simp [hdot]
    · simp [hdot, hsteps]

/-- Alike paths have the same spelling without anything idle. -/
theorem plain_eq_of_alike {p q : Path} (h : p.alike q = true) : p.plain = q.plain := by
  have habsolute := isAbsolute_eq_of_alike h
  have hcurrent : (p.isAbsolute = false ∧ p.segments.head? = some dot) ↔
      q.isAbsolute = false ∧ q.segments.head? = some dot := by
    rw [← current_mem_components, alike_iff.1 h, current_mem_components]
  rw [plain, plain, steps_eq_of_alike h, habsolute]
  rw [habsolute] at hcurrent
  cases hq : q.isAbsolute with
  | true => rfl
  | false =>
    have hdot : p.segments.head? = some dot ↔ q.segments.head? = some dot := by
      simpa [hq] using hcurrent
    simp only [hdot]

/-- **Paths are alike exactly if respellings lead from one to the other.** -/
theorem alike_iff_gen {p q : Path} :
    p.alike q = true ↔ Relation.EqvGen Respelling p q := by
  refine ⟨fun h => ?_, alike_of_gen⟩
  have hp := gen_plain p
  rw [plain_eq_of_alike h] at hp
  exact .trans _ _ _ hp (.symm _ _ (gen_plain q))

/-- A `.` at the beginning is named, and `..` takes nothing back. -/
example : (ofString "./a").alike (ofString "a") = false ∧
    (ofString "a/../b").alike (ofString "b") = false := by
  decide +kernel

end ScriptHost.Path

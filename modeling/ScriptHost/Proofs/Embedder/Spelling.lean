import ScriptHost.Proofs.Embedder.Likeness
import ScriptHost.Proofs.Embedder.Replacement
import ScriptHost.Proofs.Path.Respelling

/-!
# Spellings of a module path

However the path of a module is spelled, it is taken for the same module.

* `Registry.after`: the registry after some registrations. `find?_after_eq_some_iff`: **the latest
  registration under an alike path counts.**
* `SameRegistration`: two paths reach the same registration, or both reach none.
* `AlikeAdditions`: two additions succeed with the same instance, change nothing, or are refused for
  the same reason. `addInterpreter_alike`: **additions by alike paths do.**
* **`respelled_module`**: all this for alike paths, over every registry and after every history.
-/

namespace ScriptHost

variable {p q : Path}

/-! ## 1. Registrations -/

namespace Registry

/-- The registry after these registrations, one after the other. -/
def after (registered : List (Path × Registered)) : Registry :=
  registered.foldl (fun r x => r.register x.1 x.2) empty

theorem registrations_after (registered : List (Path × Registered)) :
    (after registered).registrations = registered.reverse := by
  have h : ∀ (l : List (Path × Registered)) (r : Registry),
      (l.foldl (fun r x => r.register x.1 x.2) r).registrations = l.reverse ++ r.registrations := by
    intro l
    induction l with
    | nil =>
      intro r
      rfl
    | cons x l ih =>
      intro r
      rw [List.foldl_cons, ih, List.reverse_cons, List.append_assoc]
      rfl
  rw [after, h]
  exact List.append_nil _

variable {registered : List (Path × Registered)} {what : Registered}

/-- **The latest registration under an alike path counts.** -/
theorem find?_after_eq_some_iff : (after registered).find? p = some what ↔
    ∃ before path later, registered = before ++ (path, what) :: later ∧ path.alike p = true ∧
      ∀ x ∈ later, x.1.alike p = false := by
  rw [find?, registrations_after, Option.map_eq_some_iff]
  constructor
  · rintro ⟨⟨path, what⟩, hfind, rfl⟩
    obtain ⟨halike, later, before, hreverse, hlater⟩ := List.find?_eq_some_iff_append.1 hfind
    refine ⟨before.reverse, path, later.reverse, ?_, halike, fun x hx => ?_⟩
    · rw [← List.reverse_reverse registered, hreverse]
      simp
    · simpa using hlater x (List.mem_reverse.1 hx)
  · rintro ⟨before, path, later, rfl, halike, hlater⟩
    refine ⟨(path, what), List.find?_eq_some_iff_append.2 ⟨halike, later.reverse, before.reverse,
      by simp, fun x hx => ?_⟩, rfl⟩
    simpa using hlater x (List.mem_reverse.1 hx)

theorem find?_after_eq_none_iff : (after registered).find? p = none ↔
    ∀ x ∈ registered, x.1.alike p = false := by
  rw [find?, registrations_after, Option.map_eq_none_iff, List.find?_eq_none]
  simp

end Registry

/-- What the registration answers to an opening. -/
def Registered.answer : Registered → Except OpenError FoundModule
  | .plugin served => .ok ⟨served, none⟩
  | .foreign => .error (.noInterface "no plugin declaration")

/-- What two openings answer that reach the same registration, the latest one that either could
reach, or none. -/
inductive SameRegistration (registered : List (Path × Registered)) (p q : Path) :
    Except OpenError FoundModule → Except OpenError FoundModule → Prop where
  | reached {before later : List (Path × Registered)} {path : Path} {what : Registered}
      (among : registered = before ++ (path, what) :: later)
      (alike : path.alike p = true ∧ path.alike q = true)
      (latest : ∀ x ∈ later, x.1.alike p = false ∧ x.1.alike q = false) :
      SameRegistration registered p q what.answer what.answer
  | unreached (none : ∀ x ∈ registered, x.1.alike p = false ∧ x.1.alike q = false)
      (said said' : String) :
      SameRegistration registered p q (.error (.cannotOpen said)) (.error (.cannotOpen said'))

theorem Path.alike_eq_of_alike (h : p.alike q = true) (path : Path) :
    path.alike p = path.alike q := by
  rw [Path.alike, Path.alike, alike_iff.1 h]

/-- **Openings by alike paths reach the same registration**, or none. -/
theorem Registry.opening_after (h : p.alike q = true) (registered : List (Path × Registered)) :
    SameRegistration registered p q ((after registered).opening p)
      ((after registered).opening q) := by
  have hsame := find?_eq_of_alike (after registered) h
  have hboth := Path.alike_eq_of_alike h
  cases hfind : (after registered).find? p with
  | none =>
    rw [opening, opening, ← hsame, hfind]
    refine .unreached (fun x hx => ?_) _ _
    have hx := find?_after_eq_none_iff.1 hfind x hx
    exact ⟨hx, hboth x.1 ▸ hx⟩
  | some what =>
    obtain ⟨before, path, later, hregistered, halike, hlatest⟩ := find?_after_eq_some_iff.1 hfind
    have hanswer : SameRegistration registered p q what.answer what.answer :=
      .reached hregistered ⟨halike, hboth path ▸ halike⟩ fun x hx =>
        ⟨hlatest x hx, hboth x.1 ▸ hlatest x hx⟩
    rw [opening, opening, ← hsame, hfind]
    cases what <;> exact hanswer

/-! ## 2. Additions -/

/-- The same reason not to add an interpreter. -/
inductive EmbedderError.AlikeRefusal : EmbedderError → EmbedderError → Prop where
  | notLoadable {p q : Path} (path : p.alike q = true) :
      AlikeRefusal (.notLoadable p) (.notLoadable q)
  | missingApi : AlikeRefusal .missingApi .missingApi
  | interpreterNotAdded {err err' : LoadError} (error : err.Alike err') :
      AlikeRefusal (.interpreterNotAdded err) (.interpreterNotAdded err')

namespace Embedder

/-- What two additions for the language come to, by the one path and by the other one. -/
inductive AlikeAdditions (e : Embedder) (serial : Nat) (language : String) (p q : Path) :
    Except EmbedderError Unit × Embedder → Except EmbedderError Unit × Embedder → Prop where
  /-- The interpreter is there already, and nothing changes. -/
  | known {a : Active} (found : e.active.get? language = some a)
      (alike : a.loader.entry.alike ⟨language, p⟩ = true ∧
        a.loader.entry.alike ⟨language, q⟩ = true) :
      AlikeAdditions e serial language p q (.ok (), e) (.ok (), e)
  /-- An interpreter of the same new instance is put in place, under the path as it was spelled. -/
  | added {i : Instance} {api : ApiHandle}
      (new : ∀ a, e.active.get? language = some a →
        a.loader.entry.alike ⟨language, p⟩ = false ∧ a.loader.entry.alike ⟨language, q⟩ = false)
      (fresh : i.serial = serial) (declared : i.plugin.language = language) :
      AlikeAdditions e serial language p q
        (.ok (), e.withEntry ⟨language, p⟩ (.fresh ⟨language, p⟩ i api))
        (.ok (), e.withEntry ⟨language, q⟩ (.fresh ⟨language, q⟩ i api))
  /-- Both are refused, and nothing changes. -/
  | refused {err err' : EmbedderError} (error : err.AlikeRefusal err') :
      AlikeAdditions e serial language p q (.error err, e) (.error err', e)

variable {r : Registry} {host : Host}

/-- What is served at one path is served at the other one. -/
theorem opening_of_serves {language : String} (h : p.alike q = true)
    (hserves : r.Serves ⟨language, p⟩) : ∃ plugin : Plugin, plugin.language = language ∧
      r.opening p = .ok ⟨plugin, none⟩ ∧ r.opening q = .ok ⟨plugin, none⟩ := by
  obtain ⟨plugin, hfind, hlanguage⟩ := hserves
  have hfind' := hfind
  rw [Registry.find?_eq_of_alike r h] at hfind'
  refine ⟨plugin, hlanguage, ?_, ?_⟩
  · rw [Registry.opening, hfind]
  · rw [Registry.opening, hfind']

/-- **Additions by alike paths come to alike results.** -/
theorem addInterpreter_alike (h : p.alike q = true) (e : Embedder) (hr : host.backend = r.backend)
    (language : String) :
    AlikeAdditions e host.asked language p q (e.addInterpreter host ⟨language, p⟩).answer
      (e.addInterpreter host ⟨language, q⟩).answer := by
  have hentries : ∀ a : Active,
      a.loader.entry.alike ⟨language, p⟩ = a.loader.entry.alike ⟨language, q⟩ := by
    intro a
    rw [InterpreterEntry.alike, InterpreterEntry.alike, Path.alike_eq_of_alike h]
  have hentry : InterpreterEntry.alike ⟨language, p⟩ ⟨language, q⟩ = true :=
    InterpreterEntry.alike_iff.2 ⟨rfl, h⟩
  have hfaults := InterpreterEntry.fault?_of_alike r hentry
  have hloadable := Path.isLoadable_eq_of_alike h
  rw [(addInterpreter_comes e hr ⟨language, p⟩).1, (addInterpreter_comes e hr ⟨language, q⟩).1]
  unfold additionOf
  simp only [← hentries, ← hloadable]
  cases hknown : (e.active.get? language).any (·.loader.entry.alike ⟨language, p⟩) with
  | true =>
    obtain ⟨a, found, alike⟩ := (Option.any_eq_true _ _).1 hknown
    exact .known found ⟨alike, hentries a ▸ alike⟩
  | false =>
    cases p.isLoadable with
    | false => exact .refused (.notLoadable h)
    | true =>
      cases e.configuration.api with
      | none => exact .refused .missingApi
      | some api =>
        generalize hfault : InterpreterEntry.fault? ⟨language, p⟩ r = fault at hfaults ⊢
        generalize InterpreterEntry.fault? ⟨language, q⟩ r = fault' at hfaults ⊢
        cases hfaults with
        | some herr => exact .refused (.interpreterNotAdded herr)
        | none =>
          obtain ⟨plugin, hlanguage, hopening, hopening'⟩ :=
            opening_of_serves h (InterpreterEntry.fault?_eq_none.1 hfault)
          have new : ∀ a, e.active.get? language = some a →
              a.loader.entry.alike ⟨language, p⟩ = false ∧
                a.loader.entry.alike ⟨language, q⟩ = false := by
            intro a found
            rw [found] at hknown
            exact ⟨hknown, hentries a ▸ hknown⟩
          simp only [hopening, hopening']
          exact .added (i := ⟨host.asked, plugin, none⟩) new rfl hlanguage

/-- **However the path of a module is spelled, it is taken for the same module.** Paths are alike
exactly if respellings lead from one to the other. Both are then named like a library or neither is.
Over every registry both reach the same registration, or none. And after every history of an
embedder over it, adding an interpreter by the one path comes to what adding it by the other does. -/
theorem respelled_module (p q : Path) :
    (p.alike q = true ↔ Relation.EqvGen Path.Respelling p q) ∧
    (p.alike q = true →
      p.isLoadable = q.isLoadable ∧
      ∀ registered : List (Path × Registered),
        let r := Registry.after registered
        SameRegistration registered p q (r.opening p) (r.opening q) ∧
        ∀ (conf : Configuration) (observer : Option Observer) (host : Host) (steps : List Step)
          (language : String), host.backend = r.backend →
          let t := history conf observer host steps
          AlikeAdditions t.answer t.host.asked language p q
            (t.answer.addInterpreter t.host ⟨language, p⟩).answer
            (t.answer.addInterpreter t.host ⟨language, q⟩).answer) := by
  refine ⟨Path.alike_iff_gen, fun h => ⟨Path.isLoadable_eq_of_alike h, ?_⟩⟩
  intro registered r
  refine ⟨Registry.opening_after h registered, ?_⟩
  intro conf observer host steps language hr t
  have hbackend : t.host.backend = r.backend :=
    (history_settled r host.files conf observer host hr steps).backend
  exact addInterpreter_alike h t.answer hbackend language

/-- A slash at the end, a slash written twice and a `.` between two slashes. Of two registrations
the later one counts, and what is loaded from the one spelling is known under the other one. -/
theorem respelled_module_thrice :
    let p : Path := ⟨[0x6D, 0x2F, 0x65, 0x2E, 0x73, 0x6F]⟩
    let q : Path := ⟨[0x6D, 0x2F, 0x2F, 0x2E, 0x2F, 0x65, 0x2E, 0x73, 0x6F, 0x2F]⟩
    let registered : List (Path × Registered) :=
      [(p, .foreign), (q, .plugin ⟨"A", .recorder p⟩), (⟨[0x6D]⟩, .foreign)]
    let r := Registry.after registered
    let conf := Configuration.ofParts (some (.other "h")) [⟨"A", p⟩] []
    let host : Host := { files := FileTree.empty [], backend := r.backend }
    let t := history conf none host []
    p ≠ q ∧ p.alike q = true ∧ p.isLoadable = true ∧ p.isLoadable = q.isLoadable ∧
      SameRegistration registered p q (r.opening p) (r.opening q) ∧
      r.opening p = .ok ⟨⟨"A", .recorder p⟩, none⟩ ∧ host.backend = r.backend ∧
      t.answer.isValid = true ∧
      AlikeAdditions t.answer t.host.asked "A" p q (t.answer.addInterpreter t.host ⟨"A", p⟩).answer
        (t.answer.addInterpreter t.host ⟨"A", q⟩).answer ∧
      (t.answer.addInterpreter t.host ⟨"A", q⟩).answer = (.ok (), t.answer) := by
  intro p q registered r conf host t
  have hend : Path.Respelling p ⟨[0x6D, 0x2F, 0x65, 0x2E, 0x73, 0x6F, 0x2F]⟩ :=
    .trailing (List.cons_ne_nil _ _)
  have htwice : Path.Respelling ⟨[0x6D, 0x2F, 0x65, 0x2E, 0x73, 0x6F, 0x2F]⟩
      ⟨[0x6D, 0x2F, 0x2F, 0x65, 0x2E, 0x73, 0x6F, 0x2F]⟩ := .slash [0x6D] _
  have hdot : Path.Respelling ⟨[0x6D, 0x2F, 0x2F, 0x65, 0x2E, 0x73, 0x6F, 0x2F]⟩ q :=
    .dot [0x6D, 0x2F] [0x65, 0x2E, 0x73, 0x6F, 0x2F]
  obtain ⟨hgen, hsame⟩ := respelled_module p q
  have halike : p.alike q = true :=
    hgen.2 (.trans _ _ _ (.rel _ _ hend) (.trans _ _ _ (.rel _ _ htwice) (.rel _ _ hdot)))
  obtain ⟨hloadable, hregistered⟩ := hsame halike
  obtain ⟨hopening, hadditions⟩ := hregistered registered
  exact ⟨by decide, halike, by decide +kernel, hloadable, hopening, by decide +kernel, rfl,
    by decide +kernel, hadditions conf none host [] "A" rfl, by decide +kernel⟩

end Embedder

end ScriptHost

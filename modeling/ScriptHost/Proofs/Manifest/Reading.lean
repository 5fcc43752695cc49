import ScriptHost.Manifest.Basic
import ScriptHost.Proofs.Toml.Keys
import Mathlib

/-!
# What a manifest says

A manifest is read off the tables of its document. Each field is looked up by its key; where it
stands in its table and what stands beside it makes no difference.

* `Takes`: what reading a field makes of what was read before. `foldlM_eq_ok`: reading a table entry
  by entry comes to looking up its fields, since no key is there twice.
* `InterpreterWritten`, `ScriptWritten`: what an entry has to do with its table.
  `InterpreterTable`, `ScriptTable`: which tables are tables of an entry.
* **`parse_tables`**: a document whose interpreters and scripts are tables is a manifest exactly if
  each of them is the table of an entry, and its entries are those of the tables, in order.
-/

namespace ScriptHost.Manifest

/-! ## 1. Results -/

theorem map_eq_ok {ε α β : Type} {x : Except ε α} {f : α → β} {b : β} :
    x.map f = .ok b ↔ ∃ a, x = .ok a ∧ f a = b := by
  cases x <;> simp [Except.map]

theorem bind_eq_ok {ε α β : Type} {x : Except ε α} {f : α → Except ε β} {b : β} :
    x >>= f = .ok b ↔ ∃ a, x = .ok a ∧ f a = .ok b := by
  cases x <;> simp [bind, Except.bind]

theorem mapM_eq_ok {ε α β : Type} {f : α → Except ε β} : ∀ {l : List α} {m : List β},
    l.mapM f = .ok m ↔ List.Forall₂ (fun x y => f x = .ok y) l m
  | [], m => by
    rw [List.mapM_nil, List.forall₂_nil_left_iff]
    exact ⟨fun h => (Except.ok.inj h).symm, fun h => h ▸ rfl⟩
  | x :: l, m => by
    rw [List.mapM_cons, bind_eq_ok, List.forall₂_cons_left_iff]
    refine exists_congr fun y => ?_
    rw [bind_eq_ok]
    constructor
    · rintro ⟨hxy, ys, hys, h⟩
      exact ⟨ys, hxy, mapM_eq_ok.1 hys, (Except.ok.inj h).symm⟩
    · rintro ⟨ys, hxy, hys, rfl⟩
      exact ⟨hxy, ys, mapM_eq_ok.2 hys, rfl⟩

/-- Each element has a counterpart. -/
theorem exists_forall₂ {α β : Type} {R : α → β → Prop} : ∀ {l : List α},
    (∃ m, List.Forall₂ R l m) ↔ ∀ x ∈ l, ∃ y, R x y
  | [] => ⟨fun _ _ h => absurd h List.not_mem_nil, fun _ => ⟨[], .nil⟩⟩
  | x :: l => by
    rw [List.forall_mem_cons, ← exists_forall₂]
    constructor
    · rintro ⟨_, hxy | ⟨hxy, hrest⟩⟩
      exact ⟨⟨_, hxy⟩, _, hrest⟩
    · rintro ⟨⟨y, hxy⟩, m, hrest⟩
      exact ⟨y :: m, .cons hxy hrest⟩

/-! ## 2. Values of fields -/

theorem string_eq_ok {v : Toml.Value} {s : String} : string v = .ok s ↔ v = .string s := by
  cases v <;> simp [string]

theorem path_eq_ok {v : Toml.Value} {p : Path} :
    path v = .ok p ↔ ∃ s, v = .string s ∧ p = Path.ofString s := by
  cases v <;> simp [path, eq_comm]

theorem boolean_eq_ok {v : Toml.Value} {b : Bool} : boolean v = .ok b ↔ v = .boolean b := by
  cases v <;> simp [boolean]

/-- The integers that are numbers of 32 bits. -/
theorem exists_uint32 {i : Int} : (∃ n : UInt32, i = n.toNat) ↔ 0 ≤ i ∧ i ≤ 4294967295 := by
  constructor
  · rintro ⟨n, rfl⟩
    have hn := n.toNat_lt
    omega
  · rintro ⟨hlow, hhigh⟩
    refine ⟨UInt32.ofNat i.toNat, ?_⟩
    rw [UInt32.toNat_ofNat_of_lt' (by simp only [UInt32.size]; omega)]
    omega

theorem uint32_eq_ok {v : Toml.Value} {n : UInt32} : uint32 v = .ok n ↔ v = .integer n.toNat := by
  cases v with
  | integer i =>
    rw [uint32]
    split
    · rename_i hi
      obtain ⟨m, rfl⟩ := exists_uint32.2 hi
      simp [UInt32.toNat_inj]
    · rename_i hi
      have hne : i ≠ n.toNat := fun h => hi (exists_uint32.1 ⟨n, h⟩)
      simp [hne]
  | _ => simp [uint32]

/-! ## 3. Fields of a table -/

/-- What reading a field makes of what was read before. Nothing, if the field is missing. -/
inductive Takes {β : Type} (read : Toml.Value → Except Fault β) :
    Option Toml.Value → β → β → Prop where
  | missing (old : β) : Takes read none old old
  | present {v : Toml.Value} {new : β} (old : β) (value : read v = .ok new) :
      Takes read (some v) old new

/-- What is read fills a field. -/
def filled {α : Type} (read : Toml.Value → Except Fault α) (v : Toml.Value) :
    Except Fault (Option α) :=
  (read v).map some

/-- The fields of a table with one entry. -/
def sole (k : String) (v : Toml.Value) (key : String) : Option Toml.Value :=
  if k = key then some v else none

section Takes

variable {α β : Type} {read : Toml.Value → Except Fault β} {old new : β}

@[simp] theorem takes_none : Takes read none old new ↔ old = new :=
  ⟨fun h => by cases h; rfl, fun h => h ▸ .missing old⟩

@[simp] theorem takes_some {v : Toml.Value} : Takes read (some v) old new ↔ read v = .ok new :=
  ⟨fun h => by cases h; assumption, .present old⟩

/-- The first entry is read, and then the others, none of which has the same key. -/
theorem takes_cons {k key : String} {v : Toml.Value} {rest : Table} (h : rest.lookup k = none) :
    Takes read (List.lookup key ((k, v) :: rest)) old new ↔
      ∃ mid, Takes read (sole k v key) old mid ∧ Takes read (rest.lookup key) mid new := by
  rw [List.lookup_cons, sole]
  by_cases hk : k = key
  · subst hk
    simp only [beq_self_eq_true, if_true, h, takes_none, takes_some]
    exact ⟨fun hv => ⟨new, hv, rfl⟩, fun ⟨_, hv, he⟩ => he ▸ hv⟩
  · have hne : (key == k) = false := by simpa using Ne.symm hk
    simp only [hne, hk, if_false, takes_none]
    exact ⟨fun hrest => ⟨old, rfl, hrest⟩, fun ⟨_, he, hrest⟩ => he ▸ hrest⟩

variable {value? : Option Toml.Value} {read : Toml.Value → Except Fault α} {a : α}

/-- A field that has to be there. -/
theorem takes_filled : Takes (filled read) value? none (some a) ↔
    ∃ v, value? = some v ∧ read v = .ok a := by
  cases value? with
  | none => simp
  | some v => simp [filled, map_eq_ok]

/-- A field that need not be there. -/
theorem takes_filled_getD {otherwise : α} :
    (∃ found, Takes (filled read) value? none found ∧ found.getD otherwise = a) ↔
      (∃ v, value? = some v ∧ read v = .ok a) ∨ value? = none ∧ a = otherwise := by
  cases value? with
  | none => simp [eq_comm]
  | some v => simp [filled, map_eq_ok]

end Takes

/-- **Reading a table entry by entry comes to looking up its fields**, if one entry is one field of
a record and no key is there twice. -/
theorem foldlM_eq_ok {D : Type} {step : D → String × Toml.Value → Except Fault D}
    {R : (String → Option Toml.Value) → D → D → Prop}
    (hnone : ∀ {d d'}, R (fun _ => none) d d' ↔ d = d')
    (hstep : ∀ {d d' k v}, step d (k, v) = .ok d' ↔ R (sole k v) d d')
    (hcons : ∀ {d d' k v} {rest : Table}, rest.lookup k = none →
      (R (List.lookup · ((k, v) :: rest)) d d' ↔
        ∃ mid, R (sole k v) d mid ∧ R (rest.lookup ·) mid d')) :
    ∀ {t : Table} {d d' : D}, (t.map (·.1)).Nodup →
      (t.foldlM step d = .ok d' ↔ R (t.lookup ·) d d')
  | [], d, d', _ => Except.ok.injEq d d' ▸ hnone.symm
  | (k, v) :: rest, d, d', h => by
    obtain ⟨hk, hrest⟩ := List.nodup_cons.1 h
    rw [List.foldlM_cons, bind_eq_ok, hcons (Toml.lookup_eq_none_iff.2 hk)]
    refine exists_congr fun mid => ?_
    rw [hstep, foldlM_eq_ok hnone hstep hcons hrest]

/-! ## 4. Interpreters -/

/-- What reading the fields makes of the draft. -/
@[mk_iff reads_iff]
structure InterpreterDraft.Reads (field : String → Option Toml.Value)
    (d d' : InterpreterDraft) : Prop where
  language : Takes (filled string) (field "language") d.language d'.language
  module : Takes (filled path) (field "module") d.module d'.module

theorem InterpreterDraft.read_eq_ok {d d' : InterpreterDraft} {k : String} {v : Toml.Value} :
    d.read (k, v) = .ok d' ↔ Reads (sole k v) d d' := by
  obtain ⟨language, module⟩ := d
  obtain ⟨language', module'⟩ := d'
  rw [reads_iff]
  unfold InterpreterDraft.read sole filled
  by_cases hl : k = "language"
  · cases hv : string v <;> simp [hl, hv, Except.map]
  by_cases hm : k = "module"
  · cases hv : path v <;> simp [hm, hv, Except.map]
  · simp [hl, hm]

theorem InterpreterDraft.reads_none {d d' : InterpreterDraft} :
    Reads (fun _ => none) d d' ↔ d = d' := by
  obtain ⟨language, module⟩ := d
  obtain ⟨language', module'⟩ := d'
  simp [reads_iff]

theorem InterpreterDraft.reads_cons {d d' : InterpreterDraft} {k : String} {v : Toml.Value}
    {rest : Table} (h : rest.lookup k = none) : Reads (List.lookup · ((k, v) :: rest)) d d' ↔
      ∃ mid, Reads (sole k v) d mid ∧ Reads (rest.lookup ·) mid d' := by
  rw [reads_iff, takes_cons h, takes_cons h]
  constructor
  · rintro ⟨⟨language, hl, hl'⟩, module, hm, hm'⟩
    exact ⟨⟨language, module⟩, ⟨hl, hm⟩, hl', hm'⟩
  · rintro ⟨mid, ⟨hl, hm⟩, hl', hm'⟩
    exact ⟨⟨_, hl, hl'⟩, _, hm, hm'⟩

theorem InterpreterDraft.finish_eq_ok {d : InterpreterDraft} {e : InterpreterEntry} :
    d.finish = .ok e ↔ d.language = some e.language ∧ d.module = some e.module := by
  obtain ⟨language, module⟩ := d
  obtain ⟨language', module'⟩ := e
  unfold InterpreterDraft.finish
  cases language <;> cases module <;> simp [required, bind, Except.bind, pure, Except.pure]

/-- The table says this entry. -/
structure InterpreterWritten (t : Table) (e : InterpreterEntry) : Prop where
  language : t.lookup "language" = some (.string e.language)
  module : ∃ s, t.lookup "module" = some (.string s) ∧ e.module = Path.ofString s

/-- **The table of an interpreter is read as the entry that it says.** -/
theorem interpreterOfTable_eq_ok {t : Table} (h : (t.map (·.1)).Nodup) {e : InterpreterEntry} :
    interpreterOfTable t = .ok e ↔ InterpreterWritten t e := by
  have hreads {d d'} : t.foldlM InterpreterDraft.read d = .ok d' ↔
      InterpreterDraft.Reads (t.lookup ·) d d' :=
    foldlM_eq_ok InterpreterDraft.reads_none InterpreterDraft.read_eq_ok
      InterpreterDraft.reads_cons h
  rw [interpreterOfTable, bind_eq_ok]
  constructor
  · rintro ⟨⟨language, module⟩, hd, hfinish⟩
    obtain ⟨rfl, rfl⟩ := InterpreterDraft.finish_eq_ok.1 hfinish
    obtain ⟨hl, hm⟩ := hreads.1 hd
    obtain ⟨v, hl, hv⟩ := takes_filled.1 hl
    obtain ⟨w, hm, hw⟩ := takes_filled.1 hm
    obtain ⟨s, rfl, hs⟩ := path_eq_ok.1 hw
    exact ⟨string_eq_ok.1 hv ▸ hl, s, hm, hs⟩
  · rintro ⟨hl, s, hm, hs⟩
    have hl := takes_filled.2 ⟨_, hl, string_eq_ok.2 rfl⟩
    have hm := takes_filled.2 ⟨_, hm, path_eq_ok.2 ⟨s, rfl, hs⟩⟩
    exact ⟨⟨_, _⟩, hreads.2 ⟨hl, hm⟩, InterpreterDraft.finish_eq_ok.2 ⟨rfl, rfl⟩⟩

/-- A table that says an entry: it has both fields, and both hold a text. -/
structure InterpreterTable (t : Table) : Prop where
  language : ∃ s, t.lookup "language" = some (.string s)
  module : ∃ s, t.lookup "module" = some (.string s)

theorem interpreterTable_iff {t : Table} : InterpreterTable t ↔ ∃ e, InterpreterWritten t e := by
  constructor
  · rintro ⟨⟨s, hl⟩, s', hm⟩
    exact ⟨⟨s, Path.ofString s'⟩, hl, s', hm, rfl⟩
  · rintro ⟨e, hl, s', hm, -⟩
    exact ⟨⟨e.language, hl⟩, s', hm⟩

/-! ## 5. Scripts -/

/-- What reading the fields makes of the draft. -/
@[mk_iff reads_iff]
structure ScriptDraft.Reads (field : String → Option Toml.Value) (d d' : ScriptDraft) : Prop where
  id : Takes (filled uint32) (field "id") d.id d'.id
  path : Takes (filled Manifest.path) (field "path") d.path d'.path
  language : Takes (filled string) (field "language") d.language d'.language
  cached : Takes (filled boolean) (field "cache_in_memory") d.cached d'.cached
  priority : Takes (filled uint32) (field "priority") d.priority d'.priority

theorem ScriptDraft.read_eq_ok {d d' : ScriptDraft} {k : String} {v : Toml.Value} :
    d.read (k, v) = .ok d' ↔ Reads (sole k v) d d' := by
  obtain ⟨id, path, language, cached, priority⟩ := d
  obtain ⟨id', path', language', cached', priority'⟩ := d'
  rw [reads_iff]
  unfold ScriptDraft.read sole filled
  by_cases hi : k = "id"
  · cases hv : uint32 v <;> simp [hi, hv, Except.map]
  by_cases hp : k = "path"
  · cases hv : Manifest.path v <;> simp [hp, hv, Except.map]
  by_cases hl : k = "language"
  · cases hv : string v <;> simp [hl, hv, Except.map]
  by_cases hc : k = "cache_in_memory"
  · cases hv : boolean v <;> simp [hc, hv, Except.map]
  by_cases hn : k = "priority"
  · cases hv : uint32 v <;> simp [hn, hv, Except.map]
  · simp [hi, hp, hl, hc, hn]

theorem ScriptDraft.reads_none {d d' : ScriptDraft} : Reads (fun _ => none) d d' ↔ d = d' := by
  obtain ⟨id, path, language, cached, priority⟩ := d
  obtain ⟨id', path', language', cached', priority'⟩ := d'
  simp [reads_iff]

theorem ScriptDraft.reads_cons {d d' : ScriptDraft} {k : String} {v : Toml.Value} {rest : Table}
    (h : rest.lookup k = none) : Reads (List.lookup · ((k, v) :: rest)) d d' ↔
      ∃ mid, Reads (sole k v) d mid ∧ Reads (rest.lookup ·) mid d' := by
  rw [reads_iff, takes_cons h, takes_cons h, takes_cons h, takes_cons h, takes_cons h]
  constructor
  · rintro ⟨⟨id, hi, hi'⟩, ⟨path, hp, hp'⟩, ⟨language, hl, hl'⟩, ⟨cached, hc, hc'⟩, priority, hn,
      hn'⟩
    exact ⟨⟨id, path, language, cached, priority⟩, ⟨hi, hp, hl, hc, hn⟩, hi', hp', hl', hc', hn'⟩
  · rintro ⟨mid, ⟨hi, hp, hl, hc, hn⟩, hi', hp', hl', hc', hn'⟩
    exact ⟨⟨_, hi, hi'⟩, ⟨_, hp, hp'⟩, ⟨_, hl, hl'⟩, ⟨_, hc, hc'⟩, _, hn, hn'⟩

theorem ScriptDraft.finish_eq_ok {d : ScriptDraft} {e : ScriptEntry} : d.finish = .ok e ↔
    d.id = some e.id ∧ d.path = some e.path ∧ d.language = some e.language ∧
      d.cached.getD false = e.cached ∧ d.priority.getD 0 = e.priority := by
  obtain ⟨id, path, language, cached, priority⟩ := d
  obtain ⟨id', path', language', cached', priority'⟩ := e
  unfold ScriptDraft.finish
  cases id <;> cases path <;> cases language <;>
    simp [required, bind, Except.bind, pure, Except.pure]

/-- The table says this entry. Fields that need not be there have a value of their own then. -/
structure ScriptWritten (t : Table) (e : ScriptEntry) : Prop where
  id : t.lookup "id" = some (.integer e.id.toNat)
  path : ∃ s, t.lookup "path" = some (.string s) ∧ e.path = Path.ofString s
  language : t.lookup "language" = some (.string e.language)
  cached : t.lookup "cache_in_memory" = some (.boolean e.cached) ∨
    t.lookup "cache_in_memory" = none ∧ e.cached = false
  priority : t.lookup "priority" = some (.integer e.priority.toNat) ∨
    t.lookup "priority" = none ∧ e.priority = 0

/-- **The table of a script is read as the entry that it says.** -/
theorem scriptOfTable_eq_ok {t : Table} (h : (t.map (·.1)).Nodup) {e : ScriptEntry} :
    scriptOfTable t = .ok e ↔ ScriptWritten t e := by
  have hreads {d d'} : t.foldlM ScriptDraft.read d = .ok d' ↔
      ScriptDraft.Reads (t.lookup ·) d d' :=
    foldlM_eq_ok ScriptDraft.reads_none ScriptDraft.read_eq_ok ScriptDraft.reads_cons h
  rw [scriptOfTable, bind_eq_ok]
  constructor
  · rintro ⟨⟨id, path, language, cached, priority⟩, hd, hfinish⟩
    obtain ⟨rfl, rfl, rfl, hcached, hpriority⟩ := ScriptDraft.finish_eq_ok.1 hfinish
    obtain ⟨hi, hp, hl, hc, hn⟩ := hreads.1 hd
    obtain ⟨v, hi, hv⟩ := takes_filled.1 hi
    obtain ⟨w, hp, hw⟩ := takes_filled.1 hp
    obtain ⟨s, rfl, hs⟩ := path_eq_ok.1 hw
    obtain ⟨u, hl, hu⟩ := takes_filled.1 hl
    have hc := takes_filled_getD.1 ⟨_, hc, hcached⟩
    have hn := takes_filled_getD.1 ⟨_, hn, hpriority⟩
    simp only [boolean_eq_ok, uint32_eq_ok, exists_eq_right] at hc hn
    exact ⟨uint32_eq_ok.1 hv ▸ hi, ⟨s, hp, hs⟩, string_eq_ok.1 hu ▸ hl, hc, hn⟩
  · rintro ⟨hi, ⟨s, hp, hs⟩, hl, hc, hn⟩
    have hi := takes_filled.2 ⟨_, hi, uint32_eq_ok.2 rfl⟩
    have hp := takes_filled.2 ⟨_, hp, path_eq_ok.2 ⟨s, rfl, hs⟩⟩
    have hl := takes_filled.2 ⟨_, hl, string_eq_ok.2 rfl⟩
    obtain ⟨cached, hc, hcached⟩ := takes_filled_getD.2
      (hc.imp_left fun h => ⟨_, h, boolean_eq_ok.2 rfl⟩)
    obtain ⟨priority, hn, hpriority⟩ := takes_filled_getD.2
      (hn.imp_left fun h => ⟨_, h, uint32_eq_ok.2 rfl⟩)
    exact ⟨⟨_, _, _, cached, priority⟩, hreads.2 ⟨hi, hp, hl, hc, hn⟩,
      ScriptDraft.finish_eq_ok.2 ⟨rfl, rfl, rfl, hcached, hpriority⟩⟩

/-- A table that says an entry: it has the fields that have to be there, and what each field holds
is of its kind and in its range. -/
structure ScriptTable (t : Table) : Prop where
  id : ∃ i, t.lookup "id" = some (.integer i) ∧ 0 ≤ i ∧ i ≤ 4294967295
  path : ∃ s, t.lookup "path" = some (.string s)
  language : ∃ s, t.lookup "language" = some (.string s)
  cached : ∀ v, t.lookup "cache_in_memory" = some v → ∃ b, v = .boolean b
  priority : ∀ v, t.lookup "priority" = some v → ∃ i, v = .integer i ∧ 0 ≤ i ∧ i ≤ 4294967295

/-- A field that need not be there can be said by its table if it holds what it has to hold. -/
theorem exists_optional {α : Type} {value? : Option Toml.Value} {holds : α → Toml.Value}
    {otherwise : α} : (∃ a, value? = some (holds a) ∨ value? = none ∧ a = otherwise) ↔
      ∀ v, value? = some v → ∃ a, v = holds a := by
  cases value? <;> simp

theorem exists_integer {v : Toml.Value} : (∃ n : UInt32, v = .integer n.toNat) ↔
    ∃ i, v = .integer i ∧ 0 ≤ i ∧ i ≤ 4294967295 := by
  constructor
  · rintro ⟨n, rfl⟩
    exact ⟨_, rfl, exists_uint32.1 ⟨n, rfl⟩⟩
  · rintro ⟨i, rfl, hi⟩
    obtain ⟨n, rfl⟩ := exists_uint32.2 hi
    exact ⟨n, rfl⟩

theorem scriptTable_iff {t : Table} : ScriptTable t ↔ ∃ e, ScriptWritten t e := by
  constructor
  · rintro ⟨⟨i, hi, hrange⟩, ⟨s, hp⟩, ⟨s', hl⟩, hc, hn⟩
    obtain ⟨id, rfl⟩ := exists_uint32.2 hrange
    obtain ⟨cached, hc⟩ := exists_optional.2 hc
    obtain ⟨priority, hn⟩ := exists_optional.2 fun v hv => exists_integer.2 (hn v hv)
    exact ⟨⟨id, Path.ofString s, s', cached, priority⟩, hi, ⟨s, hp, rfl⟩, hl, hc, hn⟩
  · rintro ⟨e, hi, ⟨s, hp, -⟩, hl, hc, hn⟩
    have hc := exists_optional.1 ⟨e.cached, hc⟩
    have hn : ∀ v, t.lookup "priority" = some v → ∃ n : UInt32, v = .integer n.toNat :=
      exists_optional.1 ⟨e.priority, hn⟩
    exact ⟨⟨_, hi, exists_uint32.1 ⟨e.id, rfl⟩⟩, ⟨s, hp⟩, ⟨_, hl⟩, hc, fun v hv =>
      exists_integer.1 (hn v hv)⟩

/-! ## 6. Manifests -/

/-- The entries of an array. -/
def listed {α : Type} (read : Toml.Value → Except Fault α) (v : Toml.Value) :
    Except Fault (List α) :=
  (sequence v).bind (·.mapM read)

/-- What reading the fields of the root makes of the manifest. -/
@[mk_iff reads_iff]
structure Reads (field : String → Option Toml.Value) (m m' : Manifest) : Prop where
  interpreters : Takes (listed interpreterEntry) (field "interpreter") m.interpreters
    m'.interpreters
  scripts : Takes (listed scriptEntry) (field "script") m.scripts m'.scripts

theorem readField_eq_ok {m m' : Manifest} {k : String} {v : Toml.Value} :
    m.readField (k, v) = .ok m' ↔ Reads (sole k v) m m' := by
  obtain ⟨interpreters, scripts⟩ := m
  obtain ⟨interpreters', scripts'⟩ := m'
  rw [reads_iff, readField, sole, sole]
  by_cases hi : k = "interpreter"
  · rw [if_pos hi]
    change (listed interpreterEntry v).map _ = _ ↔ _
    cases hv : listed interpreterEntry v <;> simp [hi, hv, Except.map]
  by_cases hs : k = "script"
  · rw [if_neg hi, if_pos hs]
    change (listed scriptEntry v).map _ = _ ↔ _
    cases hv : listed scriptEntry v <;> simp [hs, hv, Except.map]
  · simp [hi, hs]

theorem reads_none {m m' : Manifest} : Reads (fun _ => none) m m' ↔ m = m' := by
  obtain ⟨interpreters, scripts⟩ := m
  obtain ⟨interpreters', scripts'⟩ := m'
  simp [reads_iff]

theorem reads_cons {m m' : Manifest} {k : String} {v : Toml.Value} {rest : Table}
    (h : rest.lookup k = none) : Reads (List.lookup · ((k, v) :: rest)) m m' ↔
      ∃ mid, Reads (sole k v) m mid ∧ Reads (rest.lookup ·) mid m' := by
  rw [reads_iff, takes_cons h, takes_cons h]
  constructor
  · rintro ⟨⟨interpreters, hi, hi'⟩, scripts, hs, hs'⟩
    exact ⟨⟨interpreters, scripts⟩, ⟨hi, hs⟩, hi', hs'⟩
  · rintro ⟨mid, ⟨hi, hs⟩, hi', hs'⟩
    exact ⟨⟨_, hi, hi'⟩, _, hs, hs'⟩

/-- These tables stand under the key, in an array; none, if the key is missing. -/
inductive Lists (root : Table) (key : String) : List Table → Prop where
  | missing (lookup : root.lookup key = none) : Lists root key []
  | present {tables : List Table} (lookup : root.lookup key = some (.array (tables.map .table))) :
      Lists root key tables

variable {root : Table} {key : String} {tables : List Table}

/-- The tables of a document have no key twice. -/
theorem Lists.keys (h : Lists root key tables) (hroot : (Toml.Value.table root).Proper) :
    ∀ t ∈ tables, (t.map (·.1)).Nodup := by
  cases h with
  | missing => exact fun _ ht => absurd ht List.not_mem_nil
  | present lookup =>
    intro t ht
    cases hroot with
    | table _ hproper =>
      cases hproper _ (Toml.mem_of_lookup lookup) with
      | array helements =>
        cases helements _ (List.mem_map_of_mem ht) with
        | table hkeys _ => exact hkeys

/-- Each table is read as an entry. -/
theorem Lists.takes {α : Type} {read : Toml.Value → Except Fault α} {entries : List α}
    (h : Lists root key tables) : Takes (listed read) (root.lookup key) [] entries ↔
      List.Forall₂ (fun t e => read (.table t) = .ok e) tables entries := by
  cases h with
  | missing lookup => rw [lookup, takes_none, List.forall₂_nil_left_iff, eq_comm]
  | present lookup =>
    rw [lookup, takes_some]
    show (tables.map .table).mapM read = .ok entries ↔ _
    rw [mapM_eq_ok, List.forall₂_map_left_iff]

theorem forall₂_congr {α β : Type} {R S : α → β → Prop} : ∀ {l : List α} {m : List β},
    (∀ x ∈ l, ∀ y, R x y ↔ S x y) → (List.Forall₂ R l m ↔ List.Forall₂ S l m)
  | [], m, _ => by rw [List.forall₂_nil_left_iff, List.forall₂_nil_left_iff]
  | x :: l, m, h => by
    obtain ⟨hx, hl⟩ := List.forall_mem_cons.1 h
    rw [List.forall₂_cons_left_iff, List.forall₂_cons_left_iff]
    simp only [hx, forall₂_congr hl]

variable {text : String} {interpreters scripts : List Table}

/-- What the text says, if its root table lists tables. -/
theorem parse_eq_ok (hroot : Toml.read? text = some root)
    (hinterpreters : Lists root "interpreter" interpreters)
    (hscripts : Lists root "script" scripts) {m : Manifest} : parse text = .ok m ↔
      List.Forall₂ InterpreterWritten interpreters m.interpreters ∧
        List.Forall₂ ScriptWritten scripts m.scripts := by
  have hproper := Toml.read?_proper hroot
  have hkeys : (root.map (·.1)).Nodup := by
    cases hproper with
    | table hkeys _ => exact hkeys
  have hparse : parse text = .ok m ↔ ofTable root = .ok m := by
    simp only [parse, hroot]
    cases ofTable root <;> simp
  rw [hparse, ofTable, foldlM_eq_ok reads_none readField_eq_ok reads_cons hkeys, reads_iff,
    hinterpreters.takes, hscripts.takes]
  exact and_congr
    (forall₂_congr fun t ht _ => interpreterOfTable_eq_ok (hinterpreters.keys hproper t ht))
    (forall₂_congr fun t ht _ => scriptOfTable_eq_ok (hscripts.keys hproper t ht))

/-- **A document whose interpreters and scripts are tables** is a manifest exactly if each of these
tables is the table of an interpreter or a script. The entries of the manifest are what the tables
say, one for each, in order; nothing else in the document makes a difference. -/
theorem parse_tables (hroot : Toml.read? text = some root)
    (hinterpreters : Lists root "interpreter" interpreters)
    (hscripts : Lists root "script" scripts) :
    ((∃ m, parse text = .ok m) ↔
      (∀ t ∈ interpreters, InterpreterTable t) ∧ ∀ t ∈ scripts, ScriptTable t) ∧
    ∀ m, parse text = .ok m ↔
      List.Forall₂ InterpreterWritten interpreters m.interpreters ∧
        List.Forall₂ ScriptWritten scripts m.scripts := by
  have hparse := fun m => parse_eq_ok (m := m) hroot hinterpreters hscripts
  refine ⟨?_, hparse⟩
  have hentries : (∀ t ∈ interpreters, ∃ e, InterpreterWritten t e) ∧
      (∀ t ∈ scripts, ∃ e, ScriptWritten t e) ↔ ∃ m, parse text = .ok m := by
    rw [← exists_forall₂, ← exists_forall₂]
    constructor
    · rintro ⟨⟨es, hes⟩, ss, hss⟩
      exact ⟨⟨es, ss⟩, (hparse _).2 ⟨hes, hss⟩⟩
    · rintro ⟨m, hm⟩
      obtain ⟨hes, hss⟩ := (hparse m).1 hm
      exact ⟨⟨_, hes⟩, _, hss⟩
  simp only [← hentries, interpreterTable_iff, scriptTable_iff]

set_option maxRecDepth 10000 in
/-- Tables of both notations, a key that does not count, and fields that are missing. -/
theorem parse_tables_noted :
    let text := "interpreter=[\x7bmodule=\"e\",language=\"E\"\x7d]\n" ++
      "[[script]]\nv=1\nid=7\npath=\"s\"\nlanguage=\"E\""
    (∃ m, parse text = .ok m) ∧
      parse text = .ok ⟨[⟨"E", Path.ofString "e"⟩], [⟨7, Path.ofString "s", "E", false, 0⟩]⟩ := by
  intro text
  let interpreter : Table := [("module", .string "e"), ("language", .string "E")]
  let script : Table :=
    [("v", .integer 1), ("id", .integer 7), ("path", .string "s"), ("language", .string "E")]
  let root : Table :=
    [("interpreter", .array [.table interpreter]), ("script", .array [.table script])]
  have hroot : Toml.read? text = some root := by cbv
  have hinterpreters : Lists root "interpreter" [interpreter] := .present rfl
  have hscripts : Lists root "script" [script] := .present rfl
  have hi : InterpreterWritten interpreter ⟨"E", Path.ofString "e"⟩ := ⟨rfl, "e", rfl, rfl⟩
  have hs : ScriptWritten script ⟨7, Path.ofString "s", "E", false, 0⟩ :=
    ⟨rfl, ⟨"s", rfl, rfl⟩, rfl, .inr ⟨rfl, rfl⟩, .inr ⟨rfl, rfl⟩⟩
  obtain ⟨hmanifest, hparse⟩ := parse_tables hroot hinterpreters hscripts
  refine ⟨hmanifest.2 ⟨?_, ?_⟩, (hparse _).2 ⟨.cons hi .nil, .cons hs .nil⟩⟩
  · exact List.forall_mem_singleton.2 (interpreterTable_iff.2 ⟨_, hi⟩)
  · exact List.forall_mem_singleton.2 (scriptTable_iff.2 ⟨_, hs⟩)

end ScriptHost.Manifest

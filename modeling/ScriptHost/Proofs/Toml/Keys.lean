import ScriptHost.Proofs.Toml.Reader
import ScriptHost.Toml.Document

/-!
# Keys of a document

No table of a document has a key twice, however its text puts the table together.

* `Value.Proper`, `Node.Proper`: every table within has each of its keys once.
* `Change.Keeps.changeAt`: a change deep in a table leaves proper tables proper; so do assignments
  (`putAll_proper`) and sections (`Section.add_proper`).
* `yields_valueWithin`: the values of assignments are proper, since inline tables are put together in
  the same way.
* **`read?_proper`**: the root table of a document is proper.
-/

namespace ScriptHost.Toml

/-! ## 1. Proper values -/

/-- Each table in the value has each of its keys once. -/
inductive Value.Proper : Value → Prop where
  | string (s : String) : Proper (.string s)
  | integer (i : Int) : Proper (.integer i)
  | float (x : Binary64) : Proper (.float x)
  | boolean (b : Bool) : Proper (.boolean b)
  | datetime (text : List Char) : Proper (.datetime text)
  | array {elements : List Value} (proper : ∀ v ∈ elements, v.Proper) : Proper (.array elements)
  | table {entries : List (String × Value)} (keys : (entries.map (·.1)).Nodup)
      (proper : ∀ e ∈ entries, e.2.Proper) : Proper (.table entries)

/-- Each table in the node has each of its keys once. -/
inductive Node.Proper : Node → Prop where
  | value {v : Value} (proper : v.Proper) : Proper (.value v)
  | table {origin : Origin} {entries : Entries} (keys : (entries.map (·.1)).Nodup)
      (proper : ∀ e ∈ entries, e.2.Proper) : Proper (.table origin entries)
  | tables {members : List Entries} (keys : ∀ es ∈ members, (es.map (·.1)).Nodup)
      (proper : ∀ es ∈ members, ∀ e ∈ es, e.2.Proper) : Proper (.tables members)

/-- Each key stands there once, and so it is in each table below. -/
structure Entries.Proper (es : Entries) : Prop where
  keys : (es.map (·.1)).Nodup
  nodes : ∀ e ∈ es, e.2.Proper

theorem Entries.proper_nil : Entries.Proper [] :=
  ⟨List.nodup_nil, fun _ h => absurd h List.not_mem_nil⟩

/-- Members of an array of tables. -/
theorem Node.proper_tables_iff {members : List Entries} :
    (Node.tables members).Proper ↔ ∀ es ∈ members, Entries.Proper es := by
  constructor
  · rintro (_ | _ | ⟨keys, proper⟩) es hes
    exact ⟨keys es hes, proper es hes⟩
  · exact fun h => .tables (fun es hes => (h es hes).keys) fun es hes => (h es hes).nodes

theorem Node.proper_table_iff {origin : Origin} {es : Entries} :
    (Node.table origin es).Proper ↔ Entries.Proper es := by
  constructor
  · rintro (_ | ⟨keys, proper⟩)
    exact ⟨keys, proper⟩
  · exact fun h => .table h.keys h.nodes

/-! ## 2. Changes of entries -/

variable {es es' : Entries} {key : String} {node : Node}

theorem mem_of_lookup {ν : Type} {l : List (String × ν)} {v : ν} (h : l.lookup key = some v) :
    (key, v) ∈ l := by
  obtain ⟨before, later, rfl, -⟩ := List.lookup_eq_some_iff.1 h
  exact List.mem_append_right _ List.mem_cons_self

theorem lookup_eq_none_iff {ν : Type} {l : List (String × ν)} :
    l.lookup key = none ↔ key ∉ l.map (·.1) := by
  rw [List.lookup_eq_none_iff, List.mem_map, not_exists]
  refine forall_congr' fun e => ?_
  rw [not_and, bne_iff_ne]
  exact imp_congr_right fun _ => ne_comm

namespace Entries.Proper

theorem lookup (h : es.Proper) (hl : es.lookup key = some node) : node.Proper :=
  h.nodes _ (mem_of_lookup hl)

theorem concat (h : es.Proper) (hl : key ∉ es.map (·.1)) (hnode : node.Proper) :
    Entries.Proper (es ++ [(key, node)]) where
  keys := by
    rw [List.map_append, List.map_singleton]
    refine List.nodup_append.2 ⟨h.keys, List.pairwise_singleton _ key, fun a ha b hb hab => hl ?_⟩
    have hb : b = key := List.mem_singleton.1 hb
    rwa [← hb, ← hab]
  nodes e he := by
    rcases List.mem_append.1 he with he | he
    · exact h.nodes e he
    · exact List.mem_singleton.1 he ▸ hnode

theorem replace (h : es.Proper) (hnode : node.Proper) : (es.replace key node).Proper where
  keys := by
    have hkeys : (es.replace key node).map (·.1) = es.map (·.1) := by
      rw [Entries.replace, List.map_map]
      refine List.map_congr_left fun e _ => ?_
      by_cases he : e.1 = key <;> simp [he]
    rw [hkeys]
    exact h.keys
  nodes e he := by
    obtain ⟨e', he', rfl⟩ := List.mem_map.1 he
    by_cases hk : e'.1 = key
    · simpa [hk] using hnode
    · simpa [hk] using h.nodes e' he'

theorem without (h : es.Proper) (key : String) : (es.without key).Proper where
  keys := h.keys.sublist (List.filter_sublist.map _)
  nodes e he := h.nodes e (List.mem_filter.1 he).1

end Entries.Proper

theorem not_mem_without (es : Entries) (key : String) : key ∉ (es.without key).map (·.1) := by
  intro h
  obtain ⟨e, he, hkey⟩ := List.mem_map.1 h
  have hne := (List.mem_filter.1 he).2
  simp [hkey] at hne

/-- The change leaves proper entries proper. -/
def Change.Keeps (change : Change) : Prop :=
  ∀ origin es es', Entries.Proper es → change origin es = some es' → Entries.Proper es'

/-- **A change deep in a table leaves all tables proper** if it does so where it happens. -/
theorem Change.Keeps.changeAt {change : Change} (h : change.Keeps) (dotted : Bool) :
    ∀ path, (changeAt dotted change path).Keeps
  | [], origin, es, es', hes, hchange => h origin es es' hes hchange
  | key :: path, origin, es, es', hes, hchange => by
    have ih := Change.Keeps.changeAt h dotted path
    unfold Toml.changeAt at hchange
    cases hl : es.lookup key with
    | none =>
      rw [hl] at hchange
      obtain ⟨below, hbelow, rfl⟩ := Option.map_eq_some_iff.1 hchange
      have hproper := ih _ _ _ Entries.proper_nil hbelow
      exact hes.concat (lookup_eq_none_iff.1 hl) (Node.proper_table_iff.2 hproper)
    | some node =>
      have hnode := hes.lookup hl
      rw [hl] at hchange
      cases node with
      | value v => cases hchange
      | table origin below =>
        simp only at hchange
        split at hchange
        · cases hchange
        · obtain ⟨below', hbelow, rfl⟩ := Option.map_eq_some_iff.1 hchange
          have hproper := ih _ _ _ (Node.proper_table_iff.1 hnode) hbelow
          exact hes.replace (Node.proper_table_iff.2 hproper)
      | tables members =>
        have hmembers := Node.proper_tables_iff.1 hnode
        simp only at hchange
        cases hlast : members.getLast? with
        | none =>
          rw [hlast] at hchange
          cases hchange
        | some last =>
          rw [hlast] at hchange
          obtain ⟨last', hlast', rfl⟩ := Option.map_eq_some_iff.1 hchange
          have hproper := ih _ _ _ (hmembers last (List.mem_of_getLast? hlast)) hlast'
          refine hes.replace (Node.proper_tables_iff.2 fun es hmem => ?_)
          rcases List.mem_append.1 hmem with hmem | hmem
          · exact hmembers es ((List.dropLast_sublist members).subset hmem)
          · exact List.mem_singleton.1 hmem ▸ hproper

/-! ## 3. Assignments and sections -/

theorem Assignment.put_proper {a : Assignment} (ha : a.value.Proper) (hes : es.Proper)
    (h : a.put es = some es') : es'.Proper := by
  refine Change.Keeps.changeAt (fun origin es es' hes hchange => ?_) true a.path .header es es' hes
    h
  split at hchange
  · cases hchange
  · split at hchange
    · cases hchange
    · rename_i hfree
      cases hchange
      exact hes.concat (lookup_eq_none_iff.1 (Option.not_isSome_iff_eq_none.1 hfree)) (.value ha)

/-- What each of the steps keeps holds after all of them. -/
theorem foldlM_keeps {σ α : Type} {P : σ → Prop} {step : σ → α → Option σ} :
    ∀ {l : List α} {before after : σ},
      (∀ a ∈ l, ∀ s s', P s → step s a = some s' → P s') → P before →
        l.foldlM step before = some after → P after
  | [], _, _, _, hbefore, h => by
    cases h
    exact hbefore
  | a :: l, before, after, hstep, hbefore, h => by
    obtain ⟨ha, hl⟩ := List.forall_mem_cons.1 hstep
    obtain ⟨next, hnext, hrest⟩ := Option.bind_eq_some_iff.1 h
    exact foldlM_keeps hl (ha before next hbefore hnext) hrest

theorem putAll_proper {assignments : List Assignment} (ha : ∀ a ∈ assignments, a.value.Proper)
    (hes : es.Proper) (h : putAll assignments es = some es') : es'.Proper :=
  foldlM_keeps (fun a hmem _ _ hes hput => Assignment.put_proper (ha a hmem) hes hput) hes h

variable {assignments : List Assignment}

theorem openTable_proper (ha : ∀ a ∈ assignments, a.value.Proper) (hes : es.Proper)
    (h : openTable key assignments es = some es') : es'.Proper := by
  unfold openTable at h
  split at h
  · rename_i hl
    obtain ⟨t, ht, rfl⟩ := Option.map_eq_some_iff.1 h
    have hproper := putAll_proper ha Entries.proper_nil ht
    exact hes.concat (lookup_eq_none_iff.1 hl) (Node.proper_table_iff.2 hproper)
  · rename_i below hl
    obtain ⟨t, ht, rfl⟩ := Option.map_eq_some_iff.1 h
    have hproper := putAll_proper ha (Node.proper_table_iff.1 (hes.lookup hl)) ht
    exact (hes.without key).concat (not_mem_without es key) (Node.proper_table_iff.2 hproper)
  · cases h

theorem openMember_proper (ha : ∀ a ∈ assignments, a.value.Proper) (hes : es.Proper)
    (h : openMember key assignments es = some es') : es'.Proper := by
  unfold openMember at h
  split at h
  · rename_i hl
    obtain ⟨t, ht, rfl⟩ := Option.map_eq_some_iff.1 h
    have hproper := putAll_proper ha Entries.proper_nil ht
    refine hes.concat (lookup_eq_none_iff.1 hl) (Node.proper_tables_iff.2 fun es hmem => ?_)
    exact List.mem_singleton.1 hmem ▸ hproper
  · rename_i members hl
    obtain ⟨t, ht, rfl⟩ := Option.map_eq_some_iff.1 h
    have hproper := putAll_proper ha Entries.proper_nil ht
    refine hes.replace (Node.proper_tables_iff.2 fun es hmem => ?_)
    rcases List.mem_append.1 hmem with hmem | hmem
    · exact Node.proper_tables_iff.1 (hes.lookup hl) es hmem
    · exact List.mem_singleton.1 hmem ▸ hproper
  · cases h

theorem Section.add_proper {s : Section} (hs : ∀ a ∈ s.assignments, a.value.Proper)
    (hes : es.Proper) (h : s.add es = some es') : es'.Proper := by
  unfold Section.add at h
  cases hheader : s.header with
  | table path key =>
    rw [hheader] at h
    exact Change.Keeps.changeAt (fun _ _ _ hes hopen => openTable_proper hs hes hopen) false path
      .header es es' hes h
  | member path key =>
    rw [hheader] at h
    exact Change.Keeps.changeAt (fun _ _ _ hes hopen => openMember_proper hs hes hopen) false path
      .header es es' hes h

/-! ## 4. Finished values -/

theorem finishedEntries_eq : ∀ es : Entries,
    finishedEntries es = es.map fun e => (e.1, e.2.finished)
  | [] => rfl
  | (key, node) :: rest => by rw [finishedEntries, finishedEntries_eq rest, List.map_cons]

theorem finishedMembers_eq : ∀ members : List Entries,
    finishedMembers members = members.map fun es => .table (finishedEntries es)
  | [] => rfl
  | es :: rest => by rw [finishedMembers, finishedMembers_eq rest, List.map_cons]

theorem map_finishedEntries (es : Entries) : (finishedEntries es).map (·.1) = es.map (·.1) := by
  rw [finishedEntries_eq, List.map_map]
  rfl

theorem mem_finishedEntries {e : String × Value} (h : e ∈ finishedEntries es) :
    ∃ e' ∈ es, e.2 = e'.2.finished := by
  rw [finishedEntries_eq] at h
  obtain ⟨e', he', rfl⟩ := List.mem_map.1 h
  exact ⟨e', he', rfl⟩

/-- **What becomes of a proper node is proper.** -/
theorem Node.Proper.finished {node : Node} (h : node.Proper) : node.finished.Proper := by
  induction h with
  | value proper => exact proper
  | @table origin es keys proper ih =>
    rw [Node.finished]
    refine .table (map_finishedEntries es ▸ keys) fun e he => ?_
    obtain ⟨e', he', hvalue⟩ := mem_finishedEntries he
    exact hvalue ▸ ih e' he'
  | @tables members keys proper ih =>
    rw [Node.finished, finishedMembers_eq]
    refine .array fun v hv => ?_
    obtain ⟨es, hes, rfl⟩ := List.mem_map.1 hv
    refine .table (map_finishedEntries es ▸ keys es hes) fun e he => ?_
    obtain ⟨e', he', hvalue⟩ := mem_finishedEntries he
    exact hvalue ▸ ih es hes e' he'

theorem Entries.Proper.finished (h : es.Proper) : (Value.table (finishedEntries es)).Proper :=
  Node.Proper.finished (Node.proper_table_iff.2 h : (Node.table .header es).Proper)

/-! ## 5. Values of a document -/

open Reader

theorem yields_scalar (first : Char) : Yields Value.Proper (scalar first) := by
  have hnumeral : Yields Value.Proper numeral :=
    (yields_map .datetime).orElse ((yields_map .float).orElse (yields_map .integer))
  have htrue : Yields Value.Proper (do word ['t', 'r', 'u', 'e']; return .boolean true) :=
    yields_behind fun _ => yields_pure (.boolean true)
  have hfalse : Yields Value.Proper (do word ['f', 'a', 'l', 's', 'e']; return .boolean false) :=
    yields_behind fun _ => yields_pure (.boolean false)
  exact yields_ite (yields_map .string) (yields_ite (yields_map .string) (yields_ite htrue
    (yields_ite hfalse (yields_ite (yields_map .float) (yields_ite hnumeral yields_failure)))))

variable {value : Reader Value}

theorem yields_assignment (h : Yields Value.Proper value) :
    Yields (·.value.Proper) (assignment value) :=
  yields_behind fun _ => yields_behind fun _ => yields_behind fun _ => h.bind fun _ hv =>
    yields_behind fun _ => yields_pure hv

theorem yields_array (h : Yields Value.Proper value) :
    Yields (∀ v ∈ ·, v.Proper) (array value) := by
  have helement : Yields Value.Proper (do void; let v ← value; void; return v) :=
    yields_behind fun _ => h.bind fun _ hv => yields_behind fun _ => yields_pure hv
  have helements : Yields (∀ v ∈ ·, v.Proper) (do
      let elements ← separated ',' (do void; let v ← value; void; return v)
      let _ ← optional (char ',')
      return elements) :=
    (helement.separated ',').bind fun _ hvs => yields_behind fun _ => yields_pure hvs
  refine yields_behind fun _ => helements.optional.bind fun elements helements =>
    yields_behind fun _ => yields_behind fun _ => yields_pure fun v hv => ?_
  cases elements with
  | none => exact absurd hv List.not_mem_nil
  | some elements => exact helements elements rfl v hv

/-- An inline table is put together from its assignments. -/
theorem yields_inlineTable (h : Yields Value.Proper value) :
    Yields (fun entries => (Value.table entries).Proper) (inlineTable value) := by
  refine yields_behind fun _ => ((yields_assignment h).separated ',').optional.bind
    fun assignments hassignments => yields_behind fun _ => yields_behind fun _ => ?_
  intro s entries r hread
  obtain ⟨⟨es, t⟩, hput, hentries⟩ := Option.bind_eq_some_iff.1 hread
  cases hentries
  obtain ⟨es', hall, hlift⟩ := Option.bind_eq_some_iff.1 hput
  cases hlift
  refine (putAll_proper (fun a ha => ?_) Entries.proper_nil hall).finished
  cases assignments with
  | none => exact absurd ha List.not_mem_nil
  | some assignments => exact hassignments assignments rfl a ha

theorem yields_valueWithin : ∀ depth, Yields Value.Proper (valueWithin depth)
  | 0 => yields_behind fun first => yields_scalar first
  | depth + 1 => by
    have ih := yields_valueWithin depth
    have harray : Yields Value.Proper (do return .array (← array (valueWithin depth))) :=
      (yields_array ih).bind fun _ hvs => yields_pure (.array hvs)
    have htable : Yields Value.Proper (do return .table (← inlineTable (valueWithin depth))) :=
      (yields_inlineTable ih).bind fun _ hentries => yields_pure hentries
    exact yields_behind fun first => yields_ite harray (yields_ite htable (yields_scalar first))

/-! ## 6. Documents -/

/-- The line gives no improper value to a key. -/
def Line.Proper : Line → Prop
  | .assignment a => a.value.Proper
  | _ => True

theorem yields_line : Yields Line.Proper line := by
  have hcomment : Yields Line.Proper (do comment; lineEnd; return .blank) :=
    yields_behind fun _ => yields_behind fun _ => yields_pure trivial
  have hempty : Yields Line.Proper (do char '\n'; return .blank) :=
    yields_behind fun _ => yields_pure trivial
  have hheader : Yields Line.Proper (do let h ← header; lineRest; return .header h) :=
    yields_behind fun _ => yields_behind fun _ => yields_pure trivial
  have hassignment : Yields Line.Proper (do
      let a ← assignment value
      lineRest
      return .assignment a) :=
    (yields_assignment (yields_valueWithin _)).bind fun _ ha => yields_behind fun _ =>
      yields_pure ha
  have hfrom : ∀ first, Yields Line.Proper (lineFrom first) := fun _ =>
    yields_ite hcomment (yields_ite hempty (yields_ite hheader hassignment))
  exact yields_behind fun first => (hfrom first).bind fun _ hline => yields_behind fun _ =>
    yields_pure hline

theorem lines?_proper {text : List Char} {lines : List Line} (h : lines? text = some lines) :
    ∀ l ∈ lines, l.Proper := by
  obtain ⟨⟨read, r⟩, hread, rfl⟩ := Option.map_eq_some_iff.1 h
  have hdocument : Yields (∀ l ∈ ·, Line.Proper l)
      (do blanks; let read ← many line; atEnd; return read) :=
    yields_behind fun _ => yields_line.many.bind fun _ hlines => yields_behind fun _ =>
      yields_pure hlines
  exact hdocument _ read r hread

theorem sectionsOf_proper : ∀ {lines : List Line}, (∀ l ∈ lines, l.Proper) →
    (∀ a ∈ (sectionsOf lines).1, a.value.Proper) ∧
      ∀ s ∈ (sectionsOf lines).2, ∀ a ∈ s.assignments, a.value.Proper
  | [], _ => ⟨fun _ h => absurd h List.not_mem_nil, fun _ h => absurd h List.not_mem_nil⟩
  | l :: rest, h => by
    obtain ⟨hl, hrest⟩ := List.forall_mem_cons.1 h
    obtain ⟨hbefore, hsections⟩ := sectionsOf_proper hrest
    cases l with
    | blank => exact ⟨hbefore, hsections⟩
    | assignment a => exact ⟨List.forall_mem_cons.2 ⟨hl, hbefore⟩, hsections⟩
    | header header =>
      exact ⟨fun _ h => absurd h List.not_mem_nil, List.forall_mem_cons.2 ⟨hbefore, hsections⟩⟩

/-- **No table of a document has a key twice.** -/
theorem read?_proper {text : String} {root : List (String × Value)} (h : read? text = some root) :
    (Value.table root).Proper := by
  obtain ⟨lines, hlines, h⟩ := Option.bind_eq_some_iff.1 h
  obtain ⟨first, hput, h⟩ := Option.bind_eq_some_iff.1 h
  obtain ⟨es, hadd, h⟩ := Option.bind_eq_some_iff.1 h
  cases h
  obtain ⟨hbefore, hsections⟩ := sectionsOf_proper (lines?_proper hlines)
  have hfirst := putAll_proper hbefore Entries.proper_nil hput
  have hroot := foldlM_keeps (fun s hs _ _ hes hadd => Section.add_proper (hsections s hs) hes hadd)
    hfirst hadd
  exact hroot.finished

end ScriptHost.Toml

import ScriptHost.Command.Perform
import ScriptHost.Proofs.Command.Checking
import ScriptHost.Proofs.Manifest.Reading
import ScriptHost.Proofs.Report
import ScriptHost.Proofs.Text.Utf8

/-!
# Listings that are read back

A manifest that is listed as JSON is one line, and the line says the manifest.

* `Json.Value.toml?`: what a JSON value says in TOML. An entry of a listing is read from it by the
  reader of manifests, with the same names of fields and the same defaults.
* `Manifest.ofListing?`: the manifest that a listing says.
* `Manifest.Textual`: all paths have a text, which is what JSON can hold.
* `interpreterJson_said`, `scriptJson_said`: **an entry is written as a value that says the entry.**
* **`list_reads_back`**: the command that lists a manifest as JSON prints one line, and the manifest
  is read back from it.
-/

namespace ScriptHost

/-! ## 1. Reading a listing -/

namespace Json

mutual

/-- What the value says in TOML, which has no null. -/
def Value.toml? : Value → Option Toml.Value
  | .null => none
  | .bool b => some (.boolean b)
  | .number i => some (.integer i)
  | .string s => some (.string s)
  | .array elements => (elementsToml? elements).map .array
  | .object fields => (fieldsToml? fields).map .table

/-- What the elements say in TOML. -/
def elementsToml? : List Value → Option (List Toml.Value)
  | [] => some []
  | v :: rest => do return (← v.toml?) :: (← elementsToml? rest)

/-- What the fields say in TOML. -/
def fieldsToml? : List (String × Value) → Option (List (String × Toml.Value))
  | [] => some []
  | (name, v) :: rest => do return (name, ← v.toml?) :: (← fieldsToml? rest)

end

end Json

namespace Manifest

/-- The entries in the array of this name, read as those of a manifest are. -/
def entries? {α : Type} (read : Toml.Value → Except Fault α) (name : String) (v : Json.Value) :
    Option (List α) := do
  let said ← (← v.field? name).toml?
  (listed read said).toOption

/-- The manifest that a listing says. -/
def ofListing? (v : Json.Value) : Option Manifest := do
  let interpreters ← entries? interpreterEntry "interpreters" v
  let scripts ← entries? scriptEntry "scripts" v
  return ⟨interpreters, scripts⟩

/-- All paths of the manifest have a text. -/
structure Textual (m : Manifest) : Prop where
  interpreters : ∀ e ∈ m.interpreters, ∃ text, e.module = Path.ofString text
  scripts : ∀ e ∈ m.scripts, ∃ text, e.path = Path.ofString text

end Manifest

namespace Command

open Manifest (Fault)

/-! ## 2. Entries -/

/-- The entry is written as a value of scalars, and this value says the entry. -/
def Said {α : Type} (write : α → Option Json.Value) (read : Toml.Value → Except Fault α)
    (entry : α) : Prop :=
  ∃ v said, write entry = some v ∧ v.depth ≤ 1 ∧ v.toml? = some said ∧ read said = .ok entry

theorem text?_ofString (text : String) : (Path.ofString text).text? = some text :=
  Utf8.decode?_encode text

/-- **An interpreter is written as a value that says it.** -/
theorem interpreterJson_said {e : InterpreterEntry} {text : String}
    (h : e.module = Path.ofString text) : Said interpreterJson Manifest.interpreterEntry e := by
  let table : Manifest.Table := [("language", .string e.language), ("module", .string text)]
  have hwritten : Manifest.InterpreterWritten table e := ⟨rfl, text, rfl, h⟩
  have hkeys : (table.map (·.1)).Nodup := by
    show ["language", "module"].Nodup
    decide
  have hread : Manifest.interpreterEntry (.table table) = .ok e :=
    (Manifest.interpreterOfTable_eq_ok hkeys).2 hwritten
  have hwrite : interpreterJson e =
      some (.object [("language", .string e.language), ("module", .string text)]) := by
    rw [interpreterJson, h, text?_ofString, Option.map_some]
  exact ⟨_, .table table, hwrite, Nat.le_refl 1, rfl, hread⟩

/-- **A script is written as a value that says it.** -/
theorem scriptJson_said {e : ScriptEntry} {text : String} (h : e.path = Path.ofString text) :
    Said scriptJson Manifest.scriptEntry e := by
  let table : Manifest.Table := [("cache_in_memory", .boolean e.cached),
    ("id", .integer e.id.toNat), ("language", .string e.language), ("path", .string text),
    ("priority", .integer e.priority.toNat)]
  have hwritten : Manifest.ScriptWritten table e :=
    ⟨rfl, ⟨text, rfl, h⟩, rfl, .inl rfl, .inl rfl⟩
  have hkeys : (table.map (·.1)).Nodup := by
    show ["cache_in_memory", "id", "language", "path", "priority"].Nodup
    decide
  have hread : Manifest.scriptEntry (.table table) = .ok e :=
    (Manifest.scriptOfTable_eq_ok hkeys).2 hwritten
  have hwrite : scriptJson e = some (.object [("cache_in_memory", .bool e.cached),
      ("id", .number e.id.toNat), ("language", .string e.language), ("path", .string text),
      ("priority", .number e.priority.toNat)]) := by
    rw [scriptJson, h, text?_ofString, Option.map_some]
  exact ⟨_, .table table, hwrite, Nat.le_refl 1, rfl, hread⟩

/-- Entries are written one for one and in order, and are read back as such. -/
theorem mapM_said {α : Type} {write : α → Option Json.Value}
    {read : Toml.Value → Except Fault α} : ∀ {entries : List α},
    (∀ e ∈ entries, Said write read e) → ∃ values said, entries.mapM write = some values ∧
      Json.elementsDepth values ≤ 1 ∧ Json.elementsToml? values = some said ∧
      said.mapM read = .ok entries
  | [], _ => ⟨[], [], rfl, Nat.zero_le 1, rfl, rfl⟩
  | e :: rest, h => by
    obtain ⟨he, hrest⟩ := List.forall_mem_cons.1 h
    obtain ⟨v, said, hwrite, hdepth, htoml, hread⟩ := he
    obtain ⟨values, others, hwrites, hdepths, htomls, hreads⟩ := mapM_said hrest
    refine ⟨v :: values, said :: others, ?_, Nat.max_le.2 ⟨hdepth, hdepths⟩, ?_, ?_⟩
    · rw [List.mapM_cons, hwrite, hwrites]
      rfl
    · rw [Json.elementsToml?, htoml, htomls]
      rfl
    · rw [List.mapM_cons, hread, hreads]
      rfl

/-! ## 3. Listings -/

/-- **A manifest whose paths have a text is written as a value that says it.** -/
theorem listJson_said {m : Manifest} (h : m.Textual) :
    ∃ v, listJson m = some v ∧ v.depth ≤ 3 ∧ Manifest.ofListing? v = some m := by
  obtain ⟨is, isaid, hwrite, hdepth, htoml, hread⟩ := mapM_said fun e he =>
    (h.interpreters e he).elim fun _ => interpreterJson_said
  obtain ⟨ss, ssaid, hwrite', hdepth', htoml', hread'⟩ := mapM_said fun e he =>
    (h.scripts e he).elim fun _ => scriptJson_said
  refine ⟨.object [("interpreters", .array is), ("scripts", .array ss)], ?_, ?_, ?_⟩
  · rw [listJson, hwrite, hwrite']
    rfl
  · simp only [Json.Value.depth, Json.fieldsDepth]
    omega
  · have hinterpreters : Manifest.listed Manifest.interpreterEntry (.array isaid) =
      .ok m.interpreters := hread
    have hscripts : Manifest.listed Manifest.scriptEntry (.array ssaid) = .ok m.scripts := hread'
    simp only [Manifest.ofListing?, Manifest.entries?, Json.Value.field?, List.lookup_cons]
    simp [Json.Value.toml?, htoml, htoml', hinterpreters, hscripts, Except.toOption]

/-- **The listing of a manifest as JSON is one line**, which is a JSON text, and the manifest is read
back from it by the names and defaults of its own format: all entries in order, with all fields. It
is what every command prints that lists the manifest as JSON. -/
theorem list_reads_back {m : Manifest} (h : m.Textual) :
    ∃ (line : String) (v : Json.Value), (∀ c ∈ line.toList, 0x20 ≤ c.toNat) ∧
      Json.read? line = some v ∧ Manifest.ofListing? v = some m ∧
      ∀ (files : FileTree) (home : Path) (args : List String) (o : Options),
        Invocation.ofArguments args = .ok ⟨o, .list⟩ → o.json = true →
        manifest? files home o = some m → ∀ (backend : Backend) (conduct : Conduct),
          (perform files home args backend conduct).status = 0 ∧
            (perform files home args backend conduct).out = line ++ "\n" := by
  obtain ⟨v, hlist, hdepth, hread⟩ := listJson_said h
  have hplain : ∀ c ∈ v.write.toList, 0x20 ≤ c.toNat := by
    rw [Json.Value.write, String.toList_ofList]
    exact v.plain_text
  refine ⟨v.write, v, hplain, Json.read?_write (Nat.le_trans hdepth (by decide)), hread, ?_⟩
  intro files home args o hargs hjson hm backend conduct
  have hperform : perform files home args backend conduct = ⟨0, v.write ++ "\n", ""⟩ := by
    rw [perform_of_manifest hargs hm]
    simp only [performAction, performList, hjson, hlist, if_true]
  rw [hperform]
  exact ⟨rfl, rfl⟩

/-- Entries that are there twice, a path with a line break in it, and fields that are not written in
the manifest. -/
theorem list_reads_back_doubled :
    let home := Path.ofString "home"
    let m : Manifest := ⟨[⟨"A", Path.ofString "a.so"⟩, ⟨"A", Path.ofString "a.so"⟩],
      [⟨7, Path.ofString "s\nt", "A", false, 0⟩]⟩
    let files := (FileTree.empty []).write Manifest.fileName (.file (Utf8.encode
      ("interpreter = [[\"A\", \"a.so\"], [\"A\", \"a.so\"]]\n" ++
        "script = [[7, \"s\\nt\", \"A\"]]")))
    m.Textual ∧ Invocation.ofArguments ["--json", "list"] = .ok ⟨⟨none, true⟩, .list⟩ ∧
      manifest? files home ⟨none, true⟩ = some m ∧
      ∃ line v, (∀ c ∈ line.toList, 0x20 ≤ c.toNat) ∧ Json.read? line = some v ∧
        Manifest.ofListing? v = some m ∧
        (perform files home ["--json", "list"]).out = line ++ "\n" := by
  intro home m files
  have htextual : m.Textual := by
    constructor
    · exact List.forall_mem_cons.2 ⟨⟨_, rfl⟩, List.forall_mem_singleton.2 ⟨_, rfl⟩⟩
    · exact List.forall_mem_singleton.2 ⟨_, rfl⟩
  have hargs : Invocation.ofArguments ["--json", "list"] = .ok ⟨⟨none, true⟩, .list⟩ := rfl
  have hm : manifest? files home ⟨none, true⟩ = some m := by decide +kernel
  obtain ⟨line, v, hplain, hline, hread, hperform⟩ := list_reads_back htextual
  exact ⟨htextual, hargs, hm, line, v, hplain, hline, hread,
    (hperform files home _ _ hargs rfl hm .dynamic Conduct.idle).2⟩

end Command

end ScriptHost

import Mathlib
import ScriptHost.Manifest.Basic
import ScriptHost.Proofs.Path.Joining

/-!
# Resolved manifests

To resolve a manifest is to see its paths from a base. Nothing else in it changes.

* `FileTree.parent?_of_readText`: a path that leads to a text has a parent.
* `Manifest.resolve_resolve`: **resolving against one base and then against another is resolving
  against both joined.**
* `Manifest.SeenFrom`: what resolving does to the entries, one for one and in order.
* `Manifest.ofFile_eq_map`: **the manifest of a file is what the text says, resolved once**, against
  the directory of the file.
* `Manifest.resolution`: all of it together.
-/

namespace ScriptHost

/-! ## 1. Files and their directories -/

namespace FileTree

variable {t : FileTree} {p : Path} {location : Location}

/-- What is read as a text is a file. -/
theorem file_of_readText {text : String} (h : t.readText p = .ok text) :
    ∃ location content, t.locate p = .ok location ∧ t.node? location = some (.file content) := by
  unfold readText nodeAt at h
  cases hl : t.locate p with
  | error e =>
    rw [hl] at h
    cases h
  | ok location =>
    rw [hl] at h
    simp only at h
    cases hn : t.node? location with
    | none =>
      rw [hn] at h
      cases h
    | some node =>
      cases node with
      | file content => exact ⟨location, content, rfl, hn⟩
      | library declaration =>
        rw [hn] at h
        cases h
      | directory =>
        rw [hn] at h
        cases h

/-- A path that leads anywhere is neither empty nor too long, and is walked segment by segment. -/
theorem walkAll_of_locate (h : t.locate p = .ok location) :
    p.bytes ≠ [] ∧ t.walkAll (t.start p) p.segments = .ok location := by
  unfold locate at h
  split at h
  · cases h
  · split at h
    · cases h
    · next hempty =>
      split at h
      · cases h
      · exact ⟨fun he => hempty (List.isEmpty_iff.2 he), h⟩

/-- The root leads to a directory, however it is spelled. -/
theorem directory_of_root (hroot : p.components = [.root]) (h : t.locate p = .ok location) :
    t.node? location = some .directory := by
  have habsolute : p.isAbsolute = true := Path.root_mem_components.1 (hroot ▸ List.mem_cons_self)
  have hsteps : p.steps = [] := by
    rw [← Path.filterMap_components, hroot]
    rfl
  have hreach : t.reach p = .ok [] := by
    rw [reach, hsteps, start, habsolute]
    rfl
  have hwalk := (walkAll_of_locate h).2
  have hd : t.node? [] = some .directory := rfl
  rw [walkAll_segments, hreach, directoryOnly, if_pos hd, ite_self] at hwalk
  cases hwalk
  exact hd

/-- **A path that leads to a text has a parent.** -/
theorem parent?_of_readText {text : String} (h : t.readText p = .ok text) :
    ∃ directory, p.parent? = some directory ∧
      directory.components = p.components.dropLast := by
  obtain ⟨location, content, hl, hn⟩ := file_of_readText h
  rcases p.components_parent? with hparent | ⟨-, hnone | hroot⟩
  · exact hparent
  · exact absurd (Path.components_eq_nil_iff.1 hnone) (walkAll_of_locate hl).1
  · rw [directory_of_root hroot hl] at hn
    cases hn

end FileTree

/-! ## 2. Entries -/

/-- The second entry is the first one, seen from the base. -/
structure InterpreterEntry.SeenFrom (base : Path) (e e' : InterpreterEntry) : Prop where
  language : e'.language = e.language
  module : e'.module = base.join e.module
  /-- An absolute path is the same from everywhere. -/
  kept : e.module.isAbsolute = true → e' = e

/-- The second entry is the first one, seen from the base. -/
structure ScriptEntry.SeenFrom (base : Path) (e e' : ScriptEntry) : Prop where
  id : e'.id = e.id
  path : e'.path = base.join e.path
  language : e'.language = e.language
  cached : e'.cached = e.cached
  priority : e'.priority = e.priority
  /-- An absolute path is the same from everywhere. -/
  kept : e.path.isAbsolute = true → e' = e

namespace Manifest

/-- The entries of the second manifest are those of the first one, one for one and in order, seen
from the base. -/
structure SeenFrom (base : Path) (m m' : Manifest) : Prop where
  interpreters : List.Forall₂ (InterpreterEntry.SeenFrom base) m.interpreters m'.interpreters
  scripts : List.Forall₂ (ScriptEntry.SeenFrom base) m.scripts m'.scripts

/-- All paths of the manifest are absolute. -/
structure Absolute (m : Manifest) : Prop where
  interpreters : ∀ e ∈ m.interpreters, e.module.isAbsolute = true
  scripts : ∀ e ∈ m.scripts, e.path.isAbsolute = true

/-! ## 3. Resolving -/

theorem resolve_seenFrom (m : Manifest) (base : Path) : SeenFrom base m (m.resolve base) := by
  constructor
  · show List.Forall₂ _ _ (m.interpreters.map _)
    rw [List.forall₂_map_right_iff, List.forall₂_same]
    exact fun e _ => ⟨rfl, rfl, fun h => by rw [Path.join_of_isAbsolute h]⟩
  · show List.Forall₂ _ _ (m.scripts.map _)
    rw [List.forall₂_map_right_iff, List.forall₂_same]
    exact fun e _ => ⟨rfl, rfl, rfl, rfl, rfl, fun h => by rw [Path.join_of_isAbsolute h]⟩

/-- **Resolving against one base and then against another is resolving against both joined.** -/
theorem resolve_resolve (m : Manifest) (inner outer : Path) :
    (m.resolve inner).resolve outer = m.resolve (outer.join inner) := by
  simp only [resolve, List.map_map, Function.comp_def, Path.join_join]

/-- The empty base changes nothing. -/
theorem resolve_empty (m : Manifest) : m.resolve ⟨[]⟩ = m := by
  simp only [resolve, Path.empty_join, List.map_id']

theorem absolute_resolve (m : Manifest) {base : Path} (h : base.isAbsolute = true) :
    (m.resolve base).Absolute := by
  constructor
  · refine List.forall_mem_map.2 fun e _ => ?_
    rw [Path.isAbsolute_join, h, Bool.or_true]
  · refine List.forall_mem_map.2 fun e _ => ?_
    rw [Path.isAbsolute_join, h, Bool.or_true]

/-! ## 4. Manifests of files -/

/-- **The manifest of a file is what its text says, resolved against the directory of the file.** -/
theorem ofFile_eq_map {files : FileTree} {path directory : Path} {text : String}
    (hread : files.readText path = .ok text) (hparent : path.parent? = some directory) :
    ofFile files path = (parse text).map (·.resolve directory) := by
  simp only [ofFile, hread, hparent]
  cases parse text <;> rfl

/-- The manifest of a file that is named without a directory is what its text says. -/
theorem ofFile_bare {files : FileTree} {path directory : Path} {text : String}
    (hread : files.readText path = .ok text) (hparent : path.parent? = some directory)
    (hcomponents : directory.components = path.components.dropLast)
    (hbare : Path.slash ∉ path.bytes) : directory = ⟨[]⟩ ∧ ofFile files path = parse text := by
  obtain ⟨location, -, hl, -⟩ := FileTree.file_of_readText hread
  obtain ⟨c, hc⟩ := Path.components_bare hbare (FileTree.walkAll_of_locate hl).1
  have hempty : directory = ⟨[]⟩ := by
    rw [hc] at hcomponents
    exact congrArg Path.mk (Path.components_eq_nil_iff.1 hcomponents)
  refine ⟨hempty, ?_⟩
  rw [ofFile_eq_map hread hparent, hempty]
  cases parse text with
  | error e => rfl
  | ok m => rw [Except.map, resolve_empty]

/-- **Resolving is seeing paths from a base.** Against one base and then another, it comes to
resolving against both joined, path for path as spelled. An absolute base makes all paths absolute,
and then a second time changes nothing. The entries stay, with all that is not a path. The manifest
of a file is what its text says, resolved once against the directory of the file; that is the empty
path where the file is named without one. -/
theorem resolution :
    (∀ m : Manifest,
      (∀ inner outer, (m.resolve inner).resolve outer = m.resolve (outer.join inner)) ∧
      (∀ base, SeenFrom base m (m.resolve base)) ∧
      ∀ base, base.isAbsolute = true →
        (m.resolve base).resolve base = m.resolve base ∧ (m.resolve base).Absolute) ∧
    ∀ (files : FileTree) (path : Path) (text : String), files.readText path = .ok text →
      ∃ directory, path.parent? = some directory ∧
        directory.components = path.components.dropLast ∧
        ofFile files path = (parse text).map (·.resolve directory) ∧
        (Path.slash ∉ path.bytes → directory = ⟨[]⟩ ∧ ofFile files path = parse text) := by
  refine ⟨fun m => ⟨resolve_resolve m, resolve_seenFrom m, fun base h => ⟨?_, absolute_resolve m h⟩⟩,
    fun files path text hread => ?_⟩
  · rw [resolve_resolve, Path.join_of_isAbsolute h]
  · obtain ⟨directory, hparent, hcomponents⟩ := FileTree.parent?_of_readText hread
    exact ⟨directory, hparent, hcomponents, ofFile_eq_map hread hparent,
      ofFile_bare hread hparent hcomponents⟩

/-- A relative and an absolute path, against an absolute base and in a file of a directory. -/
theorem resolution_nested :
    let m : Manifest := ⟨[⟨"E", Path.ofString "/e.so"⟩], [⟨1, Path.ofString "s", "E", true, 0⟩]⟩
    let text := "script=[[1,\"s\",\"E\",true]]\ninterpreter=[[\"E\",\"/e.so\"]]"
    let path := Path.ofString "d//m"
    let files := (FileTree.empty []).write path (.file (Utf8.encode text))
    let base := Path.ofString "/b"
    base.isAbsolute = true ∧ (m.resolve base).resolve base = m.resolve base ∧
      (m.resolve base).Absolute ∧ files.readText path = .ok text ∧ parse text = .ok m ∧
      ofFile files path =
        .ok ⟨[⟨"E", Path.ofString "/e.so"⟩], [⟨1, Path.ofString "d/s", "E", true, 0⟩]⟩ := by
  intro m text path files base
  have hbase : base.isAbsolute = true := rfl
  have hread : files.readText path = .ok text := by decide +kernel
  have hparse : parse text = .ok m := by cbv
  obtain ⟨hmanifests, hfiles⟩ := resolution
  obtain ⟨hagain, habsolute⟩ := (hmanifests m).2.2 base hbase
  obtain ⟨directory, hparent, -, hfile, -⟩ := hfiles files path text hread
  have hdirectory : path.parent? = some (Path.ofString "d") := by decide +kernel
  cases Option.some.inj (hparent.symm.trans hdirectory)
  refine ⟨hbase, hagain, habsolute, hread, hparse, ?_⟩
  rw [hfile, hparse]
  rfl

end Manifest

end ScriptHost

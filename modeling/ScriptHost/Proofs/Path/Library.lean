import ScriptHost.Path.Library
import ScriptHost.Proofs.Path.Spelling
import ScriptHost.Proofs.Text.Numeral
import ScriptHost.Proofs.Text.Utf8

/-!
# The form of the paths of libraries

A path is taken for that of a library if its last component is a name of a certain form.

* `Versioned`: the form of the name, a stem, an extension and any number of version groups.
  `isLibraryName_iff`: **the names of libraries are those of this form.**
* `EndsWith`: the last component is a name, said of the bytes. `getLast?_components_eq_name_iff`:
  **it is the same for the components.**
* **`isLoadable_iff`**: both for paths.
-/

namespace ScriptHost.Path

open Numeral (Digits)

/-! ## 1. Parts of a name -/

theorem isVersion_iff {part : List Char} : isVersion part = true ↔ Digits part := by
  have hdigit : ∀ c : Char, c.isDigit = true ↔ '0' ≤ c ∧ c ≤ '9' := by
    intro c
    simp [Char.isDigit, Char.le_def]
  simp only [isVersion, Bool.and_eq_true, Bool.not_eq_true', List.isEmpty_eq_false_iff,
    List.all_eq_true, hdigit]
  rfl

/-- The extension, in capital or small letters. -/
def extensions : List (List Char) := [['s', 'o'], ['s', 'O'], ['S', 'o'], ['S', 'O']]

theorem toNat_toLower (c : Char) :
    c.toLower.toNat = if 65 ≤ c.toNat ∧ c.toNat ≤ 90 then c.toNat + 32 else c.toNat := by
  have hrange : c.val ≥ 'A'.val ∧ c.val ≤ 'Z'.val ↔ 65 ≤ c.toNat ∧ c.toNat ≤ 90 := by
    simp only [ge_iff_le, UInt32.le_iff_toNat_le]
    rfl
  unfold Char.toLower
  split
  · next h =>
    have hc := hrange.1 h
    rw [if_pos hc]
    show (c.val + ('a'.val - 'A'.val)).toNat = c.toNat + 32
    rw [UInt32.toNat_add]
    exact Nat.mod_eq_of_lt (show c.toNat + 32 < _ by omega)
  · next h => rw [if_neg fun hc => h (hrange.2 hc)]

/-- A small letter is what its capital and itself are in small. -/
theorem toLower_eq_iff {c small capital : Char} (hcapital : 65 ≤ capital.toNat ∧ capital.toNat ≤ 90)
    (hsmall : small.toNat = capital.toNat + 32) : c.toLower = small ↔ c = small ∨ c = capital := by
  rw [← Char.toNat_inj, ← Char.toNat_inj, ← Char.toNat_inj, toNat_toLower]
  split <;> omega

theorem isLibraryExtension_iff {part : List Char} :
    isLibraryExtension part = true ↔ part ∈ extensions := by
  have hs : ∀ c : Char, c.toLower = 's' ↔ c = 's' ∨ c = 'S' := fun c =>
    toLower_eq_iff (by decide) (by decide)
  have ho : ∀ c : Char, c.toLower = 'o' ↔ c = 'o' ∨ c = 'O' := fun c =>
    toLower_eq_iff (by decide) (by decide)
  rw [isLibraryExtension, beq_iff_eq, extensions]
  constructor
  · intro h
    obtain ⟨first, rest, rfl, hfirst, hrest⟩ := List.map_eq_cons_iff.1 h
    obtain ⟨second, rest, rfl, hsecond, hrest⟩ := List.map_eq_cons_iff.1 hrest
    obtain rfl := List.map_eq_nil_iff.1 hrest
    rcases (hs first).1 hfirst with rfl | rfl <;> rcases (ho second).1 hsecond with rfl | rfl <;>
      simp
  · intro h
    simp only [List.mem_cons, List.not_mem_nil, or_false] at h
    rcases h with rfl | rfl | rfl | rfl <;> decide

/-! ## 2. Names -/

/-- The version groups are taken off the end. -/
theorem dropVersions_append {rest : List (List Char)} (hrest : rest ≠ []) :
    ∀ {versions : List (List Char)}, (∀ part ∈ versions, Digits part) →
      dropVersions (versions ++ rest) = dropVersions rest
  | [], _ => rfl
  | last :: versions, h => by
    have hlast := isVersion_iff.2 (h last List.mem_cons_self)
    have ih := dropVersions_append hrest fun part hpart => h part (List.mem_cons_of_mem last hpart)
    obtain ⟨before, others, hbefore⟩ :=
      List.exists_cons_of_ne_nil (List.append_ne_nil_of_right_ne_nil versions hrest)
    rw [← ih, List.cons_append, hbefore, dropVersions, if_pos hlast]

/-- Nothing else is taken off. -/
theorem exists_versions : ∀ parts : List (List Char),
    ∃ versions, (∀ part ∈ versions, Digits part) ∧ parts = versions ++ dropVersions parts
  | [] => ⟨[], by simp, rfl⟩
  | [last] => ⟨[], by simp, rfl⟩
  | last :: before :: rest => by
    unfold dropVersions
    split
    · next hlast =>
      obtain ⟨versions, hversions, hparts⟩ := exists_versions (before :: rest)
      refine ⟨last :: versions, List.forall_mem_cons.2 ⟨isVersion_iff.1 hlast, hversions⟩, ?_⟩
      rw [List.cons_append, ← hparts]
    · exact ⟨[], by simp, rfl⟩

/-- The name is a stem, an extension of libraries and version groups, with a dot between each
two. -/
structure Versioned (name stem extension : List Char) (groups : List (List Char)) : Prop where
  name_eq : name = stem ++ '.' :: extension ++ groups.flatMap ('.' :: ·)
  stem_ne_nil : stem ≠ []
  extension_mem : extension ∈ extensions
  digits : ∀ group ∈ groups, Digits group

/-- Neither an extension nor a version group holds a dot. -/
theorem Versioned.not_mem_dot {name stem extension : List Char} {groups : List (List Char)}
    (h : Versioned name stem extension groups) : ∀ part ∈ extension :: groups, '.' ∉ part := by
  intro part hpart hdot
  rcases List.mem_cons.1 hpart with rfl | hgroup
  · exact absurd hdot (by
      have := h.extension_mem
      simp only [extensions, List.mem_cons, List.not_mem_nil, or_false] at this
      rcases this with rfl | rfl | rfl | rfl <;> decide)
  · exact absurd ((h.digits part hgroup).2 '.' hdot).1 (by decide)

/-- The parts of a name of the form. -/
theorem Versioned.split_eq {name stem extension : List Char} {groups : List (List Char)}
    (h : Versioned name stem extension groups) :
    Text.split '.' name = Text.split '.' stem ++ extension :: groups := by
  have hname : name = stem ++ '.' :: Text.joined '.' (extension :: groups) := by
    rw [h.name_eq, Text.joined_cons, List.append_assoc]
    rfl
  rw [hname, Text.split_append, Text.split_joined (List.cons_ne_nil _ _) h.not_mem_dot]

/-- An extension is no version group. -/
theorem dropVersions_extension {extension : List Char} (h : extension ∈ extensions)
    (before : List (List Char)) : dropVersions (extension :: before) = extension :: before := by
  have hversion : ¬ isVersion extension = true := by
    simp only [extensions, List.mem_cons, List.not_mem_nil, or_false] at h
    rcases h with rfl | rfl | rfl | rfl <;> decide
  cases before with
  | nil => rfl
  | cons part rest => rw [dropVersions, if_neg hversion]

theorem joined_eq_nil {sep : Char} {parts : List (List Char)} (h : Text.joined sep parts = []) :
    parts = [] ∨ parts = [[]] := by
  cases parts with
  | nil => exact .inl rfl
  | cons part rest =>
    rw [Text.joined_cons, List.append_eq_nil_iff] at h
    obtain ⟨rfl, hrest⟩ := h
    cases rest with
    | nil => exact .inr rfl
    | cons next rest => cases hrest

/-- A name with such parts is of the form. -/
theorem Versioned.of_split {name extension : List Char} {before groups : List (List Char)}
    (hsplit : Text.split '.' name = before ++ extension :: groups) (hbefore : before ≠ [])
    (hempty : before ≠ [[]]) (hextension : extension ∈ extensions)
    (hgroups : ∀ group ∈ groups, Digits group) :
    Versioned name (Text.joined '.' before) extension groups where
  name_eq := by
    rw [← Text.joined_split '.' name, hsplit, Text.joined_append '.' hbefore (List.cons_ne_nil _ _),
      Text.joined_cons, List.append_assoc]
    rfl
  stem_ne_nil hstem := by
    rcases joined_eq_nil hstem with hnil | hnil
    · exact hbefore hnil
    · exact hempty hnil
  extension_mem := hextension
  digits := hgroups

/-- **The names of libraries are those of the form.** -/
theorem isLibraryName_iff {name : List Char} : isLibraryName name = true ↔
    ∃ stem extension groups, Versioned name stem extension groups := by
  unfold isLibraryName
  constructor
  · intro h
    obtain ⟨versions, hversions, hparts⟩ := exists_versions (Text.split '.' name).reverse
    split at h
    · next last before hdrop =>
      simp only [Bool.and_eq_true, bne_iff_ne] at h
      obtain ⟨⟨hlast, hbefore⟩, hempty⟩ := h
      rw [hdrop, List.reverse_eq_iff] at hparts
      have hsplit : Text.split '.' name = before.reverse ++ last :: versions.reverse := by
        simpa using hparts
      exact ⟨_, _, _, .of_split hsplit (by simpa using hbefore)
        (fun hnil => hempty (by simpa using congrArg List.reverse hnil))
        (isLibraryExtension_iff.1 hlast)
        fun group hgroup => hversions group (List.mem_reverse.1 hgroup)⟩
    · cases h
  · rintro ⟨stem, extension, groups, h⟩
    have hreverse : (Text.split '.' name).reverse =
        groups.reverse ++ extension :: (Text.split '.' stem).reverse := by
      rw [h.split_eq]
      simp
    have hgroups : ∀ part ∈ groups.reverse, Digits part := fun part hpart =>
      h.digits part (List.mem_reverse.1 hpart)
    have hempty : Text.split '.' stem ≠ [[]] := by
      intro hsplit
      have hstem := Text.joined_split '.' stem
      rw [hsplit] at hstem
      exact h.stem_ne_nil hstem.symm
    rw [hreverse, dropVersions_append (List.cons_ne_nil _ _) hgroups,
      dropVersions_extension h.extension_mem]
    simp [isLibraryExtension_iff.2 h.extension_mem, Text.split_ne_nil, hempty]

/-! ## 3. Last components -/

variable {p : Path} {name : List UInt8}

/-- The bytes can be the name of an entry. -/
structure IsName (name : List UInt8) : Prop where
  not_mem : slash ∉ name
  ne_nil : name ≠ []
  ne_dot : name ≠ dot
  ne_dotDot : name ≠ dotDot

/-- The path ends with the name, but for slashes and dots that name no step. -/
structure EndsIn (p : Path) (name front : List UInt8) (idle : List (List UInt8)) : Prop where
  isName : IsName name
  bytes_eq : p.bytes = front ++ name ++ idle.flatMap (slash :: ·)
  /-- The name begins the path or follows a slash. -/
  front_ends : front = [] ∨ front.getLast? = some slash
  idle_segments : ∀ segment ∈ idle, segment = [] ∨ segment = dot

theorem ofSegment?_eq_none_iff {segment : List UInt8} :
    Component.ofSegment? segment = none ↔ segment = [] ∨ segment = dot := by
  rw [← isIdle_iff, Component.ofSegment?]
  split
  · simp_all
  · split <;> simp_all

theorem ofSegment?_eq_name_iff {segment : List UInt8} :
    Component.ofSegment? segment = some (.name name) ↔
      segment = name ∧ name ≠ [] ∧ name ≠ dot ∧ name ≠ dotDot := by
  unfold Component.ofSegment?
  split
  · next h =>
    rw [isIdle_iff] at h
    constructor
    · intro h
      cases h
    · rintro ⟨rfl, hnil, hdot, -⟩
      exact absurd h (not_or.2 ⟨hnil, hdot⟩)
  · next h =>
    rw [isIdle_iff, not_or] at h
    split
    · next hdots =>
      constructor
      · intro h
        cases h
      · rintro ⟨rfl, -, -, hne⟩
        exact absurd hdots hne
    · next hdots =>
      constructor
      · intro h
        cases h
        exact ⟨rfl, h.1, h.2, hdots⟩
      · rintro ⟨rfl, -⟩
        rfl

/-- The last step that segments name is a name if nothing but what names no step is behind it. -/
theorem getLast?_ofSegments {segments : List (List UInt8)} :
    (Component.ofSegments segments).getLast? = some (.name name) ↔
      (name ≠ [] ∧ name ≠ dot ∧ name ≠ dotDot) ∧ ∃ before idle,
        segments = before ++ name :: idle ∧ ∀ segment ∈ idle, segment = [] ∨ segment = dot := by
  rw [Component.ofSegments, List.getLast?_filterMap, List.findSome?_eq_some_iff]
  constructor
  · rintro ⟨idle, segment, before, hsegments, hname, hidle⟩
    obtain ⟨rfl, hproper⟩ := ofSegment?_eq_name_iff.1 hname
    refine ⟨hproper, before.reverse, idle.reverse, ?_, fun s hs =>
      ofSegment?_eq_none_iff.1 (hidle s (List.mem_reverse.1 hs))⟩
    rw [← List.reverse_reverse segments, hsegments]
    simp
  · rintro ⟨hproper, before, idle, rfl, hidle⟩
    refine ⟨idle.reverse, name, before.reverse, by simp, ofSegment?_eq_name_iff.2 ⟨rfl, hproper⟩,
      fun s hs => ofSegment?_eq_none_iff.2 (hidle s (List.mem_reverse.1 hs))⟩

theorem getLast?_components : p.components.getLast? = some (.name name) ↔
    (Component.ofSegments p.segments).getLast? = some (.name name) := by
  have hbeginning : p.beginning.getLast? ≠ some (.name name) := by
    unfold beginning
    split
    · simp
    · split <;> simp
  rw [components_eq, List.getLast?_append]
  cases (Component.ofSegments p.segments).getLast? with
  | none => simpa using hbeginning
  | some c => simp

/-- The segments of a path that ends with the name. -/
theorem exists_segments_iff {idle : List (List UInt8)} (hname : slash ∉ name)
    (hidle : ∀ segment ∈ idle, segment = [] ∨ segment = dot) :
    (∃ before, p.segments = before ++ name :: idle) ↔
      ∃ front, p.bytes = front ++ name ++ idle.flatMap (slash :: ·) ∧
        (front = [] ∨ front.getLast? = some slash) := by
  constructor
  · rintro ⟨before, hsegments⟩
    have hbytes : Text.joined slash p.segments = p.bytes := Text.joined_split slash p.bytes
    rw [hsegments] at hbytes
    by_cases hbefore : before = []
    · subst hbefore
      exact ⟨[], by rw [← hbytes, List.nil_append, Text.joined_cons, List.nil_append], .inl rfl⟩
    · refine ⟨Text.joined slash before ++ [slash], ?_, .inr List.getLast?_concat⟩
      rw [← hbytes, Text.joined_append slash hbefore (List.cons_ne_nil _ _), Text.joined_cons]
      simp only [List.append_assoc, List.cons_append, List.nil_append]
  · rintro ⟨front, hbytes, hfront⟩
    have hparts : ∀ part ∈ name :: idle, slash ∉ part := by
      refine List.forall_mem_cons.2 ⟨hname, fun segment hsegment => ?_⟩
      rcases hidle segment hsegment with rfl | rfl <;> decide
    rw [List.append_assoc, ← Text.joined_cons] at hbytes
    have hsplit := Text.split_joined (List.cons_ne_nil name idle) hparts
    rcases hfront with rfl | hlast
    · exact ⟨[], by rw [segments, hbytes, List.nil_append, hsplit, List.nil_append]⟩
    · obtain ⟨f, rfl⟩ := List.getLast?_eq_some_iff.1 hlast
      refine ⟨Text.split slash f, ?_⟩
      rw [segments, hbytes, List.append_assoc, List.singleton_append, Text.split_append, hsplit]

/-- **The last component is a name if the path ends with the name.** -/
theorem getLast?_components_eq_name_iff : p.components.getLast? = some (.name name) ↔
    ∃ front idle, EndsIn p name front idle := by
  rw [getLast?_components, getLast?_ofSegments]
  constructor
  · rintro ⟨⟨hnil, hdot, hdots⟩, before, idle, hsegments, hidle⟩
    have hname : slash ∉ name := Text.not_mem_of_mem_split slash p.bytes name
      (show name ∈ p.segments by rw [hsegments]; simp)
    obtain ⟨front, hbytes, hfront⟩ := (exists_segments_iff hname hidle).1 ⟨before, hsegments⟩
    exact ⟨front, idle, ⟨hname, hnil, hdot, hdots⟩, hbytes, hfront, hidle⟩
  · rintro ⟨front, idle, ⟨hname, hnil, hdot, hdots⟩, hbytes, hfront, hidle⟩
    obtain ⟨before, hsegments⟩ := (exists_segments_iff hname hidle).2 ⟨front, hbytes, hfront⟩
    exact ⟨⟨hnil, hdot, hdots⟩, before, idle, hsegments, hidle⟩

/-! ## 4. Paths -/

theorem fileName?_eq_some_iff : p.fileName? = some name ↔
    p.components.getLast? = some (.name name) := by
  unfold fileName?
  cases p.components.getLast? with
  | none => simp
  | some c => cases c <;> simp

/-- **The paths of libraries are those whose last component is a name, and the name a text of the
form.** The last component is read off the bytes. -/
theorem isLoadable_iff (p : Path) :
    (p.isLoadable = true ↔ ∃ (name : String) (stem extension : List Char)
      (groups : List (List Char)), p.components.getLast? = some (.name (Utf8.encode name)) ∧
        Versioned name.toList stem extension groups) ∧
    ∀ name, p.components.getLast? = some (.name name) ↔ ∃ front idle, EndsIn p name front idle := by
  refine ⟨?_, fun name => getLast?_components_eq_name_iff⟩
  unfold isLoadable
  constructor
  · intro h
    split at h
    · next name hname =>
      obtain ⟨bytes, hbytes, htext⟩ := Option.bind_eq_some_iff.1 hname
      obtain rfl := Utf8.decode?_eq_some_iff.1 htext
      obtain ⟨stem, extension, groups, hform⟩ := isLibraryName_iff.1 h
      exact ⟨name, stem, extension, groups, fileName?_eq_some_iff.1 hbytes, hform⟩
    · cases h
  · rintro ⟨name, stem, extension, groups, hlast, hform⟩
    rw [fileName?_eq_some_iff.2 hlast, Option.bind_some, Utf8.decode?_encode]
    exact isLibraryName_iff.2 ⟨stem, extension, groups, hform⟩

/-- The stem may hold version groups, a dot at the beginning and the extension. -/
example : (ofString "/opt/./.1.so.2.So.030.1//.").isLoadable = true := by decide +kernel

/-- A stem that is empty, a group without digits and a step to the directory above. -/
example : [".so", ".so.1", "a.so.", "a.so..1", "a.so/.."].all
    (fun spelling => !(ofString spelling).isLoadable) = true := by
  decide +kernel

end ScriptHost.Path

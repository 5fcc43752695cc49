import ScriptHost.FileTree

/-!
# Spellings of a path in a file tree

Alike paths name the same steps, but not always the same file: a spelling that ends with a slash or
with a `.` behind one leads to a directory only, and a spelling may be too long.

* `Path.steps`: the segments that are steps. Alike paths have the same ones and begin at the same
  place (`Path.steps_eq_of_alike`, `Path.isAbsolute_eq_of_alike`).
* `FileTree.walkAll_eq`: idle segments do nothing but ask for a directory, and of those only the
  last one asks for more than the next step does.
* **`FileTree.locate_eq`**: alike paths lead to the same place, or to the same error, if both
  spellings are too long or neither is, and if both ask for a directory or neither leads to a file.
-/

namespace ScriptHost

/-! ## 1. Steps -/

namespace Path

/-- The segment that names the step. -/
def Component.segment? : Component → Option (List UInt8)
  | .root | .current => none
  | .parent => some dotDot
  | .name bytes => some bytes

/-- The segments that are steps. -/
def steps (p : Path) : List (List UInt8) := p.segments.filter (!isIdle ·)

/-- The path ends with something idle, and leads to a directory only. -/
def asksDirectory (p : Path) : Bool := p.segments.getLast?.any isIdle

theorem isIdle_iff {segment : List UInt8} :
    isIdle segment = true ↔ segment = [] ∨ segment = dot := by
  simp [isIdle]

theorem segment?_ofSegment? (segment : List UInt8) :
    (Component.ofSegment? segment).bind Component.segment? =
      if !isIdle segment then some segment else none := by
  unfold Component.ofSegment?
  cases isIdle segment with
  | true => rfl
  | false =>
    by_cases h : segment = dotDot
    · simp [h, Component.segment?]
    · simp [h, Component.segment?]

theorem filterMap_ofSegments (segments : List (List UInt8)) :
    (Component.ofSegments segments).filterMap Component.segment? =
      segments.filter (!isIdle ·) := by
  rw [Component.ofSegments, List.filterMap_filterMap, ← List.filterMap_eq_filter]
  congr 1
  funext segment
  rw [segment?_ofSegment?]
  rfl

theorem not_mem_ofSegments {segments : List (List UInt8)} {c : Component}
    (h : c ∈ Component.ofSegments segments) : c ≠ .root ∧ c ≠ .current := by
  obtain ⟨segment, -, hc⟩ := List.mem_filterMap.1 h
  unfold Component.ofSegment? at hc
  split at hc
  · cases hc
  · split at hc <;> cases hc <;> simp

/-- What a path names before its steps: where it begins, if it says so. -/
def beginning (p : Path) : List Component :=
  if p.isAbsolute then [.root]
  else if p.segments.head? = some dot then [.current]
  else []

/-- A path begins at the root if its first segment is empty and others follow. -/
theorem head?_segments_of_isAbsolute {p : Path} (h : p.isAbsolute = true) :
    p.segments.head? = some [] := by
  obtain ⟨bytes⟩ := p
  cases bytes with
  | nil => cases h
  | cons b r =>
    have hb : b = slash := by simpa [isAbsolute] using h
    simp [segments, Text.split, hb]

theorem components_eq (p : Path) :
    p.components = p.beginning ++ Component.ofSegments p.segments := by
  unfold components beginning
  cases hs : p.segments with
  | nil => exact absurd hs (Text.split_ne_nil _ _)
  | cons first rest =>
    by_cases ha : p.isAbsolute = true
    · have hfirst := head?_segments_of_isAbsolute ha
      rw [hs, List.head?_cons] at hfirst
      simp [ha, Option.some.inj hfirst, Component.ofSegments, Component.ofSegment?, isIdle]
    · by_cases hdot : first = dot
      · simp [ha, hdot, Component.ofSegments, Component.ofSegment?, isIdle]
      · simp [ha, hdot]

theorem filterMap_components (p : Path) :
    p.components.filterMap Component.segment? = p.steps := by
  have hbeginning : p.beginning.filterMap Component.segment? = [] := by
    unfold beginning
    split
    · rfl
    · split <;> rfl
  rw [components_eq, List.filterMap_append, hbeginning, filterMap_ofSegments]
  rfl

theorem root_mem_components {p : Path} : .root ∈ p.components ↔ p.isAbsolute = true := by
  rw [components_eq, List.mem_append]
  constructor
  · rintro (h | h)
    · unfold beginning at h
      split at h
      · assumption
      · split at h <;> simp at h
    · exact absurd rfl (not_mem_ofSegments h).1
  · intro h
    left
    simp [beginning, h]

variable {p q : Path}

/-- **Alike paths have the same steps.** -/
theorem steps_eq_of_alike (h : p.alike q = true) : p.steps = q.steps := by
  rw [← filterMap_components, alike_iff.1 h, filterMap_components]

/-- **Alike paths begin at the same place.** -/
theorem isAbsolute_eq_of_alike (h : p.alike q = true) : p.isAbsolute = q.isAbsolute := by
  rw [Bool.eq_iff_iff, ← root_mem_components, alike_iff.1 h, root_mem_components]

/-- A byte that is neither a slash nor a dot stands in a step. -/
theorem mem_bytes_iff {b : UInt8} (hslash : b ≠ slash) (hdot : b ∉ dot) :
    b ∈ p.bytes ↔ ∃ step ∈ p.steps, b ∈ step := by
  have hmem : ∀ parts : List (List UInt8),
      b ∈ Text.joined slash parts ↔ ∃ part ∈ parts, b ∈ part := by
    intro parts
    fun_induction Text.joined slash parts with
    | case1 => simp
    | case2 part => simp
    | case3 part parts _ ih => simp [ih, hslash]
  have hjoined : Text.joined slash p.segments = p.bytes := Text.joined_split slash p.bytes
  rw [← hjoined, hmem]
  constructor
  · rintro ⟨part, hpart, hb⟩
    refine ⟨part, List.mem_filter.2 ⟨hpart, ?_⟩, hb⟩
    have hempty : part ≠ [] := List.ne_nil_of_mem hb
    have hpoint : part ≠ dot := fun h => hdot (h ▸ hb)
    simp [isIdle, hempty, hpoint]
  · rintro ⟨step, hstep, hb⟩
    exact ⟨step, (List.mem_filter.1 hstep).1, hb⟩

/-- The first segment of a path that does not begin with a slash is not empty. -/
theorem segments_eq_cons {b : UInt8} {r : List UInt8} (hb : b ≠ slash) :
    ∃ part rest, (Path.mk (b :: r)).segments = (b :: part) :: rest := by
  unfold segments
  rw [Text.split, if_neg hb]
  cases Text.split slash r with
  | nil => exact ⟨[], [], rfl⟩
  | cons part rest => exact ⟨part, rest, rfl⟩

/-- Only the empty path names nothing. -/
theorem components_eq_nil_iff : p.components = [] ↔ p.bytes = [] := by
  obtain ⟨bytes⟩ := p
  cases bytes with
  | nil => exact ⟨fun _ => rfl, fun _ => by decide⟩
  | cons b r =>
    refine ⟨fun h => ?_, fun h => by cases h⟩
    have hsteps := filterMap_components (.mk (b :: r))
    rw [h, List.filterMap_nil] at hsteps
    have hidle := List.filter_eq_nil_iff.1 hsteps.symm
    rw [components_eq, List.append_eq_nil_iff] at h
    have hb : b ≠ slash := by
      rintro rfl
      exact absurd h.1 (by simp [beginning, isAbsolute])
    obtain ⟨part, rest, hsegments⟩ := segments_eq_cons (r := r) hb
    have hfirst : isIdle (b :: part) = true := by
      simpa using hidle (b :: part) (hsegments ▸ List.mem_cons_self)
    have hdot : b :: part = dot := by simpa [isIdle] using hfirst
    have habsolute : (Path.mk (b :: r)).isAbsolute = false := by simpa [isAbsolute] using hb
    exact absurd h.1 (by simp [beginning, habsolute, hsegments, hdot])

/-- **Of alike paths, both are empty or neither is.** -/
theorem isEmpty_eq_of_alike (h : p.alike q = true) : p.bytes.isEmpty = q.bytes.isEmpty := by
  rw [Bool.eq_iff_iff, List.isEmpty_iff, List.isEmpty_iff, ← components_eq_nil_iff, alike_iff.1 h,
    components_eq_nil_iff]

/-- **Of alike paths, both hold a zero byte or neither does.** -/
theorem contains_zero_eq_of_alike (h : p.alike q = true) :
    p.bytes.contains 0 = q.bytes.contains 0 := by
  rw [Bool.eq_iff_iff, List.contains_iff_mem, List.contains_iff_mem,
    mem_bytes_iff (by decide) (by decide), steps_eq_of_alike h,
    mem_bytes_iff (by decide) (by decide)]

end Path

/-! ## 2. Walks -/

namespace FileTree

variable {t : FileTree} {p q : Path}

/-- Something idle leads nowhere else, but only from a directory. -/
theorem walk_idle (t : FileTree) (location : Location) {segment : List UInt8}
    (h : Path.isIdle segment = true) :
    t.walk location segment =
      if t.node? location = some .directory then .ok location else .error .notDirectory := by
  unfold walk
  by_cases hd : t.node? location = some .directory
  · simp [hd, h]
  · simp [hd]

/-- From what is no directory no segment leads anywhere. -/
theorem walkAll_cons_of_ne {location : Location} (h : t.node? location ≠ some .directory)
    (segment : List UInt8) (rest : List (List UInt8)) :
    t.walkAll location (segment :: rest) = .error .notDirectory := by
  rw [walkAll, walk, if_pos h]

/-- What segments come to: the steps, and something idle if the last segment is idle. -/
def gist (segments : List (List UInt8)) : List (List UInt8) :=
  segments.filter (!Path.isIdle ·) ++ if segments.getLast?.any Path.isIdle then [[]] else []

theorem gist_cons_idle {segment : List UInt8} {rest : List (List UInt8)}
    (h : Path.isIdle segment = true) (hne : rest ≠ []) : gist (segment :: rest) = gist rest := by
  unfold gist
  rw [List.getLast?_cons_of_ne_nil hne]
  simp [h]

theorem gist_cons_step {segment : List UInt8} {rest : List (List UInt8)}
    (h : Path.isIdle segment = false) : gist (segment :: rest) = segment :: gist rest := by
  cases rest with
  | nil => simp [gist, h]
  | cons next rest =>
    unfold gist
    rw [List.getLast?_cons_of_ne_nil (List.cons_ne_nil _ _)]
    simp [h]

/-- **Idle segments ask for directories and do nothing else.** Before a step that is what the step
asks for as well, so only the last segment counts. -/
theorem walkAll_eq (t : FileTree) : ∀ (segments : List (List UInt8)) (location : Location),
    t.walkAll location segments = t.walkAll location (gist segments)
  | [], location => rfl
  | segment :: rest, location => by
    by_cases hidle : Path.isIdle segment = true
    · by_cases hne : rest = []
      · subst hne
        have hgist : gist [segment] = [[]] := by simp [gist, hidle]
        have hempty : Path.isIdle [] = true := rfl
        rw [hgist, walkAll, walkAll, walk_idle t location hidle, walk_idle t location hempty]
      · rw [gist_cons_idle hidle hne, ← walkAll_eq t rest location]
        by_cases hd : t.node? location = some .directory
        · rw [walkAll, walk_idle t location hidle, if_pos hd]
        · obtain ⟨next, rest', rfl⟩ := List.exists_cons_of_ne_nil hne
          rw [walkAll_cons_of_ne hd, walkAll_cons_of_ne hd]
    · rw [gist_cons_step (Bool.eq_false_iff.2 hidle), walkAll, walkAll]
      cases t.walk location segment with
      | ok next => exact walkAll_eq t rest next
      | error e => rfl

theorem walkAll_concat (t : FileTree) (segment : List UInt8) :
    ∀ (segments : List (List UInt8)) (location : Location),
      t.walkAll location (segments ++ [segment]) =
        match t.walkAll location segments with
        | .ok next => t.walk next segment
        | .error e => .error e
  | [], location => by
    show (match t.walk location segment with
      | .ok next => .ok next
      | .error e => .error e) = t.walk location segment
    cases t.walk location segment <;> rfl
  | first :: segments, location => by
    rw [List.cons_append, walkAll, walkAll]
    cases t.walk location first with
    | ok next => exact walkAll_concat t segment segments next
    | error e => rfl

/-! ## 3. Places -/

/-- Where the steps of the path lead. -/
def reach (t : FileTree) (p : Path) : Except FileError Location := t.walkAll (t.start p) p.steps

/-- What asking for a directory makes of a place. -/
def directoryOnly (t : FileTree) : Except FileError Location → Except FileError Location
  | .ok location =>
    if t.node? location = some .directory then .ok location else .error .notDirectory
  | .error e => .error e

theorem walkAll_segments (t : FileTree) (p : Path) : t.walkAll (t.start p) p.segments =
    if p.asksDirectory then t.directoryOnly (t.reach p) else t.reach p := by
  rw [walkAll_eq, gist, reach, Path.asksDirectory, Path.steps]
  split
  · rw [walkAll_concat]
    cases t.walkAll (t.start p) (p.segments.filter (!Path.isIdle ·)) with
    | ok location => exact walk_idle t location rfl
    | error e => rfl
  · rw [List.append_nil]

/-- The path leads to something, and that is no directory. -/
def LeadsToFile (t : FileTree) (p : Path) : Prop :=
  ∃ location, t.locate p = .ok location ∧ t.node? location ≠ some .directory

/-- The spellings do not differ in a way that counts: both are too long or neither is, and both ask
for a directory or neither leads to a file. -/
structure Interchangeable (t : FileTree) (p q : Path) : Prop where
  length : p.bytes.length ≤ pathLimit ↔ q.bytes.length ≤ pathLimit
  ending : p.asksDirectory = q.asksDirectory ∨ ¬ t.LeadsToFile p ∧ ¬ t.LeadsToFile q

/-- Where a path leads that is neither empty nor too long and holds no zero byte. -/
theorem locate_eq_walkAll (hzero : p.bytes.contains 0 = false) (hempty : p.bytes.isEmpty = false)
    (hlength : p.bytes.length ≤ pathLimit) :
    t.locate p = t.walkAll (t.start p) p.segments := by
  rw [locate, hzero, hempty, if_neg Bool.false_ne_true, if_neg Bool.false_ne_true,
    if_neg (Nat.not_lt.2 hlength)]

/-- A path that leads to no file leads to where it would lead if it asked for a directory. -/
theorem directoryOnly_of_not_leadsToFile (h : ¬ t.LeadsToFile p) :
    t.directoryOnly (t.locate p) = t.locate p := by
  cases hp : t.locate p with
  | error e => rfl
  | ok location =>
    have hd : t.node? location = some .directory :=
      Classical.byContradiction fun hd => h ⟨location, hp, hd⟩
    rw [directoryOnly, if_pos hd]

/-- **Alike paths that are interchangeable lead to the same place**, or to the same error. -/
theorem locate_eq (h : p.alike q = true) (hi : t.Interchangeable p q) :
    t.locate p = t.locate q := by
  have hstart : t.start p = t.start q := by
    rw [start, start, Path.isAbsolute_eq_of_alike h]
  have hreach : t.reach p = t.reach q := by
    rw [reach, reach, hstart, Path.steps_eq_of_alike h]
  have hzero := Path.contains_zero_eq_of_alike h
  have hempty := Path.isEmpty_eq_of_alike h
  by_cases hlong : p.bytes.length ≤ pathLimit
  · cases hz : p.bytes.contains 0 with
    | true =>
      rw [locate, locate, ← hzero, hz]
      rfl
    | false =>
      cases he : p.bytes.isEmpty with
      | true =>
        rw [locate, locate, ← hzero, hz, ← hempty, he]
        rfl
      | false =>
        have hp := (locate_eq_walkAll (t := t) hz he hlong).trans (walkAll_segments t p)
        have hq := (locate_eq_walkAll (t := t) (hzero ▸ hz) (hempty ▸ he) (hi.length.1 hlong)).trans
          (walkAll_segments t q)
        rcases hi.ending with heq | ⟨hnp, hnq⟩
        · rw [hp, hq, heq, hreach]
        · -- whichever asks for a directory gets what the other one leads to
          have hdp := directoryOnly_of_not_leadsToFile hnp
          have hdq := directoryOnly_of_not_leadsToFile hnq
          cases hap : p.asksDirectory <;> cases haq : q.asksDirectory <;>
            simp only [hap, haq, if_true, if_false, Bool.false_eq_true] at hp hq
          · rw [hp, hq, hreach]
          · rw [hq, ← hreach, ← hp, hdp]
          · rw [hp, hreach, ← hq, hdq]
          · rw [hp, hq, hreach]
  · have hlong' : ¬ q.bytes.length ≤ pathLimit := fun hq => hlong (hi.length.2 hq)
    rw [locate, locate, ← hzero, ← hempty, if_pos (Nat.lt_of_not_le hlong),
      if_pos (Nat.lt_of_not_le hlong')]

theorem exists?_eq (h : p.alike q = true) (hi : t.Interchangeable p q) :
    t.exists? p = t.exists? q := by
  rw [exists?, exists?, locate_eq h hi]

theorem readText_eq (h : p.alike q = true) (hi : t.Interchangeable p q) :
    t.readText p = t.readText q := by
  rw [readText, readText, nodeAt, nodeAt, locate_eq h hi]

end FileTree

end ScriptHost

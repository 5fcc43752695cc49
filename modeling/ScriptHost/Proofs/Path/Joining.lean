import Mathlib.Data.List.DropRight
import ScriptHost.Proofs.Path.Respelling

/-!
# Joining and parting

A relative path is joined to a base by writing it behind the base.

* `approach`: what is written before a relative path, which is the base and, if need be, a slash.
* `isAbsolute_join`: a joined path is absolute exactly if the path or its base is.
* **`join_join`**: joining to one base and then to another is joining to both joined, byte for byte.
* **`components_parent?`**: the parent names the steps of the path without the last one; what has no
  last step has no parent.
-/

namespace ScriptHost.Path

variable {base p q : Path}

/-! ## 1. Joined paths -/

/-- What is written before a relative path that is joined to the base. -/
def approach (base : Path) : List UInt8 :=
  match base.bytes.getLast? with
  | none => []
  | some b => if b = slash then base.bytes else base.bytes ++ [slash]

theorem approach_nil : approach ⟨[]⟩ = [] := rfl

theorem approach_concat (a : List UInt8) (b : UInt8) :
    approach ⟨a ++ [b]⟩ = if b = slash then a ++ [b] else a ++ [b] ++ [slash] := by
  simp only [approach, List.getLast?_concat]

theorem join_of_isAbsolute (h : p.isAbsolute = true) : base.join p = p := by
  rw [join, if_pos h]

theorem join_of_relative (h : p.isAbsolute = false) : base.join p = ⟨base.approach ++ p.bytes⟩ := by
  rw [join, h, if_neg Bool.false_ne_true, approach]
  cases base.bytes.getLast? with
  | none => rfl
  | some b =>
    by_cases hb : b = slash
    · simp only [hb, if_true]
    · simp only [hb, if_false, List.append_assoc, List.singleton_append]

/-- The empty base changes no path. -/
theorem empty_join (p : Path) : join ⟨[]⟩ p = p := by
  cases h : p.isAbsolute with
  | true => exact join_of_isAbsolute h
  | false => rw [join_of_relative h, approach_nil, List.nil_append]

/-- What is written before a path behind a base is what is written before the base and then before
the path. A slash that the base got is not written again. -/
theorem approach_append (base : Path) (s : List UInt8) :
    approach ⟨base.approach ++ s⟩ = base.approach ++ approach ⟨s⟩ := by
  rcases List.eq_nil_or_concat' s with rfl | ⟨s, b, rfl⟩
  · rw [approach_nil, List.append_nil]
    obtain ⟨bytes⟩ := base
    rcases List.eq_nil_or_concat' bytes with rfl | ⟨a, b, rfl⟩
    · rfl
    · rw [approach_concat]
      split
      · next hb => rw [approach_concat, if_pos hb]
      · rw [approach_concat, if_pos rfl]
  · rw [← List.append_assoc, approach_concat, approach_concat]
    split
    · rw [List.append_assoc]
    · rw [List.append_assoc, List.append_assoc, List.append_assoc]

/-- What is written before a path begins like the base. -/
theorem head?_approach (base : Path) : base.approach.head? = base.bytes.head? := by
  obtain ⟨bytes⟩ := base
  rcases List.eq_nil_or_concat' bytes with rfl | ⟨a, b, rfl⟩
  · rfl
  · rw [approach_concat]
    split
    · rfl
    · rw [List.head?_append]
      cases a <;> rfl

/-- **A joined path is absolute exactly if the path or its base is.** -/
theorem isAbsolute_join (base p : Path) :
    (base.join p).isAbsolute = (p.isAbsolute || base.isAbsolute) := by
  cases h : p.isAbsolute with
  | true => rw [join_of_isAbsolute h, h, Bool.true_or]
  | false =>
    have hp : p.bytes.head? ≠ some slash := by simpa [isAbsolute] using h
    rw [join_of_relative h, Bool.false_or, isAbsolute, isAbsolute, List.head?_append,
      head?_approach]
    cases base.bytes.head? with
    | none => simpa using hp
    | some b => rfl

/-- **Joining to one base and then to another is joining to both joined.** -/
theorem join_join (outer inner p : Path) :
    outer.join (inner.join p) = (outer.join inner).join p := by
  cases hp : p.isAbsolute with
  | true => rw [join_of_isAbsolute hp, join_of_isAbsolute hp, join_of_isAbsolute hp]
  | false =>
    have hjoined := isAbsolute_join inner p
    rw [hp, Bool.false_or] at hjoined
    cases hinner : inner.isAbsolute with
    | true => rw [join_of_isAbsolute hinner, join_of_isAbsolute (hjoined.trans hinner)]
    | false =>
      rw [join_of_relative (hjoined.trans hinner), join_of_relative hp, join_of_relative hinner,
        join_of_relative hp, approach_append, List.append_assoc]

/-! ## 2. Bodies -/

/-- The segments behind what spells the beginning. -/
def body (p : Path) : List (List UInt8) := Text.split slash (p.bytes.drop p.lead.length)

theorem bytes_eq_of_segments {first : List UInt8} {rest : List (List UInt8)}
    (h : p.segments = first :: rest) : p.bytes = first ++ rest.flatMap (slash :: ·) := by
  rw [← Text.joined_cons, ← h]
  exact (Text.joined_split slash p.bytes).symm

theorem slash_not_mem_segments {part : List UInt8} (h : part ∈ p.segments) : slash ∉ part :=
  Text.not_mem_of_mem_split slash p.bytes part h

/-- The three ways in which a path begins, and what follows the beginning. -/
inductive Beginning (p : Path) : List UInt8 → List Component → List (List UInt8) → Prop where
  | root {rest : List (List UInt8)} (segments : p.segments = [] :: rest) (more : rest ≠ []) :
      Beginning p [slash] [.root] rest
  | current {rest : List (List UInt8)} (segments : p.segments = dot :: rest) :
      Beginning p dot [.current] ([] :: rest)
  | relative {first : List UInt8} {rest : List (List UInt8)} (segments : p.segments = first :: rest)
      (step : first ≠ dot) (start : first = [] → rest = []) : Beginning p [] [] (first :: rest)

/-- Segments without slashes are found again, but for none at all. -/
theorem segments_joined {parts : List (List UInt8)} (hne : parts ≠ [])
    (h : ∀ part ∈ parts, slash ∉ part) : (Path.mk (Text.joined slash parts)).segments = parts :=
  Text.split_joined hne h

theorem beginning_spelled (p : Path) : Beginning p p.lead p.beginning p.body := by
  cases hs : p.segments with
  | nil => exact absurd hs (Text.split_ne_nil _ _)
  | cons first rest =>
    have hbytes := bytes_eq_of_segments hs
    have hfree : ∀ part ∈ first :: rest, slash ∉ part := fun part hp =>
      slash_not_mem_segments (hs ▸ hp)
    cases ha : p.isAbsolute with
    | true =>
      have hfirst := head?_segments_of_isAbsolute ha
      rw [hs, List.head?_cons] at hfirst
      obtain rfl := Option.some.inj hfirst
      have hmore : rest ≠ [] := by
        rintro rfl
        rw [isAbsolute, hbytes] at ha
        cases ha
      have hlead : p.lead = [slash] := by rw [lead, if_pos ha]
      have hbeginning : p.beginning = [.root] := by rw [beginning, if_pos ha]
      have hbody : p.body = rest := by
        obtain ⟨next, rest, rfl⟩ := List.exists_cons_of_ne_nil hmore
        rw [body, hlead, hbytes]
        show Text.split slash (next ++ rest.flatMap (slash :: ·)) = _
        rw [← Text.joined_cons]
        exact segments_joined hmore (List.forall_mem_cons.1 hfree).2
      rw [hlead, hbeginning, hbody]
      exact .root hs hmore
    | false =>
      by_cases hdot : first = dot
      · subst hdot
        have hlead : p.lead = dot := by simp [lead, ha, hs]
        have hbeginning : p.beginning = [.current] := by simp [beginning, ha, hs]
        have hbody : p.body = [] :: rest := by
          have hafter := (List.forall_mem_cons.1 hfree).2
          have hjoined := segments_joined (List.cons_ne_nil [] rest)
            (List.forall_mem_cons.2 ⟨List.not_mem_nil, hafter⟩)
          rw [Text.joined_cons] at hjoined
          rw [body, hlead, hbytes, List.drop_left]
          exact hjoined
        rw [hlead, hbeginning, hbody]
        exact .current hs
      · have hlead : p.lead = [] := by simp [lead, ha, hs, hdot]
        have hbeginning : p.beginning = [] := by simp [beginning, ha, hs, hdot]
        have hbody : p.body = first :: rest := by
          rw [body, hlead]
          exact hs
        rw [hlead, hbeginning, hbody]
        refine .relative hs hdot fun hfirst => ?_
        subst hfirst
        cases rest with
        | nil => rfl
        | cons next rest =>
          rw [isAbsolute, hbytes] at ha
          cases ha

theorem bytes_startWith_lead (p : Path) : p.lead <+: p.bytes := by
  have hb := beginning_spelled p
  generalize p.lead = lead, p.beginning = start, p.body = body at hb ⊢
  cases hb with
  | root segments more =>
    obtain ⟨next, rest, rfl⟩ := List.exists_cons_of_ne_nil more
    rw [bytes_eq_of_segments segments]
    exact List.prefix_append [slash] _
  | current segments =>
    rw [bytes_eq_of_segments segments]
    exact List.prefix_append dot _
  | relative segments step start => exact List.nil_prefix

/-- A path is what spells its beginning, and its body. -/
theorem lead_append_body (p : Path) : p.lead ++ Text.joined slash p.body = p.bytes := by
  rw [body, Text.joined_split]
  exact List.prefix_iff_eq_append.1 (bytes_startWith_lead p)

/-! ## 3. Components -/

section Components

variable {parts : List (List UInt8)}

theorem components_root (h : ∀ part ∈ parts, slash ∉ part) :
    (Path.mk (slash :: Text.joined slash parts)).components =
      .root :: Component.ofSegments parts := by
  have hsegments : (Path.mk (slash :: Text.joined slash parts)).segments =
      [] :: (Path.mk (Text.joined slash parts)).segments := by
    rw [segments, Text.split, if_pos rfl]
    rfl
  have habsolute : (Path.mk (slash :: Text.joined slash parts)).isAbsolute = true := rfl
  have hrest : Component.ofSegments (Path.mk (Text.joined slash parts)).segments =
      Component.ofSegments parts := by
    cases parts with
    | nil => rfl
    | cons part parts => rw [segments_joined (List.cons_ne_nil _ _) h]
  simp only [components, hsegments, habsolute, if_true, hrest]

theorem components_current (h : ∀ part ∈ parts, slash ∉ part) :
    (Path.mk (dot ++ parts.flatMap (slash :: ·))).components =
      .current :: Component.ofSegments parts := by
  have hsegments := segments_joined (List.cons_ne_nil dot parts)
    (List.forall_mem_cons.2 ⟨by decide, h⟩)
  rw [Text.joined_cons] at hsegments
  have habsolute : (Path.mk (dot ++ parts.flatMap (slash :: ·))).isAbsolute = false := rfl
  simp [components, hsegments, habsolute]

theorem components_relative {first : List UInt8} {rest : List (List UInt8)}
    (h : ∀ part ∈ first :: rest, slash ∉ part) (step : first ≠ dot)
    (start : first = [] → rest = []) :
    (Path.mk (Text.joined slash (first :: rest))).components =
      Component.ofSegments (first :: rest) := by
  have hsegments := segments_joined (List.cons_ne_nil first rest) h
  have habsolute : (Path.mk (Text.joined slash (first :: rest))).isAbsolute = false := by
    cases first with
    | nil =>
      rw [start rfl]
      rfl
    | cons b first =>
      have hb : b ≠ slash := fun hb => h (b :: first) List.mem_cons_self (hb ▸ List.mem_cons_self)
      simp [isAbsolute, Text.joined_cons, hb]
  simp [components, hsegments, habsolute, step]

/-- **A path that is cut off behind some segments of its body** begins like the path and names what
these segments name. -/
theorem components_cut {p : Path} (h : parts <+: p.body) :
    (Path.mk (p.lead ++ Text.joined slash parts)).components =
      p.beginning ++ Component.ofSegments parts := by
  have hb := beginning_spelled p
  have hfree : ∀ part ∈ parts, slash ∉ part := fun part hp =>
    Text.not_mem_of_mem_split slash _ part (h.subset hp)
  generalize p.lead = lead, p.beginning = start, p.body = body at h hb ⊢
  cases hb with
  | root segments more => exact components_root hfree
  | current segments =>
    cases parts with
    | nil => rfl
    | cons part parts =>
      obtain ⟨rfl, -⟩ := List.cons_prefix_cons.1 h
      rw [Text.joined_cons]
      exact components_current (List.forall_mem_cons.1 hfree).2
  | relative segments step start =>
    cases parts with
    | nil => rfl
    | cons part parts =>
      obtain ⟨rfl, hparts⟩ := List.cons_prefix_cons.1 h
      refine components_relative hfree step fun hpart => ?_
      rw [start hpart] at hparts
      exact List.prefix_nil.1 hparts

/-- **A path names its beginning, and then what its body names.** -/
theorem components_eq_body (p : Path) :
    p.components = p.beginning ++ Component.ofSegments p.body := by
  have hcut := components_cut (List.prefix_refl p.body)
  rwa [lead_append_body] at hcut

/-- A segment that is a step names one component. -/
theorem ofSegments_step {segment : List UInt8} (h : isIdle segment = false) :
    ∃ c, Component.ofSegments [segment] = [c] := by
  by_cases hparent : segment = dotDot
  · subst hparent
    exact ⟨.parent, rfl⟩
  · exact ⟨.name segment, by simp [Component.ofSegments, Component.ofSegment?, h, hparent]⟩

/-- A path without a slash names one step. -/
theorem components_bare (h : slash ∉ p.bytes) (hne : p.bytes ≠ []) :
    ∃ c, p.components = [c] := by
  have hsegments : p.segments = [p.bytes] := Text.split_of_not_mem h
  have habsolute : p.isAbsolute = false := by
    rw [isAbsolute, Bool.eq_false_iff]
    intro hhead
    exact h (List.mem_of_mem_head? (beq_iff_eq.1 hhead))
  by_cases hdot : p.bytes = dot
  · exact ⟨.current, by simp [components, hsegments, habsolute, hdot, Component.ofSegments]⟩
  · have hstep : isIdle p.bytes = false := by simp [isIdle, hne, hdot]
    obtain ⟨c, hc⟩ := ofSegments_step hstep
    exact ⟨c, by simp [components, hsegments, habsolute, hdot, hc]⟩

end Components

/-! ## 4. Parents -/

/-- Segments that are idle at the end name nothing. -/
theorem ofSegments_rdropWhile (segments : List (List UInt8)) :
    Component.ofSegments (segments.rdropWhile isIdle) = Component.ofSegments segments := by
  have hidle : Component.ofSegments (segments.rtakeWhile isIdle) = [] :=
    List.filterMap_eq_nil_iff.2 fun segment hs => by
      rw [Component.ofSegment?, if_pos (List.mem_rtakeWhile_imp hs)]
  have happend := ofSegments_append (segments.rdropWhile isIdle) (segments.rtakeWhile isIdle)
  rw [List.rdropWhile_append_rtakeWhile, hidle, List.append_nil] at happend
  exact happend.symm

theorem parent?_eq (p : Path) : p.parent? =
    match p.body.reverse.dropWhile isIdle with
    | _ :: before => some ⟨p.lead ++ Text.joined slash (before.dropWhile isIdle).reverse⟩
    | [] => if p.lead = dot then some ⟨[]⟩ else none := rfl

/-- The last step is cut off, and so is what is idle behind it and before it. -/
theorem parent?_of_step {parts : List (List UInt8)} {last : List UInt8}
    (h : p.body.rdropWhile isIdle = parts ++ [last]) :
    p.parent? = some ⟨p.lead ++ Text.joined slash (parts.rdropWhile isIdle)⟩ := by
  have hreverse : p.body.reverse.dropWhile isIdle = last :: parts.reverse := by
    rw [← List.reverse_inj, List.reverse_cons, List.reverse_reverse]
    exact h
  rw [parent?_eq, hreverse]
  rfl

theorem parent?_of_idle (h : p.body.rdropWhile isIdle = []) :
    p.parent? = if p.lead = dot then some ⟨[]⟩ else none := by
  have hreverse : p.body.reverse.dropWhile isIdle = [] := List.reverse_eq_nil_iff.1 h
  rw [parent?_eq, hreverse]

/-- **The parent names the steps of the path without the last one.** Only a path that names nothing
or just the root has none. -/
theorem components_parent? (p : Path) :
    (∃ directory, p.parent? = some directory ∧ directory.components = p.components.dropLast) ∨
      p.parent? = none ∧ (p.components = [] ∨ p.components = [.root]) := by
  rcases List.eq_nil_or_concat' (p.body.rdropWhile isIdle) with hnone | ⟨parts, last, hlast⟩
  · have hcomponents : p.components = p.beginning := by
      rw [components_eq_body, ← ofSegments_rdropWhile, hnone]
      exact List.append_nil _
    rw [parent?_of_idle hnone, hcomponents]
    have hb := beginning_spelled p
    generalize p.lead = lead, p.beginning = start, p.body = body at hb ⊢
    cases hb with
    | root segments more => exact .inr ⟨rfl, .inr rfl⟩
    | current segments => exact .inl ⟨⟨[]⟩, rfl, rfl⟩
    | relative segments step start => exact .inr ⟨rfl, .inl rfl⟩
  · have hstep : isIdle last = false := by
      have hne : p.body.rdropWhile isIdle ≠ [] := by
        rw [hlast]
        simp
      have hlast' := List.rdropWhile_last_not isIdle p.body hne
      simpa [hlast] using hlast'
    have hprefix : parts.rdropWhile isIdle <+: p.body :=
      ((List.rdropWhile_prefix _ parts).trans (List.prefix_append parts [last])).trans
        (hlast ▸ List.rdropWhile_prefix _ p.body)
    obtain ⟨c, hc⟩ := ofSegments_step hstep
    refine .inl ⟨_, parent?_of_step hlast, ?_⟩
    rw [components_cut hprefix, components_eq_body, ofSegments_rdropWhile,
      ← ofSegments_rdropWhile p.body, hlast, ofSegments_append, hc, ← List.append_assoc,
      List.dropLast_concat]

end ScriptHost.Path

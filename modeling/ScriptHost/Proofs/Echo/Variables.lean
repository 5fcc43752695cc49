import ScriptHost.Module.Interpreter
import ScriptHost.Proofs.Catalog
import ScriptHost.Proofs.Echo.Course
import ScriptHost.Proofs.Echo.Tokens
import ScriptHost.Proofs.Text.Blank

/-!
# Variables over the life of an interpreter

A line `set` puts a value under a name, and the value stays for the rest of the run and for the runs
after it.

* `isName_iff_wellFormed`: what `set` takes for a name. `Statement.ofLine_set`: **what a line `set`
  with a name says.**
* `Scope.expand_name`: **where a name ends, `$` and the name are expanded to the value.**
* `Use`, `Interpreter.life`: what is done with an interpreter, and what it is then.
* `Interpreter.moments`: the lines that its runs come to, over its whole life; `globalsAfter`: what
  is set behind them. `Told`: each moment does what its line says with the variables it meets.
* `get?_stable`: a variable keeps its value over moments that do not set it.
* `remembers`: **what a line sets is put in for its name until the name is set again**, whatever
  becomes of the runs.
-/

namespace ScriptHost.Echo

open Text (Blank Word Gap)

/-! ## 1. The line -/

/-- A letter or `_`, and then letters, digits and `_`; letters and digits are those of ASCII. -/
def WellFormed (name : List Char) : Prop :=
  ∃ c r, name = c :: r ∧ (c.isAlpha = true ∨ c = '_') ∧ ∀ d ∈ r, d.isAlphanum = true ∨ d = '_'

theorem isNameChar_iff {c : Char} : isNameChar c = true ↔ c.isAlphanum = true ∨ c = '_' := by
  simp [isNameChar]

theorem isName_iff_wellFormed {name : List Char} : isName name = true ↔ WellFormed name := by
  constructor
  · intro h
    obtain ⟨c, r, rfl, hc, hr⟩ := Token.exists_of_isName h
    refine ⟨c, r, rfl, by simpa [isNameStart] using hc, fun d hd => isNameChar_iff.1 (hr d hd)⟩
  · intro h
    obtain ⟨c, r, rfl, hc, hr⟩ := h
    have hstart : isNameStart c = true := by simpa [isNameStart] using hc
    have hrest : r.all isNameChar = true :=
      List.all_eq_true.2 fun d hd => isNameChar_iff.2 (hr d hd)
    rw [isName, hstart, hrest]
    rfl

/-- No character of a name is blank. -/
theorem not_blank_of_isNameChar {c : Char} (h : isNameChar c = true) : Text.isBlank c = false := by
  have hrange : 48 ≤ c.toNat ∧ c.toNat ≤ 122 := by
    simp only [isNameChar, Char.isAlphanum, Bool.or_eq_true, beq_iff_eq] at h
    rcases h with (halpha | hdigit) | rfl
    · have hbounds := letter_bounds halpha
      omega
    · have hbounds := digit_bounds hdigit
      omega
    · decide
  exact Text.not_blank_of_bounds (by omega) (by omega)

theorem isNameChar_of_isNameStart {c : Char} (h : isNameStart c = true) : isNameChar c = true := by
  simp only [isNameStart, isNameChar, Char.isAlphanum, Bool.or_eq_true] at h ⊢
  rcases h with h | h
  · exact .inl (.inl h)
  · exact .inr h

theorem word_of_isName {name : List Char} (h : isName name = true) : Word name := by
  obtain ⟨c, r, rfl, hc, hr⟩ := Token.exists_of_isName h
  refine ⟨List.cons_ne_nil c r, fun d hd => ?_⟩
  rcases List.mem_cons.1 hd with rfl | hd
  · exact not_blank_of_isNameChar (isNameChar_of_isNameStart hc)
  · exact not_blank_of_isNameChar (hr d hd)

/-- The line that sets the variable to the text. -/
def setLine (name text : List Char) : List Char := "set ".toList ++ (name ++ ' ' :: text)

/-- A line that is not empty and does not begin with `#` is read from its first word on. -/
theorem Statement.ofLine_of_trim {line words : List Char} (h : Text.trim line = words)
    (hne : words ≠ []) (hcomment : words.head? ≠ some '#') :
    Statement.ofLine line = .ofWords (Text.splitWord words).1 (Text.splitWord words).2 := by
  rw [Statement.ofLine, h]
  split
  · exact absurd rfl hne
  · exact absurd rfl hcomment
  · rfl

/-- What a line says that begins with a word and a gap. -/
theorem Statement.ofLine_words {front word gap : List Char} (hfront : Blank front)
    (hword : Word word) (hgap : Gap gap) (text : List Char) :
    Statement.ofLine (front ++ word ++ gap ++ text) =
      if word.head? = some '#' then .blank else .ofWords word (Text.trim text) := by
  have htrim : Text.trim (front ++ word ++ gap ++ text) = word ++ Text.trimEnd (gap ++ text) := by
    rw [List.append_assoc, List.append_assoc, Text.trim_blank_append hfront,
      Text.trim_word_append hword]
  have hsplit := Text.splitWord_gap hword hgap text
  obtain ⟨c, r, rfl⟩ := List.exists_cons_of_ne_nil hword.1
  by_cases hc : c = '#'
  · subst hc
    rw [ofLine, htrim]
    rfl
  · have hhead : (c :: r).head? ≠ some '#' := fun h => hc (Option.some.inj h)
    rw [ofLine_of_trim htrim (List.cons_ne_nil _ _) hhead, hsplit, if_neg hhead]

/-- What a `set` says about a word and the text behind it. -/
theorem Statement.ofWords_gap {name gap : List Char} (hname : Word name) (hgap : Gap gap)
    (text : List Char) : Statement.ofWords "set".toList (Text.trim (name ++ gap ++ text)) =
      if isName name then .assign name (Text.trim text) else .badName name := by
  rw [List.append_assoc, Text.trim_word_append hname, ofWords, if_neg (by decide), if_pos rfl,
    Text.splitWord_gap hname hgap]

/-- **A line `set` with a name says to set the variable to the text, which is trimmed.** -/
theorem Statement.ofLine_set {name : List Char} (h : isName name = true) (text : List Char) :
    Statement.ofLine (setLine name text) = .assign name (Text.trim text) := by
  have hset : Word "set".toList := Text.word_of_all (by decide) rfl
  have hgap : Gap [' '] := ⟨List.cons_ne_nil _ _, Text.blank_of_all rfl⟩
  have hkeyword : "set ".toList = "set".toList ++ [' '] := by decide
  have hline : setLine name text = [] ++ "set".toList ++ [' '] ++ (name ++ [' '] ++ text) := by
    rw [setLine, hkeyword]
    simp only [List.nil_append, List.append_assoc, List.singleton_append]
  rw [hline, ofLine_words Text.blank_nil hset hgap, if_neg (by decide),
    ofWords_gap (word_of_isName h) hgap, if_pos h]

/-- `set` takes nothing but names. -/
theorem Statement.isName_of_ofWords {keyword rest name text : List Char}
    (h : Statement.ofWords keyword rest = .assign name text) : isName name = true := by
  unfold Statement.ofWords at h
  split at h
  · cases h
  split at h
  · simp only at h
    split at h
    · next hname =>
      cases h
      exact hname
    · cases h
  split at h
  · cases h
  split at h
  · cases h
  · cases h

theorem Statement.isName_of_ofLine {line name text : List Char}
    (h : Statement.ofLine line = .assign name text) : isName name = true := by
  unfold Statement.ofLine at h
  split at h
  · cases h
  · cases h
  · exact isName_of_ofWords h

/-! ## 2. The name in a text -/

/-- A name that stands before the text ends there. -/
def Ends (text : List Char) : Prop := ∀ c, text.head? = some c → c.isAlphanum = false ∧ c ≠ '_'

/-- **Where a name ends, `$` and the name are expanded to the value of the variable**, whatever
stands before and behind. -/
theorem Scope.expand_name (σ : Scope) (before : List Char) {name after : List Char}
    (hname : isName name = true) (hafter : Ends after) :
    σ.expand (before ++ '$' :: (name ++ after)) =
      σ.expand before ++ (σ.globals.get? name).getD [] ++ σ.expand after := by
  have hdetached : Detached ('$' :: (name ++ after)) := by
    intro c hc
    obtain rfl : '$' = c := Option.some.inj hc
    decide
  have hfits : (Token.global name).Fits after := by
    refine ⟨hname, fun c hc => ?_⟩
    obtain ⟨halnum, hne⟩ := hafter c hc
    simp [isNameChar, halnum, hne]
  have htoken : σ.expand ('$' :: (name ++ after)) =
      (σ.globals.get? name).getD [] ++ σ.expand after := expand_token hfits
  rw [σ.expand_append before hdetached, htoken, List.append_assoc]

/-! ## 3. Lives -/

/-- What is done with an interpreter. -/
inductive Use where
  /-- It gets an interface of the host. -/
  | equip (api : ApiHandle)
  /-- It runs a script; the host is as it is at that time. -/
  | run (host : Host) (script : String) (params : List String)

/-- The interpreter of an instance after the use. -/
def Use.on (i : ScriptHost.Interpreter) : Use → ScriptHost.Interpreter
  | .equip api => (i.equip api).1
  | .run host script params => (i.run host script params).answer.2

namespace Interpreter

/-- The interpreter after the use. -/
def use (i : Interpreter) : Use → Interpreter
  | .equip api => { i with api := some api }
  | .run _ script params => { i with globals := (i.run script params).globals }

/-- The interpreter after the uses. -/
def after (i : Interpreter) (uses : List Use) : Interpreter := uses.foldl use i

/-- A new interpreter after the uses. -/
def life (uses : List Use) : Interpreter := after {} uses

end Interpreter

/-- An interpreter of an instance remembers what the interpreter is. -/
theorem Use.memory_on {i : ScriptHost.Interpreter} {e : Interpreter} (h : i.memory = .echo e)
    (u : Use) : (u.on i).memory = .echo (e.use u) := by
  cases u with
  | equip api => simp only [Use.on, ScriptHost.Interpreter.equip, h, Interpreter.use]
  | run host script params => simp only [Use.on, ScriptHost.Interpreter.run, h, Interpreter.use]

/-! ## 4. Moments -/

/-- A line that a run comes to. -/
structure Moment where
  script : String
  params : List String
  visit : Visit

namespace Moment

/-- What stands on the line. -/
def text? (m : Moment) : Option (List Char) := (lines m.script.toList)[m.visit.line - 1]?

/-- What a text on the line is expanded in, if these variables are set. -/
def scope (m : Moment) (globals : Globals) : Scope := ⟨m.params.map String.toList, globals⟩

/-- The name of the variable that is set. -/
def name? (m : Moment) : Option (List Char) := m.visit.deed.name?

/-- The variables after the moment. -/
def leave (globals : Globals) (m : Moment) : Globals := m.visit.deed.after globals

/-- With these variables set, the moment does what its line says. -/
structure Does (globals : Globals) (m : Moment) : Prop where
  line : m.text?.map Statement.ofLine = some m.visit.statement
  deed : m.visit.deed = m.visit.statement.deed (m.scope globals)

end Moment

/-- The moments of the use: the course of the run, if there is a console. -/
def Interpreter.momentsOf (i : Interpreter) : Use → List Moment
  | .equip _ => []
  | .run _ script params =>
    match i.console with
    | .error _ => []
    | .ok _ => (i.course script params).map (⟨script, params, ·⟩)

/-- The moments of the uses one after the other. -/
def Interpreter.moments : Interpreter → List Use → List Moment
  | _, [] => []
  | i, u :: uses => i.momentsOf u ++ (i.use u).moments uses

/-- Each moment does what its line says with the variables that it meets, from these on. -/
def Told (globals : Globals) (moments : List Moment) : Prop :=
  ∀ before m later, moments = before ++ m :: later → m.Does (before.foldl Moment.leave globals)

theorem told_nil (globals : Globals) : Told globals [] := by
  intro before m later h
  simp at h

theorem Told.append {globals : Globals} {a b : List Moment} (ha : Told globals a)
    (hb : Told (a.foldl Moment.leave globals) b) : Told globals (a ++ b) := by
  intro before m later h
  -- the moment stands in the second list or in the first
  rcases List.append_eq_append_iff.1 h with ⟨inside, hbefore, htail⟩ | ⟨inside, hfirst, htail⟩
  · rw [hbefore, List.foldl_append]
    exact hb inside m later htail
  · cases inside with
    | nil =>
      rw [List.append_nil] at hfirst
      subst hfirst
      exact hb [] m later htail.symm
    | cons w inside =>
      obtain ⟨rfl, -⟩ := List.cons.inj htail
      exact ha before m inside hfirst

theorem Told.head {globals : Globals} {m : Moment} {later : List Moment}
    (h : Told globals (m :: later)) : m.Does globals := h [] m later rfl

theorem Told.tail {globals : Globals} {m : Moment} {later : List Moment}
    (h : Told globals (m :: later)) : Told (m.leave globals) later := by
  intro before w rest hw
  exact h (m :: before) w rest (by rw [hw]; rfl)

theorem Told.of_append {globals : Globals} {a b : List Moment} (h : Told globals (a ++ b)) :
    Told globals a := by
  intro before m later hm
  exact h before m (later ++ b) (by rw [hm, List.append_assoc]; rfl)

namespace Interpreter

/-- **The course of a run tells what its lines do.** -/
theorem told_course (i : Interpreter) (script : String) (params : List String) :
    Told i.globals ((i.course script params).map (⟨script, params, ·⟩)) := by
  have hgenuine : Genuine (params.map String.toList) 1 (statements script.toList) i.globals
      (i.course script params) := course_genuine _ _ _ _
  intro before m later h
  obtain ⟨visits, rest, hvisits, rfl, hrest⟩ := List.map_eq_append_iff.1 h
  obtain ⟨v, others, rfl, rfl, -⟩ := List.map_eq_cons_iff.1 hrest
  obtain ⟨hline, hstatement⟩ := hgenuine.position hvisits
  refine ⟨?_, ?_⟩
  · show ((lines script.toList)[v.line - 1]?).map Statement.ofLine = some v.statement
    rw [hline, Nat.add_sub_cancel_left, ← List.getElem?_map]
    exact hstatement
  · rw [List.foldl_map]
    exact hgenuine.deeds visits v others hvisits

theorem told_momentsOf (i : Interpreter) (u : Use) : Told i.globals (i.momentsOf u) := by
  cases u with
  | equip api => exact told_nil _
  | run host script params =>
    unfold momentsOf
    cases i.console with
    | error e => exact told_nil _
    | ok console => exact i.told_course script params

/-- The variables after a use are those that its moments leave. -/
theorem globals_use (i : Interpreter) (u : Use) :
    (i.use u).globals = (i.momentsOf u).foldl Moment.leave i.globals := by
  cases u with
  | equip api => rfl
  | run host script params =>
    show (i.run script params).globals = _
    unfold momentsOf run
    cases i.console with
    | error e => rfl
    | ok console =>
      rw [List.foldl_map]
      exact congrArg Run.globals (execute_eq_replay _ _ _ _)

theorem globals_after (uses : List Use) :
    ∀ i : Interpreter, (i.after uses).globals = (i.moments uses).foldl Moment.leave i.globals := by
  induction uses with
  | nil =>
    intro i
    rfl
  | cons u uses ih =>
    intro i
    rw [moments, List.foldl_append, ← globals_use]
    exact ih (i.use u)

theorem told_moments (uses : List Use) :
    ∀ i : Interpreter, Told i.globals (i.moments uses) := by
  induction uses with
  | nil =>
    intro i
    exact told_nil _
  | cons u uses ih =>
    intro i
    refine (i.told_momentsOf u).append ?_
    rw [← globals_use]
    exact ih (i.use u)

end Interpreter

/-! ## 5. What stays -/

/-- The variables that are set behind the moments of a life. -/
def globalsAfter (moments : List Moment) : Globals := moments.foldl Moment.leave Catalog.empty

/-- A moment that does not set the variable leaves it as it was. -/
theorem Moment.get?_leave {m : Moment} {name : List Char} (h : m.name? ≠ some name)
    (globals : Globals) : (m.leave globals).get? name = globals.get? name := by
  unfold name? at h
  unfold leave
  cases hdeed : m.visit.deed with
  | assigned other value =>
    rw [hdeed] at h
    exact globals.get?_insert_ne value fun he => h (congrArg some he.symm)
  | nothing | printed _ | exited _ | failed _ | refusedName _ | refusedKeyword _ => rfl

/-- **A variable keeps its value over moments that do not set it.** -/
theorem get?_stable {name : List Char} (moments : List Moment) :
    ∀ globals : Globals, (∀ m ∈ moments, m.name? ≠ some name) →
      (moments.foldl Moment.leave globals).get? name = globals.get? name := by
  induction moments with
  | nil =>
    intro globals _
    rfl
  | cons m later ih =>
    intro globals h
    rw [List.foldl_cons, ih _ fun w hw => h w (List.mem_cons_of_mem _ hw)]
    exact Moment.get?_leave (h m List.mem_cons_self) globals

/-- All variables have names that are well formed. -/
def Named (globals : Globals) : Prop := ∀ name ∈ globals.keys, WellFormed name

/-- What a moment sets has a name that is well formed. -/
theorem Moment.Does.wellFormed {m : Moment} {globals : Globals} {name : List Char}
    (h : m.Does globals) (hname : m.name? = some name) : WellFormed name := by
  obtain ⟨line, -, hline⟩ := Option.map_eq_some_iff.1 h.line
  unfold name? at hname
  rw [h.deed] at hname
  cases hstatement : m.visit.statement with
  | assign other text =>
    rw [hstatement] at hname hline
    obtain rfl : other = name := Option.some.inj hname
    exact isName_iff_wellFormed.1 (Statement.isName_of_ofLine hline)
  | blank | print _ | exit _ | fail _ | badName _ | unknown _ =>
    rw [hstatement] at hname
    cases hname

theorem Named.leave {m : Moment} {globals : Globals} (h : Named globals) (hm : m.Does globals) :
    Named (m.leave globals) := by
  intro name hname
  obtain ⟨value, hvalue⟩ := Catalog.mem_keys.1 hname
  by_cases hset : m.name? = some name
  · exact hm.wellFormed hset
  · rw [Moment.get?_leave hset] at hvalue
    exact h name (Catalog.mem_keys.2 ⟨value, hvalue⟩)

theorem Named.foldl {moments : List Moment} :
    ∀ {globals : Globals}, Named globals → Told globals moments →
      Named (moments.foldl Moment.leave globals) := by
  induction moments with
  | nil =>
    intro globals h _
    exact h
  | cons m later ih =>
    intro globals h htold
    exact ih (h.leave htold.head) htold.tail

/-- What is so if a moment behind others has put a value under a name, and then others come. -/
structure Holds (before : List Moment) (m : Moment) (later : List Moment)
    (name value : List Char) : Prop where
  /-- The run goes on. -/
  goesOn : m.visit.result? = none
  set : (globalsAfter (before ++ [m])).get? name = some value
  /-- No other variable changes. -/
  frame : ∀ other, other ≠ name →
    (globalsAfter (before ++ [m])).get? other = (globalsAfter before).get? other
  /-- Until the name is set again, its value is put in for it wherever it stands and ends. -/
  stays : ∀ between rest, later = between ++ rest → (∀ w ∈ between, w.name? ≠ some name) →
    ∀ params front back, Ends back →
      let σ : Scope := ⟨params, globalsAfter (before ++ m :: between)⟩
      σ.expand (front ++ '$' :: (name ++ back)) = σ.expand front ++ value ++ σ.expand back

/-- What becomes of the variables of an interpreter that is used in this way. -/
structure Remembered (uses : List Use) : Prop where
  /-- The interpreter is what that of an instance remembers. -/
  memory : ∀ source : Instance, source.plugin.engine = .echo →
    (uses.foldl Use.on (ScriptHost.Interpreter.create source).1).memory =
      .echo (Interpreter.life uses)
  /-- The runs are told by their courses. -/
  runs : ∀ before host script params later console,
    uses = before ++ .run host script params :: later →
      (Interpreter.life before).console = .ok console →
        (Interpreter.life before).Recounts script params
          ((Interpreter.life before).course script params)
  told : Told Catalog.empty (Interpreter.moments {} uses)
  /-- No run takes back what its moments leave. -/
  globals : (Interpreter.life uses).globals = globalsAfter (Interpreter.moments {} uses)
  named : ∀ before later,
    Interpreter.moments {} uses = before ++ later → Named (globalsAfter before)
  holds : ∀ before m later name text, Interpreter.moments {} uses = before ++ m :: later →
    WellFormed name → m.text? = some (setLine name text) →
      Holds before m later name ((m.scope (globalsAfter before)).expand (Text.trim text))

/-- A moment on a line `set` puts the value under the name. -/
theorem Moment.Does.deed_of_setLine {m : Moment} {globals : Globals} {name text : List Char}
    (h : m.Does globals) (hname : WellFormed name) (htext : m.text? = some (setLine name text)) :
    m.visit.deed = .assigned name ((m.scope globals).expand (Text.trim text)) := by
  have hline := h.line
  rw [htext, Option.map_some, Statement.ofLine_set (isName_iff_wellFormed.2 hname)] at hline
  rw [h.deed, ← Option.some.inj hline]
  rfl

theorem holds_of_assigned {before later : List Moment} {m : Moment} {name value : List Char}
    (hname : WellFormed name) (hdeed : m.visit.deed = .assigned name value) :
    Holds before m later name value := by
  have hleave : ∀ globals : Globals, m.leave globals = globals.insert name value := by
    intro globals
    rw [Moment.leave, hdeed]
    rfl
  have hset : ∀ globals : Globals, (m.leave globals).get? name = some value := by
    intro globals
    rw [hleave, Catalog.get?_insert_self]
  refine ⟨?_, ?_, ?_, ?_⟩
  · rw [Visit.result?, hdeed]
    rfl
  · rw [globalsAfter, List.foldl_append]
    exact hset _
  · intro other hne
    rw [globalsAfter, List.foldl_append]
    show (m.leave _).get? other = _
    rw [hleave, Catalog.get?_insert_ne _ _ hne]
    rfl
  · intro between rest _ hbetween params front back hback σ
    have hvalue : σ.globals.get? name = some value := by
      show (globalsAfter (before ++ m :: between)).get? name = some value
      rw [globalsAfter, List.foldl_append, List.foldl_cons, get?_stable between _ hbetween]
      exact hset _
    rw [σ.expand_name front (isName_iff_wellFormed.2 hname) hback, hvalue]
    rfl

theorem Interpreter.recounts_of_console {i : Interpreter} {console : ApiHandle}
    (h : i.console = .ok console) (script : String) (params : List String) :
    i.Recounts script params (i.course script params) := by
  obtain ⟨api, globals⟩ := i
  cases api with
  | none => cases h
  | some handle =>
    cases handle with
    | console name => exact recounts_course name globals script params
    | other name => cases h

theorem Use.memory_foldl (uses : List Use) :
    ∀ (i : ScriptHost.Interpreter) (e : Interpreter), i.memory = .echo e →
      (uses.foldl Use.on i).memory = .echo (e.after uses) := by
  induction uses with
  | nil =>
    intro i e h
    exact h
  | cons u uses ih =>
    intro i e h
    exact ih _ _ (u.memory_on h)

/-- **All variables of an interpreter have names that are well formed, and what a line `set` puts
under a name is put in for it until the name is set again**, in the same run and in all later ones,
whatever becomes of them. -/
theorem remembers (uses : List Use) : Remembered uses where
  memory source h := by
    refine Use.memory_foldl uses _ {} ?_
    show source.plugin.engine.memory = .echo {}
    rw [h]
    rfl
  runs before host script params later console _ h :=
    Interpreter.recounts_of_console h script params
  told := Interpreter.told_moments uses {}
  globals := Interpreter.globals_after uses {}
  named before later h := by
    have hempty : Named Catalog.empty := fun name hname => absurd hname List.not_mem_nil
    have htold : Told Catalog.empty (before ++ later) := h ▸ Interpreter.told_moments uses {}
    exact hempty.foldl htold.of_append
  holds before m later name text h hname htext := by
    have hdoes : m.Does (globalsAfter before) := Interpreter.told_moments uses {} before m later h
    exact holds_of_assigned hname (hdoes.deed_of_setLine hname htext)

end ScriptHost.Echo

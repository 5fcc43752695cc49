import ScriptHost.Proofs.Command.Arguments

/-!
# Settings on the command line

The options of a command line may stand before the name of the action and behind it, in any order,
and the path of the manifest may be a word of its own or follow an equality sign.

* `Setting.words`, `Action.words`: how options and actions are written.
* `ReadsSettings`: what the three loops that read a command line have in common. Each of them reads
  written settings in the same way (`ReadsSettings.run`).
* **`ofArguments_written`**: a command line that gives each option once asks for these options and
  this action. What stands behind the first argument of a script belongs to the script, whatever it
  looks like.
-/

namespace ScriptHost.Command

/-! ## 1. Written settings -/

/-- An option as it is written. -/
inductive Setting where
  | json
  /-- The manifest to load, behind an equality sign or as a word of its own. -/
  | config (attached : Bool) (path : String)
  deriving DecidableEq, Repr

namespace Setting

/-- The words of the setting. -/
def words : Setting → List String
  | .json => ["--json"]
  | .config true path => ["--config=" ++ path]
  | .config false path => ["--config", path]

/-- The manifest that the setting names. -/
def path? : Setting → Option String
  | .json => none
  | .config _ path => some path

end Setting

/-- The settings give each of the options once, and nothing else. -/
structure Gives (settings : List Setting) (o : Options) : Prop where
  config : settings.filterMap Setting.path? = o.config.toList
  json : settings.count .json = o.json.toNat

/-- The options that the settings come to. -/
def Options.ofSettings (settings : List Setting) : Options :=
  ⟨(settings.filterMap Setting.path?).head?, settings.contains .json⟩

/-- No option is given twice. -/
structure Once (settings : List Setting) : Prop where
  config : (settings.filterMap Setting.path?).length ≤ 1
  json : settings.count .json ≤ 1

theorem Gives.once {settings : List Setting} {o : Options} (h : Gives settings o) :
    Once settings := by
  constructor
  · rw [h.config]
    cases o.config <;> simp
  · rw [h.json]
    exact Bool.toNat_le o.json

theorem Gives.ofSettings {settings : List Setting} {o : Options} (h : Gives settings o) :
    Options.ofSettings settings = o := by
  obtain ⟨config, json⟩ := o
  have hconfig : (settings.filterMap Setting.path?).head? = config := by
    rw [h.config]
    cases config <;> rfl
  have hjson : settings.contains .json = json := by
    have hcount := h.json
    cases json with
    | false => simpa [List.count_eq_zero] using hcount
    | true =>
      have hpos : 0 < settings.count .json := by
        rw [hcount]
        exact Nat.one_pos
      simpa using List.count_pos_iff.1 hpos
  rw [Options.ofSettings, hconfig, hjson]

theorem Once.left {before after : List Setting} (h : Once (before ++ after)) : Once before := by
  have hconfig := h.config
  have hjson := h.json
  rw [List.filterMap_append, List.length_append] at hconfig
  rw [List.count_append] at hjson
  exact ⟨by omega, by omega⟩

theorem Once.right {before after : List Setting} (h : Once (before ++ after)) : Once after := by
  have hconfig := h.config
  have hjson := h.json
  rw [List.filterMap_append, List.length_append] at hconfig
  rw [List.count_append] at hjson
  exact ⟨by omega, by omega⟩

/-- Of options that are given once it does not matter where they stand. -/
theorem Once.within {before after : List Setting} (h : Once (before ++ after)) :
    (Options.ofSettings after).within (Options.ofSettings before) =
      Options.ofSettings (before ++ after) := by
  have hconfig := h.config
  rw [List.filterMap_append, List.length_append] at hconfig
  have hor : (after.filterMap Setting.path?).head?.or (before.filterMap Setting.path?).head? =
      (before.filterMap Setting.path? ++ after.filterMap Setting.path?).head? := by
    cases hb : before.filterMap Setting.path? with
    | nil => simp
    | cons path rest =>
      cases ha : after.filterMap Setting.path? with
      | nil => simp
      | cons path' rest' =>
        rw [hb, ha, List.length_cons, List.length_cons] at hconfig
        omega
  simp only [Options.within, Options.ofSettings, hor, List.filterMap_append, List.contains_append,
    Bool.or_comm]

/-! ## 2. Words -/

/-- The word does not begin with a dash. -/
def Plain (word : String) : Prop := word.toList.head? ≠ some '-'

instance (word : String) : Decidable (Plain word) := inferInstanceAs (Decidable (_ ≠ _))

theorem Plain.shape {word : String} (h : Plain word) : Shape.of word.toList = .plain := by
  unfold Plain at h
  cases hw : word.toList with
  | nil => rfl
  | cons c r =>
    refine Shape.of_plain fun hc => h ?_
    rw [hw, hc, List.head?_cons]

/-- A path behind an equality sign is the value of its option. -/
theorem shape_attached (path : String) :
    Shape.of ("--config=" ++ path).toList = .long "config".toList (some path.toList) := by
  have hlist : ("--config=" ++ path).toList =
      '-' :: '-' :: 'c' :: 'o' :: 'n' :: 'f' :: 'i' :: 'g' :: '=' :: path.toList :=
    String.toList_append
  rw [hlist]
  rfl

/-! ## 3. Reading settings -/

/-- What has been read comes to these options. -/
structure Progress.ComesTo (p : Progress) (o : Options) : Prop where
  waiting : p.isWaiting = false
  settled : p.settle = .ok { options := o }

/-- A loop over the words that reads long options, and the words that they wait for. -/
structure ReadsSettings {α : Type} (read : Progress → List String → Except ArgumentError α) :
    Prop where
  long : ∀ {p p' : Progress} {word : String} {name : List Char} {attached : Option (List Char)}
    (rest : List String), Shape.of word.toList = .long name attached →
      p.long? name attached = some (.ok p') → read p (word :: rest) = read p' rest
  value : ∀ {p : Progress} {word : String} (rest : List String),
    Shape.of word.toList = .plain → p.isWaiting = true →
      read p (word :: rest) = read { p with held := .config (some word) } rest

theorem readsSettings_readAll : ReadsSettings Progress.readAll where
  long rest hshape hlong := by
    rw [Progress.readAll.eq_def]
    simp only [hshape, hlong]
  value rest hshape hwaiting := by
    rw [Progress.readAll.eq_def]
    simp only [hshape, hwaiting, if_true]

theorem readsSettings_readOptions : ReadsSettings Progress.readOptions where
  long rest hshape hlong := by
    rw [Progress.readOptions]
    simp only [hshape, hlong]
  value rest hshape hwaiting := by
    rw [Progress.readOptions]
    simp only [hshape, hwaiting, if_true]

theorem readsSettings_readRun (afterId : Bool) :
    ReadsSettings fun p words => p.readRun afterId words where
  long rest hshape hlong := by
    show Progress.readRun _ _ _ = _
    rw [Progress.readRun]
    simp only [hshape, hlong]
  value rest hshape hwaiting := by
    show Progress.readRun _ _ _ = _
    rw [Progress.readRun]
    simp only [hshape, hwaiting, if_true]

/-- The path of a manifest that can be given: there is one, and it is no option. -/
def Setting.Fit (s : Setting) : Prop := ∀ path ∈ s.path?, path ≠ "" ∧ Plain path

variable {α : Type} {read : Progress → List String → Except ArgumentError α} {p : Progress}

/-- With a path held back, what has been read comes to the options with that path. -/
theorem Progress.comesTo_held {o : Options} {path : String} (ho : o.config = none)
    (hpath : path ≠ "") :
    Progress.ComesTo { options := o, held := .config (some path) }
      { o with config := some path } := by
  refine ⟨rfl, ?_⟩
  have hempty : path.isEmpty = false := by
    rw [Bool.eq_false_iff]
    exact fun h => hpath (String.isEmpty_iff.1 h)
  simp only [Progress.settle, ho, Option.isSome_none, hempty, Bool.false_eq_true, if_false]

/-- **One setting is read**, and the options then hold it. -/
theorem ReadsSettings.step (hread : ReadsSettings read) {done : List Setting} {s : Setting}
    (hp : p.ComesTo (.ofSettings done)) (hs : s.Fit) (honce : Once (done ++ [s])) :
    ∃ p' : Progress, p'.ComesTo (.ofSettings (done ++ [s])) ∧
      ∀ rest, read p (s.words ++ rest) = read p' rest := by
  cases s with
  | json =>
    have hnew : (Options.ofSettings done).json = false := by
      have hcount := honce.json
      rw [List.count_append, List.count_singleton_self] at hcount
      simpa [Options.ofSettings, List.count_eq_zero] using show done.count .json = 0 by omega
    have hoptions : Options.ofSettings (done ++ [.json]) =
        { Options.ofSettings done with json := true } := by
      simp [Options.ofSettings, Setting.path?]
    have hlong : p.long? "json".toList none =
        some (.ok { options := .ofSettings (done ++ [.json]) }) := by
      simp only [Progress.long?, if_true, Option.isSome_none, Bool.false_eq_true, if_false,
        hp.settled, Except.bind, hnew, hoptions]
    exact ⟨_, ⟨rfl, rfl⟩, fun rest => hread.long rest (by decide) hlong⟩
  | config attached path =>
    have hnone : done.filterMap Setting.path? = [] := by
      have hlength := honce.config
      rw [List.filterMap_append, List.length_append] at hlength
      exact List.length_eq_zero_iff.1 (by simpa [Setting.path?] using hlength)
    have hoptions : Options.ofSettings (done ++ [.config attached path]) =
        { Options.ofSettings done with config := some path } := by
      simp [Options.ofSettings, Setting.path?, hnone]
    obtain ⟨hpath, hplain⟩ := hs path rfl
    have hheld : Progress.ComesTo
        { options := .ofSettings done, held := .config (some path) }
        (.ofSettings (done ++ [.config attached path])) :=
      hoptions ▸ Progress.comesTo_held (by rw [Options.ofSettings, hnone]; rfl) hpath
    cases attached with
    | true =>
      have hlong : p.long? "config".toList (some path.toList) =
          some (.ok { options := .ofSettings (done ++ [.config true path]) }) := by
        rw [Progress.long?, if_neg (by decide), if_pos rfl]
        simp only [Progress.hold, hp.settled, Except.map, Except.bind, String.ofList_toList]
        exact congrArg some hheld.settled
      exact ⟨_, ⟨rfl, rfl⟩, fun rest => hread.long rest (shape_attached path) hlong⟩
    | false =>
      have hlong : p.long? "config".toList none =
          some (.ok { options := .ofSettings done, held := .config none }) := by
        rw [Progress.long?, if_neg (by decide), if_pos rfl]
        simp only [Progress.hold, hp.settled, Except.map]
      refine ⟨_, hheld, fun rest => ?_⟩
      show read p ("--config" :: path :: rest) = _
      rw [hread.long (path :: rest) (by decide) hlong, hread.value rest hplain.shape rfl]

/-- **Settings are read one after the other.** The induction is on those still to be read; those
read before are among the options already. -/
theorem ReadsSettings.run (hread : ReadsSettings read) :
    ∀ (settings done : List Setting) {p : Progress}, p.ComesTo (.ofSettings done) →
      (∀ s ∈ settings, s.Fit) → Once (done ++ settings) →
      ∃ p' : Progress, p'.ComesTo (.ofSettings (done ++ settings)) ∧
        ∀ rest, read p (settings.flatMap Setting.words ++ rest) = read p' rest
  | [], done, p, hp, _, _ => ⟨p, by rwa [List.append_nil], fun _ => rfl⟩
  | s :: settings, done, p, hp, hfit, honce => by
    obtain ⟨hs, hsettings⟩ := List.forall_mem_cons.1 hfit
    rw [List.append_cons] at honce ⊢
    obtain ⟨p₁, hp₁, hread₁⟩ := hread.step hp hs honce.left
    obtain ⟨p₂, hp₂, hread₂⟩ := hread.run settings (done ++ [s]) hp₁ hsettings honce
    refine ⟨p₂, hp₂, fun rest => ?_⟩
    rw [List.flatMap_cons, List.append_assoc, hread₁, hread₂]

/-- What is read before the first word. -/
theorem Progress.comesTo_start : Progress.ComesTo {} (.ofSettings []) := ⟨rfl, rfl⟩

/-! ## 4. Numerals -/

/-- The decimal numeral of a number, with so many zeros before it. -/
def numeral (zeros : Nat) (n : UInt32) : String :=
  String.ofList (List.replicate zeros '0' ++ Nat.toDigits 10 n.toNat)

/-- Zeros before a numeral do not change its value. -/
theorem readFrom_zeros (digits : List Char) : ∀ zeros,
    Numeral.readFrom 10 0 (List.replicate zeros '0' ++ digits) = Numeral.readFrom 10 0 digits
  | 0 => rfl
  | zeros + 1 => by
    rw [List.replicate_succ, List.cons_append, Numeral.readFrom,
      show Numeral.digit? 10 '0' = some 0 from by decide, Option.bind_some]
    exact readFrom_zeros digits zeros

/-- A numeral begins with a digit. -/
theorem numeral_eq_cons (zeros : Nat) (n : UInt32) :
    ∃ c r, (numeral zeros n).toList = c :: r ∧ c.isDigit = true := by
  rw [numeral, String.toList_ofList]
  cases zeros with
  | zero => exact Numeral.toDigits_eq_cons n.toNat
  | succ zeros => exact ⟨'0', _, rfl, by decide⟩

theorem plain_numeral (zeros : Nat) (n : UInt32) : Plain (numeral zeros n) := by
  obtain ⟨c, r, hcons, hc⟩ := numeral_eq_cons zeros n
  rw [Plain, hcons, List.head?_cons]
  rintro ⟨⟩
  cases hc

/-- **A numeral is read as its number.** -/
theorem uint32?_numeral (zeros : Nat) (n : UInt32) :
    Numeral.uint32? (numeral zeros n).toList = some n := by
  have hread : Numeral.readFrom 10 0 (numeral zeros n).toList = some n.toNat := by
    rw [numeral, String.toList_ofList, readFrom_zeros, Numeral.readFrom_toDigits]
  have hne : (numeral zeros n).toList ≠ [] := by
    obtain ⟨c, r, hcons, -⟩ := numeral_eq_cons zeros n
    rw [hcons]
    exact List.cons_ne_nil c r
  exact Numeral.uint32?_of_readFrom hne hread

/-! ## 5. Actions -/

/-- The words of an action, with settings behind its name. -/
def Action.words (settings : List Setting) (zeros : Nat) : Action → List String
  | .check => "check" :: settings.flatMap Setting.words
  | .list => "list" :: settings.flatMap Setting.words
  | .run id args => "run" :: settings.flatMap Setting.words ++ numeral zeros id :: args

/-- The first argument of a script, if there is one, is no option. -/
def Action.Fit : Action → Prop
  | .check | .list => True
  | .run _ args => ∀ first ∈ args.head?, Plain first

/-- With the settings read, the id and all that follows it belong to the script. -/
theorem Progress.ComesTo.readRun {o : Options} (hp : p.ComesTo o) (zeros : Nat) (id : UInt32)
    {args : List String} (hargs : ∀ first ∈ args.head?, Plain first) :
    p.readRun false (numeral zeros id :: args) = .ok ⟨o, .run id args⟩ := by
  have hshape := (plain_numeral zeros id).shape
  have hhold : p.hold (.id (numeral zeros id)) =
      .ok { options := o, held := .id (numeral zeros id) } := by
    rw [Progress.hold, hp.settled]
    rfl
  have hfinish : ∀ args, Progress.finishRun
      { options := o, held := .id (numeral zeros id) } args = .ok ⟨o, .run id args⟩ := by
    intro args
    simp only [Progress.finishRun, Progress.settle, uint32?_numeral, Except.bind]
  rw [Progress.readRun]
  simp only [hshape, hp.waiting, hhold, Bool.false_eq_true, if_false]
  cases args with
  | nil => exact hfinish []
  | cons first rest =>
    have hfirst := (hargs first rfl).shape
    rw [Progress.readRun]
    simp only [hfirst]
    exact hfinish (first :: rest)

/-- **An action is read with the settings behind its name.** -/
theorem readAction_words {settings : List Setting} (hfit : ∀ s ∈ settings, s.Fit)
    (honce : Once settings) (zeros : Nat) {a : Action} (ha : a.Fit) :
    ∃ name rest, a.words settings zeros = name :: rest ∧ name ∈ actionNames ∧ Plain name ∧
      readAction name rest = .ok ⟨.ofSettings settings, a⟩ := by
  cases a with
  | check =>
    obtain ⟨p, hp, hread⟩ :=
      readsSettings_readOptions.run settings [] Progress.comesTo_start hfit honce
    refine ⟨"check", _, rfl, by decide, by decide, ?_⟩
    rw [readAction, if_neg (by decide), if_pos rfl, ← List.append_nil (settings.flatMap _), hread,
      Progress.readOptions, hp.settled]
    rfl
  | list =>
    obtain ⟨p, hp, hread⟩ :=
      readsSettings_readOptions.run settings [] Progress.comesTo_start hfit honce
    refine ⟨"list", _, rfl, by decide, by decide, ?_⟩
    rw [readAction, if_neg (by decide), if_neg (by decide), if_pos rfl,
      ← List.append_nil (settings.flatMap _), hread, Progress.readOptions, hp.settled]
    rfl
  | run id args =>
    obtain ⟨p, hp, hread⟩ :=
      (readsSettings_readRun false).run settings [] Progress.comesTo_start hfit honce
    refine ⟨"run", _, rfl, by decide, by decide, ?_⟩
    rw [readAction, if_pos rfl]
    exact (hread _).trans (hp.readRun zeros id ha)

/-! ## 6. Command lines -/

/-- **A command line that gives each option once**, before the name of the action or behind it, asks
for these options and this action. All that follows the first argument of a script is passed on as
it stands. -/
theorem ofArguments_written {o : Options} {before after : List Setting}
    (hgives : Gives (before ++ after) o) (hpath : ∀ path ∈ o.config, path ≠ "" ∧ Plain path)
    {a : Action} (ha : a.Fit) (zeros : Nat) :
    Invocation.ofArguments (before.flatMap Setting.words ++ a.words after zeros) = .ok ⟨o, a⟩ := by
  have honce := hgives.once
  have hfit : ∀ s ∈ before ++ after, s.Fit := by
    intro s hs path hp
    refine hpath path (Option.mem_toList.1 ?_)
    rw [← hgives.config]
    exact List.mem_filterMap.2 ⟨s, hs, hp⟩
  obtain ⟨hbefore, hafter⟩ := List.forall_mem_append.1 hfit
  obtain ⟨p, hp, hread⟩ :=
    readsSettings_readAll.run before [] Progress.comesTo_start hbefore honce.left
  obtain ⟨name, rest, hwords, hname, hplain, haction⟩ := readAction_words hafter honce.right zeros ha
  rw [Invocation.ofArguments, hread, hwords, Progress.readAll.eq_def]
  simp only [hplain.shape, hp.waiting, hname, haction, hp.settled, Bool.false_eq_true, if_false,
    if_true, Except.bind, Except.map]
  rw [List.nil_append, honce.within, hgives.ofSettings]

/-- The manifest named behind the action, the flag before it, and arguments that look like
options. -/
theorem ofArguments_written_hyphenated :
    Invocation.ofArguments
        ["--json", "run", "--config", "run", "007", "a", "--json", "--config", "--help", "--", ""] =
      .ok ⟨⟨some "run", true⟩, .run 7 ["a", "--json", "--config", "--help", "--", ""]⟩ := by
  have hgives : Gives ([.json] ++ [.config false "run"]) ⟨some "run", true⟩ := ⟨rfl, rfl⟩
  have hpath : ∀ path ∈ some "run", path ≠ "" ∧ Plain path := by
    rintro _ ⟨⟩
    decide
  have ha : (Action.run 7 ["a", "--json", "--config", "--help", "--", ""]).Fit := by
    rintro _ ⟨⟩
    decide
  exact ofArguments_written hgives hpath ha 2

end ScriptHost.Command

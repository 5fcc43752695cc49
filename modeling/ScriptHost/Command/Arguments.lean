import ScriptHost.Command.Invocation
import ScriptHost.Text.Numeral

/-!
# Reading arguments

Arguments are read from left to right on two levels: before the name of the action, and behind it.
The options are known on both.

* A value is looked at when the next thing has been recognised or the level ends, so a mistake in
  the shape of a later argument can come first. Mistakes behind the name of the action come before
  those in values before it.
* Behind `--` there are no options. Behind the first argument of a script everything belongs to the
  script; right before it, what is no option is that first argument.

The host leaves its arguments to clap, whose documented rules these are, as far as the host's options
and actions make use of them: options that hold on all levels (`global`), values behind an equality
sign or as the next argument, `--` as the end of options, and params that may look like options
(`trailing_var_arg`, `allow_hyphen_values`). In what order mistakes are told is its behaviour, too.
-/

namespace ScriptHost.Command

/-! ## 1. The shape of an argument -/

/-- What an argument looks like. -/
inductive Shape where
  /-- Two dashes. -/
  | escape
  /-- A long option, perhaps with a value behind an equality sign. -/
  | long (name : List Char) (attached : Option (List Char))
  /-- Short options behind one dash. -/
  | short (flags : List Char)
  | plain
  deriving DecidableEq, Repr

/-- The shape of the argument. -/
def Shape.of : List Char → Shape
  | ['-', '-'] => .escape
  | '-' :: '-' :: r =>
    match r.dropWhile (· != '=') with
    | [] => .long r none
    | _ :: value => .long (r.takeWhile (· != '=')) (some value)
  | '-' :: c :: r => .short (c :: r)
  | _ => .plain

/-! ## 2. Values that are held back -/

/-- What has not been looked at yet. -/
inductive Held where
  | nothing
  /-- The manifest option, with its value if it has come. -/
  | config (value : Option String)
  | id (word : String)
  deriving DecidableEq, Repr

/-- How far a level has been read. -/
structure Progress where
  options : Options := {}
  id : Option UInt32 := none
  held : Held := .nothing
  deriving DecidableEq, Repr

namespace Progress

/-- Whether the next word is the value of an option. -/
def isWaiting (p : Progress) : Bool := p.held == .config none

/-- Looks at what is held back. -/
def settle (p : Progress) : Except ArgumentError Progress :=
  match p.held with
  | .nothing => .ok p
  | .config none => .error .missingValue
  | .config (some value) =>
    if p.options.config.isSome then .error .repeatedOption
    else if value.isEmpty then .error .missingValue
    else .ok { p with options := { p.options with config := some value }, held := .nothing }
  | .id word =>
    match Numeral.uint32? word.toList with
    | some n => .ok { p with id := some n, held := .nothing }
    | none => .error .invalidId

/-- Holds a value back after looking at the one before it. -/
def hold (p : Progress) (held : Held) : Except ArgumentError Progress :=
  p.settle.map fun settled => { settled with held }

/-! ## 3. Options -/

/-- Reads a long option; there may be none of the name. -/
def long? (p : Progress) (name : List Char) (attached : Option (List Char)) :
    Option (Except ArgumentError Progress) :=
  if name = "json".toList then
    some <|
      if attached.isSome then .error .valueOfFlag
      else p.settle.bind fun p =>
        if p.options.json then .error .repeatedOption
        else .ok { p with options := { p.options with json := true } }
  else if name = "config".toList then
    some <|
      match attached with
      | none => p.hold (.config none)
      | some value => (p.hold (.config (some (String.ofList value)))).bind settle
  else if name = "help".toList then
    some <| if attached.isSome then .error .valueOfFlag
      else p.settle.bind fun _ => .error .helpAsked
  else none

/-- The letter of the only short option. -/
def helpFlag : Char := 'h'

/-- Reads short options. -/
def short (p : Progress) (flags : List Char) : ArgumentError :=
  if flags.head? = some helpFlag then
    match p.settle with
    | .ok _ => .helpAsked
    | .error e => e
  else .unknownArgument

/-! ## 4. Behind the action -/

/-- Reads what stands behind an action that takes nothing but options. -/
def readOptions (p : Progress) : List String → Except ArgumentError Progress
  | [] => p.settle
  | word :: rest =>
    match Shape.of word.toList with
    | .escape => if rest.isEmpty then p.settle else .error .unknownArgument
    | .long name attached =>
      match p.long? name attached with
      | some (.ok p) => p.readOptions rest
      | some (.error e) => .error e
      | none => .error .unknownArgument
    | .short flags => .error (p.short flags)
    | .plain =>
      if p.isWaiting then { p with held := .config (some word) }.readOptions rest
      else .error .unknownArgument

/-- Ends the reading of a run with the arguments of the script. -/
def finishRun (p : Progress) (args : List String) : Except ArgumentError Invocation :=
  p.settle.bind fun p =>
    match p.id with
    | some id => .ok ⟨p.options, .run id args⟩
    | none => .error .missingId

/-- Reads the words of a run behind two dashes. -/
def readWords (p : Progress) (afterId : Bool) : List String → Except ArgumentError Invocation
  | [] => p.finishRun []
  | word :: rest =>
    if afterId then p.finishRun (word :: rest)
    else (p.hold (.id word)).bind (·.finishRun rest)

/-- Reads what stands behind the action that runs a script. -/
def readRun (p : Progress) (afterId : Bool) : List String → Except ArgumentError Invocation
  | [] => p.finishRun []
  | word :: rest =>
    let asValue : Except ArgumentError Invocation :=
      if p.isWaiting then { p with held := .config (some word) }.readRun afterId rest
      else if afterId then p.finishRun (word :: rest)
      else
        match p.hold (.id word) with
        | .ok p => p.readRun true rest
        | .error e => .error e
    match Shape.of word.toList with
    | .escape => p.readWords afterId rest
    | .long name attached =>
      match p.long? name attached with
      | some (.ok p) => p.readRun afterId rest
      | some (.error e) => .error e
      | none => if afterId then asValue else .error .unknownArgument
    | .short flags =>
      if afterId && flags.any (· != helpFlag) then asValue else .error (p.short flags)
    | .plain => asValue

end Progress

/-! ## 5. Before the action -/

/-- The names of the actions, and the word that asks for help on them. -/
def actionNames : List String := ["check", "run", "list", "help"]

/-- Reads the words behind `help`: the name of one action, or nothing. -/
def readHelp : List String → ArgumentError
  | [] => .helpAsked
  | [word] => if word ∈ actionNames then .helpAsked else .unknownAction
  | _ => .unknownAction

/-- Reads what stands behind the name of an action. -/
def readAction (name : String) (rest : List String) : Except ArgumentError Invocation :=
  if name = "run" then Progress.readRun {} false rest
  else if name = "check" then (Progress.readOptions {} rest).map fun p => ⟨p.options, .check⟩
  else if name = "list" then (Progress.readOptions {} rest).map fun p => ⟨p.options, .list⟩
  else .error (readHelp rest)

namespace Progress

/-- Ends the reading without an action. -/
def finishBare (p : Progress) : ArgumentError :=
  match p.settle with
  | .error e => e
  | .ok p => if p.options = {} then .nothingGiven else .missingAction

/-- Reads all arguments. -/
def readAll (p : Progress) : List String → Except ArgumentError Invocation
  | [] => .error p.finishBare
  | word :: rest =>
    match Shape.of word.toList with
    | .escape =>
      match rest with
      | [] => .error p.finishBare
      | next :: _ => .error (if next ∈ actionNames then .unknownArgument else .unknownAction)
    | .long name attached =>
      match p.long? name attached with
      | some (.ok p) => p.readAll rest
      | some (.error e) => .error e
      | none => .error .unknownArgument
    | .short flags => .error (p.short flags)
    | .plain =>
      if p.isWaiting then { p with held := .config (some word) }.readAll rest
      else if word ∈ actionNames then
        (readAction word rest).bind fun inner =>
          p.settle.map fun p => { inner with options := inner.options.within p.options }
      else .error .unknownAction

end Progress

/-- The invocation that the arguments ask for. -/
def Invocation.ofArguments (args : List String) : Except ArgumentError Invocation :=
  Progress.readAll {} args

end ScriptHost.Command

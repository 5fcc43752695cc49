import ScriptHost.Toml.Value

/-!
# Tables in the making

A table of a document can be written in several places. `Node` is a value together with the way in
which it came to be, which decides what may still be added to it:

* a header opens a table once, also when headers below it came first (`Origin.implied`);
* dotted keys add to tables that dotted keys made, or to those that headers only implied;
* a value, an inline table among them, is complete.

A key that is taken, and a table that may not be added to, make the document fail.
-/

namespace ScriptHost.Toml

/-! ## 1. Nodes -/

/-- How a table came to be. -/
inductive Origin where
  /-- By a header of its own, or as the root of a document or of an inline table. -/
  | header
  /-- By the header of a table within it. -/
  | implied
  /-- By a dotted key. -/
  | dotted
  deriving DecidableEq, Repr

/-- A value in the making. -/
inductive Node where
  | value (v : Value)
  | table (origin : Origin) (entries : List (String × Node))
  /-- An array of tables, one for each of its headers. -/
  | tables (members : List (List (String × Node)))
  deriving Inhabited

/-- The entries of a table in the making. -/
abbrev Entries := List (String × Node)

/-- Puts the node under a key that is there, in its place. -/
def Entries.replace (es : Entries) (key : String) (node : Node) : Entries :=
  es.map fun e => if e.1 == key then (key, node) else e

/-- Leaves out the key. -/
def Entries.without (es : Entries) (key : String) : Entries := es.filter (·.1 != key)

/-! ## 2. The way to a table -/

/-- A change of the entries of a table. -/
abbrev Change := Origin → Entries → Option Entries

/-- Changes the table that the keys lead to. Tables that are missing on the way are made; in an
array of tables the way leads through its last member. -/
def changeAt (dotted : Bool) (change : Change) : List String → Change
  | [], origin, es => change origin es
  | key :: path, _, es =>
    match es.lookup key with
    | none =>
      let made := if dotted then Origin.dotted else Origin.implied
      (changeAt dotted change path made []).map fun below => es ++ [(key, .table made below)]
    | some (.table origin below) =>
      if dotted && origin == .header then none
      else
        (changeAt dotted change path origin below).map fun below =>
          es.replace key (.table origin below)
    | some (.tables members) =>
      match members.getLast? with
      | none => none
      | some last =>
        (changeAt dotted change path .header last).map fun last =>
          es.replace key (.tables (members.dropLast ++ [last]))
    | some (.value _) => none

/-! ## 3. Assignments -/

/-- A key with the keys before its last dot, and the value it gets. -/
structure Assignment where
  path : List String
  key : String
  value : Value

/-- Puts the value under the key. A dotted key ends in a table that dotted keys made, any other key
in one that they did not make. -/
def Assignment.put (a : Assignment) : Entries → Option Entries :=
  changeAt true (fun origin es =>
    if (origin == .dotted) == a.path.isEmpty then none
    else if (es.lookup a.key).isSome then none
    else some (es ++ [(a.key, .value a.value)])) a.path .header

/-- Puts all values under their keys, in order. -/
def putAll (assignments : List Assignment) (es : Entries) : Option Entries :=
  assignments.foldlM (fun es a => a.put es) es

/-! ## 4. Sections -/

/-- What a header opens. -/
inductive Header where
  /-- A table. -/
  | table (path : List String) (key : String)
  /-- A new member of an array of tables. -/
  | member (path : List String) (key : String)

/-- Opens the table under the key and puts the values into it. One that was implied keeps what it
has and moves to the end. -/
def openTable (key : String) (assignments : List Assignment) (es : Entries) : Option Entries :=
  match es.lookup key with
  | none => (putAll assignments []).map fun t => es ++ [(key, .table .header t)]
  | some (.table .implied below) =>
    (putAll assignments below).map fun t => es.without key ++ [(key, .table .header t)]
  | some _ => none

/-- Adds a member to the array of tables under the key and puts the values into it. -/
def openMember (key : String) (assignments : List Assignment) (es : Entries) : Option Entries :=
  match es.lookup key with
  | none => (putAll assignments []).map fun t => es ++ [(key, .tables [t])]
  | some (.tables members) =>
    (putAll assignments []).map fun t => es.replace key (.tables (members ++ [t]))
  | some _ => none

/-- A header with the assignments behind it. -/
structure Section where
  header : Header
  assignments : List Assignment

/-- Adds the section to the entries of the root. -/
def Section.add (s : Section) (root : Entries) : Option Entries :=
  match s.header with
  | .table path key =>
    changeAt false (fun _ es => openTable key s.assignments es) path .header root
  | .member path key =>
    changeAt false (fun _ es => openMember key s.assignments es) path .header root

/-! ## 5. Finished values -/

mutual

/-- The value that the node has become. -/
def Node.finished : Node → Value
  | .value v => v
  | .table _ entries => .table (finishedEntries entries)
  | .tables members => .array (finishedMembers members)

/-- The finished entries of a table. -/
def finishedEntries : List (String × Node) → List (String × Value)
  | [] => []
  | (key, node) :: rest => (key, node.finished) :: finishedEntries rest

/-- The finished members of an array of tables. -/
def finishedMembers : List (List (String × Node)) → List Value
  | [] => []
  | entries :: rest => .table (finishedEntries entries) :: finishedMembers rest

end

end ScriptHost.Toml

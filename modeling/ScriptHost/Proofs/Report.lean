import Mathlib.Data.List.Forall2
import ScriptHost.Proofs.Json.Reading
import ScriptHost.Report

/-!
# Reports as lines of JSON

Reports that are written as JSON one behind the other are a log: one line for each report, and each
line can be read back on its own.

* `Tidings`: what a report tells -- the kind of event and what belongs to it. A report knows more of
  a script (its path, for one), which is not written.
* `Tidings.fields`: the fields by which it is told, and no others are written (`json_eq`).
* `Tidings.ofJson?`, `Tidings.ofLog?`: a reader of logs. It looks fields up by name, and it knows
  nothing of how they are written.
* `read?_line`, `ofJson?_fields`: a line is read as the object of its report, and that as what the
  report tells.
* **`jsonLog_lines`**: a log has one line for each report, in order, without control characters, and
  what the reports tell is all that it depends on.
-/

namespace ScriptHost

/-! ## 1. What a report tells -/

/-- What a report tells. -/
inductive Tidings where
  | message (text : String)
  | executed (id : UInt32) (language : String) (params : List String) (value : Int32)
  | failed (id : UInt32) (language : String) (params : List String) (error : String)
  deriving DecidableEq, Repr

/-- What the report tells. -/
def Report.tidings : Report → Tidings
  | .message text => .message text
  | .executed script params value => .executed script.id script.language params value
  | .failed script params error => .failed script.id script.language params error

/-- The fields by which it is told: the kind of event, and then what belongs to it. -/
def Tidings.fields : Tidings → List (String × Json.Value)
  | .message text => [("event", .string "message"), ("message", .string text)]
  | .executed id language params value =>
    [("event", .string "executed"), ("script_id", .number id.toNat), ("language", .string language),
      ("params", .array (params.map .string)), ("return_value", .number value.toInt)]
  | .failed id language params error =>
    [("event", .string "failed"), ("script_id", .number id.toNat), ("language", .string language),
      ("params", .array (params.map .string)), ("error", .string error)]

/-- What is told is all that is written. -/
theorem Report.json_eq (r : Report) : r.json = .object r.tidings.fields := by cases r <;> rfl

/-! ## 2. Reading -/

namespace Json.Value

/-- The value of the field with the name. -/
def field? (name : String) : Value → Option Value
  | .object fields => fields.lookup name
  | _ => none

/-- The string that the value is. -/
def string? : Value → Option String
  | .string s => some s
  | _ => none

/-- The strings that the array holds. -/
def strings? : Value → Option (List String)
  | .array elements => elements.mapM string?
  | _ => none

/-- The number of 32 bits without a sign that the value is. -/
def uint32? : Value → Option UInt32
  | .number i => if 0 ≤ i ∧ i ≤ 4294967295 then some (UInt32.ofNat i.toNat) else none
  | _ => none

/-- The number of 32 bits with a sign that the value is. -/
def int32? : Value → Option Int32
  | .number i => if -2147483648 ≤ i ∧ i ≤ 2147483647 then some (Int32.ofInt i) else none
  | _ => none

theorem strings?_map (params : List String) :
    strings? (.array (params.map .string)) = some params := by
  show (params.map Value.string).mapM string? = some params
  induction params with
  | nil => rfl
  | cons s params ih =>
    rw [List.map_cons, List.mapM_cons, ih]
    rfl

theorem uint32?_number (n : UInt32) : uint32? (.number n.toNat) = some n := by
  have hn : n.toNat ≤ 4294967295 := Nat.le_of_lt_succ n.toNat_lt
  have hrange : (0 : Int) ≤ (n.toNat : Int) ∧ (n.toNat : Int) ≤ 4294967295 := by omega
  rw [uint32?, if_pos hrange, Int.toNat_natCast, UInt32.ofNat_toNat]

theorem int32?_number (n : Int32) : int32? (.number n.toInt) = some n := by
  have hlow := n.le_toInt
  have hhigh := n.toInt_lt
  have hrange : -2147483648 ≤ n.toInt ∧ n.toInt ≤ 2147483647 := by omega
  rw [int32?, if_pos hrange, Int32.ofInt_toInt]

end Json.Value

namespace Tidings

/-- What a JSON object tells, by the names of its fields. -/
def ofJson? (v : Json.Value) : Option Tidings := do
  let event ← (← v.field? "event").string?
  if event = "message" then return .message (← (← v.field? "message").string?)
  let id ← (← v.field? "script_id").uint32?
  let language ← (← v.field? "language").string?
  let params ← (← v.field? "params").strings?
  if event = "executed" then
    return .executed id language params (← (← v.field? "return_value").int32?)
  if event = "failed" then return .failed id language params (← (← v.field? "error").string?)
  none

/-- **The fields tell what they were made of.** -/
theorem ofJson?_fields (t : Tidings) : ofJson? (.object t.fields) = some t := by
  cases t with
  | message text => rfl
  | executed id language params value =>
    have hid := Json.Value.uint32?_number id
    have hparams := Json.Value.strings?_map params
    have hvalue := Json.Value.int32?_number value
    simp [ofJson?, fields, Json.Value.field?, List.lookup_cons, Json.Value.string?, hid, hparams,
      hvalue]
  | failed id language params error =>
    have hid := Json.Value.uint32?_number id
    have hparams := Json.Value.strings?_map params
    simp [ofJson?, fields, Json.Value.field?, List.lookup_cons, Json.Value.string?, hid, hparams]

/-- What the lines of a log tell; behind the last line there is nothing. -/
def ofLog? (log : String) : Option (List Tidings) :=
  let parts := Text.split '\n' log.toList
  if parts.getLast? = some [] then
    parts.dropLast.mapM fun line => (Json.read? (String.ofList line)).bind ofJson?
  else none

end Tidings

theorem Report.ofJson?_json (r : Report) : Tidings.ofJson? r.json = some r.tidings := by
  rw [r.json_eq, Tidings.ofJson?_fields]

/-! ## 3. Lines -/

/-- The reports as they are written one behind the other. -/
def Report.jsonLog (reports : List Report) : String :=
  String.join (reports.map (Report.write .json))

theorem elementsDepth_strings : ∀ params : List String,
    Json.elementsDepth (params.map .string) = 0
  | [] => rfl
  | s :: params => by
    rw [List.map_cons, Json.elementsDepth, elementsDepth_strings params]
    rfl

/-- A report is nested no deeper than the list of its params. -/
theorem Report.depth_json (r : Report) : r.json.depth ≤ 2 := by
  cases r <;> simp [Report.json, Json.Value.depth, Json.fieldsDepth, elementsDepth_strings]

/-- **A written report is read back.** -/
theorem Report.read?_line (r : Report) : Json.read? (String.ofList r.json.text) = some r.json :=
  Json.read?_write (Nat.le_trans r.depth_json (by decide))

theorem toList_jsonLog : ∀ reports : List Report, (Report.jsonLog reports).toList =
    (reports.map (·.json.text)).flatMap (· ++ ['\n'])
  | [] => rfl
  | r :: reports => by
    have hwrite : (Report.write .json r).toList = r.json.text ++ ['\n'] := by
      show (r.json.write ++ "\n").toList = _
      rw [String.toList_append, Json.Value.write, String.toList_ofList]
      rfl
    have ih := toList_jsonLog reports
    unfold Report.jsonLog at ih ⊢
    rw [List.map_cons, String.join_cons, String.toList_append, hwrite, ih]
    rfl

/-- Lines are found again by the line breaks behind them. -/
theorem split_lines {sep : Char} : ∀ lines : List (List Char), (∀ line ∈ lines, sep ∉ line) →
    Text.split sep (lines.flatMap (· ++ [sep])) = lines ++ [[]]
  | [], _ => rfl
  | line :: lines, h => by
    obtain ⟨hline, hlines⟩ := List.forall_mem_cons.1 h
    rw [List.flatMap_cons, List.append_assoc, List.singleton_append, Text.split_append,
      split_lines lines hlines, Text.split_of_not_mem hline]
    rfl

/-- The line of a report holds no control character, and thus no line break. -/
theorem Report.plain_line (r : Report) : ∀ c ∈ r.json.text, 0x20 ≤ c.toNat := r.json.plain_text

theorem Report.split_jsonLog (reports : List Report) :
    Text.split '\n' (Report.jsonLog reports).toList = reports.map (·.json.text) ++ [[]] := by
  rw [toList_jsonLog]
  refine split_lines _ (List.forall_mem_map.2 fun r _ hbreak => ?_)
  have hplain := r.plain_line '\n' hbreak
  exact absurd hplain (by decide)

/-! ## 4. Logs -/

theorem mapM_lines : ∀ reports : List Report,
    (reports.map (·.json.text)).mapM (fun line =>
      (Json.read? (String.ofList line)).bind Tidings.ofJson?) = some (reports.map (·.tidings))
  | [] => rfl
  | r :: reports => by
    rw [List.map_cons, List.mapM_cons, mapM_lines reports, r.read?_line, Option.bind_some,
      r.ofJson?_json]
    rfl

/-- A log is read back as what its reports tell. -/
theorem Report.ofLog?_jsonLog (reports : List Report) :
    Tidings.ofLog? (Report.jsonLog reports) = some (reports.map (·.tidings)) := by
  unfold Tidings.ofLog?
  simp only [Report.split_jsonLog, List.dropLast_concat]
  rw [if_pos List.getLast?_concat]
  exact mapM_lines reports

/-- **A log has one line for each report**, in order, and nothing behind the last line break. No
line holds a control character; each is a JSON text of an object with the fields of its kind of
report, and tells what the report tells. Logs are equal exactly if their reports tell the same. -/
theorem Report.jsonLog_lines (reports : List Report) :
    (∃ lines, Text.split '\n' (Report.jsonLog reports).toList = lines ++ [[]] ∧
      List.Forall₂ (fun (r : Report) (line : List Char) => (∀ c ∈ line, 0x20 ≤ c.toNat) ∧
        Json.read? (String.ofList line) = some r.json ∧ r.json = .object r.tidings.fields ∧
        Tidings.ofJson? r.json = some r.tidings) reports lines) ∧
    Tidings.ofLog? (Report.jsonLog reports) = some (reports.map (·.tidings)) ∧
    ∀ others : List Report, Report.jsonLog others = Report.jsonLog reports ↔
      others.map (·.tidings) = reports.map (·.tidings) := by
  refine ⟨⟨_, Report.split_jsonLog reports, ?_⟩, Report.ofLog?_jsonLog reports, fun others =>
    ⟨fun h => ?_, fun h => ?_⟩⟩
  · rw [List.forall₂_map_right_iff, List.forall₂_same]
    exact fun r _ => ⟨r.plain_line, r.read?_line, r.json_eq, r.ofJson?_json⟩
  · have hread := Report.ofLog?_jsonLog others
    rw [h, Report.ofLog?_jsonLog reports] at hread
    exact (Option.some.inj hread).symm
  · have hlog : ∀ rs : List Report, Report.jsonLog rs = String.join
        ((rs.map (·.tidings)).map fun t => (Json.Value.object t.fields).write ++ "\n") := by
      intro rs
      rw [List.map_map, Report.jsonLog]
      refine congrArg String.join (List.map_congr_left fun r _ => ?_)
      rw [Report.write, r.json_eq]
      rfl
    rw [hlog, hlog, h]

end ScriptHost

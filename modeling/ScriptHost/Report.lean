import ScriptHost.Entry
import ScriptHost.Json.Value
import ScriptHost.Text.Quoted

/-!
# Reports

What an embedder tells its observer: messages about the configuration, and how each script ended.

A report is written on lines of its own, in one of two formats: as text, or as one JSON object per
line with the kind of event first.
-/

namespace ScriptHost

/-! ## 1. Reports -/

/-- Something that an observer is told. -/
inductive Report where
  | message (text : String)
  | executed (script : ScriptEntry) (params : List String) (value : Int32)
  | failed (script : ScriptEntry) (params : List String) (error : String)
  deriving DecidableEq, Repr

/-! ## 2. Written reports -/

/-- How reports are written. -/
inductive Report.Format where
  | text
  | json
  deriving DecidableEq, Repr

/-- The report as a JSON object. -/
def Report.json : Report → Json.Value
  | .message text => .object [("event", .string "message"), ("message", .string text)]
  | .executed script params value =>
    .object [("event", .string "executed"), ("script_id", .number script.id.toNat),
      ("language", .string script.language), ("params", .array (params.map .string)),
      ("return_value", .number value.toInt)]
  | .failed script params error =>
    .object [("event", .string "failed"), ("script_id", .number script.id.toNat),
      ("language", .string script.language), ("params", .array (params.map .string)),
      ("error", .string error)]

/-- The report in words. -/
def Report.text : Report → String
  | .message text => text
  | .executed script _ value => s!"script {script.id} returned {value.toInt}"
  | .failed script _ error => s!"script {script.id} failed: {error}"

/-- The report as it is written, with the line break at its end. -/
def Report.write (format : Report.Format) (r : Report) : String :=
  match format with
  | .text => r.text ++ "\n"
  | .json => r.json.write ++ "\n"

end ScriptHost

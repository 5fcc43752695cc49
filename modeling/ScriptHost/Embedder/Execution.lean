import ScriptHost.Embedder.Basic

/-!
# Executing scripts

A script runs on the interpreter of its language, with the source that is kept in memory if the
entry asks for that, and else with the text that its file has now. The interpreter keeps its state
from one run to the next.
-/

namespace ScriptHost.Embedder

/-! ## 1. The source of a script -/

/-- The text that is run for the entry. -/
def sourceOf (e : Embedder) (files : FileTree) (script : ScriptEntry) :
    Option String × List Effect :=
  match script.cached, e.cache.get? script.id with
  | true, some text => (some text, [])
  | _, _ => readSource files script.path

/-! ## 2. Running -/

/-- Runs the script of the entry. -/
def runScript (e : Embedder) (host : Host) (script : ScriptEntry) (params : List String) :
    Turn (Except ExecutionError Int32 × Embedder) :=
  match e.sourceOf host.files script with
  | (none, why) => ⟨(.error (.sourceUnreadable script.path), e), host, why⟩
  | (some source, why) =>
    match e.active.get? script.language with
    | none => ⟨(.error (.noInterpreter script.language), e), host, why⟩
    | some a =>
      let t := a.interpreter.run host source params
      let a' : Active := { a with interpreter := t.answer.2 }
      let next := { e with active := e.active.insert script.language a' }
      let result : Except ExecutionError Int32 :=
        match t.answer.1 with
        | .success value => .ok value
        | .failure message => .error (.scriptFailed message)
      ⟨(result, next), t.host, why ++ t.effects⟩

/-- The effects of the end of a run. -/
def runReport (e : Embedder) (script : ScriptEntry) (params : List String) :
    Except ExecutionError Int32 → List Effect
  | .ok value =>
    .traced (.finished script.id value) :: tell e.observer (.executed script params value)
  | .error err =>
    .traced (.failed script.id err.message) ::
      tell e.observer (.failed script params err.message)

/-- Executes the script with the id. -/
def execute (e : Embedder) (host : Host) (id : UInt32) (params : List String) :
    Turn (Except ExecutionError Int32 × Embedder) :=
  match e.configuration.script? id with
  | none =>
    let err := ExecutionError.noSuchScript id
    ⟨(.error err, e), host,
      .traced (.scriptUnknown id) ::
        tell e.observer (.failed (ScriptEntry.unknown id) params err.message)⟩
  | some script =>
    let t := e.runScript host script params
    ⟨t.answer, t.host,
      .traced (.executing id script.language) :: t.effects ++ e.runReport script params t.answer.1⟩

end ScriptHost.Embedder

import ScriptHost.Command.Arguments
import ScriptHost.Proofs.Text.Numeral

/-!
# Command lines

For every script and all arguments, whatever they look like, there is a command line that asks for
the run.

* `Shape.of_plain`: what does not begin with a dash is no option.
* `ofArguments_run`: the words behind the two dashes are the arguments of the script.
-/

namespace ScriptHost.Command

/-- What does not begin with a dash is no option. -/
theorem Shape.of_plain {c : Char} {r : List Char} (h : c ≠ '-') : Shape.of (c :: r) = .plain := by
  unfold Shape.of
  split
  · rename_i hs
    exact absurd (List.cons.inj hs).1 h
  · rename_i hs
    exact absurd (List.cons.inj hs).1 h
  · rename_i hs
    exact absurd (List.cons.inj hs).1 h
  · rfl

/-- A number is no option. -/
theorem Shape.of_toString (n : UInt32) : Shape.of (toString n).toList = .plain := by
  have hdigits : (toString n).toList = Nat.toDigits 10 n.toNat := Nat.toList_repr
  obtain ⟨c, r, hcons, hc⟩ := Numeral.toDigits_eq_cons n.toNat
  rw [hdigits, hcons]
  refine Shape.of_plain ?_
  rintro rfl
  cases hc

/-- With the id held back, the words behind two dashes are the arguments. -/
theorem Progress.readRun_escape (id : UInt32) (args : List String) :
    Progress.readRun { held := .id (toString id) } true ("--" :: args) =
      .ok ⟨{}, .run id args⟩ := by
  have hfinish : Progress.finishRun { held := .id (toString id) } args =
      .ok ⟨{}, .run id args⟩ := by
    simp only [finishRun, settle, Numeral.uint32?_toString]
    rfl
  have hescape : Shape.of "--".toList = .escape := by decide
  rw [readRun]
  simp only [hescape]
  cases args with
  | nil => exact hfinish
  | cons word rest =>
    rw [readWords, if_pos rfl]
    exact hfinish

/-- **For every script and all arguments there is a command line that asks for the run.** -/
theorem ofArguments_run (id : UInt32) (args : List String) :
    Invocation.ofArguments ("run" :: toString id :: "--" :: args) = .ok ⟨{}, .run id args⟩ := by
  have hrun : Shape.of "run".toList = .plain := by decide
  have hread : Progress.readRun {} false (toString id :: "--" :: args) =
      .ok ⟨{}, .run id args⟩ := by
    rw [Progress.readRun]
    simp only [Shape.of_toString]
    exact Progress.readRun_escape id args
  have haction : readAction "run" (toString id :: "--" :: args) = .ok ⟨{}, .run id args⟩ := by
    rw [readAction, if_pos rfl]
    exact hread
  rw [Invocation.ofArguments, Progress.readAll]
  simp only [hrun, haction]
  rfl

end ScriptHost.Command

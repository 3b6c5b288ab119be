import LineShell.Proofs.Live.Agreement
import LineShell.Proofs.Text.Numerals

/-!
# Exit statuses

The code that `exit` asks for is the number that its argument denotes, if that is one of 32 bits,
and 0 otherwise. Whether it is one is judged on the number itself and not on how it is written, so
zeros in front do not matter, and neither does anything behind the argument.

A program hands on eight bits of the code. They are those of its remainder by 256, which is never
negative, also if the code is. The end of the input is no code, and has a status of its own
(`status_run`).
-/

namespace LineShell

namespace Builtin

variable {args : List Text}

theorem exitCode_of_denotes {t : Text} {v : Int} (h : args[1]? = some t)
    (ht : Decimal.Denotes t v) (hv : Decimal.FitsInt32 v) : exitCode args = v := by
  rw [exitCode, h, Option.bind_some,
    Decimal.int32?_eq_some_iff.2 ⟨Decimal.integer?_eq_some_iff.2 ht, hv⟩]
  rfl

theorem exitCode_of_forall_not
    (h : ∀ t v, args[1]? = some t → Decimal.Denotes t v → ¬ Decimal.FitsInt32 v) :
    exitCode args = 0 := by
  have hnone : (args[1]?).bind Decimal.int32? = none := by
    rw [Option.eq_none_iff_forall_ne_some]
    intro v hv
    obtain ⟨t, ht, hread⟩ := Option.bind_eq_some_iff.1 hv
    obtain ⟨hread, hfits⟩ := Decimal.int32?_eq_some_iff.1 hread
    exact h t v ht (Decimal.integer?_eq_some_iff.1 hread) hfits
  rw [exitCode, hnone]
  rfl

theorem exitCode_take_two (args : List Text) : exitCode (args.take 2) = exitCode args := by
  rw [exitCode, exitCode, List.getElem?_take_of_lt (by decide)]

end Builtin

namespace Program

open Session (NoneExits ExitsWith machineAfter)

theorem status_run_eq (filters : FilterReader) (m : Machine) (log : Option Bytes) (input : Bytes) :
    (run filters m log input).status
      = exitStatus (Session.run Startup.defaultPrompt (PlainLines.ofPieces [input]) m).result :=
  congrArg Run.status (runOn_eq filters m log false (PlainLines.ofBytes input))

theorem status_of_exitsWith {m : Machine} {pre post : List Bytes} {line input : Bytes} {code : Int}
    (h : cutLines input = pre ++ line :: post) (hpre : NoneExits m pre)
    (hexit : ExitsWith (machineAfter m pre) line code) (filters : FilterReader)
    (log : Option Bytes) : (run filters m log input).status = (code % 256).toNat := by
  rw [← List.flatten_singleton (l := input)] at h
  obtain ⟨rest, -, hrun⟩ := Session.run_of_exitsWith Startup.defaultPrompt h hpre hexit
  rw [status_run_eq, hrun]
  rfl

theorem status_of_noneExits {m : Machine} {input : Bytes} (h : NoneExits m (cutLines input))
    (filters : FilterReader) (log : Option Bytes) : (run filters m log input).status = 1 := by
  rw [← List.flatten_singleton (l := input)] at h
  obtain ⟨rest, -, hrun⟩ := Session.run_of_noneExits Startup.defaultPrompt rfl h
  rw [status_run_eq, hrun]
  rfl

/-- **A program exits with the number that it was told,** up to multiples of 256. The code that
`exit` asks for is the number that its argument denotes if it lies between `-2 ^ 31` and
`2 ^ 31 - 1`, and 0 if there is no argument, or it is no numeral, or one for any other number. So
each number of 32 bits is the code of its own text, and arguments behind the first do not matter.
The first line that ends a run settles its status, which lies between 0 and 255; the status of a run
that comes to the end of its input is 1. -/
theorem status_run :
    (∀ (args : List Text) t v, args[1]? = some t → Decimal.Denotes t v →
        -2 ^ 31 ≤ v ∧ v < 2 ^ 31 → Builtin.exitCode args = v) ∧
      (∀ args : List Text, (∀ t v, args[1]? = some t → Decimal.Denotes t v →
        ¬ (-2 ^ 31 ≤ v ∧ v < 2 ^ 31)) → Builtin.exitCode args = 0) ∧
      (∀ name rest n, -2 ^ 31 ≤ n ∧ n < 2 ^ 31 →
        Builtin.exitCode (name :: Decimal.ofInt n :: rest) = n) ∧
      (∀ args, Builtin.exitCode (args.take 2) = Builtin.exitCode args) ∧
      ∀ (filters : FilterReader) (m : Machine) (log : Option Bytes) (input : Bytes),
        (∀ pre line post args target opened, cutLines input = pre ++ line :: post →
            NoneExits m pre →
            splitRedirection (tokenize (Utf8.decodeLossy line)) = .ok (args, target) →
            openSink (machineAfter m pre).files (machineAfter m pre).location target
              = .ok opened →
            args.head? = some "exit".toList →
              (run filters m log input).status = Builtin.exitCode args % 256 ∧
                (run filters m log input).status < 256) ∧
          (NoneExits m (cutLines input) → (run filters m log input).status = 1) := by
  refine ⟨fun args t v ↦ Builtin.exitCode_of_denotes, fun args ↦ Builtin.exitCode_of_forall_not,
    ?_, Builtin.exitCode_take_two, ?_⟩
  · intro name rest n hn
    exact Builtin.exitCode_of_denotes rfl (Decimal.denotes_ofInt n) hn
  · intro filters m log input
    refine ⟨?_, fun hnone ↦ status_of_noneExits hnone filters log⟩
    intro pre line post args target opened h hpre hsplit hopen hhead
    have hstatus := status_of_exitsWith h hpre ⟨args, target, opened, hsplit, hopen, hhead, rfl⟩
      filters log
    rw [hstatus]
    omega

end Program

end LineShell

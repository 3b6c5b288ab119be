import LineShell.Proofs.Command.ChangingDirectory
import LineShell.Proofs.Machine.Moving
import LineShell.Proofs.Shell.Results

/-!
# What the shell answers itself

A command is one of three things to the shell: the end of the session, a program that is started, or
something that it answers itself, which is a builtin or a name that stands for nothing
(`command_cases`). An answer is a reply that depends on the surroundings alone (`replyOf`): its
calls are carried out, and then its text is written, all of it or nothing (`runCommand_eq_answer`).

## Saying something or doing something

Of all answers only that of `cd` changes anything, and it has something to say only if it did not.
So whoever finds a text that could not be written finds the machine as it was
(`performAll_replyOf`).
-/

namespace LineShell

namespace Sink

/-- A sink refuses bytes only for want of room, and only if there are any. -/
theorem write_eq_error_iff {fs : FileSystem} {bytes : Bytes} {sink : Sink} {cause : Fault} :
    sink.write fs bytes = .error cause ↔
      sink = .opened (.device .full) ∧ bytes ≠ [] ∧ cause = .system .noSpace := by
  cases sink with
  | stdout => simp [write]
  | opened handle =>
    rw [write]
    rcases hw : fs.write handle bytes with e | fs'
    · obtain ⟨rfl, hne, rfl⟩ := FileSystem.write_eq_error_iff.1 hw
      simp [Except.map, hne, eq_comm]
    · have hnot : ¬ (handle = .device .full ∧ bytes ≠ []) := by
        rintro ⟨rfl, hne⟩
        rw [FileSystem.write, if_neg hne] at hw
        exact absurd hw (by simp)
      simp only [Except.map, reduceCtorEq, Sink.opened.injEq, false_iff]
      exact fun h ↦ hnot ⟨h.1, h.2.1⟩

end Sink

namespace Shell

variable {m : Machine} {sink : Sink} {name : Text} {rest : List Text} {c : Command}

/-! ## Commands by who answers them -/

/-- Whether the shell answers a command itself: a builtin that does not end the session, or a name
that stands for nothing. -/
def IsAnswered : Command → Prop
  | .builtin b => b ≠ .exit
  | .external _ => False
  | .notFound => True

/-- What the shell answers itself, by the arguments of the command, their first being its name. -/
def replyOf (s : Surroundings) (args : List Text) (name : Text) : Command → Reply Text
  | .builtin .echo => ⟨(Builtin.runEcho? args).getD [], []⟩
  | .builtin .type => Builtin.runType s args
  | .builtin .pwd => Builtin.runPwd s
  | .builtin .cd => Builtin.runCd s args
  | .notFound => ⟨notFoundText name, []⟩
  | .builtin .exit | .external _ => ⟨[], []⟩

theorem command_cases (c : Command) :
    c = .builtin .exit ∨ (∃ path, c = .external path) ∨ IsAnswered c := by
  rcases c with b | path | _
  · by_cases hb : b = .exit
    · exact .inl (congrArg Command.builtin hb)
    · exact .inr (.inr hb)
  · exact .inr (.inl ⟨path, rfl⟩)
  · exact .inr (.inr trivial)

theorem IsAnswered.ne_external (h : IsAnswered c) (path : Path) : c ≠ .external path := by
  rintro rfl
  exact h

/-- What the shell answers itself, it answers with a reply. -/
theorem runCommand_eq_answer (h : IsAnswered c) (m : Machine) (sink : Sink) (name : Text)
    (rest : List Text) :
    runCommand m sink (name :: rest) name c
      = answer m sink (replyOf m.surroundings (name :: rest) name c) := by
  rcases c with b | path | _
  · cases b with
    | exit => exact absurd rfl h
    | echo => rfl
    | type => rfl
    | pwd => rfl
    | cd => rfl
  · exact absurd h id
  · rfl

theorem runCommand_exit (m : Machine) (sink : Sink) (args : List Text) (name : Text) :
    runCommand m sink args name (.builtin .exit)
      = ⟨.ok (.exit (Builtin.exitCode args)), m, []⟩ := rfl

/-! ## Either words or a move -/

theorem performAll_move {calls : List Call} (h : calls = [] ∨ calls = [.home]) (m : Machine)
    (target : Text) :
    m.performAll (Builtin.move m.surroundings target calls).calls
      = m.perform (.move (Utf8.encode target)) := by
  rw [Builtin.move, Machine.performAll_append_singleton]
  rcases h with rfl | rfl <;> rfl

theorem performAll_runCd {args : List Text} (h : (Builtin.runCd m.surroundings args).value ≠ []) :
    m.performAll (Builtin.runCd m.surroundings args).calls = m := by
  rcases Builtin.runCd_cases m.surroundings args with
    hcd | ⟨arg, hcd⟩ | ⟨target, calls, hcalls, hcd⟩
  · rw [hcd]
    rfl
  · rw [hcd]
    rfl
  · rw [hcd, ne_eq, Builtin.value_move_eq_nil_iff, Bool.not_eq_true] at h
    rw [hcd, performAll_move hcalls]
    exact Machine.perform_move_of_not_canEnter h

/-- A `cd` that has nothing to say has moved where it asked to. -/
theorem enter_of_mem_movesOf_runCd {args : List Text}
    (h : (Builtin.runCd m.surroundings args).value = []) {p : Path}
    (hp : p ∈ movesOf (Builtin.runCd m.surroundings args).calls) :
    m.files.enter m.location p
      = .ok (m.performAll (Builtin.runCd m.surroundings args).calls).location := by
  rcases Builtin.runCd_cases m.surroundings args with
    hcd | ⟨arg, hcd⟩ | ⟨target, calls, hcalls, hcd⟩
  · rw [hcd] at hp
    exact absurd hp List.not_mem_nil
  · rw [hcd] at hp
    exact absurd hp List.not_mem_nil
  · rw [hcd, Builtin.value_move_eq_nil_iff] at h
    rw [hcd] at hp ⊢
    have hp : p = Utf8.encode target := by
      rcases hcalls with rfl | rfl <;> exact List.mem_singleton.1 hp
    obtain ⟨l, hl, hperform⟩ := Machine.perform_move_of_canEnter h
    rw [hp, hl, performAll_move hcalls, hperform]

/-- Of all answers only that of `cd` does anything. -/
theorem performAll_replyOf_of_ne_cd (hc : c ≠ .builtin .cd) (m : Machine) (args : List Text)
    (name : Text) : m.performAll (replyOf m.surroundings args name c).calls = m := by
  rcases c with b | path | _
  · cases b with
    | exit => rfl
    | echo => rfl
    | pwd => rfl
    | cd => exact absurd rfl hc
    | type =>
      rw [replyOf, Builtin.runType]
      split
      · rfl
      · rw [Command.ofName]
        repeat' split
        all_goals rfl
  · rfl
  · rfl

/-- **Whoever has something to say has done nothing.** -/
theorem performAll_replyOf {args : List Text}
    (h : (replyOf m.surroundings args name c).value ≠ []) :
    m.performAll (replyOf m.surroundings args name c).calls = m := by
  by_cases hc : c = .builtin .cd
  · subst hc
    exact performAll_runCd h
  · exact performAll_replyOf_of_ne_cd hc m args name

end Shell

end LineShell

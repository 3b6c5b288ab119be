import LineShell.Proofs.FileSystem.LonePath
import LineShell.Proofs.Machine.Launch
import LineShell.Proofs.Shell.Arguments
import LineShell.Proofs.Shell.Effects

/-!
# What `type` tells and what is run

A name is looked up once by `type`, which tells what it stands for, and once by the shell, which
runs that. Both ask the same question of the same surroundings, and opening the target of a
redirection in between does not change the answer; so a name is run as what it stands for
(`runsAs_iff`), and as what `type` tells (`type_tells_what_runs`).

For a program there is a third lookup, that of the path by which it is started, and there the search
path could come in again. It does not, because that path has a slash in it, and it leads to the file
that was found. That this is the path that is handed over is part of the statement: a run of the name
is told by what the launch of that path comes to (`execute_eq_of_launch`).

## Two reports in the same words

A program found at the path `a shell builtin` is reported in the words for a builtin of that name.
The reports still differ: whoever tells of a builtin has not asked for the search path.
-/

namespace LineShell

namespace Command

variable {s : Surroundings} {name : Text} {c : Command}

/-- What `type` tells of a name that stands for a command, and what it asked for that. -/
def told (name : Text) : Command → Reply Text
  | .builtin _ => ⟨name ++ " is a shell builtin\n".toList, []⟩
  | .external p => ⟨name ++ " is ".toList ++ Utf8.decodeLossy p ++ ['\n'], [.searchPath]⟩
  | .notFound => ⟨name ++ ": not found\n".toList, [.searchPath]⟩

theorem runType_eq_told (s : Surroundings) (called name : Text) (rest : List Text) :
    Builtin.runType s (called :: name :: rest) = told name (ofName s name).value := by
  have hname : (called :: name :: rest)[1]? = some name := rfl
  rcases hb : Builtin.ofName? name with _ | b
  · rcases hp : findInPath s.isExecutable name (s.searchPath.getD []) with _ | p
    · simp only [Builtin.runType, hname, ofName, hb, hp, told]
    · simp only [Builtin.runType, hname, ofName, hb, hp, told]
  · simp only [Builtin.runType, hname, ofName, hb, told]

theorem told_eq_builtin_iff :
    told name c = ⟨name ++ " is a shell builtin\n".toList, []⟩ ↔ ∃ b, c = .builtin b := by
  rcases c with b | p | _
  · exact iff_of_true rfl ⟨b, rfl⟩
  · simp [told]
  · simp [told]

theorem told_eq_notFound_iff :
    told name c = ⟨name ++ ": not found\n".toList, [.searchPath]⟩ ↔ c = .notFound := by
  rcases c with b | p | _
  · simp [told]
  · simp [told]
  · exact iff_of_true rfl rfl

end Command

namespace Shell

variable {m : Machine} {name : Text} {c : Command} {target : Option Text} {sink : Sink}
  {files : FileSystem}

/-! ## What is run -/

/-- Whether a name is run as a command: with whatever arguments, and wherever the output goes, once
the target of the redirection has been opened. -/
def RunsAs (m : Machine) (name : Text) (c : Command) : Prop :=
  ∀ words args target sink files, splitRedirection words = .ok (name :: args, target) →
    openSink m.files m.location target = .ok (sink, files) →
    execute m words = Outcome.after (redirectingEvents target)
      (Outcome.after [.event (.dispatching name c)]
        (runCommand { m with files } sink (name :: args) name c))

/-- **A name is run as what it stands for.** -/
theorem runsAs_iff : RunsAs m name c ↔ (Command.ofName m.surroundings name).value = c := by
  constructor
  · intro h
    have hsplit : splitRedirection [name] = .ok ([name], none) :=
      splitRedirection_eq_none_iff.2 ⟨rfl, List.forall_mem_nil _⟩
    have hopen : openSink m.files m.location none = .ok (.stdout, m.files) := rfl
    -- The event that tells of the lookup has the command in it.
    have hrun := (execute_eq_runCommand hsplit hopen).symm.trans (h _ _ _ _ _ hsplit hopen)
    have hevents := congrArg (fun o : Outcome Flow ↦ o.transcript.head?) hrun
    simpa [redirectingEvents] using hevents
  · rintro rfl words args target sink files hsplit hopen
    exact execute_eq_runCommand hsplit hopen

/-- What `type` is told is what it writes, and nothing else comes of it. -/
theorem execute_type (m : Machine) (name : Text) :
    execute m ["type".toList, name]
      = ⟨.ok .proceed, m, [.event (.dispatching "type".toList (.builtin .type)),
          .out (Utf8.encode (Builtin.runType m.surroundings ["type".toList, name]).value)]⟩ := by
  have hwords : ∀ w ∈ [Builtin.name .type, name].dropLast, ¬ IsOperator w := by
    intro w hw
    obtain rfl := List.mem_singleton.1 hw
    decide
  have htype : Command.builtin .type ≠ .builtin .cd := by decide
  have hstays : m.performAll (Builtin.runType m.surroundings ["type".toList, name]).calls = m :=
    performAll_replyOf_of_ne_cd htype m ["type".toList, name] "type".toList
  have hreply : replyOf m.surroundings [Builtin.name .type, name] (Builtin.name .type)
      (.builtin .type) = Builtin.runType m.surroundings ["type".toList, name] := rfl
  have hexec := execute_builtin (by decide) hreply hwords
  rw [hstays] at hexec
  exact hexec

/-! ## What is started -/

/-- **A run of a name that stands for a program** is the launch of the path at which it was found, made
explicit, with the name and the further arguments. -/
theorem execute_eq_of_launch {path : Path} {words args : List Text}
    (hpath : (Command.ofName m.surroundings name).value = .external path)
    (hsplit : splitRedirection words = .ok (name :: args, target))
    (hopen : openSink m.files m.location target = .ok (sink, files)) :
    let opened : Machine := { m with files }
    let events := redirectingEvents target ++ [.event (.dispatching name (.external path))]
    (∀ cause, opened.launch sink.place? path.explicit (name :: args) = .error cause →
      execute m words
        = ⟨.ok .proceed, opened, events ++ [.event (.failedToRun path cause)]⟩) ∧
    ∀ r, opened.launch sink.place? path.explicit (name :: args) = .ok r →
      execute m words = ⟨.ok .proceed, (pour opened sink r.out).1, events ++
        ((pour opened sink r.out).2 ++ [.err r.err, .event (.finished path.explicit r.status)])⟩ := by
  intro opened events
  have hrun : execute m words = (runProgram opened sink path (name :: args)).after events := by
    rw [execute_eq_runCommand hsplit hopen, hpath]
    simp only [Outcome.after, events, List.append_assoc]
    rfl
  refine ⟨fun cause h ↦ ?_, fun r h ↦ ?_⟩
  · rw [hrun, runProgram_of_launch_error h]
    rfl
  · rw [hrun, runProgram_of_launch h]
    rfl

/-- **What `type` tells of a name is what is run for it.** `type` writes what it is told, and a name
is run as a builtin exactly if that is what `type` tells, and as a name that stands for nothing
exactly if `type` tells that it was not found, and then all that is written for it is that there is
no such command. Any other name is a program's, and `type` tells the path at which it was found. A
run of the name, with any arguments and wherever its output goes, is then what becomes of launching
one path with that name and these arguments. The path has a slash in it: it is the path that was
found with `./` before it if that names no directory, and the found path itself if it does. It leads
to the executable file that was found, also once the target of a redirection has been opened, and is
not looked up again whatever the search path is. If anything is started, it is that file, or what
interprets it. -/
theorem type_tells_what_runs (m : Machine) (name : Text) :
    let told := Builtin.runType m.surroundings ["type".toList, name]
    execute m ["type".toList, name]
        = ⟨.ok .proceed, m, [.event (.dispatching "type".toList (.builtin .type)),
            .out (Utf8.encode told.value)]⟩ ∧
      ((∃ b, RunsAs m name (.builtin b)) ↔
        told = ⟨name ++ " is a shell builtin\n".toList, []⟩) ∧
      (RunsAs m name .notFound ↔ told = ⟨name ++ ": not found\n".toList, [.searchPath]⟩) ∧
      (RunsAs m name .notFound → ∀ words args target sink files,
        splitRedirection words = .ok (name :: args, target) →
        openSink m.files m.location target = .ok (sink, files) →
        execute m words = Outcome.after (redirectingEvents target)
          (Outcome.after [.event (.dispatching name .notFound)]
            (deliver { m with files } sink (name ++ ": command not found\n".toList)))) ∧
      ((∃ b, RunsAs m name (.builtin b)) ∨ RunsAs m name .notFound ∨
        ∃ path, RunsAs m name (.external path)) ∧
      ∀ path, RunsAs m name (.external path) →
        (Command.ofName m.surroundings name).value = .external path ∧
        told = ⟨name ++ " is ".toList ++ Utf8.decodeLossy path ++ ['\n'], [.searchPath]⟩ ∧
        ¬ path.explicit.IsBare ∧
        path.explicit = (if path.IsAlone then Path.join Path.here path else path) ∧
        ∃ place mode content, m.files.locate m.location path = .ok (.ofPlace place) ∧
          m.files.node? place = some (.file mode content) ∧ mode.IsExecutable ∧
          ∀ words args target sink files, splitRedirection words = .ok (name :: args, target) →
            openSink m.files m.location target = .ok (sink, files) →
            let opened : Machine := { m with files }
            let events := redirectingEvents target ++
              [.event (.dispatching name (.external path))]
            (∀ cause, opened.launch sink.place? path.explicit (name :: args) = .error cause →
              execute m words
                = ⟨.ok .proceed, opened, events ++ [.event (.failedToRun path cause)]⟩) ∧
            (∀ r, opened.launch sink.place? path.explicit (name :: args) = .ok r →
              execute m words = ⟨.ok .proceed, (pour opened sink r.out).1, events ++
                ((pour opened sink r.out).2
                  ++ [.err r.err, .event (.finished path.explicit r.status)])⟩) ∧
            (∀ searchPath, ({ opened with searchPath } : Machine).programPath? path.explicit
              = some path.explicit) ∧
            files.locate m.location path.explicit = .ok (.ofPlace place) ∧
            ∀ i, opened.start sink.place? path.explicit (name :: args) = .ok i →
              opened.launch sink.place? path.explicit (name :: args) = .ok (m.behaviour i) ∧
              i.files.getLast? = some place ∧
              ∀ q ∈ i.files, sink.place? ≠ some q ∧
                ∃ mode content, files.node? q = some (.file mode content) ∧ mode.AllowsRunning := by
  intro told
  have htold : told = Command.told name (Command.ofName m.surroundings name).value :=
    Command.runType_eq_told m.surroundings _ name []
  simp only [runsAs_iff, htold]
  refine ⟨?_, Command.told_eq_builtin_iff.symm, Command.told_eq_notFound_iff.symm, ?_, ?_, ?_⟩
  · rw [← htold]
    exact execute_type m name
  · intro hnone
    exact runsAs_iff.2 hnone
  · rcases (Command.ofName m.surroundings name).value with b | path | _
    · exact .inl ⟨b, rfl⟩
    · exact .inr (.inr ⟨path, rfl⟩)
    · exact .inr (.inl rfl)
  · intro path hpath
    have hexec : m.files.isExecutable m.location path = true :=
      Command.isExecutable_of_external hpath
    obtain ⟨place, mode, content, hp, hfile, hmode⟩ :=
      FileSystem.isExecutable_iff_exists_place.1 hexec
    refine ⟨hpath, by rw [hpath]; rfl, Path.not_isBare_explicit path,
      FileSystem.explicit_of_isExecutable hexec, place, mode, content, hp, hfile, hmode, ?_⟩
    intro words args target sink files hsplit hopen
    have hlocate : files.locate m.location path = .ok (.ofPlace place) :=
      (grows_of_openSink hopen).locate hp
    obtain ⟨hfails, hruns⟩ := execute_eq_of_launch hpath hsplit hopen
    refine ⟨hfails, hruns, fun searchPath ↦ Machine.programPath?_explicit _ path,
      FileSystem.locate_explicit hlocate, fun i hstart ↦ ⟨?_, ?_, fun q hq ↦ ?_⟩⟩
    · rw [Machine.launch, hstart]
      rfl
    · exact Machine.getLast?_files_start (m := { m with files }) hlocate hstart
    · exact Machine.mem_files_start (m := { m with files }) hlocate hstart hq

end Shell

end LineShell

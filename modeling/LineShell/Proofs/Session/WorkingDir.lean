import LineShell.FileSystem.Setup
import LineShell.Proofs.FileSystem.PhysicalPath
import LineShell.Proofs.Session.Stability

/-!
# The working directory

A shell that starts in a directory stands in a directory after every line, and knows it by its
physical path (`Machine.InDirectory`, kept by each line and so by each run and session). That path
is what `pwd` writes. It can be given to `cd`, which then leads to where one is, if the directories
that it names may all be searched. One can stand below a directory that may not; there `cd` with this
path finds nothing (`not_forall_execute_cd_path`).

A line moves the shell only by a `cd` that was given a directory, found it, and so had nothing to
say (`location_execute`). All other commands answer, fail or start programs where they are, and a
program cannot move whoever started it.
-/

namespace LineShell

/-- Whether the shell stands in a directory that is there, in a well-formed file system. -/
structure Machine.InDirectory (m : Machine) : Prop where
  /-- The files make a tree. -/
  wellFormed : m.files.WellFormed
  /-- Nothing of where the shell stands has been removed. -/
  whole : m.location.lost = []
  /-- It is a directory. -/
  directory : m.files.IsDirectory m.location.place

namespace Shell

open FileSystem (textName textPlace)

variable {m : Machine} {sink : Sink} {name : Text} {rest words : List Text} {c : Command}

/-- The name of the command that moves the shell. -/
abbrev cdName : Text := Builtin.name .cd

/-- The name of the command that tells where the shell stands. -/
abbrev pwdName : Text := Builtin.name .pwd

/-! ## Moving -/

/-- A `cd` moves nobody, or it was given a directory, has nothing to say, and leads there. -/
theorem location_runCd (m : Machine) (name : Text) (rest : List Text) :
    let reply := Builtin.runCd m.surroundings (name :: rest)
    (m.performAll reply.calls).location = m.location ∨
      (∃ arg more, rest = arg :: more) ∧ reply.value = [] ∧
        ∃ p, m.files.enter m.location p = .ok (m.performAll reply.calls).location := by
  intro reply
  rcases rest with _ | ⟨arg, more⟩
  · exact .inl rfl
  · by_cases hvalue : reply.value = []
    · rcases Builtin.runCd_cases m.surroundings (name :: arg :: more) with
        hcd | ⟨t, hcd⟩ | ⟨target, calls, hcalls, hcd⟩
      · left
        have hreply : reply = ⟨[], []⟩ := hcd
        rw [hreply, Machine.performAll_nil]
      · left
        have hreply : reply = ⟨Builtin.cdFailure t, [.home]⟩ := hcd
        rw [hreply]
        rfl
      · right
        have hreply : reply = Builtin.move m.surroundings target calls := hcd
        rw [hreply, Builtin.value_move_eq_nil_iff] at hvalue
        obtain ⟨l, hl, hperform⟩ := Machine.perform_move_of_canEnter hvalue
        refine ⟨⟨arg, more, rfl⟩, ?_, Utf8.encode target, ?_⟩
        · rw [hreply]
          exact (Builtin.value_move_eq_nil_iff _ _ _).2 hvalue
        · rw [hreply, performAll_move hcalls, hperform, hl]
    · left
      exact congrArg Machine.location (performAll_runCd hvalue)

theorem location_runProgram (m : Machine) (sink : Sink) (path : Path) (args : List Text) :
    (runProgram m sink path args).machine.location = m.location := by
  rw [runProgram]
  split
  · rfl
  · next report _ =>
    dsimp only
    rw [pour]
    split <;> rfl

theorem location_answer (m : Machine) (sink : Sink) (reply : Reply Text) :
    (answer m sink reply).machine.location = (m.performAll reply.calls).location := by
  rcases h : sink.write m.files (Utf8.encode reply.value) with cause | ⟨files, shown⟩
  · rw [answer_of_write_error h]
  · rw [answer_of_write_ok h]

/-- A command that is no `cd` leaves the shell where it stands. -/
theorem location_runCommand_of_ne_cd (hc : c ≠ .builtin .cd) (m : Machine) (sink : Sink)
    (name : Text) (rest : List Text) :
    (runCommand m sink (name :: rest) name c).machine.location = m.location := by
  rcases command_cases c with rfl | ⟨path, rfl⟩ | hanswered
  · rw [runCommand_exit]
  · exact location_runProgram m sink path (name :: rest)
  · rw [runCommand_eq_answer hanswered, location_answer, performAll_replyOf_of_ne_cd hc]

/-- A line that is a `cd` moves the shell as the `cd` does, whatever its redirection has opened. -/
theorem execute_cd {target : Option Text} {files : FileSystem}
    (hsplit : splitRedirection words = .ok (cdName :: rest, target))
    (hopen : openSink m.files m.location target = .ok (sink, files)) :
    let reply := Builtin.runCd m.surroundings (cdName :: rest)
    (execute m words).machine.location = (m.performAll reply.calls).location ∧
      (reply.value = [] → (execute m words).result = .ok .proceed) := by
  intro reply
  have hgrows := grows_of_openSink hopen
  have hcd : Command.ofName m.surroundings cdName = ⟨.builtin .cd, []⟩ :=
    Command.ofName_of_builtin m.surroundings .cd
  have hrun : runCommand { m with files } sink (cdName :: rest) cdName (.builtin .cd)
      = answer { m with files } sink reply := by
    rw [runCommand, runBuiltin, Machine.surroundings_of_grows hgrows]
  rw [execute_eq_runCommand hsplit hopen, hcd, hrun]
  constructor
  · have hcalls := congrArg Machine.location (Machine.performAll_of_grows hgrows reply.calls)
    exact (location_answer _ sink reply).trans hcalls
  · intro hvalue
    exact (answer_of_value_eq_nil _ sink hvalue).1

/-- **Only a `cd` moves the shell,** and only one that was given a directory and has nothing to
say. It ends well then, wherever its output goes, and the shell stands in a directory that it could
have entered before the line. -/
theorem location_execute (m : Machine) (words : List Text) :
    (execute m words).machine.location = m.location ∨
      ∃ arg more target, splitRedirection words = .ok (cdName :: arg :: more, target) ∧
        (execute m words).result = .ok .proceed ∧
        (Builtin.runCd m.surroundings (cdName :: arg :: more)).value = [] ∧
        ∃ p, m.files.enter m.location p = .ok (execute m words).machine.location := by
  obtain ⟨args, target, hsplit⟩ := exists_splitRedirection_eq words
  rcases hopen : openSink m.files m.location target with e | ⟨sink, files⟩
  · rw [execute_of_openSink_eq_error hsplit hopen]
    exact .inl rfl
  rcases args with _ | ⟨name, rest⟩
  · rw [execute_of_openSink_ok hsplit hopen]
    exact .inl rfl
  · have hexec := execute_eq_runCommand hsplit hopen
    by_cases hc : (Command.ofName m.surroundings name).value = .builtin .cd
    · obtain rfl : cdName = name := Command.value_ofName_eq_builtin_iff.1 hc
      obtain ⟨hlocation, hresult⟩ := execute_cd hsplit hopen
      rcases location_runCd m cdName rest with hstay | ⟨⟨arg, more, rfl⟩, hvalue, p, hp⟩
      · exact .inl (hlocation.trans hstay)
      · exact .inr ⟨arg, more, target, hsplit, hresult hvalue, hvalue, p, by rw [hp, hlocation]⟩
    · left
      rw [hexec]
      exact location_runCommand_of_ne_cd hc { m with files } sink name rest

/-! ## Standing in a directory -/

theorem wellFormed_openSink {target : Option Text} {files : FileSystem} (hm : m.InDirectory)
    (h : openSink m.files m.location target = .ok (sink, files)) : files.WellFormed := by
  have hstands : m.files.Stands m.location := by
    rw [FileSystem.Stands, Location.remaining_of_lost_eq_nil hm.whole]
    exact hm.directory
  rcases openSink_cases h with ⟨-, -, rfl⟩ | ⟨t, handle, -, -, hopen⟩
  · exact hm.wellFormed
  · exact hm.wellFormed.openToWrite hstands hopen

theorem wellFormed_write {bytes shown : Bytes} {fs files : FileSystem} (hfs : fs.WellFormed)
    (h : sink.write fs bytes = .ok (files, shown)) : files.WellFormed := by
  rcases sink with _ | handle
  · obtain ⟨rfl, -⟩ := Prod.mk.inj (Except.ok.inj h)
    exact hfs
  · rcases hw : fs.write handle bytes with cause | written
    · rw [Sink.write, hw] at h
      exact absurd h (by simp [Except.map])
    · rw [Sink.write, hw] at h
      obtain ⟨rfl, -⟩ := Prod.mk.inj (Except.ok.inj h)
      exact hfs.write hw

theorem wellFormed_execute (hm : m.InDirectory) (words : List Text) :
    (execute m words).machine.files.WellFormed := by
  obtain ⟨args, target, hsplit⟩ := exists_splitRedirection_eq words
  rcases hopen : openSink m.files m.location target with e | ⟨sink, files⟩
  · rw [execute_of_openSink_eq_error hsplit hopen]
    exact hm.wellFormed
  have hfiles := wellFormed_openSink hm hopen
  rw [execute_of_openSink_ok hsplit hopen, Outcome.machine_after]
  rcases args with _ | ⟨name, rest⟩
  · exact hfiles
  · rw [if_neg (List.cons_ne_nil name rest)]
    rcases (actsWithin_dispatch { m with files } sink name rest).files with h | ⟨_, _, hwrite⟩
    · rw [h]
      exact hfiles
    · exact wellFormed_write hfiles hwrite

/-- **Whoever stands in a directory stands in one after a line.** -/
theorem inDirectory_execute (hm : m.InDirectory) (words : List Text) :
    (execute m words).machine.InDirectory := by
  have hgrows := grows_execute m words
  rcases location_execute m words with hstay | ⟨arg, more, target, -, -, -, p, hp⟩
  · refine ⟨wellFormed_execute hm words, hstay ▸ hm.whole, ?_⟩
    rw [hstay, hgrows.isDirectory_iff]
    exact hm.directory
  · have hwhole := FileSystem.lost_enter hm.whole hp
    obtain ⟨mode, hmode, -⟩ := FileSystem.isSearchableAt_of_enter hp
    rw [FileSystem.nodeAt?_of_lost_eq_nil hwhole] at hmode
    exact ⟨wellFormed_execute hm words, hwhole, hgrows.isDirectory_iff.2 ⟨mode, hmode⟩⟩

theorem inDirectory_runLines (hm : m.InDirectory) (lines : List Text) :
    (runLines m lines).InDirectory := by
  induction lines generalizing m with
  | nil => exact hm
  | cons line lines ih =>
    rw [runLines_cons]
    exact ih (inDirectory_execute hm (tokenize line))

/-- What `pwd` writes is the path of the directory, with U+FFFD for what is not UTF-8. -/
theorem execute_pwd {dir : Place} (h : m.location = .ofPlace dir) {args : List Text}
    (hargs : ∀ w ∈ (pwdName :: args).dropLast, ¬ IsOperator w) :
    execute m (pwdName :: args)
      = ⟨.ok .proceed, m, [.event (.dispatching pwdName (.builtin .pwd)),
          .out (Utf8.encode (Utf8.decodeLossy dir.path ++ ['\n']))]⟩ := by
  have hdir : m.surroundings.workingDir = some dir.path := by
    rw [Machine.surroundings, h, Location.path?_ofPlace]
  have hreply : replyOf m.surroundings (pwdName :: args) pwdName (.builtin .pwd)
      = ⟨Utf8.decodeLossy dir.path ++ ['\n'], [.workingDir]⟩ := by
    rw [replyOf, Builtin.runPwd, hdir]
  exact execute_builtin (by decide) hreply hargs

/-- A `cd` on a line of its own makes its move, and tells what comes of it. -/
theorem execute_cd_eq {x target : Text} {calls : List Call} (hcalls : calls = [] ∨ calls = [.home])
    (hcd : Builtin.runCd m.surroundings [cdName, x] = Builtin.move m.surroundings target calls) :
    execute m [cdName, x]
      = ⟨.ok .proceed, m.perform (.move (Utf8.encode target)),
          [.event (.dispatching cdName (.builtin .cd)),
            .out (Utf8.encode (Builtin.move m.surroundings target calls).value)]⟩ := by
  have hreply : replyOf m.surroundings [cdName, x] cdName (.builtin .cd)
      = Builtin.move m.surroundings target calls := hcd
  have hwords : ∀ w ∈ [cdName, x].dropLast, ¬ IsOperator w := by
    intro w hw
    obtain rfl := List.mem_singleton.1 hw
    decide
  rw [execute_builtin (by decide) hreply hwords, performAll_move hcalls]

/-- A `cd` to a directory moves there without a word. -/
theorem execute_cd_of_enter {x target : Text} {calls : List Call} {l : Location}
    (hcalls : calls = [] ∨ calls = [.home])
    (hcd : Builtin.runCd m.surroundings [cdName, x] = Builtin.move m.surroundings target calls)
    (henter : m.files.enter m.location (Utf8.encode target) = .ok l) :
    execute m [cdName, x]
      = ⟨.ok .proceed, { m with location := l },
          [.event (.dispatching cdName (.builtin .cd)), .out []]⟩ := by
  have hvalue : (Builtin.move m.surroundings target calls).value = [] :=
    (Builtin.value_move_eq_nil_iff _ _ _).2 (Machine.canEnter_surroundings_iff.2 ⟨l, henter⟩)
  rw [execute_cd_eq hcalls hcd, hvalue, Machine.perform, henter]
  rfl

/-- A `cd` to what is no directory says so and does nothing. -/
theorem execute_cd_of_not_enter {x target : Text} {calls : List Call} {cause : Fault}
    (hcalls : calls = [] ∨ calls = [.home])
    (hcd : Builtin.runCd m.surroundings [cdName, x] = Builtin.move m.surroundings target calls)
    (henter : m.files.enter m.location (Utf8.encode target) = .error cause) :
    execute m [cdName, x]
      = ⟨.ok .proceed, m, [.event (.dispatching cdName (.builtin .cd)),
          .out (Utf8.encode (Builtin.cdFailure target))]⟩ := by
  have hvalue : (Builtin.move m.surroundings target calls).value ≠ [] := by
    rw [ne_eq, Builtin.value_move_eq_nil_iff, Machine.canEnter_surroundings_iff, henter]
    simp
  rw [execute_cd_eq hcalls hcd, Builtin.value_move_of_ne_nil hvalue, Machine.perform, henter]

/-- A `cd` to the path of the directory that one stands in does nothing, and says nothing, if the
path may be walked; and otherwise it does nothing, and says that there is no such directory. -/
theorem execute_cd_path {dir : Place} (hm : m.InDirectory) (h : m.location = .ofPlace dir)
    {t : Text} (ht : Utf8.encode t = dir.path) (htilde : '~' ∉ t)
    (hlen : dir.path.length < pathLimit) :
    (m.files.IsOpen dir → execute m [cdName, t]
      = ⟨.ok .proceed, m, [.event (.dispatching cdName (.builtin .cd)), .out []]⟩) ∧
    (¬ m.files.IsOpen dir → execute m [cdName, t]
      = ⟨.ok .proceed, m, [.event (.dispatching cdName (.builtin .cd)),
          .out (Utf8.encode (Builtin.cdFailure t))]⟩) := by
  have hdirectory : m.files.IsDirectory dir := by
    have hd := hm.directory
    rwa [h] at hd
  have hcd : Builtin.runCd m.surroundings [cdName, t] = Builtin.move m.surroundings t [] :=
    Builtin.runCd_of_not_tilde rfl htilde
  constructor
  · intro hopen
    have henter : m.files.enter m.location (Utf8.encode t) = .ok m.location := by
      rw [ht, h]
      exact hm.wellFormed.enter_path hopen hlen _
    exact execute_cd_of_enter (.inl rfl) hcd henter
  · intro hclosed
    have henter : m.files.enter m.location (Utf8.encode t) = .error (.system .denied) := by
      rw [ht]
      exact hm.wellFormed.enter_path_denied hdirectory hclosed hlen _
    exact execute_cd_of_not_enter (.inl rfl) hcd henter

/-- **The shell always stands in a directory, and knows it by its physical path.** If it does so at
the start, then after any lines the path of where it stands is absolute and leads there by names of
entries alone, through directories and no links. That path is what `pwd` writes. The next line moves
the shell only if it is a `cd` with an argument, has no error, and the `cd` has nothing to say; a
`cd` that has something to say leaves it where it is, and so does one to that path, if the path can
be written as an argument. It does so without a word exactly if all directories that the path names
may be searched, and no line changes whether they may. -/
theorem workingDir_runLines (hm : m.InDirectory) (lines : List Text) :
    let m' := runLines m lines
    ∃ dir : Place, m'.location = .ofPlace dir ∧ m'.surroundings.workingDir = some dir.path ∧
      m'.files.IsPhysical dir ∧ dir.path.IsAbsolute ∧ dir.path.steps = dir ∧
      (∀ args, (∀ w ∈ (pwdName :: args).dropLast, ¬ IsOperator w) →
        execute m' (pwdName :: args)
          = ⟨.ok .proceed, m', [.event (.dispatching pwdName (.builtin .pwd)),
              .out (Utf8.encode (Utf8.decodeLossy dir.path ++ ['\n']))]⟩) ∧
      (∀ line, (runLine m' line).machine.location ≠ m'.location →
        ∃ arg more target, splitRedirection (tokenize line) = .ok (cdName :: arg :: more, target) ∧
          (runLine m' line).result = .ok .proceed ∧
          (Builtin.runCd m'.surroundings (cdName :: arg :: more)).value = []) ∧
      (∀ line args target, splitRedirection (tokenize line) = .ok (cdName :: args, target) →
        (Builtin.runCd m'.surroundings (cdName :: args)).value ≠ [] →
        (runLine m' line).machine.location = m'.location) ∧
      (m'.files.IsOpen dir ↔ m.files.IsOpen dir) ∧
      ∀ t, Utf8.encode t = dir.path → '~' ∉ t → dir.path.length < pathLimit →
        (m.files.IsOpen dir → execute m' [cdName, t]
          = ⟨.ok .proceed, m', [.event (.dispatching cdName (.builtin .cd)), .out []]⟩) ∧
        (¬ m.files.IsOpen dir → execute m' [cdName, t]
          = ⟨.ok .proceed, m', [.event (.dispatching cdName (.builtin .cd)),
              .out (Utf8.encode (Builtin.cdFailure t))]⟩) := by
  intro m'
  have hm' : m'.InDirectory := inDirectory_runLines hm lines
  have hlocation : m'.location = .ofPlace m'.location.place := by
    rw [Location.ofPlace, ← hm'.whole]
  have hphysical := hm'.wellFormed.isPhysical hm'.directory
  have hopen : m'.files.IsOpen m'.location.place ↔ m.files.IsOpen m'.location.place :=
    forall_congr' fun _ ↦ imp_congr_right fun _ ↦ (grows_runLines m lines).isSearchable_iff
  refine ⟨m'.location.place, hlocation, ?_, hphysical, m'.location.place.isAbsolute_path,
    FileSystem.steps_path hphysical.isName, ?_, ?_, ?_, hopen, ?_⟩
  · rw [Machine.surroundings, hlocation, Location.path?_ofPlace]
    rfl
  · intro args hargs
    exact execute_pwd hlocation hargs
  · intro line hmoved
    rcases location_execute m' (tokenize line) with hstay | ⟨arg, more, target, hcd, hok, hnil, -⟩
    · exact absurd hstay hmoved
    · exact ⟨arg, more, target, hcd, hok, hnil⟩
  · intro line args target hsplit hvalue
    rcases location_execute m' (tokenize line) with hstay | ⟨arg, more, t, hcd, -, hnil, -⟩
    · exact hstay
    · obtain ⟨hargs, -⟩ := Prod.mk.inj (Except.ok.inj (hsplit.symm.trans hcd))
      rw [hargs] at hvalue
      exact absurd hnil hvalue
  · intro t ht htilde hlen
    rw [← hopen]
    exact execute_cd_path hm' hlocation ht htilde hlen

/-- A machine with a directory `d` and a link `l` to it, whose target goes up on its way. -/
def linked : Machine where
  files := (FileSystem.empty.insert ([] ++ [textName "d"]) (.directory 0o755)).insert
    ([] ++ [textName "l"]) (.link (textName "d/../d"))
  location := .root
  searchPath := none
  home := none
  behaviour _ := ⟨[], [], .exited 0⟩

theorem inDirectory_linked : linked.InDirectory where
  wellFormed := by
    have hnul : ∀ target, Node.link (textName "d/../d") = .link target → nul ∉ target := by
      intro target h
      rw [← Node.link.inj h]
      decide
    exact (FileSystem.wellFormed_empty.insert (by decide) (by decide) (by decide)
      (by simp)).insert (by decide) (by decide) (by decide) hnul
  whole := rfl
  directory := by decide

/-- Through the link the shell comes to the directory, and knows it by its own name. -/
theorem workingDir_linked :
    linked.InDirectory ∧ execute (runLines linked ["cd /l".toList, "cd x".toList]) [pwdName]
      = ⟨.ok .proceed, runLines linked ["cd /l".toList, "cd x".toList],
          [.event (.dispatching pwdName (.builtin .pwd)), .out (textName "/d\n")]⟩ := by
  obtain ⟨dir, hlocation, -, -, -, -, hpwd, -⟩ :=
    workingDir_runLines inDirectory_linked ["cd /l".toList, "cd x".toList]
  have hd : (runLines linked ["cd /l".toList, "cd x".toList]).location
      = .ofPlace (textPlace ["d"]) := by decide
  obtain rfl : dir = textPlace ["d"] := congrArg Location.place (hlocation.symm.trans hd)
  exact ⟨inDirectory_linked, hpwd [] (by decide)⟩

/-- A machine whose shell stands in a directory `d` below one, `a`, that may not be searched. -/
def lockedOut : Machine where
  files := (FileSystem.empty.insert ([] ++ [textName "a"]) (.directory 0o600)).insert
    ([textName "a"] ++ [textName "d"]) (.directory 0o755)
  location := .ofPlace (textPlace ["a", "d"])
  searchPath := none
  home := none
  behaviour _ := ⟨[], [], .exited 0⟩

theorem inDirectory_lockedOut : lockedOut.InDirectory where
  wellFormed := (FileSystem.wellFormed_empty.insert (by decide) (by decide) (by decide)
    (by simp)).insert (by decide) (by decide) (by decide) (by simp)
  whole := rfl
  directory := by decide

/-- There the path of the directory that the shell stands in cannot be given to `cd`. -/
theorem not_forall_execute_cd_path :
    ¬ ∀ (m : Machine) (lines : List Text) (dir : Place) (t : Text), m.InDirectory →
      (runLines m lines).location = .ofPlace dir → Utf8.encode t = dir.path → '~' ∉ t →
      dir.path.length < pathLimit → execute (runLines m lines) [cdName, t]
        = ⟨.ok .proceed, runLines m lines,
            [.event (.dispatching cdName (.builtin .cd)), .out []]⟩ := by
  intro h
  have hsilent := h lockedOut [] (textPlace ["a", "d"]) "/a/d".toList inDirectory_lockedOut rfl
    (by decide) (by decide) (by decide)
  have hclosed : ¬ lockedOut.files.IsOpen (textPlace ["a", "d"]) := fun hopen ↦
    absurd (hopen (textPlace ["a"]) (by decide)) (by decide)
  have htells := (execute_cd_path inDirectory_lockedOut (t := "/a/d".toList) rfl (by decide)
    (by decide) (by decide)).2 hclosed
  have houtput := congrArg (fun o : Outcome Flow ↦ o.transcript.output) (htells.symm.trans hsilent)
  exact absurd houtput (by decide)

end Shell

namespace Session

variable {σ : Type} [LineSource σ]

/-- After a session, the shell stands in a directory if it did before. -/
theorem inDirectory_run {m : Machine} (hm : m.InDirectory) (prompt : Text) (source : σ) :
    (run prompt source m).machine.InDirectory := by
  obtain ⟨lines, hlines⟩ := exists_machine_run_eq prompt source m
  rw [hlines]
  exact Shell.inDirectory_runLines hm lines

end Session

end LineShell

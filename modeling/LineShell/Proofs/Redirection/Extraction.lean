import LineShell.FileSystem.Setup
import LineShell.Proofs.FileSystem.Opening
import LineShell.Proofs.Shell.Results

/-!
# What a redirection takes and gives

Before a line is run its redirection is taken out and opened (`Shell.extract`). That takes the first
operator and the word behind it, and no other word: the rest are the arguments as they were, with
whatever operators are left among them. In turn it gives a sink. What is written to the sink, in any
number of writes, becomes the whole content of one file, and all others stay as they are
(`Shell.extract_first`).

The target may be an operator itself. It stands behind the first operator, and nothing else is
asked of it.

## One file, from opening to the last write

Opening settles which file it is and empties it (`FileSystem.Opens`), and each write keeps all that
was written so far and puts its bytes behind it (`FileSystem.Filled.append`). So the invariant over
the writes is that the file holds the bytes up to now (`FileSystem.Filled.writeAll`). Both together
say what has become of the file that was there, or was not (`FileSystem.Replaces`).
-/

namespace LineShell

namespace FileSystem

variable {fs fs' fs'' : FileSystem} {l : Location} {p : Path} {place : Place} {bytes : Bytes}

/-! ## Files with a new content -/

/-- Whether a file system has become another by giving a new content to the file at a place, to
which a path then leads. -/
structure Replaces (fs : FileSystem) (l : Location) (p : Path) (place : Place) (bytes : Bytes)
    (fs' : FileSystem) : Prop where
  /-- The file holds these bytes and no others. It has the mode it had, and if there was nothing
  that of a file that the shell creates. -/
  node : ∃ mode, fs'.node? place = some (.file mode (.data bytes)) ∧
    (fs.node? place = none ∧ mode = .fresh ∨ ∃ old, fs.node? place = some (.file mode old))
  /-- All other places are as they were. -/
  others : ∀ q, q ≠ place → fs'.node? q = fs.node? q
  /-- The path leads to it. -/
  leads : fs'.locate l p = .ok (.ofPlace place)

/-- An opened file takes what is written to it for its content. -/
theorem Opens.replaces (h : fs.Opens l p place fs') (hfilled : fs'.Filled place bytes fs'') :
    fs.Replaces l p place bytes fs'' := by
  have hrewrites := h.rewrites hfilled
  obtain ⟨mode, -, hnode⟩ := hfilled.node
  refine ⟨⟨mode, hnode, ?_⟩, hrewrites.others, hrewrites.leads⟩
  have hentry := hrewrites.entry
  rw [hnode] at hentry
  generalize fs.node? place = before at hentry ⊢
  rcases hentry with _ | _ | ⟨_, old, _⟩
  · exact .inr ⟨.data bytes, rfl⟩
  · exact .inl ⟨rfl, rfl⟩
  · exact .inr ⟨old, rfl⟩

/-- The content of a file is what was written to it, write by write. -/
theorem Filled.writeAll (h : fs.Filled place bytes fs') (hne : place ≠ []) (writes : List Bytes) :
    ∃ fs'', (Sink.opened (.file place)).writeAll fs' writes = (fs'', [], none) ∧
      fs.Filled place (bytes ++ writes.flatten) fs'' := by
  induction writes generalizing fs' bytes with
  | nil =>
    refine ⟨fs', rfl, ?_⟩
    rwa [List.flatten_nil, List.append_nil]
  | cons w rest ih =>
    obtain ⟨fs'', hrest, hfilled⟩ := ih (h.append hne w)
    refine ⟨fs'', ?_, ?_⟩
    · have hstep : (Sink.opened (.file place)).write fs' w = .ok (fs'.append place w, []) := rfl
      rw [Sink.writeAll, hstep]
      simp only [hrest, List.nil_append]
    · rwa [List.flatten_cons, ← List.append_assoc]

end FileSystem

/-! ## Sinks without a file -/

/-- What is written to standard output is shown, write by write, and no file has to do with it. -/
theorem Sink.writeAll_stdout (fs : FileSystem) (writes : List Bytes) :
    Sink.stdout.writeAll fs writes = (fs, writes.flatten, none) := by
  induction writes with
  | nil => rfl
  | cons w rest ih =>
    have hstep : Sink.stdout.write fs w = .ok (fs, w) := rfl
    rw [writeAll, hstep]
    simp only [ih, List.flatten_cons]

/-- Devices keep nothing, so no file has to do with what is written to one, whether it is taken or
not. -/
theorem Sink.writeAll_device (fs : FileSystem) (kind : Device) (writes : List Bytes) :
    ((Sink.opened (.device kind)).writeAll fs writes).1 = fs := by
  induction writes with
  | nil => rfl
  | cons w rest ih =>
    rw [writeAll, write]
    rcases hwrite : fs.write (.device kind) w with cause | fs'
    · rfl
    · obtain rfl := FileSystem.eq_of_write_device hwrite
      exact ih

/-! ## Runs in two parts -/

/-- The outcome of a run that goes on, if it has a value, with that value and on the machine that is
left. -/
def Outcome.andThen {α β : Type} (o : Outcome α) (next : Machine → α → Outcome β) : Outcome β :=
  match o.result with
  | .error halt => ⟨.error halt, o.machine, o.transcript⟩
  | .ok a => (next o.machine a).after o.transcript

namespace Shell

variable {m : Machine} {words args : List Text}

/-- Takes the redirection out of some words and opens it: what is left are the arguments of a
command, and the sink for its output. -/
def extract (m : Machine) (words : List Text) : Outcome (List Text × Sink) :=
  match splitRedirection words with
  | .error halt => ⟨.error halt, m, []⟩
  | .ok (args, target) =>
    Outcome.after (redirectingEvents target) <|
      match openSink m.files m.location target with
      | .error e => ⟨.error (.error e), m, []⟩
      | .ok (sink, files) => ⟨.ok (args, sink), { m with files }, []⟩

theorem extract_of_openSink_ok {target : Option Text} {sink : Sink} {files : FileSystem}
    (hsplit : splitRedirection words = .ok (args, target))
    (hopen : openSink m.files m.location target = .ok (sink, files)) :
    extract m words = ⟨.ok (args, sink), { m with files }, redirectingEvents target⟩ := by
  rw [extract, hsplit]
  simp only [hopen, Outcome.after, List.append_nil]

theorem extract_of_openSink_error {target : Option Text} {e : ShellError}
    (hsplit : splitRedirection words = .ok (args, target))
    (hopen : openSink m.files m.location target = .error e) :
    extract m words = ⟨.error (.error e), m, redirectingEvents target⟩ := by
  rw [extract, hsplit]
  simp only [hopen, Outcome.after, List.append_nil]

/-- A line is run by taking its redirection out first. -/
theorem execute_eq_extract (m : Machine) (words : List Text) :
    execute m words = (extract m words).andThen fun m (args, sink) ↦
      if args = [] then ⟨.ok .proceed, m, []⟩ else dispatch m sink args := by
  obtain ⟨args, target, hsplit⟩ := exists_splitRedirection_eq words
  rcases hopen : openSink m.files m.location target with e | ⟨sink, files⟩
  · rw [execute_of_openSink_eq_error hsplit hopen, extract_of_openSink_error hsplit hopen]
    rfl
  · rw [execute_of_openSink_ok hsplit hopen, extract_of_openSink_ok hsplit hopen]
    rfl

/-- Without a redirection the words are the arguments, and the output is shown. -/
theorem extract_of_forall_dropLast_not (h : ∀ w ∈ words.dropLast, ¬ IsOperator w) :
    extract m words = ⟨.ok (words, .stdout), m, []⟩ :=
  extract_of_openSink_ok (splitRedirection_eq_none_iff.2 ⟨rfl, h⟩) rfl

theorem extract_of_redirectsTo {target : Text} {handle : Handle} {files : FileSystem}
    (h : RedirectsTo words args target)
    (hopen : m.files.openToWrite m.location (Utf8.encode target) = .ok (handle, files)) :
    extract m words
      = ⟨.ok (args, .opened handle), { m with files }, [.event (.redirecting target)]⟩ :=
  extract_of_openSink_ok (splitRedirection_eq_some_iff.2 h) (openSink_of_ok hopen)

theorem extract_of_redirectsTo_of_error {target : Text} {cause : Fault}
    (h : RedirectsTo words args target)
    (hopen : m.files.openToWrite m.location (Utf8.encode target) = .error cause) :
    extract m words
      = ⟨.error (.error (.redirect target cause)), m, [.event (.redirecting target)]⟩ :=
  extract_of_openSink_error (splitRedirection_eq_some_iff.2 h) (openSink_of_error hopen)

/-- **The first operator and the word behind it are taken out, for one file.** Whatever the word is,
it is the path of the target. If that cannot be opened, the line has an error that names it, and the
machine is as it was. Otherwise all other words are the arguments, operators among them included,
and what is then written is the content of the file that the target leads to, and no other file has
changed; a device keeps nothing, and no file at all has changed. If no word but the last is an
operator, all words are arguments, and what is written is shown. A line is run with what has been
taken out in this way.

Rights are as file systems have them here: all files and directories are the owner's, whose bits of
their modes say what can be opened and what a file can be created in. The umask is 0, so that a file
is created with mode 644 as it is asked for, and modes have no set-id bits that writing would clear,
so that a file that was there keeps its mode. -/
theorem extract_first (m : Machine) (words : List Text) :
    (∀ pre op target post, words = pre ++ op :: target :: post → IsOperator op →
      (∀ w ∈ pre, ¬ IsOperator w) →
      (∃ cause, m.files.openToWrite m.location (Utf8.encode target) = .error cause ∧
        extract m words
          = ⟨.error (.error (.redirect target cause)), m, [.event (.redirecting target)]⟩) ∨
      ∃ handle files,
        m.files.openToWrite m.location (Utf8.encode target) = .ok (handle, files) ∧
        extract m words = ⟨.ok (pre ++ post, .opened handle), { m with files },
          [.event (.redirecting target)]⟩ ∧
        (∀ place, handle = .file place → ∀ writes, ∃ written,
          (Sink.opened handle).writeAll files writes = (written, [], none) ∧
          m.files.Replaces m.location (Utf8.encode target) place writes.flatten written) ∧
        ∀ kind, handle = .device kind → ∀ writes,
          ((Sink.opened handle).writeAll files writes).1 = m.files) ∧
    ((∀ w ∈ words.dropLast, ¬ IsOperator w) →
      extract m words = ⟨.ok (words, .stdout), m, []⟩ ∧
      ∀ writes, Sink.stdout.writeAll m.files writes = (m.files, writes.flatten, none)) ∧
    execute m words = (extract m words).andThen fun m (args, sink) ↦
      if args = [] then ⟨.ok .proceed, m, []⟩ else dispatch m sink args := by
  refine ⟨?_, ?_, execute_eq_extract m words⟩
  · intro pre op target post hwords hop hpre
    have hto : RedirectsTo words (pre ++ post) target := ⟨pre, op, post, hwords, rfl, hpre, hop⟩
    rcases hopen : m.files.openToWrite m.location (Utf8.encode target) with
      cause | ⟨handle, files⟩
    · exact .inl ⟨cause, rfl, extract_of_redirectsTo_of_error hto hopen⟩
    · refine .inr ⟨handle, files, rfl, extract_of_redirectsTo hto hopen, ?_, ?_⟩
      · rintro place rfl writes
        have hopens := FileSystem.opens_of_openToWrite hopen
        obtain ⟨written, hall, hfilled⟩ := hopens.filled_nil.writeAll hopens.ne_nil writes
        exact ⟨written, hall, hopens.replaces hfilled⟩
      · rintro kind rfl writes
        obtain rfl := FileSystem.eq_of_openToWrite_device hopen
        exact Sink.writeAll_device _ kind writes
  · intro h
    exact ⟨extract_of_forall_dropLast_not h, Sink.writeAll_stdout m.files⟩

/-- A machine with a file whose name is an operator. -/
def operatorFile : Machine where
  files := FileSystem.empty.insert [FileSystem.textName ">"] (.file 0o600 (.data [1, 2, 3]))
  location := .root
  searchPath := none
  home := none
  behaviour _ := ⟨[], [], .exited 0⟩

/-- That file is the target of `echo > > > b`, which has two writes for it. -/
theorem extract_first_operatorFile :
    let words := ["echo".toList, ">".toList, ">".toList, ">".toList, "b".toList]
    let sink := Sink.opened (.file [FileSystem.textName ">"])
    ∃ files written, extract operatorFile words
        = ⟨.ok (["echo".toList, ">".toList, "b".toList], sink), { operatorFile with files },
          [.event (.redirecting ">".toList)]⟩ ∧
      sink.writeAll files [[4], [5, 6]] = (written, [], none) ∧
      written.node? [FileSystem.textName ">"] = some (.file 0o600 (.data [4, 5, 6])) := by
  intro words sink
  have hwords : words = ["echo".toList] ++ ">".toList :: ">".toList :: [">".toList, "b".toList] :=
    rfl
  have hopened : operatorFile.files.openToWrite operatorFile.location (Utf8.encode ">".toList)
      = .ok (.file [FileSystem.textName ">"],
          operatorFile.files.insert [FileSystem.textName ">"] (.file 0o600 (.data []))) := by
    rfl
  have hold : operatorFile.files.node? [FileSystem.textName ">"]
      = some (.file 0o600 (.data [1, 2, 3])) := by
    rfl
  rcases (extract_first operatorFile words).1 _ _ _ _ hwords (.inl rfl) (by decide) with
    ⟨cause, hopen, -⟩ | ⟨handle, files, hopen, hextract, hfile, -⟩
  · exact absurd (hopened.symm.trans hopen) (by simp)
  · obtain ⟨rfl, rfl⟩ := Prod.mk.inj (Except.ok.inj (hopened.symm.trans hopen))
    obtain ⟨written, hall, hreplaces⟩ := hfile _ rfl [[4], [5, 6]]
    refine ⟨_, written, hextract, hall, ?_⟩
    obtain ⟨mode, hnode, ⟨hnone, -⟩ | ⟨old, hfound⟩⟩ := hreplaces.node
    · exact absurd (hold.symm.trans hnone) (by simp)
    · obtain ⟨rfl, -⟩ := Node.file.inj (Option.some.inj (hold.symm.trans hfound))
      exact hnode

end Shell

end LineShell

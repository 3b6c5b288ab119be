import LineShell.Machine
import LineShell.Proofs.FileSystem.ExplicitPath

/-!
# What is started

A program that the search has found is started by its path made explicit. It is then the very file
that was found that is opened (`start_explicit`), and it is called with exactly the arguments of its
call. If the file is a program, that is all. If it is a script, interpreters are opened in turn, and
each of them leaves the script and what it was called with behind its own name and argument
(`LeadsTo.arguments`). Whatever is started in the end, the file that was found is the first of those
that led to it (`getLast?_files_start`), and all of them are files that may be run
(`LeadsTo.mem_files`).

How a file leads to a program is a relation with one case for a program and one for a script, and the
inductions are over it.
-/

namespace LineShell.Machine

variable {m : Machine} {p : Path} {place : Place} {busy : Option Place} {args : List Text}
  {file next : Loading} {text : Bytes} {i : Invocation} {left : Nat}

/-! ## Opening -/

/-- What is opened to be run is a regular file that its owner may run, and not the one that is open
for writing. -/
theorem openToRun_eq_ok_iff {l : Location} {content : Content} :
    m.openToRun busy l = .ok (place, content) ↔ ∃ mode, l = .ofPlace place ∧
      m.files.node? place = some (.file mode content) ∧ mode.AllowsRunning ∧
        busy ≠ some place := by
  constructor
  · intro h
    rw [openToRun] at h
    split at h
    · next mode content' hnode =>
      obtain ⟨q, rfl, hq⟩ := (FileSystem.nodeAt?_eq_some_iff (by simp)).1 hnode
      split at h
      · exact absurd h (by simp)
      · next hrun =>
        split at h
        · exact absurd h (by simp)
        · next hbusy =>
          obtain ⟨rfl, rfl⟩ := Prod.mk.inj (Except.ok.inj h)
          exact ⟨mode, rfl, hq, Decidable.not_not.1 hrun, hbusy⟩
    · exact absurd h (by simp)
  · rintro ⟨mode, rfl, hfile, hrun, hbusy⟩
    have hnode : m.files.nodeAt? (.ofPlace place) = some (.file mode content) := hfile
    rw [openToRun, hnode]
    change (if _ then _ else if busy = some place then _ else _) = _
    rw [if_neg (not_not_intro hrun), if_neg hbusy]
    rfl

/-! ## From a script to its interpreter -/

/-- What a script leads to: its interpreter, to be called with its own name and argument in front of
the path of the script. -/
theorem interpret_eq_ok_iff :
    m.interpret busy file text = .ok next ↔ ∃ interpreter l opened,
      Script.interpreter? text = some interpreter ∧
      m.CanHandOver (interpreter.arguments file.path file.arguments) ∧
      m.files.locate m.location interpreter.path = .ok l ∧ m.openToRun busy l = .ok opened ∧
      next = ⟨interpreter.path, opened.1, opened.2,
        interpreter.arguments file.path file.arguments, ⟨file.place, text⟩ :: file.scripts⟩ := by
  rw [interpret]
  rcases Script.interpreter? text with _ | interpreter
  · simp
  · by_cases hover : m.CanHandOver (interpreter.arguments file.path file.arguments)
    · rcases hl : m.files.locate m.location interpreter.path with cause | l
      · simp [hover, hl]
      · rcases hopened : m.openToRun busy l with cause | ⟨q, content⟩
        · simp [hover, hl, hopened]
        · simp [hover, hl, hopened, eq_comm, and_assoc]
    · simp [hover]

/-- The first argument of an interpreter is its own, and the script takes the place of the first
argument that it was called with. -/
theorem arguments_interpret (h : m.interpret busy file text = .ok next) :
    ∃ front, next.arguments = next.path :: front ++ file.path :: file.arguments.tail := by
  obtain ⟨interpreter, l, opened, -, -, -, -, rfl⟩ := interpret_eq_ok_iff.1 h
  exact ⟨interpreter.argument?.toList, rfl⟩

/-! ## From a file to a program -/

theorem load_of_program (busy : Option Place) (left : Nat) (hfile : file.content = .program) :
    m.load busy left file = .ok ⟨file.place, file.scripts, file.arguments, m.location.path?⟩ := by
  cases left <;> rw [load, hfile]

/-- A script is followed by its interpreter, if one more may follow. -/
theorem load_of_data (left : Nat) (hfile : file.content = .data text) :
    m.load busy left file = match m.interpret busy file text with
      | .error cause => .error cause
      | .ok next =>
        match left with
        | 0 => .error (.system .tooManyLinks)
        | left + 1 => m.load busy left next := by
  rcases hnext : m.interpret busy file text with cause | next
  · rw [load]
    simp only [hfile, hnext]
  · rw [load]
    cases left <;> simp only [hfile, hnext]

/-- A file that leads to a program is one, or is a script whose interpreter does. -/
theorem load_eq_ok_iff :
    m.load busy left file = .ok i ↔
      (file.content = .program ∧
        i = ⟨file.place, file.scripts, file.arguments, m.location.path?⟩) ∨
      ∃ text next left', file.content = .data text ∧ left = left' + 1 ∧
        m.interpret busy file text = .ok next ∧ m.load busy left' next = .ok i := by
  rcases hcontent : file.content with text | _
  · rw [load_of_data left hcontent]
    rcases hnext : m.interpret busy file text with cause | next
    · simp [hnext]
    · rcases left with _ | left
      · simp
      · simp [hnext]
  · rw [load_of_program busy left hcontent]
    simp [eq_comm]

/-- Whether a file is a program that is started by an invocation, or a script whose interpreter leads
to one. -/
inductive LeadsTo (m : Machine) (busy : Option Place) : Loading → Invocation → Prop where
  /-- The file is the program. -/
  | program {file : Loading} (hfile : file.content = .program) :
    LeadsTo m busy file ⟨file.place, file.scripts, file.arguments, m.location.path?⟩
  /-- The file is a script. -/
  | script {file next : Loading} {text : Bytes} {i : Invocation}
    (hnext : m.interpret busy file text = .ok next) (h : LeadsTo m busy next i) :
    LeadsTo m busy file i

theorem leadsTo_of_load (h : m.load busy left file = .ok i) : m.LeadsTo busy file i := by
  induction left generalizing file with
  | zero =>
    obtain ⟨hfile, rfl⟩ | ⟨_, _, _, -, hleft, -⟩ := load_eq_ok_iff.1 h
    · exact .program hfile
    · exact absurd hleft (Nat.zero_ne_add_one _)
  | succ left ih =>
    obtain ⟨hfile, rfl⟩ | ⟨text, next, left', -, hleft, hnext, hload⟩ := load_eq_ok_iff.1 h
    · exact .program hfile
    · obtain rfl := Nat.succ.inj hleft
      exact .script hnext (ih hload)

/-- Each script that was followed stands behind what it led to. -/
theorem LeadsTo.suffix_files (h : m.LeadsTo busy file i) :
    file.place :: file.scripts.map Script.place <:+ i.files := by
  induction h with
  | program hfile => exact List.suffix_refl _
  | @script file next text i hnext h ih =>
    obtain ⟨interpreter, l, opened, -, -, -, -, rfl⟩ := interpret_eq_ok_iff.1 hnext
    exact (List.suffix_cons opened.1 _).trans ih

/-- All that is opened on the way may be run, and is not open for writing. -/
theorem LeadsTo.mem_files (h : m.LeadsTo busy file i) {q : Place} (hq : q ∈ i.files) :
    q ∈ file.place :: file.scripts.map Script.place ∨ busy ≠ some q ∧
      ∃ mode content, m.files.node? q = some (.file mode content) ∧ mode.AllowsRunning := by
  induction h with
  | program hfile => exact .inl hq
  | @script file next text i hnext h ih =>
    obtain ⟨interpreter, l, opened, -, -, -, hopened, rfl⟩ := interpret_eq_ok_iff.1 hnext
    obtain ⟨mode, -, hfile, hrun, hbusy⟩ := openToRun_eq_ok_iff.1 hopened
    rcases ih hq with hmem | hmem
    · rcases List.mem_cons.1 hmem with rfl | hmem
      · exact .inr ⟨hbusy, mode, opened.2, hfile, hrun⟩
      · exact .inl hmem
    · exact .inr hmem

/-- **What a program is called with** is what the file was called with, if no script was followed from
it; and otherwise it ends in the path of the file and the further arguments. -/
theorem LeadsTo.arguments (h : m.LeadsTo busy file i) :
    (i.scripts = file.scripts ∧ i.arguments = file.arguments) ∨
      ∃ front, front ≠ [] ∧ i.arguments = front ++ file.path :: file.arguments.tail := by
  induction h with
  | program hfile => exact .inl ⟨rfl, rfl⟩
  | @script file next text i hnext h ih =>
    obtain ⟨front, hfront⟩ := arguments_interpret hnext
    right
    rcases ih with ⟨-, hargs⟩ | ⟨front', -, hargs⟩
    · exact ⟨next.path :: front, by simp, hargs.trans hfront⟩
    · -- The interpreter is a script itself, and its path stays in front of its own argument.
      refine ⟨front' ++ next.path :: front, by simp, ?_⟩
      rw [hargs, hfront, List.cons_append, List.tail_cons, List.append_assoc, List.cons_append]

/-! ## From a path to a program -/

theorem programPath?_explicit (m : Machine) (p : Path) :
    m.programPath? p.explicit = some p.explicit := if_neg (Path.not_isBare_explicit p)

theorem start_of_nul (h : ∃ arg ∈ args, Char.ofNat 0 ∈ arg) :
    m.start busy p args = .error .nulInArgument := by
  rw [start, if_pos (by simpa using h)]

/-- **What is opened is the file that was found, to be called with the arguments of its call.** -/
theorem start_explicit (busy : Option Place) (hargs : ∀ arg ∈ args, Char.ofNat 0 ∉ arg)
    (hp : m.files.locate m.location p = .ok (.ofPlace place)) :
    m.start busy p.explicit args = match m.openToRun busy (.ofPlace place) with
      | .error cause => .error cause
      | .ok (place, content) =>
        if ¬ m.CanHandOver (args.map Utf8.encode) then .error (.system .tooManyArguments)
        else m.load busy scriptLimit ⟨p.explicit, place, content, args.map Utf8.encode, []⟩ := by
  have hnul : ¬ (args.any fun arg ↦ Char.ofNat 0 ∈ arg) := by simpa using hargs
  rw [start, if_neg hnul, programPath?_explicit]
  rcases hopened : m.openToRun busy (.ofPlace place) with cause | ⟨file, content⟩
  · simp only [FileSystem.locate_explicit hp, hopened]
  · simp only [FileSystem.locate_explicit hp, hopened]

theorem start_eq_ok_iff (hargs : ∀ arg ∈ args, Char.ofNat 0 ∉ arg)
    (hp : m.files.locate m.location p = .ok (.ofPlace place)) :
    m.start busy p.explicit args = .ok i ↔
      ∃ content, m.openToRun busy (.ofPlace place) = .ok (place, content) ∧
        m.CanHandOver (args.map Utf8.encode) ∧ m.load busy scriptLimit
          ⟨p.explicit, place, content, args.map Utf8.encode, []⟩ = .ok i := by
  rw [start_explicit busy hargs hp]
  rcases hopened : m.openToRun busy (.ofPlace place) with cause | ⟨q, content⟩
  · simp
  · obtain ⟨mode, hplace, -⟩ := openToRun_eq_ok_iff.1 hopened
    obtain rfl : place = q := congrArg Location.place hplace
    by_cases hover : m.CanHandOver (args.map Utf8.encode) <;> simp [hover]

/-- The file that was found leads to the program that is started. -/
theorem exists_leadsTo_of_start (hp : m.files.locate m.location p = .ok (.ofPlace place))
    (h : m.start busy p.explicit args = .ok i) :
    ∃ content, m.openToRun busy (.ofPlace place) = .ok (place, content) ∧
      m.LeadsTo busy ⟨p.explicit, place, content, args.map Utf8.encode, []⟩ i := by
  have hnul : ∀ arg ∈ args, Char.ofNat 0 ∉ arg := by
    intro arg harg hmem
    rw [start_of_nul ⟨arg, harg, hmem⟩] at h
    exact absurd h (by simp)
  obtain ⟨content, hopened, -, hload⟩ := (start_eq_ok_iff hnul hp).1 h
  exact ⟨content, hopened, leadsTo_of_load hload⟩

/-- Whatever is started, it is the file that was found that led to it. -/
theorem getLast?_files_start (hp : m.files.locate m.location p = .ok (.ofPlace place))
    (h : m.start busy p.explicit args = .ok i) : i.files.getLast? = some place := by
  obtain ⟨content, -, hleads⟩ := exists_leadsTo_of_start hp h
  obtain ⟨front, hfront⟩ := hleads.suffix_files
  rw [← hfront]
  exact List.getLast?_concat

/-- All files that are opened to start a program may be run, and none is open for writing. -/
theorem mem_files_start (hp : m.files.locate m.location p = .ok (.ofPlace place))
    (h : m.start busy p.explicit args = .ok i) {q : Place} (hq : q ∈ i.files) :
    busy ≠ some q ∧ ∃ mode content, m.files.node? q = some (.file mode content) ∧
      mode.AllowsRunning := by
  obtain ⟨content, hopened, hleads⟩ := exists_leadsTo_of_start hp h
  rcases hleads.mem_files hq with hfirst | hlater
  · obtain rfl := List.mem_singleton.1 hfirst
    obtain ⟨mode, -, hfile, hrun, hbusy⟩ := openToRun_eq_ok_iff.1 hopened
    exact ⟨hbusy, mode, content, hfile, hrun⟩
  · exact hlater

/-- A program gets the arguments of its call, and the interpreter of a script its own first, and then
the path by which the script was started in the place of the name that it was called by. -/
theorem arguments_start (hp : m.files.locate m.location p = .ok (.ofPlace place))
    (h : m.start busy p.explicit args = .ok i) :
    (i.program = place ∧ i.scripts = [] ∧ i.arguments = args.map Utf8.encode) ∨
      ∃ front, front ≠ [] ∧
        i.arguments = front ++ p.explicit :: (args.map Utf8.encode).tail := by
  have hlast := getLast?_files_start hp h
  obtain ⟨content, -, hleads⟩ := exists_leadsTo_of_start hp h
  refine hleads.arguments.imp_left fun ⟨hscripts, hargs⟩ ↦ ⟨?_, hscripts, hargs⟩
  rw [Invocation.files, hscripts] at hlast
  exact Option.some.inj hlast

end LineShell.Machine

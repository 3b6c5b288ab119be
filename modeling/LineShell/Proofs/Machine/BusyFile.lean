import LineShell.Proofs.FileSystem.Opening
import LineShell.Proofs.Machine.Launch

/-!
# Starting programs while a file is open for writing

The shell opens the target of a redirection before it starts a program, and the target stays open
while it does. What is started then is what would have been started otherwise, unless the target is
one of the files that are opened to start it: the program, or a script on the way to it. Nothing is
started in that case (`start_eq_ok_iff_of_opens`).

Where there was nothing before, the target is a new file. A path of an interpreter may lead there now,
but the file may not be run, so nothing is started then either.
-/

namespace LineShell.Machine

variable {m : Machine} {files : FileSystem} {place q : Place} {l : Location} {p path : Path}
  {args : List Text} {file next : Loading} {text : Bytes} {i : Invocation} {left : Nat}

theorem openToRun_eq_ok_iff_of_opens (hopen : m.files.Opens l p place files) {target : Location}
    {opened : Place × Content} :
    ({ m with files } : Machine).openToRun (some place) target = .ok opened ↔
      m.openToRun none target = .ok opened ∧ opened.1 ≠ place := by
  obtain ⟨q, content⟩ := opened
  rw [openToRun_eq_ok_iff, openToRun_eq_ok_iff]
  constructor
  · rintro ⟨mode, htarget, hfile, hrun, hbusy⟩
    have hq : q ≠ place := fun h ↦ hbusy (congrArg some h.symm)
    exact ⟨⟨mode, htarget, (hopen.others q hq).symm.trans hfile, hrun, by simp⟩, hq⟩
  · rintro ⟨⟨mode, htarget, hfile, hrun, -⟩, hq⟩
    exact ⟨mode, htarget, (hopen.others q hq).trans hfile, hrun,
      fun h ↦ hq (Option.some.inj h).symm⟩

/-- What is opened to be run by a path is what was there, unless that is the file. -/
theorem exists_openToRun_iff_of_opens (hopen : m.files.Opens l p place files)
    {opened : Place × Content} :
    (∃ target, files.locate m.location path = .ok target ∧
        ({ m with files } : Machine).openToRun (some place) target = .ok opened) ↔
      (∃ target, m.files.locate m.location path = .ok target ∧
        m.openToRun none target = .ok opened) ∧ opened.1 ≠ place := by
  constructor
  · rintro ⟨target, hpath, hopened⟩
    obtain ⟨hopened, hne⟩ := (openToRun_eq_ok_iff_of_opens hopen).1 hopened
    refine ⟨⟨target, ?_, hopened⟩, hne⟩
    rcases hopen.grows.locate_or_fresh hpath with hpath | ⟨q, rfl, hnone, -⟩
    · exact hpath
    · obtain ⟨mode, hplace, hfile, -⟩ := openToRun_eq_ok_iff.1 hopened
      obtain rfl := congrArg Location.place hplace
      exact absurd (hnone.symm.trans hfile) (by simp)
  · rintro ⟨⟨target, hpath, hopened⟩, hne⟩
    exact ⟨target, hopen.grows.locate hpath,
      (openToRun_eq_ok_iff_of_opens hopen).2 ⟨hopened, hne⟩⟩

/-- A script has the interpreter that it had, unless that is the file. -/
theorem interpret_eq_ok_iff_of_opens (hopen : m.files.Opens l p place files) :
    ({ m with files } : Machine).interpret (some place) file text = .ok next ↔
      m.interpret none file text = .ok next ∧ next.place ≠ place := by
  rw [interpret_eq_ok_iff, interpret_eq_ok_iff]
  constructor
  · rintro ⟨interpreter, target, opened, hnamed, hover, hpath, hopened, rfl⟩
    obtain ⟨⟨target, hpath, hopened⟩, hne⟩ :=
      (exists_openToRun_iff_of_opens hopen).1 ⟨target, hpath, hopened⟩
    exact ⟨⟨interpreter, target, opened, hnamed, hover, hpath, hopened, rfl⟩, hne⟩
  · rintro ⟨⟨interpreter, target, opened, hnamed, hover, hpath, hopened, rfl⟩, hne⟩
    obtain ⟨target, hpath, hopened⟩ :=
      (exists_openToRun_iff_of_opens hopen).2 ⟨⟨target, hpath, hopened⟩, hne⟩
    exact ⟨interpreter, target, opened, hnamed, hover, hpath, hopened, rfl⟩

theorem not_mem_of_interpret (hfile : place ∉ file.place :: file.scripts.map Script.place)
    (hnext : m.interpret none file text = .ok next) (hne : next.place ≠ place) :
    place ∉ next.place :: next.scripts.map Script.place := by
  obtain ⟨interpreter, target, opened, -, -, -, -, rfl⟩ := interpret_eq_ok_iff.1 hnext
  exact fun h ↦ (List.mem_cons.1 h).elim (fun h ↦ hne h.symm) hfile

/-- A file leads to the program that it led to, unless a file on the way is the one that is open. -/
theorem load_eq_ok_iff_of_opens (hopen : m.files.Opens l p place files)
    (hfile : place ∉ file.place :: file.scripts.map Script.place) :
    ({ m with files } : Machine).load (some place) left file = .ok i ↔
      m.load none left file = .ok i ∧ place ∉ i.files := by
  induction left generalizing file with
  | zero =>
    rw [load_eq_ok_iff, load_eq_ok_iff]
    constructor
    · rintro (⟨hcontent, rfl⟩ | ⟨_, _, _, -, hleft, -⟩)
      · exact ⟨.inl ⟨hcontent, rfl⟩, hfile⟩
      · exact absurd hleft (Nat.zero_ne_add_one _)
    · rintro ⟨⟨hcontent, rfl⟩ | ⟨_, _, _, -, hleft, -⟩, -⟩
      · exact .inl ⟨hcontent, rfl⟩
      · exact absurd hleft (Nat.zero_ne_add_one _)
  | succ left ih =>
    rw [load_eq_ok_iff, load_eq_ok_iff]
    constructor
    · rintro (⟨hcontent, rfl⟩ | ⟨text, next, left', hcontent, hleft, hnext, hload⟩)
      · exact ⟨.inl ⟨hcontent, rfl⟩, hfile⟩
      · obtain rfl := Nat.succ.inj hleft
        obtain ⟨hnext, hne⟩ := (interpret_eq_ok_iff_of_opens hopen).1 hnext
        obtain ⟨hload, hi⟩ := (ih (not_mem_of_interpret hfile hnext hne)).1 hload
        exact ⟨.inr ⟨text, next, left, hcontent, rfl, hnext, hload⟩, hi⟩
    · rintro ⟨⟨hcontent, rfl⟩ | ⟨text, next, left', hcontent, hleft, hnext, hload⟩, hi⟩
      · exact .inl ⟨hcontent, rfl⟩
      · obtain rfl := Nat.succ.inj hleft
        -- What the interpreter led to was opened behind it, so it is not the file either.
        have hne : next.place ≠ place := by
          rintro rfl
          exact hi ((leadsTo_of_load hload).suffix_files.subset List.mem_cons_self)
        exact .inr ⟨text, next, left, hcontent, rfl,
          (interpret_eq_ok_iff_of_opens hopen).2 ⟨hnext, hne⟩,
          (ih (not_mem_of_interpret hfile hnext hne)).2 ⟨hload, hi⟩⟩

/-- **The same program is started with the same arguments, or none,** when a file is open for writing;
and none exactly if one of the files that are opened to start it is that file. -/
theorem start_eq_ok_iff_of_opens (hopen : m.files.Opens l p place files)
    (hpath : m.files.locate m.location path = .ok (.ofPlace q)) :
    ({ m with files } : Machine).start (some place) path.explicit args = .ok i ↔
      m.start none path.explicit args = .ok i ∧ place ∉ i.files := by
  by_cases hnul : ∃ arg ∈ args, Char.ofNat 0 ∈ arg
  · rw [start_of_nul hnul, start_of_nul hnul]
    simp
  have hargs : ∀ arg ∈ args, Char.ofNat 0 ∉ arg := fun arg harg h ↦ hnul ⟨arg, harg, h⟩
  rw [start_eq_ok_iff hargs hpath, start_eq_ok_iff (m := { m with files }) hargs
    (hopen.grows.locate hpath)]
  constructor
  · rintro ⟨content, hopened, hover, hload⟩
    obtain ⟨hopened, hq⟩ := (openToRun_eq_ok_iff_of_opens hopen).1 hopened
    obtain ⟨hload, hi⟩ := (load_eq_ok_iff_of_opens hopen (by simpa using hq.symm)).1 hload
    exact ⟨⟨content, hopened, hover, hload⟩, hi⟩
  · rintro ⟨⟨content, hopened, hover, hload⟩, hi⟩
    have hq : q ≠ place := by
      rintro rfl
      exact hi ((leadsTo_of_load hload).suffix_files.subset List.mem_cons_self)
    exact ⟨content, (openToRun_eq_ok_iff_of_opens hopen).2 ⟨hopened, hq⟩, hover,
      (load_eq_ok_iff_of_opens hopen (by simpa using hq.symm)).2 ⟨hload, hi⟩⟩

end LineShell.Machine

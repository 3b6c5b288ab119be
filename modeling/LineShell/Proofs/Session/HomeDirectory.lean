import LineShell.Proofs.Session.WorkingDir

/-!
# The home directory

A `~` at the beginning of what `cd` is given stands for the home directory, and what is put there is
the text of its path. A path that is UTF-8 is told by its text. So the shell reaches such a home
directory from everywhere, and whatever lies below it, with whatever characters and links on the way
(`cd_home_follows_text`).

## What a text cannot tell

A path that is not UTF-8 has the text of another path, which has U+FFFD where the former has no
character. The shell goes where that leads, if it leads anywhere, and otherwise says that nothing is
there. It does not reach the home directory (`not_forall_cd_home_reaches`).
-/

namespace LineShell.Shell

open FileSystem (textName textPlace)

variable {m : Machine} {home : Path} {t : Text}

/-- What a home directory is set to is what a command is told, unless that is nothing. -/
theorem home_surroundings (hhome : m.home = some home) (hne : home ≠ []) :
    m.surroundings.home = some home := by
  rw [Machine.surroundings, hhome, Option.filter_some, if_pos (by simpa using hne)]

/-- A `cd` to a `~` and what is behind it makes its move by the text of the home directory. -/
theorem runCd_home (hhome : m.home = some home) (hne : home ≠ []) (ht : Utf8.DecodesTo home t)
    (post : Text) :
    Builtin.runCd m.surroundings [cdName, '~' :: post]
      = Builtin.move m.surroundings (t ++ post) [.home] := by
  have harg : [cdName, '~' :: post][1]? = some ([] ++ '~' :: post) := rfl
  rw [Utf8.decodesTo_iff.1 ht, Builtin.runCd_of_tilde harg List.not_mem_nil
    (home_surroundings hhome hne), List.nil_append]

/-- A path is told by its text exactly if it is UTF-8. -/
theorem encode_eq_iff_of_decodesTo (ht : Utf8.DecodesTo home t) :
    Utf8.encode t = home ↔ ∃ u, Utf8.encode u = home := by
  refine ⟨fun h ↦ ⟨t, h⟩, ?_⟩
  rintro ⟨u, rfl⟩
  rw [Utf8.decodesTo_iff.1 ht, Utf8.decodeLossy_encode]

theorem execute_cd_home_of_enter {post : Text} {l : Location} (hhome : m.home = some home)
    (hne : home ≠ []) (ht : Utf8.DecodesTo home t)
    (henter : m.files.enter m.location (Utf8.encode (t ++ post)) = .ok l) :
    execute m [cdName, '~' :: post]
      = ⟨.ok .proceed, { m with location := l },
          [.event (.dispatching cdName (.builtin .cd)), .out []]⟩ :=
  execute_cd_of_enter (.inr rfl) (runCd_home hhome hne ht post) henter

/-- What an absolute path of text leads to is reached by that text from everywhere. -/
theorem enter_encode_of_root {l : Location} (ht : Utf8.encode t = home)
    (habsolute : home.IsAbsolute) (post : Text)
    (hpath : m.files.enter .root (home ++ Utf8.encode post) = .ok l) :
    m.files.enter m.location (Utf8.encode (t ++ post)) = .ok l := by
  have hall : Path.IsAbsolute (home ++ Utf8.encode post) := by
    obtain ⟨rest, rfl⟩ := List.head?_eq_some_iff.1 habsolute
    rfl
  rw [Utf8.encode_append, ht, FileSystem.enter_of_isAbsolute hall m.location .root, hpath]

/-- **A `~` leads where the text of the home directory leads.** From there the path goes on as it
was given. A `cd` to it moves to the directory that is reached without a word, or does nothing and
says that there is none. The text tells the home directory exactly if the path of that is UTF-8. If
it is, and is absolute, then `cd ~` leads from everywhere to the home directory, and so does a `cd`
to a path behind `~/` to what has that path below it. -/
theorem cd_home_follows_text (hhome : m.home = some home) (hne : home ≠ [])
    (ht : Utf8.DecodesTo home t) :
    let moved (l : Location) : Outcome Flow :=
      ⟨.ok .proceed, { m with location := l },
        [.event (.dispatching cdName (.builtin .cd)), .out []]⟩
    (∀ post,
      (∀ l, m.files.enter m.location (Utf8.encode (t ++ post)) = .ok l →
        execute m [cdName, '~' :: post] = moved l) ∧
      ∀ cause, m.files.enter m.location (Utf8.encode (t ++ post)) = .error cause →
        execute m [cdName, '~' :: post]
          = ⟨.ok .proceed, m, [.event (.dispatching cdName (.builtin .cd)), .out (Utf8.encode
              ("cd: ".toList ++ (t ++ post) ++ ": No such file or directory\n".toList))]⟩) ∧
      (Utf8.encode t = home ↔ ∃ u, Utf8.encode u = home) ∧
      ((∃ u, Utf8.encode u = home) → home.IsAbsolute →
        (∀ l, m.files.enter .root home = .ok l →
          runLine m "cd ~".toList = moved l ∧ runLine m "cd ~\n".toList = moved l) ∧
        ∀ r l, m.files.enter .root (home ++ slash :: Utf8.encode r) = .ok l →
          execute m [cdName, '~' :: '/' :: r] = moved l) := by
  intro moved
  have henters {post : Text} {l : Location} :
      m.files.enter m.location (Utf8.encode (t ++ post)) = .ok l →
        execute m [cdName, '~' :: post] = moved l :=
    execute_cd_home_of_enter hhome hne ht
  refine ⟨fun post ↦ ⟨fun l ↦ henters, fun cause henter ↦ ?_⟩, encode_eq_iff_of_decodesTo ht,
    fun htext habsolute ↦ ⟨fun l hl ↦ ?_, fun r l hl ↦ ?_⟩⟩
  · exact execute_cd_of_not_enter (.inr rfl) (runCd_home hhome hne ht post) henter
  · have hencode := (encode_eq_iff_of_decodesTo ht).2 htext
    rw [← List.append_nil home] at hl
    have hcd := henters (enter_encode_of_root hencode habsolute [] hl)
    have hwords : tokenize "cd ~".toList = [cdName, ['~']] := by decide
    have hline : tokenize "cd ~\n".toList = [cdName, ['~']] := by decide
    rw [runLine, runLine, hwords, hline]
    exact ⟨hcd, hcd⟩
  · have hencode := (encode_eq_iff_of_decodesTo ht).2 htext
    have hslash : Utf8.encode ('/' :: r) = slash :: Utf8.encode r := rfl
    rw [← hslash] at hl
    exact henters (enter_encode_of_root hencode habsolute ('/' :: r) hl)

/-- A machine whose home directory is behind a link with a blank, a `~` and an accent in its name, with
a directory below it that has a `~` in its name too. The shell stands in a directory that is gone. -/
def accented : Machine where
  files := ((FileSystem.empty.insert (textPlace ["d"]) (.directory 0o755)).insert
    (textPlace ["d", "r~"]) (.directory 0o755)).insert (textPlace ["h~ é"]) (.link (textName "d"))
  location := ⟨textPlace ["gone"], [0o755]⟩
  searchPath := none
  home := some (textName "/h~ é")
  behaviour _ := ⟨[], [], .exited 0⟩

/-- Both directories are reached. -/
theorem cd_home_accented :
    runLine accented "cd ~\n".toList
        = ⟨.ok .proceed, { accented with location := .ofPlace (textPlace ["d"]) },
            [.event (.dispatching cdName (.builtin .cd)), .out []]⟩ ∧
      execute accented [cdName, "~/r~".toList]
        = ⟨.ok .proceed, { accented with location := .ofPlace (textPlace ["d", "r~"]) },
            [.event (.dispatching cdName (.builtin .cd)), .out []]⟩ := by
  obtain ⟨-, -, hreach⟩ := cd_home_follows_text (m := accented) rfl (by decide)
    (Utf8.decodesTo_decodeLossy (textName "/h~ é"))
  obtain ⟨hhome, hbelow⟩ := hreach ⟨"/h~ é".toList, rfl⟩ rfl
  exact ⟨(hhome (.ofPlace (textPlace ["d"])) (by decide)).2,
    hbelow "r~".toList (.ofPlace (textPlace ["d", "r~"])) (by decide)⟩

/-- A machine whose home directory has a name of one byte that is no character. -/
def byteHome : Machine where
  files := FileSystem.empty.insert ([] ++ [[0xFF]]) (.directory 0o755)
  location := .root
  searchPath := none
  home := some [slash, 0xFF]
  behaviour _ := ⟨[], [], .exited 0⟩

theorem inDirectory_byteHome : byteHome.InDirectory where
  wellFormed := FileSystem.wellFormed_empty.insert (by decide) (by decide) (by decide) (by simp)
  whole := rfl
  directory := by decide

/-- That home directory is not reached. -/
theorem not_forall_cd_home_reaches :
    ¬ ∀ (m : Machine) (home : Path) (l : Location), m.InDirectory → m.home = some home →
      home ≠ [] → nul ∉ home → home.IsAbsolute → m.files.enter .root home = .ok l →
        runLine m "cd ~\n".toList
          = ⟨.ok .proceed, { m with location := l },
              [.event (.dispatching cdName (.builtin .cd)), .out []]⟩ := by
  intro h
  have hmoved := h byteHome [slash, 0xFF] (.ofPlace [[0xFF]]) inDirectory_byteHome rfl (by decide)
    (by decide) (by decide) (by decide)
  have hstays : (runLine byteHome "cd ~\n".toList).machine.location = .root := by decide
  rw [hmoved] at hstays
  exact absurd hstays (by decide)

end LineShell.Shell

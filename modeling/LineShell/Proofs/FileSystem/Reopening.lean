import LineShell.Proofs.FileSystem.Opening
import LineShell.Redirection

/-!
# Opening a file again

A file that has been opened, and then perhaps written to, can be opened again by the same path, and
all is as it was after the first time (`openToWrite_again`). If it had to be created, it is there
now, also at the end of links that led to nothing before; what had been written to it is gone at
once; and nothing else has happened to any place.

This is an equation between file systems and not only between what is seen of them, since a node put
at a place leaves no trace of the one before it. So whatever is done after the second opening goes
as it went after the first.
-/

namespace LineShell

namespace FileSystem

variable {fs fs' : FileSystem} {l : Location} {p : Path} {place : Place}

theorem append_insert {mode : Mode} (hp : place ≠ []) (old more : Bytes) :
    (fs.insert place (.file mode (.data old))).append place more
      = fs.insert place (.file mode (.data (old ++ more))) := by
  rw [append, node?_insert fs hp, if_pos rfl]
  exact insert_insert fs place _ _

/-- **A file is opened again as it was opened before,** whatever has been written to it. -/
theorem openToWrite_again (h : fs.openToWrite l p = .ok (.file place, fs')) (bytes : Bytes) :
    (fs'.append place bytes).openToWrite l p = .ok (.file place, fs') := by
  have hopens := opens_of_openToWrite h
  have hgrows : fs.Grows (fs'.append place bytes) :=
    hopens.grows.trans (hopens.filled_append bytes).grows
  obtain ⟨mode, hwrite, hne, rfl, hcase⟩ := openToWrite_file_cases h
  rw [append_insert hne, List.nil_append] at hgrows ⊢
  have hnode : (fs.insert place (.file mode (.data bytes))).node? place
      = some (.file mode (.data bytes)) := by
    rw [node?_insert fs hne, if_pos rfl]
  -- Wherever the first walk arrived, the second one arrives at the file.
  have harrive : (fs.insert place (.file mode (.data bytes))).arrive .create l p
      = .ok (.present (.ofPlace place)) := by
    rcases hcase with ⟨content, harrive, -⟩ | ⟨-, dir, n, rfl, harrive⟩
    · exact hgrows.arrive_present harrive
    · exact hgrows.arrive_absent harrive (by rw [hnode]; exact Option.some_ne_none _)
  have hat : (fs.insert place (.file mode (.data bytes))).nodeAt? (.ofPlace place)
      = some (.file mode (.data bytes)) := hnode
  rw [openToWrite, harrive]
  change openArrival _ _ = _
  rw [openArrival, hat]
  simp only [if_pos hwrite, Location.ofPlace, insert_insert]

theorem append_nil_of_openToWrite (h : fs.openToWrite l p = .ok (.file place, fs')) :
    fs'.append place [] = fs' := by
  obtain ⟨mode, -, hne, rfl, -⟩ := openToWrite_file_cases h
  exact append_insert hne [] []

end FileSystem

/-! ## Sinks -/

variable {fs files files' : FileSystem} {l : Location} {target : Option Text} {sink : Sink}

theorem Sink.write_opened_eq_ok {handle : Handle} {bytes shown : Bytes}
    (h : Sink.write files bytes (.opened handle) = .ok (files', shown)) :
    files.write handle bytes = .ok files' := by
  rw [Sink.write] at h
  rcases hwrite : files.write handle bytes with cause | after
  all_goals rw [hwrite] at h
  · exact absurd h (by simp [Except.map])
  · exact congrArg Except.ok (congrArg Prod.fst (Except.ok.inj h))

/-- What has been opened as a sink is opened as the same sink again, with the same files, when it
has been written to. -/
theorem openSink_again (h : openSink fs l target = .ok (sink, files))
    (hwritten : files' = files ∨ ∃ bytes shown, sink.write files bytes = .ok (files', shown)) :
    openSink files' l target = .ok (sink, files) := by
  rcases target with _ | t
  · obtain ⟨rfl, rfl⟩ := Prod.mk.inj (Except.ok.inj h)
    rcases hwritten with rfl | ⟨bytes, shown, hwrite⟩
    · rfl
    · obtain rfl : fs = files' := congrArg Prod.fst (Except.ok.inj hwrite)
      rfl
  · rw [openSink] at h ⊢
    rcases hopen : fs.openToWrite l (Utf8.encode t) with cause | ⟨handle, opened⟩
    all_goals rw [hopen] at h
    · exact absurd h (by simp)
    obtain ⟨rfl, rfl⟩ := Prod.mk.inj (Except.ok.inj h)
    suffices hagain : files'.openToWrite l (Utf8.encode t) = .ok (handle, opened) by rw [hagain]
    rcases handle with place | kind
    · rcases hwritten with rfl | ⟨bytes, shown, hwrite⟩
      · have hagain := FileSystem.openToWrite_again hopen []
        rwa [FileSystem.append_nil_of_openToWrite hopen] at hagain
      · rw [← Except.ok.inj (Sink.write_opened_eq_ok hwrite)]
        exact FileSystem.openToWrite_again hopen bytes
    · rw [← FileSystem.eq_of_openToWrite_device hopen] at hopen
      rcases hwritten with rfl | ⟨bytes, shown, hwrite⟩
      · exact hopen
      · rw [FileSystem.eq_of_write_device (Sink.write_opened_eq_ok hwrite)]
        exact hopen

end LineShell

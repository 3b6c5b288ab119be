import LineShell.Command
import LineShell.Proofs.Command.Dialogue
import LineShell.Proofs.Text.InvalidParts

/-!
# Changing the directory

A `cd` with an argument either asks to be moved or says why it does not. It asks for the home
directory only if the argument has a `~`, and where there is one the text of the home directory
stands in the target for the first `~`. All other characters stay as they are, those of the home
directory too. Where a `~` stands for nothing, nobody is asked to move, and otherwise the shell is
asked exactly once (`runCd_moves_or_tells`).

## Step by step

Whatever a `cd` writes, it writes last (`writesLast_cdDialogue`). So no writer changes what it asks,
and one without enough room takes the beginning of the message.
-/

namespace LineShell.Builtin

variable {s : Surroundings} {args : List Text} {x pre post : Text} {home : Path}

/-! ## Targets -/

theorem runCd_of_not_tilde (h : args[1]? = some x) (hx : '~' ∉ x) :
    runCd s args = move s x [] := by
  rw [runCd, h]
  exact if_neg hx

theorem runCd_of_no_home (h : args[1]? = some x) (hx : '~' ∈ x) (hhome : s.home = none) :
    runCd s args = ⟨cdFailure x, [.home]⟩ := by
  rw [runCd, h, hhome]
  exact if_pos hx

/-- The text of the home directory stands for the first `~`. -/
theorem runCd_of_tilde (h : args[1]? = some (pre ++ '~' :: post)) (hpre : '~' ∉ pre)
    (hhome : s.home = some home) :
    runCd s args = move s (pre ++ Utf8.decodeLossy home ++ post) [.home] := by
  rw [runCd, h, hhome, ← expandTilde_append _ hpre]
  exact if_pos (by simp)

/-- A `cd` with an argument has a target to move to, or a `~` that stands for nothing. -/
theorem runCd_eq_move_or (s : Surroundings) (h : args[1]? = some x) :
    (∃ target, runCd s args = move s target (if '~' ∈ x then [.home] else []) ∧
        ¬ ('~' ∈ x ∧ s.home = none)) ∨
      runCd s args = ⟨cdFailure x, [.home]⟩ ∧ '~' ∈ x ∧ s.home = none := by
  by_cases hx : '~' ∈ x
  · rcases hhome : s.home with _ | home
    · exact .inr ⟨runCd_of_no_home h hx hhome, hx, rfl⟩
    · obtain ⟨pre, post, rfl, hpre⟩ := List.eq_append_cons_of_mem hx
      rw [if_pos hx]
      exact .inl ⟨_, runCd_of_tilde h hpre hhome, by simp⟩
  · rw [if_neg hx]
    exact .inl ⟨x, runCd_of_not_tilde h hx, fun hc ↦ hx hc.1⟩

/-- A `cd` does nothing, or tells that there is no home directory, or asks to be moved, having asked
for the home directory at most. -/
theorem runCd_cases (s : Surroundings) (args : List Text) :
    runCd s args = ⟨[], []⟩ ∨ (∃ arg, runCd s args = ⟨cdFailure arg, [.home]⟩) ∨
      ∃ target calls, (calls = [] ∨ calls = [.home]) ∧ runCd s args = move s target calls := by
  rcases h : args[1]? with _ | x
  · left
    rw [runCd, h]
  · right
    rcases runCd_eq_move_or s h with ⟨target, hrun, -⟩ | ⟨hrun, -⟩
    · exact .inr ⟨target, _, by split <;> simp, hrun⟩
    · exact .inl ⟨x, hrun⟩

/-! ## Moves -/

theorem cdFailure_ne_nil (target : Text) : cdFailure target ≠ [] := by
  have hstart : "cd: ".toList ++ target ≠ [] := List.append_ne_nil_of_left_ne_nil (by decide) target
  exact List.append_ne_nil_of_left_ne_nil hstart _

/-- A move is told of only where it fails. -/
theorem value_move_eq_nil_iff (s : Surroundings) (target : Text) (calls : List Call) :
    (move s target calls).value = [] ↔ s.canEnter (Utf8.encode target) = true := by
  rw [move]
  split
  · next h => exact iff_of_true rfl h
  · next h => exact iff_of_false (cdFailure_ne_nil target) h

theorem value_move_of_ne_nil {target : Text} {calls : List Call}
    (h : (move s target calls).value ≠ []) : (move s target calls).value = cdFailure target :=
  if_neg (mt (value_move_eq_nil_iff s target calls).2 h)

theorem movesOf_home (p : Prop) [Decidable p] : movesOf (if p then [.home] else []) = [] := by
  split <;> rfl

theorem movesOf_move {calls : List Call} (hcalls : movesOf calls = []) (s : Surroundings)
    (target : Text) : movesOf (move s target calls).calls = [Utf8.encode target] := by
  rw [movesOf, move, List.filterMap_append, ← movesOf, hcalls]
  rfl

theorem movesOf_runCd_of_not_tilde (h : args[1]? = some x) (hx : '~' ∉ x) :
    movesOf (runCd s args).calls = [Utf8.encode x] := by
  rw [runCd_of_not_tilde h hx]
  exact movesOf_move rfl s x

theorem movesOf_runCd_of_tilde {t : Text} (h : args[1]? = some (pre ++ '~' :: post))
    (hpre : '~' ∉ pre) (hhome : s.home = some home) (ht : Utf8.DecodesTo home t) :
    movesOf (runCd s args).calls = [Utf8.encode (pre ++ t ++ post)] := by
  rw [runCd_of_tilde h hpre hhome, Utf8.decodesTo_iff.1 ht]
  exact movesOf_move rfl s _

/-! ## Replies -/

/-- Nothing is asked for but the home directory, if there is a `~`, and then the move. -/
theorem calls_runCd (s : Surroundings) (h : args[1]? = some x) :
    (runCd s args).calls
      = (if '~' ∈ x then [.home] else []) ++ (movesOf (runCd s args).calls).map .move := by
  rcases runCd_eq_move_or s h with ⟨target, hrun, -⟩ | ⟨hrun, hx, -⟩
  · rw [hrun, movesOf_move (movesOf_home _)]
    rfl
  · rw [hrun, if_pos hx]
    rfl

theorem count_home_runCd (s : Surroundings) (h : args[1]? = some x) :
    (runCd s args).calls.count .home = if '~' ∈ x then 1 else 0 := by
  have hmoves : ((movesOf (runCd s args).calls).map Call.move).count .home = 0 :=
    List.count_eq_zero.2 (by simp)
  rw [calls_runCd s h, List.count_append, hmoves]
  split <;> rfl

theorem length_movesOf_runCd_le (s : Surroundings) (h : args[1]? = some x) :
    (movesOf (runCd s args).calls).length ≤ 1 := by
  rcases runCd_eq_move_or s h with ⟨target, hrun, -⟩ | ⟨hrun, -⟩
  · rw [hrun, movesOf_move (movesOf_home _)]
    exact Nat.le_refl 1
  · rw [hrun]
    exact Nat.zero_le 1

theorem movesOf_runCd_eq_nil_iff (s : Surroundings) (h : args[1]? = some x) :
    movesOf (runCd s args).calls = [] ↔ '~' ∈ x ∧ s.home = none := by
  rcases runCd_eq_move_or s h with ⟨target, hrun, hnot⟩ | ⟨hrun, hnone⟩
  · rw [hrun, movesOf_move (movesOf_home _)]
    exact iff_of_false (List.cons_ne_nil _ _) hnot
  · rw [hrun]
    exact iff_of_true rfl hnone

theorem value_runCd_eq_nil_iff (s : Surroundings) (h : args[1]? = some x) :
    (runCd s args).value = [] ↔ ∃ p ∈ movesOf (runCd s args).calls, s.canEnter p = true := by
  rcases runCd_eq_move_or s h with ⟨target, hrun, -⟩ | ⟨hrun, -⟩
  · rw [hrun, value_move_eq_nil_iff, movesOf_move (movesOf_home _)]
    simp
  · rw [hrun]
    exact iff_of_false (cdFailure_ne_nil x) (by simp [movesOf])

/-- What a `cd` tells of is the target of its move, or its argument if it made none. -/
theorem exists_target_of_value_ne_nil (h : args[1]? = some x) (hvalue : (runCd s args).value ≠ []) :
    ∃ t, (movesOf (runCd s args).calls = [] ∧ t = x ∨
        movesOf (runCd s args).calls = [Utf8.encode t]) ∧ (runCd s args).value = cdFailure t := by
  rcases runCd_eq_move_or s h with ⟨target, hrun, -⟩ | ⟨hrun, -⟩
  · rw [hrun] at hvalue ⊢
    exact ⟨target, .inr (movesOf_move (movesOf_home _) s target), value_move_of_ne_nil hvalue⟩
  · rw [hrun]
    exact ⟨x, .inl ⟨rfl, rfl⟩, rfl⟩

/-! ## Step by step -/

/-- Writes that one cannot move to a target, in three parts. -/
def cdFailureDialogue (target : Text) : Dialogue :=
  .write (Utf8.encode "cd: ".toList) <| .write (Utf8.encode target) <|
    .write (Utf8.encode ": No such file or directory\n".toList) .done

/-- Asks to be moved to a target, and writes if that was not done. -/
def moveDialogue (target : Text) : Dialogue :=
  .move (Utf8.encode target) fun moved ↦ if moved then .done else cdFailureDialogue target

/-- What `cd` does, step by step. -/
def cdDialogue (args : List Text) : Dialogue :=
  match args[1]? with
  | none => .done
  | some arg =>
    if '~' ∈ arg then
      .home fun
        | none => cdFailureDialogue arg
        | some home => moveDialogue (expandTilde (Utf8.decodeLossy home) arg)
    else moveDialogue arg

theorem writesLast_moveDialogue (target : Text) : (moveDialogue target).WritesLast
  | true => trivial
  | false => trivial

/-- A `cd` asks nothing once it has written. -/
theorem writesLast_cdDialogue (args : List Text) : (cdDialogue args).WritesLast := by
  rw [cdDialogue]
  split
  · exact trivial
  · next arg _ =>
    split
    · intro home
      cases home with
      | none => exact trivial
      | some home => exact writesLast_moveDialogue _
    · exact writesLast_moveDialogue arg

theorem hold_cdFailureDialogue (s : Surroundings) (target : Text) :
    (cdFailureDialogue target).hold s .unlimited
      = ⟨[], Utf8.encode (cdFailure target), none⟩ := by
  have hfailure : cdFailure target
      = "cd: ".toList ++ target ++ ": No such file or directory\n".toList := rfl
  rw [hfailure]
  simp [cdFailureDialogue]

theorem hold_moveDialogue (s : Surroundings) (target : Text) (calls : List Call) :
    (moveDialogue target).hold s .unlimited
      = ⟨[.move (Utf8.encode target)], Utf8.encode (move s target calls).value, none⟩ := by
  rw [moveDialogue, Dialogue.hold, move]
  by_cases h : s.canEnter (Utf8.encode target) = true
  · rw [if_pos h, if_pos h]
    rfl
  · rw [if_neg h, if_neg h, hold_cdFailureDialogue]

/-- Without a limit to what it writes, a `cd` comes to what its reply says. -/
theorem hold_cdDialogue (s : Surroundings) (args : List Text) :
    (cdDialogue args).hold s .unlimited
      = ⟨(runCd s args).calls, Utf8.encode (runCd s args).value, none⟩ := by
  rw [cdDialogue, runCd]
  rcases args[1]? with _ | arg
  · rfl
  · dsimp only
    by_cases hx : '~' ∈ arg
    · rw [if_pos hx, if_pos hx, Dialogue.hold]
      rcases s.home with _ | home
      · dsimp only
        rw [hold_cdFailureDialogue]
      · dsimp only
        rw [hold_moveDialogue s _ [.home]]
        rfl
    · rw [if_neg hx, if_neg hx]
      exact hold_moveDialogue s arg []

/-! ## The main statement -/

/-- **A `cd` with an argument moves or says why not.** The home directory is asked for once if the
argument has a `~`, and never otherwise. Then there is one move, unless there is a `~` and no home
directory. It goes to the argument, with the text of the home directory in place of the first `~`
and of no other. Nothing is written exactly if the move is made; otherwise one line is, about the
target of the move, or about the argument if there was none. A writer takes a beginning of that, as
much as it has room for, and the calls are the same for all writers. Without an argument nothing
happens. -/
theorem runCd_moves_or_tells (s : Surroundings) (args : List Text) :
    let r := runCd s args
    let moves := movesOf r.calls
    (args[1]? = none → r = ⟨[], []⟩) ∧
      (∀ x, args[1]? = some x →
        r.calls = (if '~' ∈ x then [.home] else []) ++ moves.map .move ∧
        r.calls.count .home = (if '~' ∈ x then 1 else 0) ∧
        moves.length ≤ 1 ∧ (moves = [] ↔ '~' ∈ x ∧ s.home = none) ∧
        ('~' ∉ x → moves = [Utf8.encode x]) ∧
        (∀ pre post home t, x = pre ++ '~' :: post → '~' ∉ pre → s.home = some home →
          Utf8.DecodesTo home t → moves = [Utf8.encode (pre ++ t ++ post)]) ∧
        (r.value = [] ↔ ∃ p ∈ moves, s.canEnter p = true) ∧
        (r.value ≠ [] → ∃ t, (moves = [] ∧ t = x ∨ moves = [Utf8.encode t]) ∧
          r.value = "cd: ".toList ++ t ++ ": No such file or directory\n".toList)) ∧
      ∀ w : Writer,
        let c := (cdDialogue args).hold s w
        c = ⟨r.calls, w.taken (Utf8.encode r.value), w.fault? (Utf8.encode r.value)⟩ ∧
          c.taken <+: Utf8.encode r.value := by
  intro r moves
  refine ⟨fun h ↦ ?_, fun x h ↦ ⟨calls_runCd s h, count_home_runCd s h, length_movesOf_runCd_le s h,
    movesOf_runCd_eq_nil_iff s h, movesOf_runCd_of_not_tilde h, fun pre post home t hx ↦ ?_,
    value_runCd_eq_nil_iff s h, exists_target_of_value_ne_nil h⟩, fun w ↦ ?_⟩
  · change runCd s args = _
    rw [runCd, h]
  · rw [hx] at h
    exact movesOf_runCd_of_tilde h
  · have hc := Dialogue.hold_eq (writesLast_cdDialogue args) s w
    rw [hold_cdDialogue] at hc
    intro c
    refine ⟨hc, ?_⟩
    have htaken : c.taken = w.taken (Utf8.encode r.value) := congrArg Course.taken hc
    rw [htaken]
    exact w.taken_prefix _

end LineShell.Builtin

import LineShell.Error
import LineShell.FileSystem.Write
import LineShell.Token
import LineShell.Text.Utf8

/-!
# Redirection of output

One redirection of standard output is honoured in a line: the first operator and the word behind it
are taken out of the words, wherever they stand, and what remains are the arguments of the command.
An operator that is the last word redirects nothing and is an argument itself.

The target is opened before anything is known of the command, so that it exists, and is empty, even
if the command turns out not to.
-/

namespace LineShell

/-! ## Taking the redirection out -/

/-- The words that redirect standard output. -/
def IsOperator (w : Text) : Prop := w = ['>'] ∨ w = ['1', '>']

instance (w : Text) : Decidable (IsOperator w) := inferInstanceAs (Decidable (_ ∨ _))

/-- A member of a list and the list without it, if there are so many members. -/
def takeOut? {α : Type} (l : List α) (i : Nat) : Option (α × List α) :=
  l[i]?.map fun a ↦ (a, l.eraseIdx i)

theorem takeOut?_append {α : Type} (pre : List α) (a : α) (post : List α) :
    takeOut? (pre ++ a :: post) pre.length = some (a, pre ++ post) := by
  simp [takeOut?, List.eraseIdx_append_of_length_le]

/-- The arguments among some words, and the target of their redirection if they have one. -/
def splitRedirection (words : List Text) : Except Halt (List Text × Option Text) :=
  match words.findIdx? fun w ↦ IsOperator w with
  | none => .ok (words, none)
  | some i =>
    if words.length ≤ i + 1 then .ok (words, none)
    else match takeOut? words (i + 1) with
      | none => .error .outOfRange
      | some (target, rest) =>
        match takeOut? rest i with
        | none => .error .outOfRange
        | some (_, args) => .ok (args, some target)

theorem splitRedirection_of_forall_not {words : List Text} (h : ∀ w ∈ words, ¬ IsOperator w) :
    splitRedirection words = .ok (words, none) := by
  have hnone : (words.findIdx? fun w ↦ IsOperator w) = none := by
    simpa [List.findIdx?_eq_none_iff] using h
  rw [splitRedirection, hnone]

private theorem findIdx?_operator {pre post : List Text} {op : Text}
    (hpre : ∀ w ∈ pre, ¬ IsOperator w) (hop : IsOperator op) :
    ((pre ++ op :: post).findIdx? fun w ↦ IsOperator w) = some pre.length := by
  have hnone : (pre.findIdx? fun w ↦ decide (IsOperator w)) = none := by
    simpa [List.findIdx?_eq_none_iff] using hpre
  rw [List.findIdx?_append, hnone]
  simp [List.findIdx?_cons, hop]

/-- The first operator takes the word behind it along. -/
theorem splitRedirection_append {pre post : List Text} {op target : Text}
    (hpre : ∀ w ∈ pre, ¬ IsOperator w) (hop : IsOperator op) :
    splitRedirection (pre ++ op :: target :: post) = .ok (pre ++ post, some target) := by
  have h₁ : takeOut? (pre ++ op :: target :: post) (pre.length + 1)
      = some (target, pre ++ op :: post) := by
    simpa using takeOut?_append (pre ++ [op]) target post
  rw [splitRedirection, findIdx?_operator hpre hop]
  simp [h₁, takeOut?_append]

theorem splitRedirection_append_singleton {pre : List Text} {op : Text}
    (hpre : ∀ w ∈ pre, ¬ IsOperator w) (hop : IsOperator op) :
    splitRedirection (pre ++ [op]) = .ok (pre ++ [op], none) := by
  rw [splitRedirection, findIdx?_operator hpre hop]
  simp

/-! ## Opening the target -/

/-- Where the output of a command goes. -/
inductive Sink where
  /-- To standard output. -/
  | stdout
  /-- To what has been opened. -/
  | opened (handle : Handle)
  deriving DecidableEq, Repr

/-- The place of the file that a sink writes to, if it does. -/
def Sink.place? : Sink → Option Place
  | .opened (.file p) => some p
  | _ => none

/-- Writes to a sink. What reaches standard output is returned, as nothing else shows it. -/
def Sink.write (fs : FileSystem) (bytes : Bytes) : Sink → Except Fault (FileSystem × Bytes)
  | .stdout => .ok (fs, bytes)
  | .opened handle => (fs.write handle bytes).map fun fs ↦ (fs, [])

/-- Writes to a sink several times, up to the first failure: the files afterwards, what reached
standard output, and the failure. -/
def Sink.writeAll (sink : Sink) : FileSystem → List Bytes → FileSystem × Bytes × Option Fault
  | fs, [] => (fs, [], none)
  | fs, bytes :: rest =>
    match sink.write fs bytes with
    | .error cause => (fs, [], some cause)
    | .ok (fs, shown) =>
      let (fs, more, fault) := sink.writeAll fs rest
      (fs, shown ++ more, fault)

/-- Opens a sink for somebody who stands at a location. -/
def openSink (fs : FileSystem) (l : Location) :
    Option Text → Except ShellError (Sink × FileSystem)
  | none => .ok (.stdout, fs)
  | some target =>
    match fs.openToWrite l (Utf8.encode target) with
    | .error cause => .error (.redirect target cause)
    | .ok (handle, fs) => .ok (.opened handle, fs)

end LineShell

import LineShell.LineSource
import LineShell.Text.Utf8

/-!
# Edited lines

Lines taken through a line editor. What an editor does is its own affair: asked for a line, it
answers with one that has been finished, without its end, or tells why there is none, and all that
has to be known of it is that it comes to an end (`LineEditor`). Every editor is a source of lines.
A finished line gets its newline back, a line that was given up counts as an empty one, and where
the editor's input ends, the lines end.

## An input that is no terminal

Nobody edits there, and no prompt is shown. An editor then takes its lines as they stand in its
input, each without its end, a newline with at most one carriage return before it
(`LineEditor.TakesLines`). A last line without an end is a line like the others, and keeps its
carriage return. What becomes of bytes that are no text, or of a backspace, is left to the editor.

`EditedLines` is such an editor, with its input as bytes. It takes a backspace for a character, and
has no line where bytes are no text.
-/

namespace LineShell

/-- The line that comes of an editor's answer. -/
def lineOfEditor : Except EditorFault Text → Except ShellError Text
  | .ok line => .ok (line ++ ['\n'])
  | .error .interrupted => .ok ['\n']
  | .error .endOfFile => .error .endOfInput
  | .error cause => .error (.editor cause)

/-- A line editor. -/
class LineEditor (ε : Type) where
  /-- The bytes of its input that it has not taken. -/
  unread : ε → Bytes
  /-- Asks for a line with a prompt: the line, or why there is none, and the editor afterwards. -/
  edit : Text → ε → Except EditorFault Text × ε
  /-- A line, finished or given up, takes something away from the input. -/
  length_unread_lt : ∀ {prompt : Text} {e : ε} {line : Text},
    lineOfEditor (edit prompt e).1 = .ok line →
      (unread (edit prompt e).2).length < (unread e).length

namespace LineEditor

/-- Every editor is a source of lines. What it shows as a prompt, it shows to whoever edits. -/
instance {ε : Type} [LineEditor ε] : LineSource ε where
  readLine prompt e := ⟨[], lineOfEditor (edit prompt e).1, (edit prompt e).2⟩
  size e := (unread e).length
  size_lt := length_unread_lt

/-- The byte that may stand before the newline at the end of a line. -/
def carriageReturn : UInt8 := 13

/-- The byte that an editor may take for the wish to delete. -/
def backspace : UInt8 := 8

/-- A line without its end. -/
def withoutEnd (line : Bytes) : Bytes :=
  if line.getLast? = some newline then
    let body := line.dropLast
    if body.getLast? = some carriageReturn then body.dropLast else body
  else line

/-- Whether an editor takes lines as they stand in its input, as long as they are text and nothing
in them is to be deleted, and then reports the end of the input. -/
structure TakesLines (ε : Type) [LineEditor ε] : Prop where
  /-- Where nothing is left, the input has ended. -/
  edit_of_eq_nil : ∀ (prompt : Text) {e : ε}, unread e = [] →
    (edit prompt e).1 = .error .endOfFile
  /-- Where something is left, the next line is taken, without its end. -/
  edit_of_ne_nil : ∀ (prompt : Text) {e : ε} {line : Text}, unread e ≠ [] →
    Utf8.decode? (withoutEnd (cutLine (unread e)).1) = some line →
    backspace ∉ (cutLine (unread e)).1 →
    (edit prompt e).1 = .ok line ∧ unread (edit prompt e).2 = (cutLine (unread e)).2

end LineEditor

/-- A line editor whose input is no terminal. -/
structure EditedLines where
  /-- The bytes still to be read. -/
  input : Bytes
  deriving DecidableEq, Repr

namespace EditedLines

open LineEditor (withoutEnd)

/-- The fault of a line that is not UTF-8. -/
def notText : EditorFault := .input (.other "stream did not contain valid UTF-8".toList)

/-- Takes a line. -/
def edit (s : EditedLines) : Except EditorFault Text × EditedLines :=
  let rest : EditedLines := ⟨(cutLine s.input).2⟩
  if s.input = [] then (.error .endOfFile, rest)
  else match Utf8.decode? (withoutEnd (cutLine s.input).1) with
    | none => (.error notText, rest)
    | some line => (.ok line, rest)

theorem edit_snd (s : EditedLines) : (edit s).2 = ⟨(cutLine s.input).2⟩ := by
  rw [edit]
  split
  · rfl
  · split <;> rfl

theorem edit_fst_of_eq_nil {s : EditedLines} (h : s.input = []) :
    (edit s).1 = .error .endOfFile := by
  rw [edit, if_pos h]

theorem edit_fst_of_ne_nil {s : EditedLines} {line : Text} (h : s.input ≠ [])
    (hline : Utf8.decode? (withoutEnd (cutLine s.input).1) = some line) :
    (edit s).1 = .ok line := by
  rw [edit, if_neg h, hline]

instance : LineEditor EditedLines where
  unread := input
  edit _ := edit
  length_unread_lt := by
    intro _ s line h
    rw [edit_snd]
    apply length_cutLine_snd_lt
    intro hnil
    rw [edit_fst_of_eq_nil hnil] at h
    exact absurd h (by simp [lineOfEditor])

theorem takesLines : LineEditor.TakesLines EditedLines where
  edit_of_eq_nil _ _ h := edit_fst_of_eq_nil h
  edit_of_ne_nil _ s _ h hline _ := ⟨edit_fst_of_ne_nil h hline, congrArg input (edit_snd s)⟩

end EditedLines

end LineShell

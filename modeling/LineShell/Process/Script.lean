import LineShell.Path

/-!
# Scripts

A file that is run need not be a program. If it is a text that begins with `#!`, its first line names
the program that is to interpret it, and may hold one argument for that program, which is all that
stands behind the name. Only the beginning of a text is looked at. An argument that does not end
there is cut off, but a name that may go on is none.
-/

namespace LineShell

/-- Who interprets a script, as its first line says. -/
structure Interpreter where
  /-- The path of the program. -/
  path : Path
  /-- An argument for it, in front of the path of the script. -/
  argument? : Option Bytes
  deriving DecidableEq, Repr

/-- What an interpreter is called with for a script that was called by a path with some arguments.
The path takes the place of the first of them. -/
def Interpreter.arguments (i : Interpreter) (script : Path) (args : List Bytes) : List Bytes :=
  i.path :: i.argument?.toList ++ script :: args.tail

namespace Script

/-- The number of bytes of a text in which its interpreter is looked for. -/
def headLimit : Nat := 256

/-- Whether a byte separates a name from its argument. -/
def isBlank (b : UInt8) : Bool := b = 0x20 ∨ b = 0x09

/-- Bytes without the blanks at both their ends. -/
def trim (bs : Bytes) : Bytes := ((bs.dropWhile isBlank).reverse.dropWhile isBlank).reverse

/-- The interpreter that a text names in its first line, if it does. -/
def interpreter? (text : Bytes) : Option Interpreter :=
  match text.take headLimit with
  | 0x23 :: 0x21 :: head =>
    let line := head.takeWhile fun b ↦ b ≠ newline ∧ b ≠ nul
    let named := line.dropWhile isBlank
    let path := named.takeWhile fun b ↦ ¬ isBlank b
    if path = [] then none
    -- The line has no end here, and neither has the name.
    else if line.length = headLimit - 2 ∧ path = named then none
    else
      -- Of a line without an end the last byte is lost.
      let kept := (line.take (headLimit - 3)).dropWhile isBlank
      let argument := trim (kept.dropWhile fun b ↦ ¬ isBlank b)
      some ⟨path, if argument = [] then none else some argument⟩
  | _ => none

end Script

end LineShell

/-!
# Text and bytes

Two kinds of strings meet in a command shell. *Text* is what a line is made of once it has been
read: a list of characters. *Bytes* are what the outside is made of: input, file contents, the
names of files and the values of variables, none of which need to be UTF-8.

Both are plain lists. Every rule of the shell is about a first separator, a leading part or what
stands next in a line, and lists say that directly, with the library's lemmas at hand; no rule ever
needs random access.
-/

namespace LineShell

/-- Decoded text: a list of characters. -/
abbrev Text := List Char

/-- Raw bytes, of which nothing is assumed. -/
abbrev Bytes := List UInt8

/-! ## Joining words -/

/-- The words one after the other, with one space between neighbours. -/
def unwords (ws : List Text) : Text := [' '].intercalate ws

@[simp] theorem unwords_nil : unwords [] = [] := rfl

@[simp] theorem unwords_singleton (w : Text) : unwords [w] = w := by
  simp [unwords, List.intercalate]

@[simp] theorem unwords_cons_cons (w v : Text) (rest : List Text) :
    unwords (w :: v :: rest) = w ++ ' ' :: unwords (v :: rest) := by
  simp [unwords, List.intercalate]

/-! ## Classes of characters -/

/-- Whether the number of a character lies in one of some ranges, both ends included. -/
def liesIn (ranges : List (Nat × Nat)) (c : Char) : Bool :=
  ranges.any fun r ↦ r.1 ≤ c.toNat && c.toNat ≤ r.2

/-! ## The newline byte -/

/-- The byte that ends a line. -/
def newline : UInt8 := 10

end LineShell

import LineShell.Text.Blank
import LineShell.Text.Letter
import LineShell.Text.Pattern.Flags
import LineShell.Text.Pattern.Height

/-!
# The reader of patterns

A machine that reads a text once, from left to right, and stops at the first character that cannot
stand where it stands. It knows what it is in the middle of (`Mode`, `Spot`), the groups and classes
that are open, and the flags where it stands. With each character it is shown the text behind it,
because a few characters mean something else by what follows them: a dash in a class, a bracket in
front of a colon, an operator of classes, and a question mark behind a repetition.

Under the flag `x` blanks and comments are skipped wherever something new may begin, and between the
digits of a number, but not within names, flags and operators, nor behind a backslash.
-/

namespace LineShell.Pattern

/-! ## Where the reader stands -/

/-- Where the reader stands in the innermost open class. -/
inductive Spot where
  /-- Behind the bracket. -/
  | opening
  /-- Behind the bracket and `^`. -/
  | negated
  /-- Behind dashes that the class begins with. -/
  | dashes
  /-- Where a new item begins. -/
  | fresh
  /-- Behind an item, and behind which character if it is one. -/
  | item (start : Option Char)
  /-- Behind a character and a dash. -/
  | range (low : Char)
  deriving DecidableEq, Repr

/-- What the reader is in the middle of. -/
inductive Mode where
  /-- Nothing. -/
  | next
  /-- What it has read ahead; so many characters are left of it behind the next one. -/
  | ahead (more : Nat)
  /-- An escape, of which the backslash has been read. -/
  | escape
  /-- The number of a character: its digits in all and those to come, and its value so far. -/
  | number (size more value : Nat)
  /-- A group, of which the parenthesis has been read. -/
  | group
  /-- A group, of which the parenthesis and a question mark have been read. -/
  | special
  /-- The name of a group, before the angle bracket. -/
  | angle
  /-- The name of a group, of which this has been read. -/
  | name (read : Text)
  /-- The flags of a group, of which this has been read. -/
  | flags (read : Text)
  deriving DecidableEq, Repr

/-- Whether blanks and comments are skipped, if they are. -/
def Mode.skipsBlanks : Mode → Bool
  | .next | .number .. | .group => true
  | _ => false

/-- The reader. -/
structure Reader where
  /-- What it is in the middle of. -/
  mode : Mode
  /-- Whether it is in a comment. -/
  inComment : Bool
  /-- The flags where it stands. -/
  flags : Flags
  /-- The innermost open group, or the whole pattern. -/
  group : Group
  /-- The groups around that one, each with its flags, the innermost first. -/
  around : List (Group × Flags)
  /-- The names of groups so far. -/
  names : List Text
  /-- The open classes, the innermost first. -/
  classes : List Bracket
  /-- Where it stands in the innermost of them. -/
  spot : Spot
  deriving DecidableEq, Repr

namespace Reader

/-- The reader at the start. -/
def initial : Reader := ⟨.next, false, .initial, .empty, [], [], [], .opening⟩

/-- Whether a pattern can end here. -/
def IsComplete (r : Reader) : Prop := r.mode = .next ∧ r.around = [] ∧ r.classes = []

instance (r : Reader) : Decidable r.IsComplete := inferInstanceAs (Decidable (_ ∧ _))

/-! ## Items -/

/-- Reads something that stands for characters, and for which one if it stands for one. Behind a
character and a dash it ends a range. -/
def item? (r : Reader) (c : Option Char) : Option Reader :=
  match r.classes, r.spot, c with
  | [], _, _ => some { r with mode := .next, group := r.group.append 0 }
  | _, .range low, some high =>
    if low.toNat ≤ high.toNat then some { r with mode := .next, spot := .fresh } else none
  | _, .range _, none => none
  | b :: outer, _, _ =>
    some { r with mode := .next, classes := b.append 0 :: outer, spot := .item c }

/-- Reads a character that stands for itself. A class of ASCII has no others. -/
def literal? (r : Reader) (c : Char) : Option Reader :=
  if r.flags.NeedCases then none
  else if r.classes ≠ [] ∧ ¬ r.flags.unicode ∧ 0x80 ≤ c.toNat then none
  else r.item? (some c)

/-- Reads something that stands for no character; a class has no such items. -/
def anchor? (r : Reader) : Option Reader :=
  if r.classes = [] then some { r with mode := .next, group := r.group.append 0 } else none

/-! ## Escapes -/

/-- The control characters by letter. -/
def controls : List (Char × Nat) :=
  [('a', 0x07), ('f', 0x0C), ('n', 0x0A), ('r', 0x0D), ('t', 0x09), ('v', 0x0B)]

/-- How many digits follow the letter of a number. -/
def digits : List (Char × Nat) := [('x', 2), ('u', 4), ('U', 8)]

/-- Reads the character behind a backslash. A sign stands for itself, other than an angle bracket,
which is a border of words. -/
def escaped? (r : Reader) (c : Char) : Option Reader :=
  match digits.lookup c, controls.lookup c with
  | some size, _ => some { r with mode := .number size size 0 }
  | none, some code => r.literal? (Char.ofNat code)
  | none, none =>
    if c = 'A' ∨ c = 'z' then r.anchor?
    else if c = 'd' ∨ c = 's' ∨ c = 'w' then
      if r.flags.unicode then none else r.item? none
    else if c = 'b' ∨ c = 'B' ∨ c = '<' ∨ c = '>' then
      if r.flags.unicode then none else r.anchor?
    else if c.isAlphanum ∨ 0x80 ≤ c.toNat then none
    else r.literal? c

/-- The value of a hexadecimal digit. -/
def hexDigit? (c : Char) : Option Nat :=
  if c.isDigit then some (c.toNat - '0'.toNat)
  else if 'a'.toNat ≤ c.toNat ∧ c.toNat ≤ 'f'.toNat then some (c.toNat - 'a'.toNat + 10)
  else if 'A'.toNat ≤ c.toNat ∧ c.toNat ≤ 'F'.toNat then some (c.toNat - 'A'.toNat + 10)
  else none

/-- Reads a digit of the number of a character. Without the flag `u` a number of two digits is a
byte, and bytes above those of ASCII are no characters. -/
def digit? (r : Reader) (size more value : Nat) (c : Char) : Option Reader := do
  let value := 16 * value + (← hexDigit? c)
  if 1 < more then some { r with mode := .number size (more - 1) value }
  else if value.isValidChar ∧ (r.flags.unicode ∨ size ≠ 2 ∨ value < 0x80) then
    r.literal? (Char.ofNat value)
  else none

/-! ## Groups -/

/-- Goes into a group with some flags. -/
def enter (r : Reader) (flags : Flags) : Reader :=
  { r with mode := .next, flags, group := .empty, around := (r.group, r.flags) :: r.around }

/-- Goes out of a group. -/
def leave? (r : Reader) : Option Reader :=
  match r.around with
  | [] => none
  | (group, flags) :: around =>
    some { r with flags, group := group.append (r.group.height + 1), around }

/-- Whether a character can continue the name of a group. -/
def continuesName (read : Text) (c : Char) : Bool :=
  if read = [] then c = '_' || isLetter c
  else c = '_' || c = '.' || c = '[' || c = ']' || isAlphanumeric c

/-- Reads a character of the name of a group. No name is given twice. -/
def named? (r : Reader) (read : Text) (c : Char) : Option Reader :=
  if c = '>' then
    if read = [] ∨ read ∈ r.names then none
    else some { r.enter r.flags with names := read :: r.names }
  else if continuesName read c then some { r with mode := .name (read ++ [c]) }
  else none

/-- Reads a character of the flags of a group. A dash is followed by a letter, and nothing stands
there twice. -/
def flagged? (r : Reader) (read : Text) (c : Char) : Option Reader :=
  if c = ':' ∨ c = ')' then
    if read.getLast? = some '-' then none
    else if c = ':' then some (r.enter (r.flags.change read))
    else if read = [] then none
    else some { r with mode := .next, flags := r.flags.change read, group := r.group.appendFlags }
  else if c ∉ read ∧ (c = '-' ∨ c ∈ Flags.letters) then
    some { r with mode := .flags (read ++ [c]) }
  else none

/-! ## Outside of classes -/

/-- Goes into a class. -/
def openClass (r : Reader) : Reader := { r with classes := .empty :: r.classes, spot := .opening }

/-- Repeats what was read last. A question mark right behind a repetition belongs to it. -/
def repeat? (r : Reader) (rest : Text) : Option Reader :=
  r.group.repeatLast?.map fun group ↦
    { r with group, mode := if rest.head? = some '?' then .ahead 0 else .next }

/-- Reads a character outside of all classes. -/
def outside? (r : Reader) (c : Char) (rest : Text) : Option Reader :=
  match c with
  | '\\' => some { r with mode := .escape }
  | '[' => some r.openClass
  | '(' => some { r with mode := .group }
  | ')' => r.leave?
  | '*' | '+' | '?' => r.repeat? rest
  | '|' => some { r with group := r.group.divide }
  | '^' | '$' => r.anchor?
  | '.' => if r.flags.unicode then r.item? none else none
  | '\x7b' => none
  | c => r.literal? c

/-! ## Inside of classes -/

/-- The names of classes of ASCII. -/
def asciiClasses : List Text :=
  ["alnum", "alpha", "ascii", "blank", "cntrl", "digit", "graph", "lower", "print", "punct",
    "space", "upper", "word", "xdigit"].map String.toList

/-- Reads ahead behind a bracket: whether the name of a class follows between colons, whether it is
negated, and how many characters it takes. -/
def asciiClass? : Text → Option (Bool × Nat)
  | ':' :: t =>
    let negated := t.head? = some '^'
    let t := if negated then t.tail else t
    let name := t.takeWhile (· ≠ ':')
    if name ∈ asciiClasses ∧ [':', ']'] <+: t.drop name.length then
      some (negated, name.length + if negated then 4 else 3)
    else none
  | _ => none

/-- What the reader sees behind a dash, to know what the dash is. Of blanks and comments it skips
only the blanks and one `#`, unless there is nothing else. -/
def glance (verbose : Bool) (rest : Text) : Option Char :=
  if verbose then
    let seen := match rest.dropWhile isBlankChar with
      | '#' :: comment => comment.dropWhile isBlankChar
      | other => other
    seen.head?.or rest.head?
  else rest.head?

/-- Goes out of a class. -/
def closeClass (r : Reader) : Reader :=
  match r.classes with
  | [] => r
  | [b] => { r with group := r.group.append b.height, classes := [] }
  | b :: c :: outer => { r with classes := c.append b.height :: outer, spot := .fresh }

/-- Reads an operator that combines what stands before it in a class with what stands behind. -/
def combine (r : Reader) : Reader :=
  match r.classes with
  | [] => r
  | b :: outer => { r with mode := .ahead 0, classes := b.combine :: outer, spot := .fresh }

/-- Reads the start of an item of a class, or the end of the class. Doubled, `&`, `-` and `~` are
operators. -/
def begin? (r : Reader) (c : Char) (rest : Text) : Option Reader :=
  match c with
  | ']' => some r.closeClass
  | '\\' => some { r with mode := .escape }
  | '[' =>
    match asciiClass? rest with
    | none => some r.openClass
    | some (negated, length) =>
      if r.flags.NeedCases ∨ (negated ∧ ¬ r.flags.unicode) then none
      else (r.item? none).map fun r ↦ { r with mode := .ahead (length - 1), spot := .fresh }
  | '&' | '-' | '~' => if rest.head? = some c then some r.combine else r.literal? c
  | c => r.literal? c

/-- Reads a character of a class. The first may be a closing bracket that stands for itself, and
dashes stand for themselves at either end. -/
def inside? (r : Reader) (c : Char) (rest : Text) : Option Reader :=
  match r.spot, c with
  | .opening, '^' => if r.flags.unicode then some { r with spot := .negated } else none
  | .opening, '-' | .negated, '-' | .dashes, '-' =>
    (r.literal? c).map fun r ↦ { r with spot := .dashes }
  | .opening, ']' | .negated, ']' => (r.literal? c).map fun r ↦ { r with spot := .fresh }
  | .item start, '-' =>
    if glance r.flags.verbose rest ∈ [some ']', some '-'] then r.begin? c rest
    else start.map fun low ↦ { r with spot := .range low }
  | .range _, '\\' => some { r with mode := .escape }
  | .range _, c => r.literal? c
  | _, c => r.begin? c rest

/-! ## Steps -/

/-- Reads a character where anything can come. -/
def next? (r : Reader) (c : Char) (rest : Text) : Option Reader :=
  if r.classes = [] then r.outside? c rest else r.inside? c rest

/-- Whether a character is skipped or begins a comment. -/
def Skips (r : Reader) (c : Char) : Prop :=
  r.flags.verbose ∧ r.mode.skipsBlanks ∧ (isBlankChar c ∨ c = '#')

instance (r : Reader) (c : Char) : Decidable (r.Skips c) := inferInstanceAs (Decidable (_ ∧ _))

/-- Reads a character, in front of the rest of the text. -/
def step? (r : Reader) (c : Char) (rest : Text) : Option Reader :=
  if r.inComment then some { r with inComment := c ≠ '\n' }
  else if r.Skips c then some { r with inComment := c = '#' }
  else match r.mode with
    | .next => r.next? c rest
    | .ahead 0 => some { r with mode := .next }
    | .ahead (more + 1) => some { r with mode := .ahead more }
    | .escape => r.escaped? c
    | .number size more value => r.digit? size more value c
    | .group =>
      if c = '?' then some { r with mode := .special } else (r.enter r.flags).next? c rest
    | .special =>
      match c with
      | 'P' => some { r with mode := .angle }
      | '<' => some { r with mode := .name [] }
      | c => r.flagged? [] c
    | .angle => if c = '<' then some { r with mode := .name [] } else none
    | .name read => r.named? read c
    | .flags read => r.flagged? read c

/-- Reads a text. -/
def read? : Reader → Text → Option Reader
  | r, [] => some r
  | r, c :: rest => (r.step? c rest).bind (read? · rest)

end Reader

end LineShell.Pattern

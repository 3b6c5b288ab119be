import LineShell.Token

/-!
# The grammar of lines

What lines are made of, said without reading them: a line is a list of *items*, each of which is
complete in itself, and an *ending*, which is whatever the end of the line leaves incomplete. Items
and endings have a text (`render`) and a meaning (`marks`).

The main statement is `Line.tokenize_render`: the words of a line are formed from the marks of its
parts. That is what the rules of quoting come to, because a part means the same wherever it stands.

## What keeps parts apart

Some parts would, one after the other, have the text of other parts: a bare quote begins a segment,
and in double quotes a backslash that stands for itself makes an escape out of some characters
behind it. `Valid` excludes these, at each level.
-/

namespace LineShell.Token

/-! ## Between double quotes -/

/-- A part of what stands between double quotes. -/
inductive Inner where
  /-- A character that stands for itself, or a newline, which stands for nothing. -/
  | char (c : Char)
  /-- A backslash and the character that it protects. -/
  | escaped (c : Char)
  /-- A backslash that stands for itself. -/
  | backslash
  deriving DecidableEq, Repr

namespace Inner

/-- The text of a part. -/
def render : Inner → Text
  | .char c => [c]
  | .escaped c => ['\\', c]
  | .backslash => ['\\']

/-- The marks that a part leaves. -/
def marks : Inner → List Mark
  | .char c => if c = '\n' then [] else [some c]
  | .escaped c => [some c]
  | .backslash => [some '\\']

/-- Whether a part is a character that a backslash before it does not protect. -/
def IsUnprotected : Inner → Prop
  | .char c => ¬ IsEscapable c
  | _ => False

instance : DecidablePred IsUnprotected := fun i ↦ by
  cases i <;> unfold IsUnprotected <;> infer_instance

/-- Whether parts can stand one after the other. A backslash stands for itself only before a
character that it does not protect. -/
def Valid : List Inner → Prop
  | [] => True
  | .char c :: rest => c ≠ '"' ∧ c ≠ '\\' ∧ Valid rest
  | .escaped c :: rest => IsEscapable c ∧ Valid rest
  | .backslash :: rest => (∃ i ∈ rest.head?, i.IsUnprotected) ∧ Valid rest

/-- Parts mean the same before whatever follows them. -/
theorem marks_render_append {body : List Inner} (h : Valid body) (t : Text) :
    Token.marks .double (body.flatMap render ++ t)
      = body.flatMap marks ++ Token.marks .double t := by
  induction body with
  | nil => rfl
  | cons i rest ih =>
    rw [List.flatMap_cons, List.flatMap_cons, List.append_assoc, List.append_assoc]
    match i, h with
    | .char c, ⟨hd, hb, hrest⟩ =>
      rw [← ih hrest, render, marks, List.singleton_append, marks_double_cons hd hb]
      split <;> rfl
    | .escaped c, ⟨hc, hrest⟩ =>
      rw [← ih hrest]
      simp [render, marks, marks_double_backslash, hc]
    | .backslash, ⟨⟨i, hi, hun⟩, hrest⟩ =>
      obtain ⟨tail, rfl⟩ : ∃ tail, rest = i :: tail := List.head?_eq_some_iff.1 hi
      match i, hun with
      | .char c, hc =>
        have hc : ¬ IsEscapable c := hc
        rw [← ih hrest]
        simp [render, marks, marks_double_backslash, hc]

end Inner

/-! ## Items -/

/-- A complete part of a line. -/
inductive Item where
  /-- A separator outside of quotes. -/
  | separator (c : Char)
  /-- A character outside of quotes that stands for itself. -/
  | bare (c : Char)
  /-- A backslash outside of quotes and the character that it protects. -/
  | escaped (c : Char)
  /-- A segment in single quotes. -/
  | single (body : Text)
  /-- A segment in double quotes. -/
  | double (body : List Inner)
  deriving DecidableEq, Repr

/-- The marks of a segment in single quotes: its characters without the newlines. -/
def literal (body : Text) : List Mark := (body.filter (· ≠ '\n')).map some

/-- What stands between single quotes means the same before whatever follows it. -/
theorem literal_append {body : Text} (h : '\'' ∉ body) (t : Text) :
    marks .single (body ++ t) = literal body ++ marks .single t := by
  induction body with
  | nil => rfl
  | cons c body ih =>
    rw [List.mem_cons, not_or] at h
    rw [List.cons_append, marks_single_cons (Ne.symm h.1), ih h.2, literal, literal]
    by_cases hc : c = '\n' <;> simp [hc]

namespace Item

/-- The text of an item. -/
def render : Item → Text
  | .separator c | .bare c => [c]
  | .escaped c => ['\\', c]
  | .single body => '\'' :: body ++ ['\'']
  | .double body => '"' :: body.flatMap Inner.render ++ ['"']

/-- The marks that an item leaves. -/
def marks : Item → List Mark
  | .separator _ => [none]
  | .bare c | .escaped c => [some c]
  | .single body => literal body
  | .double body => body.flatMap Inner.marks

/-- Whether an item has a text that is read as this item. -/
def Valid : Item → Prop
  | .separator c => IsSeparator c
  | .bare c => ¬ IsSeparator c ∧ c ≠ '\'' ∧ c ≠ '"' ∧ c ≠ '\\'
  | .escaped _ => True
  | .single body => '\'' ∉ body
  | .double body => Inner.Valid body

/-- An item means the same before whatever follows it. -/
theorem marks_render_append {i : Item} (h : i.Valid) (t : Text) :
    Token.marks .plain (i.render ++ t) = i.marks ++ Token.marks .plain t := by
  match i, h with
  | .separator c, h =>
    have h : IsSeparator c := h
    rcases h with rfl | rfl <;> rfl
  | .bare c, ⟨hsep, hs, hd, hb⟩ =>
    rw [render, marks, List.singleton_append, marks_plain_cons hs hd hb, if_neg hsep]
    rfl
  | .escaped c, _ => rfl
  | .single body, h =>
    rw [render, marks, List.append_assoc]
    exact literal_append h _
  | .double body, h =>
    rw [render, marks, List.append_assoc]
    exact Inner.marks_render_append h _

/-- Items mean the same before whatever follows them. -/
theorem marks_flatMap_render_append {is : List Item} (h : ∀ i ∈ is, i.Valid) (t : Text) :
    Token.marks .plain (is.flatMap render ++ t) = is.flatMap marks ++ Token.marks .plain t := by
  induction is with
  | nil => rfl
  | cons i is ih =>
    rw [List.forall_mem_cons] at h
    rw [List.flatMap_cons, List.append_assoc, marks_render_append h.1, ih h.2, List.flatMap_cons,
      List.append_assoc]

end Item

/-! ## Endings -/

/-- What the end of a line leaves incomplete. -/
inductive Ending where
  /-- Nothing. -/
  | complete
  /-- A backslash with nothing behind it. -/
  | backslash
  /-- A segment in single quotes. -/
  | single (body : Text)
  /-- A segment in double quotes. -/
  | double (body : List Inner)
  /-- A segment in double quotes with a backslash that has nothing behind it. -/
  | doubleBackslash (body : List Inner)
  deriving DecidableEq, Repr

namespace Ending

/-- The text of an ending. -/
def render : Ending → Text
  | .complete => []
  | .backslash => ['\\']
  | .single body => '\'' :: body
  | .double body => '"' :: body.flatMap Inner.render
  | .doubleBackslash body => '"' :: body.flatMap Inner.render ++ ['\\']

/-- The marks that an ending leaves. A backslash with nothing behind it stands for itself. -/
def marks : Ending → List Mark
  | .complete => []
  | .backslash => [some '\\']
  | .single body => literal body
  | .double body => body.flatMap Inner.marks
  | .doubleBackslash body => body.flatMap Inner.marks ++ [some '\\']

/-- Whether an ending has a text that is read as this ending. -/
def Valid : Ending → Prop
  | .complete | .backslash => True
  | .single body => '\'' ∉ body
  | .double body | .doubleBackslash body => Inner.Valid body

theorem marks_render {e : Ending} (h : e.Valid) : Token.marks .plain e.render = e.marks := by
  match e, h with
  | .complete, _ => rfl
  | .backslash, _ => rfl
  | .single body, h => simpa [render, marks, Token.marks] using literal_append h []
  | .double body, h => simpa [render, marks, Token.marks] using Inner.marks_render_append h []
  | .doubleBackslash body, h => exact Inner.marks_render_append h ['\\']

end Ending

/-! ## Lines -/

/-- A line by its parts. -/
structure Line where
  /-- The complete parts, in order. -/
  items : List Item
  /-- What the end of the line leaves incomplete. -/
  ending : Ending
  deriving DecidableEq, Repr

namespace Line

/-- The text of a line. -/
def render (l : Line) : Text := l.items.flatMap Item.render ++ l.ending.render

/-- The marks that a line leaves. -/
def marks (l : Line) : List Mark := l.items.flatMap Item.marks ++ l.ending.marks

/-- Whether a line has a text that is read as this line. -/
def Valid (l : Line) : Prop := (∀ i ∈ l.items, i.Valid) ∧ l.ending.Valid

theorem marks_render {l : Line} (h : l.Valid) : Token.marks .plain l.render = l.marks := by
  rw [render, Item.marks_flatMap_render_append h.1, Ending.marks_render h.2, marks]

/-- **The words of a line are formed from the marks of its parts.** -/
theorem tokenize_render {l : Line} (h : l.Valid) : tokenize l.render = wordsOf l.marks := by
  rw [tokenize, marks_render h]

end Line

end LineShell.Token

import LineShell.Token.Grammar

/-!
# Spellings of words

How a word can be written in a line so that it is read as that very word, whatever its characters.
There are three ways: a backslash before each character, double quotes with a backslash before the
characters that keep a meaning in them, and single quotes, which are no help for a single quote or a
newline. Each way is a choice of items (`Spelling.items`), so what it comes to follows from the
grammar of lines: a spelled word is read as itself (`tokenize_spell`), and a separator ends it
(`tokenize_spell_append`).
-/

namespace LineShell.Token

/-- A way to write a word. -/
inductive Spelling where
  /-- With a backslash before each character. -/
  | escaped
  /-- Between double quotes. -/
  | double
  /-- Between single quotes. -/
  | single
  deriving DecidableEq, Repr

namespace Spelling

/-- A character as it is written between double quotes. -/
def inner (c : Char) : Inner := if IsEscapable c then .escaped c else .char c

/-- The items that a word is written with. -/
def items : Spelling → Text → List Item
  | .escaped, w => w.map .escaped
  | .double, w => [.double (w.map inner)]
  | .single, w => [.single w]

/-- A word as it is written. -/
def spell (s : Spelling) (w : Text) : Text := (s.items w).flatMap Item.render

/-- Whether a word can be written in a way. -/
def Allows : Spelling → Text → Prop
  | .single, w => '\'' ∉ w ∧ '\n' ∉ w
  | _, _ => True

instance (s : Spelling) (w : Text) : Decidable (s.Allows w) := by
  cases s <;> unfold Allows <;> infer_instance

/-! ## What is written is valid -/

theorem valid_map_inner (w : Text) : Inner.Valid (w.map inner) := by
  induction w with
  | nil => trivial
  | cons c w ih =>
    rw [List.map_cons, inner]
    split
    · next hc => exact ⟨hc, ih⟩
    · next hc =>
      exact ⟨fun h ↦ hc (by simp [IsEscapable, h]), fun h ↦ hc (by simp [IsEscapable, h]), ih⟩

theorem valid_of_mem_items {s : Spelling} {w : Text} (h : s.Allows w) :
    ∀ i ∈ s.items w, i.Valid := by
  match s, h with
  | .escaped, _ => simp [items, Item.Valid]
  | .double, _ => simpa [items, Item.Valid] using valid_map_inner w
  | .single, h => simpa [items, Item.Valid] using h.1

/-! ## What is written is read -/

theorem marks_inner (c : Char) : (inner c).marks = [some c] := by
  rw [inner]
  split
  · rfl
  · next hc =>
    have h : c ≠ '\n' := fun h ↦ hc (by simp [IsEscapable, h])
    simp [Inner.marks, h]

theorem marks_items {s : Spelling} {w : Text} (h : s.Allows w) :
    (s.items w).flatMap Item.marks = w.map some := by
  match s, h with
  | .escaped, _ => rw [items, List.flatMap_map, List.map_eq_flatMap]; rfl
  | .double, _ =>
    rw [items, List.flatMap_singleton, Item.marks, List.flatMap_map, List.map_eq_flatMap]
    simp only [marks_inner]
  | .single, h =>
    have hfilter : w.filter (· ≠ '\n') = w :=
      List.filter_eq_self.2 fun c hc ↦ by simpa using fun he : c = '\n' ↦ h.2 (he ▸ hc)
    rw [items, List.flatMap_singleton, Item.marks, literal, hfilter]

/-- A spelled word is itself before whatever follows it. -/
theorem marks_spell_append {s : Spelling} {w : Text} (h : s.Allows w) (t : Text) :
    marks .plain (s.spell w ++ t) = w.map some ++ marks .plain t := by
  rw [spell, Item.marks_flatMap_render_append (valid_of_mem_items h), marks_items h]

/-- A separator, outside of quotes, ends a spelled word. -/
theorem tokenize_spell_append {s : Spelling} {w : Text} (h : s.Allows w) (hw : w ≠ []) {c : Char}
    (hc : IsSeparator c) (t : Text) : tokenize (s.spell w ++ c :: t) = w :: tokenize t := by
  have hmark : marks .plain (c :: t) = none :: marks .plain t := by rcases hc with rfl | rfl <;> rfl
  rw [tokenize, marks_spell_append h, hmark, wordsOf_append_none, wordsOf_map_some, if_neg hw]
  rfl

/-- A spelled word is read as itself, and as nothing if it is empty. -/
theorem tokenize_spell {s : Spelling} {w : Text} (h : s.Allows w) :
    tokenize (s.spell w) = if w = [] then [] else [w] := by
  have hmarks := marks_spell_append h []
  rw [List.append_nil, marks, List.append_nil] at hmarks
  rw [tokenize, hmarks, wordsOf_map_some]

end Spelling

end LineShell.Token

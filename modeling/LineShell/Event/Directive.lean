import LineShell.Event
import LineShell.Text.Pattern

/-!
# Directives

A directive is a line of a log filter: it admits events down to some level. Its *target* says how
the target of these events begins, and its *scope* which of them it is for.

In text a directive has up to three parts, `target[scope]=level`, and none of them is needed. Levels
may be written in any case, or as numbers from 0 (nothing) to 5 (everything). Without a level
everything is admitted; and what stands alone is a level if it can be one, and a target if not. A
target begins with a letter, a number or one of `-`, `:` and `_`. A scope is the name of a span, or
a field between braces, or both; a field may have a value, which is a real number or a pattern.

Blanks around a directive do not count when its parts are looked for, but they do when the parts are
cut out. Hence a directive with a blank in front loses the last byte of each part and gets the one
before it, and one with a blank behind has it at the end of its last part.
-/

namespace LineShell

/-! ## Scopes -/

/-- Which events of its targets a directive is for. -/
inductive Scope where
  /-- All of them. -/
  | all
  /-- Those that carry something of a given name. -/
  | carrying (field : Text)
  /-- What happens inside certain spans. No event does: the program has no spans. -/
  | inSpans
  deriving DecidableEq, Repr

namespace Scope

/-- Whether an event is in a scope. -/
def Covers : Scope → Event → Prop
  | .all, _ => True
  | .carrying field, e => field ∈ e.fields
  | .inSpans, _ => False

instance : (s : Scope) → (e : Event) → Decidable (s.Covers e)
  | .all, _ => inferInstanceAs (Decidable True)
  | .carrying _, _ => inferInstanceAs (Decidable (_ ∈ _))
  | .inSpans, _ => inferInstanceAs (Decidable False)

/-- Whether a scope is at most as narrow as another. A scope with a field is narrower than one
without; fields are ordered by their bytes. -/
def atMost : Scope → Scope → Bool
  | .carrying a, .carrying b => Utf8.encode a ≤ Utf8.encode b
  | .carrying _, .all => false
  | _, _ => true

/-- Whether a text can be the value of a field. -/
def isValue (t : Text) : Bool := Decimal.isReal t || Pattern.isPattern t

/-- Reads what stands between braces: a field, or a field and a value with an equals sign between
them. A value is something that only spans are asked for. -/
def ofField? (t : Text) : Option Scope :=
  if t = [] then none
  else
    match t.splitOn '=' with
    | _ :: value :: _ => if isValue value then some .inSpans else none
    | _ => some (.carrying t)

end Scope

/-! ## Directives -/

/-- The events with a target that begins in some way, down to some level. -/
structure Directive where
  /-- How the target begins. -/
  target : Text
  /-- Which events of such a target are meant. -/
  scope : Scope
  /-- The greatest rank that is admitted; 0 admits nothing. -/
  rank : Nat
  deriving DecidableEq, Repr

namespace Directive

/-- Whether a directive is for an event. -/
def AppliesTo (d : Directive) (e : Event) : Prop := d.target <+: e.target ∧ d.scope.Covers e

instance (d : Directive) (e : Event) : Decidable (d.AppliesTo e) :=
  inferInstanceAs (Decidable (_ ∧ _))

/-- Whether a directive is at most as narrow as another: the longer target is the narrower one, and
of two with targets of one length the narrower scope decides. -/
def atMost (d e : Directive) : Bool :=
  d.target.length < e.target.length
    || (d.target.length = e.target.length && d.scope.atMost e.scope)

/-! ## Levels -/

/-- The levels by name; `off` admits nothing. -/
def levelNames : List (String × Nat) :=
  [("off", 0), ("error", 1), ("warn", 2), ("info", 3), ("debug", 4), ("trace", 5)]

/-- The rank that a text names, in any case. -/
def namedRank? (t : Text) : Option Nat :=
  (levelNames.find? fun l ↦ l.1.toList = t.map Char.toLower).map (·.2)

/-- The rank that a text has as a number, with or without a plus sign. -/
def numberedRank? (t : Text) : Option Nat :=
  (Decimal.unsigned? t).filter (· ≤ Level.trace.rank)

/-- Reads a rank. -/
def rank? (t : Text) : Option Nat := (numberedRank? t).or (namedRank? t)

/-- Reads the rank behind an equals sign, where nothing admits everything. -/
def rankOrAll? (t : Text) : Option Nat := if t = [] then some Level.trace.rank else rank? t

/-! ## Parts -/

/-- Whether a directive can begin with a character. -/
def startsDirective (c : Char) : Bool :=
  c = '[' || c = '-' || c = ':' || c = '_' || isAlphanumeric c

/-- Where the parts of a directive are, in bytes. -/
structure Outline where
  /-- Where the target ends. -/
  target : Nat
  /-- Whether a span is named. -/
  span : Bool
  /-- Where the field begins and ends. -/
  field : Option (Nat × Nat)
  /-- Where the level begins. -/
  level : Option Nat
  deriving DecidableEq, Repr

/-- Finds the level behind a scope. -/
def levelBehind? (position : Nat) : Text → Option (Option Nat)
  | [] => some none
  | '=' :: _ => some (some (position + 1))
  | _ => none

/-- Finds the parts of a directive behind its opening bracket. -/
def outlineOfScope? (target : Nat) (t : Text) : Option Outline :=
  let span := t.takeWhile fun c ↦ c ≠ ']' ∧ c ≠ '\x7b'
  let stop := target + 1 + Utf8.size span
  match t.drop span.length with
  | ']' :: rest => (levelBehind? (stop + 1) rest).map (⟨target, true, none, ·⟩)
  | '\x7b' :: inner =>
    let field := inner.takeWhile (· ≠ '\x7d')
    let last := stop + 1 + Utf8.size field
    match inner.drop field.length with
    | '\x7d' :: ']' :: rest =>
      (levelBehind? (last + 2) rest).map (⟨target, span ≠ [], some (stop + 1, last), ·⟩)
    | _ => none
  | _ => none

/-- Finds the parts of a directive that is not a level or target alone. -/
def outline? (t : Text) : Option Outline :=
  let head := t.takeWhile fun c ↦ c ≠ '=' ∧ c ≠ '['
  let stop := Utf8.size head
  match t.drop head.length with
  | '=' :: _ => some ⟨stop, false, none, some (stop + 1)⟩
  | '[' :: inner => outlineOfScope? stop inner
  | _ => none

/-- Cuts the parts of a directive out of a text. -/
def ofOutline? (o : Outline) (t : Text) : Option Directive := do
  let target ← Utf8.slice? t 0 o.target
  let field ← match o.field with
    | none => some .all
    | some (start, stop) => (Utf8.slice? t start stop).bind Scope.ofField?
  let rank ← match o.level with
    | none => some Level.trace.rank
    | some start => (Utf8.splitAtByte? start t).bind fun s ↦ rankOrAll? s.2
  return ⟨target, if o.span then .inSpans else field, rank⟩

/-- The directive of a text that is a level or a target. -/
def alone (t : Text) : Directive :=
  match rank? t with
  | some r => ⟨[], .all, r⟩
  | none => ⟨t, .all, Level.trace.rank⟩

/-- Reads a directive. -/
def ofText? (t : Text) : Option Directive :=
  let inner := trimBlank t
  if inner.head?.any startsDirective then
    if inner.all fun c ↦ c ≠ '=' ∧ c ≠ '[' then some (alone t)
    else (outline? inner).bind (ofOutline? · t)
  else none

end Directive

end LineShell

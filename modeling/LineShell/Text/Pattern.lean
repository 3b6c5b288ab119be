import LineShell.Text.Pattern.Reader

/-!
# Patterns

Which texts are regular expressions. Nothing is matched here: a text is a pattern if the reader gets
through it and leaves nothing open, and if what it has read is not too high.

A pattern is made of literals, `.`, the anchors `^`, `$`, `\\A` and `\\z`, classes in brackets,
groups in parentheses, the repetitions `*`, `+` and `?` behind something that can be repeated, and
alternatives with `|`. There are no counts in braces, no references and no look-around.

Three flags bear on what is a pattern. Under `x` blanks and comments count for nothing. Without `u`
a pattern is about ASCII only, so it has no class of *all other* characters. With `u` nothing is
admitted that would need a table of Unicode: no classes by letter such as `\\d`, no borders of
words, and under `i` no literals, in classes or outside.
-/

namespace LineShell.Pattern

/-- Whether a text is a pattern. -/
def isPattern (t : Text) : Bool :=
  (Reader.initial.read? t).any fun r ↦ r.IsComplete ∧ r.group.height ≤ heightLimit

end LineShell.Pattern

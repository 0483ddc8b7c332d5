import Turnstile.Ident.Error

/-!
# Identifier segments

Subjects and resources are named by *segments*: non-empty texts without a `/`,
so that a segment can sit between the slashes of a counter key. The invariant
is part of the type; `Segment.parse` is the only way in from text, and it
checks emptiness before the slash (`parse_eq_ok_iff`).
-/

namespace Turnstile

/-- A non-empty text without `/`. -/
structure Segment where
  text : String
  text_ne : text ≠ ""
  slash_not_mem : '/' ∉ text.toList

namespace Segment

instance : DecidableEq Segment := fun a b =>
  if h : a.text = b.text then isTrue (by cases a; cases b; simp_all)
  else isFalse (by intro e; exact h (congrArg Segment.text e))

/-- Checks a text: empty first, then a slash. -/
def parse (s : String) : Except CoreError Segment :=
  if h : s = "" then .error (.invalidIdentifier s .empty)
  else if h' : '/' ∈ s.toList then .error (.invalidIdentifier s .containsSlash)
  else .ok ⟨s, h, h'⟩

/-- A text is accepted exactly when it is non-empty and slash-free, and then it is kept as is. -/
theorem parse_eq_ok_iff (s : String) (g : Segment) :
    parse s = .ok g ↔ g.text = s := by
  unfold parse
  constructor
  · intro h
    split at h
    · cases h
    · split at h
      · cases h
      · cases h; rfl
  · intro h
    subst h
    simp [g.text_ne, g.slash_not_mem]

/-- Segments are ordered by their text. -/
instance : Ord Segment := ⟨fun a b => compare a.text b.text⟩

end Segment

end Turnstile

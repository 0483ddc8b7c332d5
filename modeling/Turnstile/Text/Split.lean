/-!
# Splitting text at a separator

`Text.splitOn sep s` cuts a character list at every occurrence of `sep`. The
pieces never contain the separator, there is always one more piece than
separators, and joining the pieces with the separator gives the input back
(`join_splitOn`).
-/

namespace Turnstile.Text

/-- The pieces of `s` between occurrences of `sep`, in order; empty pieces are kept. -/
def splitOn (sep : Char) : List Char → List (List Char)
  | [] => [[]]
  | c :: cs =>
    if c = sep then [] :: splitOn sep cs
    else
      match splitOn sep cs with
      | [] => [[c]]
      | w :: ws => (c :: w) :: ws

/-- The pieces joined with the separator between them. -/
def joinWith (sep : Char) : List (List Char) → List Char
  | [] => []
  | [w] => w
  | w :: ws => w ++ sep :: joinWith sep ws

/-- Splitting never yields an empty list of pieces. -/
theorem splitOn_ne_nil (sep : Char) (s : List Char) : splitOn sep s ≠ [] := by
  induction s with
  | nil => simp [splitOn]
  | cons c cs ih =>
    simp only [splitOn]
    split
    · simp
    · split <;> simp

/-- Joining the pieces with the separator gives the text back. -/
theorem join_splitOn (sep : Char) (s : List Char) : joinWith sep (splitOn sep s) = s := by
  induction s with
  | nil => rfl
  | cons c cs ih =>
    simp only [splitOn]
    split
    · rename_i h
      subst h
      cases hs : splitOn c cs with
      | nil => exact absurd hs (splitOn_ne_nil _ _)
      | cons w ws => rw [hs] at ih; simp [joinWith, ih]
    · cases hs : splitOn sep cs with
      | nil => exact absurd hs (splitOn_ne_nil _ _)
      | cons w ws =>
        rw [hs] at ih
        cases ws with
        | nil => simp_all [joinWith]
        | cons w' ws' => simp_all [joinWith]

/-- `lead` followed by the rest, when `s` starts with `lead`. -/
def dropLead? : List Char → List Char → Option (List Char)
  | [], s => some s
  | _ :: _, [] => none
  | a :: as, b :: bs => if a = b then dropLead? as bs else none

/-- Dropping a leading part succeeds exactly on texts that start with it. -/
theorem dropLead?_eq_some_iff (lead s rest : List Char) :
    dropLead? lead s = some rest ↔ s = lead ++ rest := by
  induction lead generalizing s with
  | nil => simp [dropLead?, eq_comm]
  | cons a as ih =>
    cases s with
    | nil => simp [dropLead?]
    | cons b bs =>
      simp only [dropLead?, List.cons_append, List.cons.injEq]
      split
      · rename_i h; subst h; simp [ih]
      · rename_i h; simp only [reduceCtorEq, false_iff]; exact fun h' => h h'.1.symm

end Turnstile.Text

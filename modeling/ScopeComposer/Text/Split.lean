import ScopeComposer.Text.Blank

/-!
# Splitting a text at a character

A text with `n` separators has `n + 1` pieces, so a text always has at least one piece, which may
be empty. Entries are the pieces of a comma-separated list that say something: they are trimmed,
and blank ones are left out.
-/

namespace ScopeComposer.Text

/-- The pieces of a character list between the occurrences of `sep`. -/
def splitChars (sep : Char) : List Char → List (List Char)
  | [] => [[]]
  | c :: rest =>
    if c = sep then [] :: splitChars sep rest
    else
      match splitChars sep rest with
      | [] => [[c]]
      | piece :: pieces => (c :: piece) :: pieces

/-- The pieces of a text between the occurrences of `sep`. -/
def split (sep : Char) (s : String) : List String := (splitChars sep s.toList).map String.ofList

/-- What stands before the first `sep`, and what stands after it if there is one. -/
def cutChars (sep : Char) : List Char → List Char × Option (List Char)
  | [] => ([], none)
  | c :: rest =>
    if c = sep then ([], some rest)
    else
      let (before, after) := cutChars sep rest
      (c :: before, after)

/-- What stands before the first `sep`, and what stands after it if there is one. -/
def cut (sep : Char) (s : String) : String × Option String :=
  let (before, after) := cutChars sep s.toList
  (String.ofList before, after.map String.ofList)

/-- The trimmed texts that are not blank, in order. -/
def significant (texts : List String) : List String := (texts.map trim).filter (· ≠ "")

/-- The entries of a comma-separated list: its pieces, trimmed, without the blank ones. -/
def entries (s : String) : List String := significant (split ',' s)

/-- A text has at least one piece. -/
theorem splitChars_ne_nil (sep : Char) (cs : List Char) : splitChars sep cs ≠ [] := by
  cases cs with
  | nil => simp [splitChars]
  | cons c rest =>
    rw [splitChars]
    split
    · simp
    · split <;> simp

/-- Joining the pieces with the separator gives the text back. -/
theorem intercalate_splitChars (sep : Char) (cs : List Char) :
    [sep].intercalate (splitChars sep cs) = cs := by
  induction cs with
  | nil => rfl
  | cons c rest ih =>
    rw [splitChars]
    split
    · next h =>
      subst h
      cases hp : splitChars c rest with
      | nil => exact absurd hp (splitChars_ne_nil c rest)
      | cons piece pieces => rw [hp] at ih; simp [List.intercalate_cons_cons, ih]
    · cases hp : splitChars sep rest with
      | nil => exact absurd hp (splitChars_ne_nil sep rest)
      | cons piece pieces =>
        rw [hp] at ih
        cases pieces with
        | nil => simpa using ih
        | cons next more => simpa [List.intercalate_cons_cons] using ih

end ScopeComposer.Text

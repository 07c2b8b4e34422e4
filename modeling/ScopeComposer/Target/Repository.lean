import ScopeComposer.Json.Record
import ScopeComposer.Text.Split

/-!
# Repositories

A repository, by owner and name, and its shorthand `owner/name`. The shorthand is trimmed, slashes
at its end are dropped, and what remains must be two non-empty parts with one slash between them.
-/

namespace ScopeComposer

open Json (Record Decoder)

/-- A repository, by its owner and its name. -/
structure RepositoryAddress where
  /-- The login of the owner. -/
  owner : String
  /-- The name of the repository. -/
  name : String
deriving DecidableEq, Repr, Inhabited

namespace RepositoryAddress

/-- A repository in its shorthand form. -/
def text (r : RepositoryAddress) : String := r.owner ++ "/" ++ r.name

/-- What is wrong with a text that is no shorthand. -/
def shorthandError (input : String) : String :=
  "Invalid repository '" ++ input ++ "'. Expected format: 'owner/name'"

/-- The characters before the slashes at the end. -/
def dropSlashes (cs : List Char) : List Char := (cs.reverse.dropWhile (· == '/')).reverse

/-- The repository that a shorthand stands for. -/
def ofShorthand? (input : String) : Option RepositoryAddress :=
  match Text.cutChars '/' (dropSlashes (Text.trimChars input.toList)) with
  | (owner, some name) =>
    if owner ≠ [] ∧ name ≠ [] ∧ '/' ∉ name then
      some ⟨String.ofList owner, String.ofList name⟩
    else none
  | (_, none) => none

/-- The repository that a shorthand stands for, or the text of what is wrong with it. -/
def ofShorthand (input : String) : Except String RepositoryAddress :=
  match ofShorthand? input with
  | some r => .ok r
  | none => .error (shorthandError input)

/-- A repository as JSON. -/
def toJson (r : RepositoryAddress) : Json :=
  .obj [("owner", .str r.owner), ("repository_name", .str r.name)]

/-- Decodes a repository. -/
def decoder : Decoder RepositoryAddress :=
  (RepositoryAddress.mk
    <$> .required "owner" .string
    <*> .required "repository_name" .string : Record RepositoryAddress).decoder "RepositoryId"

end RepositoryAddress

end ScopeComposer

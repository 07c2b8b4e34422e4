import ScopeComposer.Json.Decoder

/-!
# Scope tags

A scope tag names one sub-resource of a level of the resource graph. Each level has a closed
catalogue of tags in a fixed order; whatever is composed follows the order of the catalogue, never
the order in which a caller listed the tags.
-/

namespace ScopeComposer

/-- A level of the resource graph. -/
inductive Level where
  | account
  | project
  | repository
  | milestoneDepth
  | issueState
deriving DecidableEq, Repr, Inhabited

namespace Level

/-- All levels, from the outermost inwards. -/
def all : List Level := [.account, .project, .repository, .milestoneDepth, .issueState]

/-- The name of a level in messages. -/
def text : Level → String
  | .account => "account"
  | .project => "project"
  | .repository => "repository"
  | .milestoneDepth => "milestone depth"
  | .issueState => "issue state"

/-- The name of a level on the wire. -/
def wireName : Level → String
  | .account => "account"
  | .project => "project"
  | .repository => "repository"
  | .milestoneDepth => "milestone_depth"
  | .issueState => "issue_state"

/-- Decodes a level from its name on the wire. -/
def decoder : Json.Decoder Level := .variant (all.map fun level => (level.wireName, level))

end Level

/-- A closed set of tags: the catalogue of one level. -/
class Tag (S : Type) [DecidableEq S] where
  /-- The level that the tags belong to. -/
  level : Level
  /-- The tags in the order of the catalogue. -/
  catalogue : List S
  /-- The name of a tag on the wire. -/
  name : S → String
  /-- Whether a tag stands for every other tag of its level. -/
  isAll : S → Bool
  /-- Whether a tag asks for the bare number of elements of its level. -/
  isCount : S → Bool
  /-- Every tag is in the catalogue. -/
  mem_catalogue : ∀ t, t ∈ catalogue
  /-- No tag is in the catalogue twice. -/
  nodup_catalogue : catalogue.Nodup
  /-- Different tags have different names. -/
  name_injective : ∀ s t, name s = name t → s = t
  /-- Names are made of lowercase letters. -/
  isLower_name : ∀ t, (name t).toList.all Char.isLower = true

namespace Tag

variable {S : Type} [DecidableEq S] [Tag S]

/-- The tag with a name on the wire, which has to match letter by letter. -/
def ofName? (value : String) : Option S := (catalogue : List S).find? fun t => name t = value

/-- Every tag is found by its name. -/
@[simp]
theorem ofName?_name (t : S) : ofName? (name t) = some t := by
  unfold ofName?
  cases found : (catalogue : List S).find? fun u => name u = name t with
  | none =>
    have missing := List.find?_eq_none.1 found t (mem_catalogue t)
    simp at missing
  | some u =>
    have sameName : name u = name t := by simpa using List.find?_some found
    rw [name_injective u t sameName]

/-- Only the name of a tag finds it. -/
theorem name_eq_of_ofName? {value : String} {t : S} (found : ofName? value = some t) :
    name t = value := by
  simpa using List.find?_some found

variable (S) in
/-- The names of a level in the order of the catalogue, as messages list them. -/
def allowed : String := ", ".intercalate ((catalogue : List S).map name)

/-- Decodes a tag from its name on the wire. -/
def decoder : Json.Decoder S := .variant ((catalogue : List S).map fun t => (name t, t))

/-- A tag as JSON. -/
def toJson (t : S) : Json := .str (name t)

end Tag

end ScopeComposer

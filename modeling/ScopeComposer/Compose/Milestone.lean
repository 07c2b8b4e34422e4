import ScopeComposer.Compose.Collection
import ScopeComposer.Scope.Resolved

/-!
# Milestones

The milestone level of a repository: one milestone by its number or a window of all milestones,
each with the issues of the requested states. Every state has a block of its own under its own
alias, open issues before closed ones.
-/

namespace ScopeComposer

open Json (Record Decoder Decoded DecodeError)

/-- Which milestones are selected. -/
inductive MilestoneAddress where
  /-- The milestone with a number. -/
  | single (number : UInt64)
  /-- The paginated list of milestones. -/
  | list
deriving DecidableEq, Repr, Inhabited

namespace MilestoneAddress

/-- An address as JSON. -/
def toJson : MilestoneAddress → Json
  | .single number => .obj [("singular", .nat number.toNat)]
  | .list => .str "plural"

/-- Decodes an address by the name of its form and the value under it, if there is one. -/
def decodeForm (name : String) (payload : Option Json) : Decoded MilestoneAddress :=
  if name = "singular" then
    match payload with
    | none => .error .missingPayload
    | some value => do .ok (.single (← Decoder.uint64.run value))
  else if name = "plural" then
    match payload with
    | none | some .null => .ok .list
    | some other => .error (.wrongType other "unit")
  else .error (.unknownVariant name ["singular", "plural"])

/-- Decodes an address. -/
def decoder : Decoder MilestoneAddress where
  run
    | .str name => decodeForm name none
    | .obj [(name, payload)] => decodeForm name (some payload)
    | .obj _ => .error .notSingleKey
    | other => .error (.wrongType other "string or map")

end MilestoneAddress

/-- The issues that are selected of every milestone. -/
structure MilestoneIssues where
  /-- The window of the issues of each state. -/
  window : PageWindow
  /-- The states. -/
  states : List IssueState
deriving DecidableEq

namespace MilestoneIssues

/-- The first ten open issues. -/
def standard : MilestoneIssues := ⟨.nested, [.opened]⟩

instance : Inhabited MilestoneIssues := ⟨standard⟩

/-- A selection of issues as JSON. -/
def toJson (s : MilestoneIssues) : Json :=
  .obj [("window", s.window.toJson), ("states", .ofList Tag.toJson s.states)]

/-- Decodes a selection of issues. -/
def decoder : Decoder MilestoneIssues :=
  (MilestoneIssues.mk
    <$> .required "window" PageWindow.decoder
    <*> .required "states" (.list Tag.decoder) : Record MilestoneIssues).decoder "IssueSelection"

/-- The head of the block of one state. -/
def head (s : MilestoneIssues) (state : IssueState) : String :=
  state.responseKey ++ ": issues(" ++ s.window.arguments ++ ", states: [" ++ state.enumValue ++
    "])"

/-- The blocks of issues, one for each state that is asked for. -/
def text (s : MilestoneIssues) (options : DocumentOptions) : String :=
  Graphql.stack ((ResolvedScopes.ofTags s.states).tags.map fun state =>
    Graphql.collection (s.head state) options.withTotals
      (Graphql.layout 1 Graphql.issueFields))

end MilestoneIssues

/-- What is selected at the milestone level. -/
structure MilestoneConfig where
  /-- Which milestones. -/
  address : MilestoneAddress
  /-- The window of the milestone list; a single milestone has no use for it. -/
  window : PageWindow
  /-- How deep the selection reaches. -/
  depth : List MilestoneDepth
  /-- The issues of every milestone. -/
  issues : MilestoneIssues
deriving DecidableEq

namespace MilestoneConfig

/-- The fields of the first ten milestones. -/
def standard : MilestoneConfig := ⟨.list, .nested, [.info], .standard⟩

instance : Inhabited MilestoneConfig := ⟨standard⟩

/-- A configuration as JSON. -/
def toJson (c : MilestoneConfig) : Json :=
  .obj [("number", c.address.toJson), ("window", c.window.toJson),
    ("depth", .ofList Tag.toJson c.depth), ("issues", c.issues.toJson)]

/-- Decodes a configuration. -/
def decoder : Decoder MilestoneConfig :=
  (MilestoneConfig.mk
    <$> .required "number" MilestoneAddress.decoder
    <*> .required "window" PageWindow.decoder
    <*> .required "depth" (.list Tag.decoder)
    <*> .required "issues" MilestoneIssues.decoder : Record MilestoneConfig).decoder
    "MilestoneQueryConfig"

/-- The part that one level of depth contributes. -/
def part (c : MilestoneConfig) (options : DocumentOptions) : MilestoneDepth → String
  | .info => Graphql.layout 1 Graphql.milestoneInfo
  | .issues => c.issues.text options

/-- The body of a milestone node. -/
def body (c : MilestoneConfig) (options : DocumentOptions) : String :=
  Graphql.stack ("number" :: (ResolvedScopes.ofTags c.depth).tags.map (c.part options))

/-- The milestone level as a field of a repository. -/
def text (c : MilestoneConfig) (options : DocumentOptions) : String :=
  match c.address with
  | .single number =>
    Graphql.block ("milestone(number: " ++ toString number ++ ")") (c.body options)
  | .list =>
    Graphql.collection ("milestones(" ++ c.window.arguments ++ ")") options.withTotals
      (c.body options)

end MilestoneConfig

end ScopeComposer

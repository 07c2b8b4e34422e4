import ScopeComposer.Main
import ScopeComposer.Proofs.Compose.CallerTexts
import ScopeComposer.Proofs.Compose.Determinacy
import ScopeComposer.Proofs.Compose.OrderIndependence
import ScopeComposer.Proofs.Compose.Validity
import ScopeComposer.Server.Http
import ScopeComposer.Server.Page
import ScopeComposer.Proofs.Compose.Effect
import ScopeComposer.Proofs.Compose.InertInputs
import ScopeComposer.Proofs.Server.Retries
import ScopeComposer.Proofs.Scope.Compact
import ScopeComposer.Proofs.CommandLine.ProjectBody
import ScopeComposer.Proofs.CommandLine.Milestones
import ScopeComposer.Proofs.Scope.Choice
import ScopeComposer.Proofs.Compose.Totals
import ScopeComposer.Proofs.Compose.RequestTexts
import ScopeComposer.Proofs.CommandLine.Validation
import ScopeComposer.Proofs.Compose.EmbeddedLines
import ScopeComposer.Proofs.Graphql.Bodies
import ScopeComposer.Proofs.Compose.RepositoryNode
import ScopeComposer.Proofs.Compose.MilestoneLevel
import ScopeComposer.Proofs.Compose.ImpliedEssential
import ScopeComposer.Proofs.Paging.PageSize
import ScopeComposer.Proofs.Scope.CompactGrammar
import ScopeComposer.Proofs.Scope.PlainTags
import ScopeComposer.Proofs.Compose.ProjectNode
import ScopeComposer.Proofs.Json.Acceptance
import ScopeComposer.Proofs.Scope.Decoding
import ScopeComposer.Proofs.Json.Spelling
import ScopeComposer.Proofs.Compose.KeySpelling
import ScopeComposer.Proofs.Reply.Envelope
import ScopeComposer.Proofs.Settings.Environment
import ScopeComposer.Proofs.Graphql.StringGrammar
import ScopeComposer.Proofs.Paging.Arguments
import ScopeComposer.Proofs.Compose.Alphabet
import ScopeComposer.Proofs.Target.Shorthand
import ScopeComposer.Proofs.Server.Pages
import ScopeComposer.Proofs.CommandLine.MilestoneNumber
import ScopeComposer.Proofs.CommandLine.Token
import ScopeComposer.Proofs.Scope.Additions
import ScopeComposer.Proofs.Server.Backoff
import ScopeComposer.Proofs.Compose.Assembly

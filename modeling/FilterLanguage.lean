import FilterLanguage.Main
import FilterLanguage.Schema.Inspect
import FilterLanguage.Builder
import FilterLanguage.Proofs.Group.Parsing
import FilterLanguage.Proofs.Token.Spelling
import FilterLanguage.Proofs.Group.RoundTrip
import FilterLanguage.Proofs.Resolution.FirstMatch
import FilterLanguage.Proofs.Builder.Expressible
import FilterLanguage.Proofs.Builder.Pipeline
import FilterLanguage.Proofs.Group.Derivation
import FilterLanguage.Proofs.Group.Beginning
import FilterLanguage.Proofs.Group.Failure
import FilterLanguage.Proofs.Token.Position
import FilterLanguage.Proofs.Group.FirstError
import FilterLanguage.Proofs.Resolution.Application
import FilterLanguage.Proofs.Resolution.Growth
import FilterLanguage.Proofs.Schema.Narrowing
import FilterLanguage.Proofs.Token.Step
import FilterLanguage.Proofs.Token.Passage
import FilterLanguage.Proofs.Token.Partition
import FilterLanguage.Proofs.Token.Munch
import FilterLanguage.Proofs.Group.Moved
import FilterLanguage.Proofs.Group.Spacing
import FilterLanguage.Proofs.Group.Limit
import FilterLanguage.Proofs.Group.ErrorSpan
import FilterLanguage.Proofs.Schema.TypeText
import FilterLanguage.Proofs.Schema.Contents
import FilterLanguage.Proofs.Schema.Vocabulary
import FilterLanguage.Proofs.Command.Narrowing
import FilterLanguage.Proofs.Builder.Failure
import FilterLanguage.Proofs.Resolution.DeclarationOrder
import FilterLanguage.Proofs.Schema.Generality
import FilterLanguage.Proofs.Group.Joining
import FilterLanguage.Proofs.Number.JsonText
import FilterLanguage.Proofs.Json.Quoted
import FilterLanguage.Proofs.Group.JsonForm
import FilterLanguage.Proofs.Resolution.Shadowing
import FilterLanguage.Proofs.Token.StringLiteral
import FilterLanguage.Proofs.Schema.SignatureText
import FilterLanguage.Proofs.Schema.Loading
import FilterLanguage.Proofs.Text.Blank
import FilterLanguage.Proofs.Token.Resumption
import FilterLanguage.Proofs.Group.Outline
import FilterLanguage.Proofs.Group.Traversal
import FilterLanguage.Proofs.Token.Lookahead

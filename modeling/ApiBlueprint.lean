import ApiBlueprint.Files.Store
import ApiBlueprint.Include.Table
import ApiBlueprint.Main
import ApiBlueprint.Text.UpperCase
import ApiBlueprint.Proofs.Fixture.Extraction
import ApiBlueprint.Proofs.Include.Seam
import ApiBlueprint.Proofs.Grammar.RoundTrip
import ApiBlueprint.Proofs.Fixture.Interpolation
import ApiBlueprint.Proofs.Fixture.Rendered
import ApiBlueprint.Proofs.Fixture.Indentation
import ApiBlueprint.Proofs.Placeholder.Leftover
import ApiBlueprint.Proofs.Grammar.Append
import ApiBlueprint.Proofs.Grammar.Placement
import ApiBlueprint.Proofs.Include.InPayload
import ApiBlueprint.Proofs.Document.Drawing
import ApiBlueprint.Proofs.Document.Joining
import ApiBlueprint.Proofs.Document.Lifecycle
import ApiBlueprint.Proofs.Format.Registration
import ApiBlueprint.Proofs.Document.Delivery
import ApiBlueprint.Proofs.Document.Agreement
import ApiBlueprint.Proofs.Files.Listing
import ApiBlueprint.Proofs.Config.Layering
import ApiBlueprint.Proofs.Config.Precedence
import ApiBlueprint.Proofs.Template.Fixture
import ApiBlueprint.Proofs.Grammar.WellFormed
import ApiBlueprint.Proofs.Include.Copying
import ApiBlueprint.Proofs.Fixture.Composition
import ApiBlueprint.Proofs.Include.Sharing
import ApiBlueprint.Proofs.Include.Depth
import ApiBlueprint.Proofs.Include.Place
import ApiBlueprint.Proofs.Files.Confined
import ApiBlueprint.Proofs.Placeholder.Sequence
import ApiBlueprint.Proofs.Grammar.Opaque
import ApiBlueprint.Proofs.Grammar.Finality
import ApiBlueprint.Proofs.Grammar.Columns
import ApiBlueprint.Proofs.Grammar.Underlined
import ApiBlueprint.Proofs.Grammar.Verbatim
import ApiBlueprint.Proofs.Config.Validation
import ApiBlueprint.Proofs.Files.Union
import ApiBlueprint.Proofs.CommandLine.Refusal
import ApiBlueprint.Proofs.Include.Nesting
import ApiBlueprint.Proofs.Placeholder.Language

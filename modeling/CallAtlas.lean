import CallAtlas.Main
import CallAtlas.Explorer
import CallAtlas.Http.Routes
import CallAtlas.Proofs.Arrangement
import CallAtlas.Proofs.Declarations
import CallAtlas.Proofs.Limits
import CallAtlas.Proofs.Order
import CallAtlas.Proofs.Parts
import CallAtlas.Proofs.Strictness
import CallAtlas.Proofs.Failures
import CallAtlas.Proofs.Focus
import CallAtlas.Proofs.Lines
import CallAtlas.Proofs.Reader
import CallAtlas.Proofs.Chart
import CallAtlas.Proofs.Depiction
import CallAtlas.Proofs.Filtering
import CallAtlas.Proofs.Regrouping
import CallAtlas.Proofs.Homogeneity
import CallAtlas.Proofs.Outcomes
import CallAtlas.Proofs.PackageErrors
import CallAtlas.Proofs.Opening
import CallAtlas.Proofs.ElementIds
import CallAtlas.Proofs.Traversals
import CallAtlas.Proofs.Answers
import CallAtlas.Proofs.Discovery
import CallAtlas.Proofs.EntryPoints
import CallAtlas.Proofs.Idempotence
import CallAtlas.Proofs.Levels
import CallAtlas.Proofs.Diagrams
import CallAtlas.Proofs.Pictures
import CallAtlas.Proofs.Tokens
import CallAtlas.Proofs.Escapes
import CallAtlas.Proofs.Selections
import CallAtlas.Proofs.Revisions
import CallAtlas.Proofs.Listing

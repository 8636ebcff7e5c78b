import FirstClaim.Callbacks
import FirstClaim.Main
import FirstClaim.RuleSet
import FirstClaim.Proofs.Engine.Report
import FirstClaim.Proofs.Engine.EditScript
import FirstClaim.Proofs.Engine.Precedence
import FirstClaim.Proofs.Engine.Positionwise
import FirstClaim.Proofs.Engine.Unskipped
import FirstClaim.Proofs.Engine.Complete
import FirstClaim.Proofs.Engine.Exchange
import FirstClaim.Proofs.Engine.Calls
import FirstClaim.Proofs.RuleSet.Distinct
import FirstClaim.Proofs.Engine.Lines
import FirstClaim.Proofs.CommandLine.Reuse
import FirstClaim.Proofs.CommandLine.ShownRules
import FirstClaim.Proofs.Template.Joining
import FirstClaim.Proofs.Store.Listing
import FirstClaim.Proofs.Pattern
import FirstClaim.Proofs.Engine.Broken
import FirstClaim.Proofs.Engine.Literal
import FirstClaim.Proofs.Builtin.Headings
import FirstClaim.Proofs.Builtin.Bullets
import FirstClaim.Proofs.Fingerprint
import FirstClaim.Proofs.Store.Confinement
import FirstClaim.Proofs.RuleSet.Moving
import FirstClaim.Proofs.ClaimMap.Commits
import FirstClaim.Proofs.ClaimMap.FirstCome
import FirstClaim.Proofs.RuleSet.Exporting
import FirstClaim.Proofs.Medium

import DocCheck.Main
import DocCheck.Proofs.Tighten.Closed
import DocCheck.Proofs.Tighten.Directory
import DocCheck.Proofs.Schema.Plain
import DocCheck.Proofs.Tighten.Steady
import DocCheck.Proofs.Tighten.Exact
import DocCheck.Proofs.Run.Abort
import DocCheck.Proofs.Run.Verdict
import DocCheck.Proofs.Yaml.Kept
import DocCheck.Proofs.Run.Layout
import DocCheck.Proofs.Run.Split
import DocCheck.Proofs.Run.Order
import DocCheck.Proofs.Run.Reads
import DocCheck.Proofs.Tighten.Effect
import DocCheck.Proofs.Classification.History
import DocCheck.Proofs.Location.Decode
import DocCheck.Proofs.Yaml.Refusal
import DocCheck.Proofs.Location.Unlisted
import DocCheck.Proofs.Tighten.Idempotent
import DocCheck.Proofs.Run.Told
import DocCheck.Proofs.Standing.Keywords
import DocCheck.Proofs.Standing.Reported
import DocCheck.Proofs.Classification.Directory
import DocCheck.Proofs.CommandLine
import DocCheck.Proofs.ValidatorSet

import LinkOrder.Storage.Surroundings
import LinkOrder.Main
import LinkOrder.Proofs.Order.Completeness
import LinkOrder.Proofs.LinkMap.Criterion
import LinkOrder.Proofs.LinkMap.EarlyEnd
import LinkOrder.Proofs.Storage.Telling
import LinkOrder.Proofs.Cli.Running
import LinkOrder.Proofs.Cli.Agreement
import LinkOrder.Proofs.Order.Enumeration
import LinkOrder.Proofs.Resolution.Attribution
import LinkOrder.Proofs.Order.Distinctness
import LinkOrder.Proofs.LinkMap.Streaming
import LinkOrder.Proofs.Numeral.Spelling
import LinkOrder.Proofs.LinkMap.RoundTrip
import LinkOrder.Proofs.Resolution.Exported
import LinkOrder.Proofs.Pipeline.Failure
import LinkOrder.Proofs.Order.Contribution
import LinkOrder.Proofs.Order.Collisions
import LinkOrder.Proofs.Storage.Growth
import LinkOrder.Proofs.Cli.Generation
import LinkOrder.Proofs.Json.Grammar
import LinkOrder.Proofs.Json.Strings
import LinkOrder.Proofs.Json.Numerals
import LinkOrder.Proofs.Json.Skipping
import LinkOrder.Proofs.Json.Values
import LinkOrder.Proofs.Json.Records
import LinkOrder.Proofs.Json.Parts
import LinkOrder.Proofs.Capture.RoundTrip
import LinkOrder.Proofs.LinkMap.Consumed
import LinkOrder.Proofs.LinkMap.TextSection
import LinkOrder.Proofs.LinkMap.Tally
import LinkOrder.Proofs.Order.AddressTail
import LinkOrder.Proofs.Cli.Summary
import LinkOrder.Proofs.Text.Encoding
import LinkOrder.Proofs.LinkMap.OneLine
import LinkOrder.Proofs.Pipeline.ReadBack
import LinkOrder.Proofs.LinkMap.Inserts
import LinkOrder.Proofs.Config.Validity
import LinkOrder.Proofs.Cli.Validity
import LinkOrder.Proofs.Json.Variants
import LinkOrder.Proofs.Json.Defaults
import LinkOrder.Proofs.Config.Decoding
import LinkOrder.Proofs.Cli.Overrides
import LinkOrder.Proofs.Config.Members
import LinkOrder.Proofs.Numeral.HexField
import LinkOrder.Proofs.Object.Descriptor
import LinkOrder.Proofs.Duration.Range

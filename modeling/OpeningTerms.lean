import OpeningTerms.Main
import OpeningTerms.Sequence.Workbench
import OpeningTerms.Sink.Limited
import OpeningTerms.Text.Inert
import OpeningTerms.Pattern.Atom
import OpeningTerms.Pattern.CharSet
import OpeningTerms.Pattern.Reader
import OpeningTerms.Proofs.Recurrence
import OpeningTerms.Proofs.Calls
import OpeningTerms.Proofs.Pulling
import OpeningTerms.Proofs.Demand
import OpeningTerms.Proofs.Histories
import OpeningTerms.Proofs.Output
import OpeningTerms.Proofs.Limits
import OpeningTerms.Proofs.Delivery
import OpeningTerms.Proofs.DistinctKeys
import OpeningTerms.Proofs.Acceptance
import OpeningTerms.Proofs.Fallback
import OpeningTerms.Proofs.FullDevice
import OpeningTerms.Proofs.EventOrder
import OpeningTerms.Proofs.Numerals
import OpeningTerms.Proofs.SeedReaders
import OpeningTerms.Proofs.Sheets
import OpeningTerms.Proofs.Choices
import OpeningTerms.Proofs.Members
import OpeningTerms.Proofs.RoundTrip
import OpeningTerms.Proofs.Yield
import OpeningTerms.Proofs.Asking
import OpeningTerms.Proofs.Counting
import OpeningTerms.Proofs.Ends
import OpeningTerms.Proofs.Exhaustion
import OpeningTerms.Proofs.Origins
import OpeningTerms.Proofs.Resumption
import OpeningTerms.Proofs.Lines
import OpeningTerms.Proofs.Received
import OpeningTerms.Proofs.ToCome
import OpeningTerms.Proofs.Consumption
import OpeningTerms.Proofs.Ascent
import OpeningTerms.Proofs.Thresholds
import OpeningTerms.Proofs.FirstFault
import OpeningTerms.Proofs.Loading
import OpeningTerms.Proofs.Spelling
import OpeningTerms.Proofs.Trimming
import OpeningTerms.Proofs.SeedForms
import OpeningTerms.Proofs.Reading

import RunLog.Proofs.Deduplication
import RunLog.Proofs.Draining
import RunLog.Proofs.Tailing
import RunLog.Script
import RunLog.SetupCheck
import RunLog.Proofs.Bytes
import RunLog.Proofs.Checking
import RunLog.Proofs.InMemory
import RunLog.Proofs.Fetching
import RunLog.Proofs.Retrying
import RunLog.Proofs.Reasking
import RunLog.Proofs.Arrival
import RunLog.Proofs.PageSizes
import RunLog.Proofs.Pieces
import RunLog.Proofs.Locating
import RunLog.Proofs.Budget
import RunLog.Proofs.Discipline
import RunLog.Proofs.Prefetching
import RunLog.Proofs.Finality
import RunLog.Proofs.Reporting
import RunLog.Proofs.QueryReading
import RunLog.Proofs.Fingerprints
import RunLog.Proofs.EmptyTail
import RunLog.Proofs.Secrecy
import RunLog.Proofs.Splicing
import RunLog.Proofs.Outcomes
import RunLog.Proofs.Postponing
import RunLog.Proofs.LostBytes
import RunLog.Proofs.DiscardedLines
import RunLog.Proofs.Requestable
import RunLog.Proofs.LineStarts
import RunLog.Proofs.Precision

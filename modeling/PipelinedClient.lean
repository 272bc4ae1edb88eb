import PipelinedClient.Connection.Operation
import PipelinedClient.Dispatcher.Command
import PipelinedClient.Transport.Scripted
import PipelinedClient.Transport.Socket
import PipelinedClient.Proofs.Steps
import PipelinedClient.Proofs.Ledger
import PipelinedClient.Proofs.Transmission
import PipelinedClient.Proofs.Correlation
import PipelinedClient.Proofs.Reading
import PipelinedClient.Proofs.PendingRequests
import PipelinedClient.Proofs.Failures
import PipelinedClient.Proofs.FailedWrites
import PipelinedClient.Proofs.Wire
import PipelinedClient.Proofs.Exchanges
import PipelinedClient.Proofs.Answers
import PipelinedClient.Proofs.Schedules
import PipelinedClient.Proofs.InterruptedReads
import PipelinedClient.Proofs.EffectiveSettings
import PipelinedClient.Proofs.AuthTokens
import PipelinedClient.Proofs.Closing
import PipelinedClient.Proofs.Handshakes
import PipelinedClient.Proofs.ExactReads
import PipelinedClient.Proofs.SingleReads
import PipelinedClient.Proofs.DebugLines
import PipelinedClient.Proofs.Transcripts
import PipelinedClient.Proofs.WrittenTexts
import PipelinedClient.Proofs.RoundTrips
import PipelinedClient.Proofs.Timeouts
import PipelinedClient.Proofs.BuilderSteps
import PipelinedClient.Proofs.ByteOrder
import PipelinedClient.Proofs.CanonicalSets
import PipelinedClient.Proofs.StatusCodes
import PipelinedClient.Proofs.TwoQueues
import PipelinedClient.Proofs.Recordings
import PipelinedClient.Proofs.Documents

import FramedExchange.Loopback
import FramedExchange.Main
import FramedExchange.Proofs.Stream.Reading
import FramedExchange.Proofs.Stream.Writing
import FramedExchange.Proofs.Serving.Answer
import FramedExchange.Proofs.Serving.Shared
import FramedExchange.Proofs.Serving.Course
import FramedExchange.Proofs.Serving.Output
import FramedExchange.Proofs.Serving.Sequencing
import FramedExchange.Proofs.Stream.Lossless
import FramedExchange.Proofs.Stream.CancelSafety
import FramedExchange.Proofs.Stream.RoundTrip
import FramedExchange.Proofs.Serving.Alike
import FramedExchange.Proofs.Serving.Meaning
import FramedExchange.Proofs.Exchange.Attribution
import FramedExchange.Proofs.Envelope.RoundTrip
import FramedExchange.Proofs.Exchange.Agreement
import FramedExchange.Proofs.Exchange.PathConvention
import FramedExchange.Proofs.Session.Interleaving
import FramedExchange.Proofs.Session.Isolation
import FramedExchange.Proofs.Exchange.Closing
import FramedExchange.Proofs.Exchange.CodeConvention
import FramedExchange.Proofs.Session.Turns
import FramedExchange.Proofs.Session.Accounting
import FramedExchange.Proofs.Session.LastReply
import FramedExchange.Proofs.Session.KeepAlive
import FramedExchange.Proofs.Serving.Station
import FramedExchange.Proofs.Stream.Arrival
import FramedExchange.Proofs.Serving.IdleTiming
import FramedExchange.Proofs.Envelope.SelfDelimiting
import FramedExchange.Proofs.Configuration.Precedence
import FramedExchange.Proofs.Configuration.Starting
import FramedExchange.Proofs.Envelope.FieldStructure
import FramedExchange.Proofs.Session.Slots
import FramedExchange.Proofs.Stream.Decision
import FramedExchange.Proofs.Stream.PastDeadline
import FramedExchange.Proofs.Stream.Outcome
import FramedExchange.Proofs.Stream.Received
import FramedExchange.Proofs.Stream.Receiving
import FramedExchange.Proofs.Stream.Elapsing
import FramedExchange.Proofs.Stream.ReadingTime
import FramedExchange.Proofs.Stream.ReadOutcome
import FramedExchange.Proofs.Stream.WritingTime
import FramedExchange.Proofs.Stream.WriteOutcome
import FramedExchange.Proofs.Serving.ExchangeTiming
import FramedExchange.Proofs.Stream.Refilling
import FramedExchange.Proofs.Serving.Commitment
import FramedExchange.Proofs.Stream.Ending
import FramedExchange.Proofs.Serving.Measure
import FramedExchange.Proofs.Serving.Termination
import FramedExchange.Proofs.Exchange.Dispatching
import FramedExchange.Proofs.Exchange.SizeLimits
import FramedExchange.Proofs.Buffer.Lending
import FramedExchange.Proofs.Buffer.Retention
import FramedExchange.Proofs.Metrics.Latencies
import FramedExchange.Proofs.Serving.Samples
import FramedExchange.Proofs.Exchange.CallTiming

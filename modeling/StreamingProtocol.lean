import StreamingProtocol.Transport.HeaderDomain
import StreamingProtocol.Transport.RoundTrip
import StreamingProtocol.Presentation.Dimensions
import StreamingProtocol.Presentation.Interpretation
import StreamingProtocol.Presentation.LinearRules
import StreamingProtocol.Presentation.PartialUpdates
import StreamingProtocol.Session.ApiVersion
import StreamingProtocol.Session.ControlEndPoint
import StreamingProtocol.Session.Divisors
import StreamingProtocol.Session.Isolation
import StreamingProtocol.Session.NestedValues
import StreamingProtocol.Session.PayloadReads
import StreamingProtocol.Session.RateChanges
import StreamingProtocol.Session.Rejection
import StreamingProtocol.Session.TimeInformation
import StreamingProtocol.Session.ValueCount
import StreamingProtocol.Producer.ExplicitTimes
import StreamingProtocol.Producer.RepeatedDescriptions
import StreamingProtocol.Producer.Availability
import StreamingProtocol.Producer.BulkRegistration
import StreamingProtocol.Producer.ConstantPayloads
import StreamingProtocol.Producer.SignalNumbers
import StreamingProtocol.Producer.StartTimes
import StreamingProtocol.Producer.TimeTicks
import StreamingProtocol.Producer.TupleBuffers
import StreamingProtocol.Consumer.Starting
import StreamingProtocol.Consumer.StreamUse
import StreamingProtocol.System.Wire
import StreamingProtocol.System.Draining
import StreamingProtocol.Foundation.TransportedDocuments
import StreamingProtocol.Presentation.TransportedDescriptions
import StreamingProtocol.Session.TransportedInputs
import StreamingProtocol.System.Delivery
import StreamingProtocol.System.Subscriptions
import StreamingProtocol.Foundation.PackedDocuments
import StreamingProtocol.Control.RemoteCommands
import StreamingProtocol.System.StreamingClient
import StreamingProtocol.System.AvailableSignals
import StreamingProtocol.System.SynchronousTransmission
import StreamingProtocol.Producer.Server
import StreamingProtocol.Producer.GeneratorRuns
import StreamingProtocol.System.GeneratedTransmission

import Matternode.Async.AsyncQueue
import Matternode.Base.Aead
import Matternode.Base.Arena
import Matternode.Base.Bytes
import Matternode.Base.Keyed
import Matternode.Base.Ledger
import Matternode.Base.Lockstep
import Matternode.Base.Machine
import Matternode.Base.Script
import Matternode.Base.Text
import Matternode.Clusters.ExampleCerts
import Matternode.Clusters.Tables
import Matternode.Crypto.CertificateTlv
import Matternode.Crypto.Signature
import Matternode.Expect.ExpectProcess
import Matternode.Js.Buffer
import Matternode.Js.Json
import Matternode.Js.Number
import Matternode.Js.Property
import Matternode.Js.Value
import Matternode.Messaging.Authentication
import Matternode.Messaging.ClearFrames
import Matternode.Messaging.Conversation
import Matternode.Messaging.Correspondence
import Matternode.Messaging.Counters
import Matternode.Messaging.Dispatch
import Matternode.Messaging.Exchange
import Matternode.Messaging.ExchangeTable
import Matternode.Messaging.Frames
import Matternode.Messaging.Headers
import Matternode.Messaging.Identities
import Matternode.Messaging.KeyAgreement
import Matternode.Messaging.Message
import Matternode.Messaging.MsgCodec
import Matternode.Messaging.NodeIds
import Matternode.Messaging.Nonces
import Matternode.Messaging.OneSession
import Matternode.Messaging.Parallel
import Matternode.Messaging.Privacy
import Matternode.Messaging.Replies
import Matternode.Messaging.Resending
import Matternode.Messaging.Routing
import Matternode.Messaging.Searchable
import Matternode.Messaging.Seats
import Matternode.Messaging.SecureFrames
import Matternode.Messaging.Session
import Matternode.Messaging.SessionIds
import Matternode.Messaging.SessionKeys
import Matternode.Messaging.SessionManager
import Matternode.Messaging.Setters
import Matternode.Messaging.ShortFrames
import Matternode.Messaging.Transmission
import Matternode.Messaging.Wire
import Matternode.Platform.PersistantStore
import Matternode.Protocols.Device
import Matternode.Protocols.DuplicatePake1
import Matternode.Protocols.Hosting
import Matternode.Protocols.ImAnswers
import Matternode.Protocols.ImCommand
import Matternode.Protocols.ImOwnData
import Matternode.Protocols.ImPaths
import Matternode.Protocols.ImRead
import Matternode.Protocols.ImResponses
import Matternode.Protocols.ImSending
import Matternode.Protocols.ImServing
import Matternode.Protocols.InteractionModel
import Matternode.Protocols.Interference
import Matternode.Protocols.PaseAddress
import Matternode.Protocols.PaseAgreement
import Matternode.Protocols.PaseAlike
import Matternode.Protocols.PaseConfinement
import Matternode.Protocols.PaseConfirmation
import Matternode.Protocols.PaseEffect
import Matternode.Protocols.PaseIds
import Matternode.Protocols.PaseLockstep
import Matternode.Protocols.PaseMessages
import Matternode.Protocols.PaseRounds
import Matternode.Protocols.PaseSession
import Matternode.Protocols.PaseTimers
import Matternode.Protocols.PaseWire
import Matternode.Protocols.Provenance
import Matternode.Protocols.SessionProtocol
import Matternode.Protocols.SharedSessions
import Matternode.Protocols.Shell
import Matternode.Protocols.StatusReport
import Matternode.Tlv.Arrays
import Matternode.Tlv.Codec
import Matternode.Tlv.Descent
import Matternode.Tlv.Element
import Matternode.Tlv.Grammar
import Matternode.Tlv.Items
import Matternode.Tlv.JsonText
import Matternode.Tlv.Leaves
import Matternode.Tlv.Names
import Matternode.Tlv.Parser
import Matternode.Tlv.Prefixes
import Matternode.Tlv.Reader
import Matternode.Tlv.Reencoding
import Matternode.Tlv.RoundTrip
import Matternode.Tlv.Sizes
import Matternode.Tlv.Tags
import Matternode.Tlv.Writer
import Matternode.Js.JsonParse
import Matternode.Util.Tracer
import Matternode.Net.Discovery
import Matternode.Shell.CmdTlv

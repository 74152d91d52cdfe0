import SealedChunk.Attribute.Map
import SealedChunk.Attribute.Protected
import SealedChunk.Attribute.Signature
import SealedChunk.Attribute.Slot
import SealedChunk.Base64
import SealedChunk.Broker.Memory
import SealedChunk.Broker.Message
import SealedChunk.Broker.Redacted
import SealedChunk.Bytes
import SealedChunk.Config.Config
import SealedChunk.Config.LogFilter
import SealedChunk.Config.Name
import SealedChunk.Config.Setting
import SealedChunk.Crypto.Aes
import SealedChunk.Crypto.GcmSiv
import SealedChunk.Crypto.Mac
import SealedChunk.Crypto.Nonce
import SealedChunk.Crypto.Polyval
import SealedChunk.Crypto.Sealed
import SealedChunk.Crypto.Sha256
import SealedChunk.Decimal.Digits
import SealedChunk.Decimal.Layout
import SealedChunk.Decimal.Shortest
import SealedChunk.Duration
import SealedChunk.Engine.Engine
import SealedChunk.Engine.Event
import SealedChunk.Engine.Exchange
import SealedChunk.Engine.Failure
import SealedChunk.Engine.Findings
import SealedChunk.Engine.Opening
import SealedChunk.Envelope.Format
import SealedChunk.Envelope.Padding
import SealedChunk.Envelope.Variant
import SealedChunk.Json.Codec
import SealedChunk.Json.Collection
import SealedChunk.Json.Fault
import SealedChunk.Json.Number
import SealedChunk.Json.Record
import SealedChunk.Json.RoundTrip.Codec
import SealedChunk.Json.RoundTrip.Collection
import SealedChunk.Json.RoundTrip.Record
import SealedChunk.Json.RoundTrip.Value
import SealedChunk.Json.Scalar
import SealedChunk.Json.Skip
import SealedChunk.Json.Text
import SealedChunk.Json.Value
import SealedChunk.Key.Key
import SealedChunk.Key.Secret
import SealedChunk.OrderedMap
import SealedChunk.Session.Backend
import SealedChunk.Session.Clock
import SealedChunk.Session.Session
import SealedChunk.SortedMap
import SealedChunk.Text.Alphanumeric
import SealedChunk.Text.Blank
import SealedChunk.Text.Cut
import SealedChunk.Text.Graphic
import SealedChunk.Text.Quoted
import SealedChunk.Proofs.Envelope.Grammar
import SealedChunk.Proofs.Envelope.Padding
import SealedChunk.Proofs.Envelope.RoundTrip
import SealedChunk.Proofs.Envelope.SideBySide
import SealedChunk.Proofs.Attribute.Canonical
import SealedChunk.Proofs.Attribute.Readable
import SealedChunk.Proofs.Attribute.SigningText
import SealedChunk.Proofs.Attribute.SlotRoundTrip
import SealedChunk.Proofs.Engine.Decryption
import SealedChunk.Proofs.Engine.Opening
import SealedChunk.Proofs.Engine.Overwrite
import SealedChunk.Proofs.Engine.RoundTrip
import SealedChunk.Proofs.Broker.Records
import SealedChunk.Proofs.Session.Requests
import SealedChunk.Proofs.Session.Course
import SealedChunk.Proofs.Session.Keeping
import SealedChunk.Proofs.Session.RoundTrip
import SealedChunk.Proofs.Envelope.Spellings
import SealedChunk.Proofs.Engine.Endings
import SealedChunk.Proofs.Engine.Recognition
import SealedChunk.Proofs.Engine.Strictness
import SealedChunk.Proofs.Engine.Notes
import SealedChunk.Proofs.Broker.Changes
import SealedChunk.Proofs.Broker.Replacement
import SealedChunk.Proofs.Broker.ExternalIds
import SealedChunk.Proofs.Text.ByteOrder
import SealedChunk.Proofs.Session.ExternalIds
import SealedChunk.Proofs.Broker.Messages
import SealedChunk.Proofs.Attribute.Opening
import SealedChunk.Proofs.Text.Offsets
import SealedChunk.Proofs.Envelope.Reading
import SealedChunk.Proofs.Envelope.Places
import SealedChunk.Proofs.Session.SingleRequest
import SealedChunk.Proofs.Attribute.Verification
import SealedChunk.Proofs.Attribute.Concealment
import SealedChunk.Proofs.Broker.Minting
import SealedChunk.Proofs.Broker.KeptNames
import SealedChunk.Proofs.Map.History
import SealedChunk.Proofs.Crypto.Exactness
import SealedChunk.Proofs.Envelope.WellPadded

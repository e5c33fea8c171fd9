import TnsClient.Bytes
import TnsClient.Capabilities
import TnsClient.Cleanup
import TnsClient.Client.Action
import TnsClient.Client.Answers
import TnsClient.Client.Basic
import TnsClient.Client.Error
import TnsClient.Client.Logon
import TnsClient.Client.QueryResult
import TnsClient.Client.Row
import TnsClient.Client.StatementCache
import TnsClient.Client.Task
import TnsClient.Client.TaskQueue
import TnsClient.Client.Tasks
import TnsClient.Column.BinaryFloat
import TnsClient.Column.Conversion
import TnsClient.Column.DataType
import TnsClient.Column.Number
import TnsClient.Column.Timestamp
import TnsClient.ConnectOptions
import TnsClient.Connection
import TnsClient.Crypto.Aes
import TnsClient.Crypto.BlockChaining
import TnsClient.Crypto.KeyDerivation
import TnsClient.Crypto.Sha1
import TnsClient.Crypto.Sha512
import TnsClient.Decoder
import TnsClient.Encoder
import TnsClient.Encoder.Cleanup
import TnsClient.Encoder.Lob
import TnsClient.Encoder.Logon
import TnsClient.Encoder.Session
import TnsClient.Encoder.Setup
import TnsClient.Encoder.Statement
import TnsClient.Link
import TnsClient.Lob
import TnsClient.Logon.Credentials
import TnsClient.Logon.Drawing
import TnsClient.Logon.SessionData
import TnsClient.Logon.Verifier
import TnsClient.Message.Column
import TnsClient.Message.ErrorBlock
import TnsClient.Message.Kind
import TnsClient.Message.Negotiation
import TnsClient.Message.Parameters
import TnsClient.Message.Row
import TnsClient.Message.ServerMessage
import TnsClient.Packet
import TnsClient.Proofs.BinaryFloat.Order
import TnsClient.Proofs.Cache.Contents
import TnsClient.Proofs.Client.AllOrNothing
import TnsClient.Proofs.Client.Cancelling
import TnsClient.Proofs.Client.Cleaning
import TnsClient.Proofs.Client.Conservation
import TnsClient.Proofs.Client.CursorAccount
import TnsClient.Proofs.Client.Cursors
import TnsClient.Proofs.Client.Ledger
import TnsClient.Proofs.Client.LogonOrder
import TnsClient.Proofs.Client.Negotiation
import TnsClient.Proofs.Client.Order
import TnsClient.Proofs.Client.Pings
import TnsClient.Proofs.Client.Resend
import TnsClient.Proofs.Client.Run
import TnsClient.Proofs.Client.Submission
import TnsClient.Proofs.Client.Transition
import TnsClient.Proofs.Client.Verdict
import TnsClient.Proofs.Client.Whereabouts
import TnsClient.Proofs.Crypto.Aes
import TnsClient.Proofs.Crypto.BlockChaining
import TnsClient.Proofs.Decoder.Consumption
import TnsClient.Proofs.Decoder.Messages
import TnsClient.Proofs.Decoder.Packets
import TnsClient.Proofs.Encoder.Calls
import TnsClient.Proofs.Encoder.Execution
import TnsClient.Proofs.Encoder.LengthFields
import TnsClient.Proofs.Encoder.Packets
import TnsClient.Proofs.Link.Agreement
import TnsClient.Proofs.Link.Cancellation
import TnsClient.Proofs.Link.Delivery
import TnsClient.Proofs.Link.Fragments
import TnsClient.Proofs.Link.LobReply
import TnsClient.Proofs.Link.Reading
import TnsClient.Proofs.Link.Repeating
import TnsClient.Proofs.Link.Run
import TnsClient.Proofs.Link.Tickets
import TnsClient.Proofs.Link.Writing
import TnsClient.Proofs.Logon.Challenge
import TnsClient.Proofs.Logon.Demands
import TnsClient.Proofs.Logon.Derivation
import TnsClient.Proofs.Logon.Drawing
import TnsClient.Proofs.Logon.KeyAgreement
import TnsClient.Proofs.Logon.Primitives
import TnsClient.Proofs.Logon.SessionData
import TnsClient.Proofs.Message.Description
import TnsClient.Proofs.Message.ErrorBlock
import TnsClient.Proofs.Number.Acceptance
import TnsClient.Proofs.Number.Centesimal
import TnsClient.Proofs.Number.Decoding
import TnsClient.Proofs.Number.Encoding
import TnsClient.Proofs.Number.Literal
import TnsClient.Proofs.Number.Order
import TnsClient.Proofs.Number.Reading
import TnsClient.Proofs.Number.RoundTrip
import TnsClient.Proofs.Queue.Contents
import TnsClient.Proofs.Queue.Rounds
import TnsClient.Proofs.Queue.Slots
import TnsClient.Proofs.Rows.Form
import TnsClient.Proofs.Rows.Transport
import TnsClient.Proofs.Statement.Decoration
import TnsClient.Proofs.Text.IntegerLiteral
import TnsClient.Proofs.Timestamp.RoundTrip
import TnsClient.Proofs.Wire.Sequence
import TnsClient.Proofs.Wire.Signed
import TnsClient.Proofs.Wire.Skipping
import TnsClient.Statement.Bind
import TnsClient.Statement.Kind
import TnsClient.Statement.Request
import TnsClient.Text.Blank
import TnsClient.Text.Duration
import TnsClient.Text.FloatLiteral
import TnsClient.Text.IntegerLiteral
import TnsClient.Text.Outline
import TnsClient.Text.Shown
import TnsClient.Text.Utf8
import TnsClient.Tls
import TnsClient.Wire.ByteString
import TnsClient.Wire.Decode
import TnsClient.Wire.Integer

import DidMessaging.Bytes
import DidMessaging.Pieces
import DidMessaging.Text.Utf8
import DidMessaging.Text.Radix
import DidMessaging.Text.Positional
import DidMessaging.Text.Multibase
import DidMessaging.Json.Number
import DidMessaging.Json.Printer
import DidMessaging.Json.Tree
import DidMessaging.Json.Record
import DidMessaging.Curve
import DidMessaging.Cipher.Algorithm
import DidMessaging.Error
import DidMessaging.Hash.Hmac
import DidMessaging.Cipher.KeyWrap
import DidMessaging.Cipher.Content
import DidMessaging.Curve.Montgomery
import DidMessaging.Curve.Edwards
import DidMessaging.Curve.Ecdsa
import DidMessaging.Key.Derivation
import DidMessaging.Key.Material
import DidMessaging.Key.Agreement
import DidMessaging.Signature.Algorithm
import DidMessaging.Did.Url
import DidMessaging.Did.Directory
import DidMessaging.Envelope.Jws
import DidMessaging.Envelope.Encryption
import DidMessaging.Message.Id
import DidMessaging.Agent.Packing
import DidMessaging.Agent.Unpacking
import DidMessaging.Samples
import DidMessaging.Proofs.Agent.Plaintext
import DidMessaging.Proofs.Agent.Encrypted
import DidMessaging.Proofs.Agent.Grammar
import DidMessaging.Proofs.Agent.Hiding
import DidMessaging.Proofs.Agent.Authenticity
import DidMessaging.Proofs.Agent.Delivery
import DidMessaging.Proofs.Agent.Rotation
import DidMessaging.Proofs.Envelope.Blame
import DidMessaging.Proofs.Agent.Holding
import DidMessaging.Proofs.Agent.Rewriting
import DidMessaging.Proofs.Agent.RoundTrip
import DidMessaging.Proofs.Agent.Returning
import DidMessaging.Proofs.Agent.Keeping
import DidMessaging.Proofs.Agent.Strictness
import DidMessaging.Proofs.Agent.Purposes
import DidMessaging.Proofs.Agent.Separation
import DidMessaging.Proofs.Agent.Selection
import DidMessaging.Proofs.Agent.Binding
import DidMessaging.Proofs.Agent.Services
import DidMessaging.Proofs.Agent.Routing
import DidMessaging.Proofs.Agent.Matching
import DidMessaging.Proofs.Agent.Signer
import DidMessaging.Proofs.Envelope.Attesting
import DidMessaging.Proofs.Cipher.Canonical
import DidMessaging.Proofs.Did.Syntax
import DidMessaging.Proofs.Agent.Recoding
import DidMessaging.Proofs.Cipher.Authentication
import DidMessaging.Proofs.Envelope.Refusal
import DidMessaging.Proofs.Agent.Disclosure

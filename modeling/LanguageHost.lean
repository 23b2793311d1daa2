import LanguageHost.Rpc.Conversation
import LanguageHost.Scripted.Stage
import LanguageHost.Settings.Encode
import LanguageHost.Supervisor.Child
import LanguageHost.Telemetry
import LanguageHost.Proofs.Wire.Framing
import LanguageHost.Proofs.Rpc.Settlement
import LanguageHost.Proofs.Session.Loss
import LanguageHost.Proofs.Session.Mirror
import LanguageHost.Proofs.Rpc.Answering
import LanguageHost.Proofs.Session.Parting
import LanguageHost.Proofs.Session.Greeting
import LanguageHost.Proofs.Session.GivingUp
import LanguageHost.Proofs.Session.Reporting
import LanguageHost.Proofs.Session.Tracking
import LanguageHost.Proofs.Session.Visits
import LanguageHost.Proofs.Session.Numbering
import LanguageHost.Proofs.Session.Governing
import LanguageHost.Proofs.Rpc.Closing
import LanguageHost.Proofs.Session.Requests
import LanguageHost.Proofs.Session.Scope
import LanguageHost.Proofs.Rpc.Passing
import LanguageHost.Proofs.Session.Posting
import LanguageHost.Proofs.Path.Uri
import LanguageHost.Proofs.Session.Naming
import LanguageHost.Proofs.Session.Ordering
import LanguageHost.Proofs.Session.Aliasing
import LanguageHost.Proofs.Rpc.Positional
import LanguageHost.Proofs.Session.Petitions
import LanguageHost.Proofs.Json.Ordered
import LanguageHost.Proofs.Settings.Overlay
import LanguageHost.Proofs.Settings.Stacking
import LanguageHost.Proofs.Toml.Ordered
import LanguageHost.Proofs.Settings.Fields
import LanguageHost.Proofs.Settings.Loaded
import LanguageHost.Proofs.Settings.Isolation
import LanguageHost.Proofs.Rpc.Writing
import LanguageHost.Proofs.Rpc.Interleaving
import LanguageHost.Proofs.Session.Providing
import LanguageHost.Proofs.Session.Residence
import LanguageHost.Proofs.Feature.History
import LanguageHost.Proofs.Session.Openings
import LanguageHost.Proofs.Wire.Messages
import LanguageHost.Proofs.Settings.Spellings
import LanguageHost.Proofs.Feature.Tokens
import LanguageHost.Proofs.Session.CatchingUp
import LanguageHost.Proofs.Session.Draining
import LanguageHost.Proofs.Supervisor.Expansion
import LanguageHost.Proofs.Path.Decoding
import LanguageHost.Proofs.Feature.Places
import LanguageHost.Proofs.Session.Languages
import LanguageHost.Proofs.Settings.Gathering
import LanguageHost.Proofs.Settings.RoundTrip
import LanguageHost.Proofs.Feature.TokenBits

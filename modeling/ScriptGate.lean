import ScriptGate.Fault.Reader
import ScriptGate.Fleet
import ScriptGate.Host.Recording
import ScriptGate.Main
import ScriptGate.Proofs.Json.Bare
import ScriptGate.Proofs.Json.Canonical
import ScriptGate.Proofs.Json.Literal
import ScriptGate.Proofs.Json.RoundTrip
import ScriptGate.Proofs.Json.Codec
import ScriptGate.Proofs.Answer.Value
import ScriptGate.Proofs.Answer.Diagnostic
import ScriptGate.Proofs.Bridge.Account
import ScriptGate.Proofs.Bridge.Run
import ScriptGate.Proofs.Bridge.Session
import ScriptGate.Proofs.Json.Yield
import ScriptGate.Proofs.Line.Request
import ScriptGate.Proofs.Line.Reply
import ScriptGate.Proofs.Json.Printable
import ScriptGate.Proofs.Line.Service
import ScriptGate.Proofs.Line.Invocation
import ScriptGate.Proofs.Script.Follow
import ScriptGate.Proofs.Script.Follow.Call
import ScriptGate.Proofs.Script.Follow.CallBack
import ScriptGate.Proofs.Script.Follow.Chain
import ScriptGate.Proofs.Script.Follow.Statement
import ScriptGate.Proofs.Script.Grow
import ScriptGate.Proofs.Script.Grow.Statement
import ScriptGate.Proofs.Script.Definitions
import ScriptGate.Proofs.Script.Limits
import ScriptGate.Proofs.Script.Echo
import ScriptGate.Proofs.Answer.Echo
import ScriptGate.Proofs.Bridge.Log
import ScriptGate.Proofs.CommandLine.Sessions
import ScriptGate.Proofs.Debugger.History
import ScriptGate.Proofs.Fleet.Connection
import ScriptGate.Proofs.Fleet.Isolation
import ScriptGate.Proofs.Script.Mirror
import ScriptGate.Proofs.Script.Mirror.Assign
import ScriptGate.Proofs.Script.Mirror.Expression
import ScriptGate.Proofs.Script.Mirror.Statement
import ScriptGate.Proofs.Script.Split
import ScriptGate.Proofs.Script.Split.Run
import ScriptGate.Proofs.Script.Split.Statement
import ScriptGate.Proofs.Script.Footprint
import ScriptGate.Proofs.Script.Outside
import ScriptGate.Proofs.Script.Sizes
import ScriptGate.Proofs.Request.Checks
import ScriptGate.Proofs.Answer.Recording
import ScriptGate.Proofs.CommandLine.Source
import ScriptGate.Proofs.Json.Object
import ScriptGate.Proofs.Line.Port
import ScriptGate.Proofs.Json.Grammar
import ScriptGate.Proofs.Json.Grammar.Text
import ScriptGate.Proofs.Json.Grammar.Container
import ScriptGate.Proofs.Json.Grammar.Value
import ScriptGate.Proofs.Line.Spelling
import ScriptGate.Proofs.Json.Grammar.Skip
import ScriptGate.Proofs.Fault.Members
import ScriptGate.Proofs.Fault.Report
import ScriptGate.Proofs.Json.Unambiguous
import ScriptGate.Proofs.Host.Books
import ScriptGate.Proofs.Answer.Prepared
import ScriptGate.Proofs.Answer.Sentinel

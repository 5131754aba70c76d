import ServiceStack.Machine.Trial
import ServiceStack.Main
import ServiceStack.Script.Session
import ServiceStack.Supervisor.Plan
import ServiceStack.Text.Difference
import ServiceStack.Proofs.Group.Launch
import ServiceStack.Proofs.Trace
import ServiceStack.Proofs.Supervisor.Run
import ServiceStack.Proofs.Script.Custody
import ServiceStack.Proofs.Text.Utf8
import ServiceStack.Proofs.CommandLine.Grammar
import ServiceStack.Proofs.CommandLine.Children
import ServiceStack.Proofs.Program.Request
import ServiceStack.Proofs.Supervisor.Sharing
import ServiceStack.Proofs.Group.Orders
import ServiceStack.Proofs.Group.Sweep
import ServiceStack.Proofs.Log.Account
import ServiceStack.Proofs.Log.Level
import ServiceStack.Proofs.Log.Verbosity
import ServiceStack.Proofs.Text.Lossy
import ServiceStack.Proofs.Invocation.Shown
import ServiceStack.Proofs.CommandLine.Offender
import ServiceStack.Proofs.CommandLine.Understood
import ServiceStack.Proofs.Machine.History
import ServiceStack.Proofs.Machine.Signals
import ServiceStack.Proofs.Text.Encoded
import ServiceStack.Proofs.Text.Quoted
import ServiceStack.Proofs.Failure.Dump
import ServiceStack.Proofs.Invocation.Separator
import ServiceStack.Proofs.Invocation.Words

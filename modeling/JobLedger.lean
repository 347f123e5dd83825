import JobLedger.Attempt
import JobLedger.Attempt.Json
import JobLedger.Cancellation
import JobLedger.Clock
import JobLedger.Event
import JobLedger.Fault
import JobLedger.Host
import JobLedger.Identity
import JobLedger.Ids
import JobLedger.Job
import JobLedger.Json.Cases
import JobLedger.Json.Failure
import JobLedger.Json.Number
import JobLedger.Json.Reader
import JobLedger.Json.Record
import JobLedger.Json.Skip
import JobLedger.Json.Text
import JobLedger.Number.Binary64
import JobLedger.Number.Shortest
import JobLedger.Outcome
import JobLedger.Proofs.Cancellation.Firing
import JobLedger.Proofs.Cancellation.Tokens
import JobLedger.Proofs.Cancellation.Watch
import JobLedger.Proofs.Clock.Manual
import JobLedger.Proofs.Ids.Desk
import JobLedger.Proofs.Ids.Numbering
import JobLedger.Proofs.Job.Calls
import JobLedger.Proofs.Job.Creation
import JobLedger.Proofs.Json.CanonicalStamps
import JobLedger.Proofs.Json.Entries
import JobLedger.Proofs.Json.Exactness
import JobLedger.Proofs.Json.Members
import JobLedger.Proofs.Json.Records
import JobLedger.Proofs.Json.RoundTrip
import JobLedger.Proofs.Json.Spelling
import JobLedger.Proofs.Race.Verdict
import JobLedger.Proofs.Registry.Contents
import JobLedger.Proofs.Registry.Listing
import JobLedger.Proofs.Registry.Vertex
import JobLedger.Proofs.Registry.Writes
import JobLedger.Proofs.Session.Cancels
import JobLedger.Proofs.Session.Change
import JobLedger.Proofs.Session.Ends
import JobLedger.Proofs.Session.Handles
import JobLedger.Proofs.Session.History
import JobLedger.Proofs.Session.Places
import JobLedger.Proofs.Session.Turns
import JobLedger.Proofs.Session.Waiters
import JobLedger.Proofs.Stamps.Ordered
import JobLedger.Proofs.Status.Names
import JobLedger.Proofs.Subject.Absorption
import JobLedger.Proofs.Subject.Agreement
import JobLedger.Proofs.Subject.Attempts
import JobLedger.Proofs.Subject.Coherence
import JobLedger.Proofs.Subject.Completion
import JobLedger.Proofs.Subject.Independence
import JobLedger.Proofs.Subject.Log
import JobLedger.Proofs.Subject.Newest
import JobLedger.Proofs.Subject.PointInTime
import JobLedger.Proofs.Subject.Poison
import JobLedger.Proofs.Subject.Readings
import JobLedger.Proofs.Subject.Replay
import JobLedger.Proofs.Subject.Run
import JobLedger.Proofs.Subject.Schedules
import JobLedger.Proofs.Subject.Succession
import JobLedger.Proofs.Threads.Atomicity
import JobLedger.Proofs.Threads.Machine
import JobLedger.Proofs.Threads.OneByOne
import JobLedger.Proofs.Threads.Statement
import JobLedger.Proofs.Tracker.Calls
import JobLedger.Registry
import JobLedger.Report
import JobLedger.Report.Json
import JobLedger.Session
import JobLedger.Session.Directory
import JobLedger.Session.Request
import JobLedger.Settings
import JobLedger.Settings.Json
import JobLedger.Stamps
import JobLedger.Status
import JobLedger.Status.Parse
import JobLedger.Text.Printable
import JobLedger.Text.Quoted
import JobLedger.Text.WhiteSpace
import JobLedger.Tracker
import JobLedger.Tracker.Race
import JobLedger.Version
import JobLedger.Wait

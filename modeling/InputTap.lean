import InputTap.Capture.Channel
import InputTap.Capture.ConsumePolicy
import InputTap.Capture.Dispatcher
import InputTap.Capture.Fault
import InputTap.Capture.Listener
import InputTap.Capture.Normalizer
import InputTap.Capture.Notice
import InputTap.Capture.RawInput
import InputTap.Capture.Relay
import InputTap.Capture.Replay
import InputTap.Capture.Session
import InputTap.Capture.SessionId
import InputTap.Command.Help
import InputTap.Command.Invocation
import InputTap.Command.Parameter
import InputTap.Command.Program
import InputTap.Command.Reading
import InputTap.Command.SystemReport
import InputTap.Command.Verb
import InputTap.Event.Basic
import InputTap.Event.Line
import InputTap.Event.Verdict
import InputTap.Files.Path
import InputTap.Files.Tree
import InputTap.Key.Code
import InputTap.Key.Layout
import InputTap.Key.Virtual
import InputTap.Log
import InputTap.Main
import InputTap.Mask
import InputTap.Mask.Held
import InputTap.Mask.Tracked
import InputTap.Output
import InputTap.Pointer.Button
import InputTap.Pointer.ClickRun
import InputTap.Pointer.Desktop
import InputTap.Pointer.Point
import InputTap.Post.Gesture
import InputTap.Post.Injector
import InputTap.Post.Poster
import InputTap.Post.Record
import InputTap.Proofs.Delivery
import InputTap.Proofs.Mask.Bits
import InputTap.Proofs.Normalizer.ClickPoint
import InputTap.Proofs.Normalizer.HeldBits
import InputTap.Proofs.Normalizer.Step
import InputTap.Proofs.Normalizer.Undisturbed
import InputTap.Proofs.Run
import InputTap.Proofs.Session.Calls
import InputTap.Proofs.Session.HeldMask
import InputTap.Proofs.Session.Lifecycle
import InputTap.Proofs.Session.Received
import InputTap.Saturate
import InputTap.Settings.Basic
import InputTap.Settings.File
import InputTap.Settings.Text
import InputTap.System
import InputTap.Text.CharLiteral
import InputTap.Text.DefaultIgnorable
import InputTap.Text.GraphemeExtend
import InputTap.Text.Integer
import InputTap.Text.Lines
import InputTap.Text.Numeral
import InputTap.Text.Parser
import InputTap.Text.Ranges
import InputTap.Text.Unprintable
import InputTap.Toml.Document
import InputTap.Toml.Printer
import InputTap.Toml.Quoted
import InputTap.Toml.Scalar
import InputTap.Toml.Value
import InputTap.Proofs.ClickRun.Calls
import InputTap.Proofs.ClickRun.Streak
import InputTap.Proofs.Normalizer.Events
import InputTap.Proofs.Key.Places
import InputTap.Proofs.Post.Records
import InputTap.Proofs.Post.Replay
import InputTap.Proofs.Post.Recapture
import InputTap.Proofs.Key.Typed
import InputTap.Proofs.Normalizer.Locks
import InputTap.Proofs.Normalizer.ModifierKeys
import InputTap.Proofs.Normalizer.History
import InputTap.Proofs.Normalizer.LaterClock
import InputTap.Proofs.Session.Typing
import InputTap.Proofs.Interleaving
import InputTap.Proofs.Normalizer.Streams
import InputTap.Proofs.Post.Transcript
import InputTap.Proofs.Session.Trace
import InputTap.Proofs.Replay.Loop
import InputTap.Proofs.Replay.Accounting
import InputTap.Proofs.Relay.Turns
import InputTap.Proofs.Relay.Delivery
import InputTap.Proofs.ClickRun.Expiry
import InputTap.Proofs.Normalizer.ClickCounts
import InputTap.Proofs.Normalizer.Rises
import InputTap.Proofs.Post.Chord
import InputTap.Proofs.Replay.Course
import InputTap.Proofs.Relay.Policy
import InputTap.Proofs.Session.Alike
import InputTap.Proofs.Replay.Alike
import InputTap.Proofs.Relay.Listening
import InputTap.Proofs.ClickRun.Reports
import InputTap.Proofs.Mask.Held
import InputTap.Proofs.Post.ChordMasks
import InputTap.Proofs.Normalizer.WellFormed
import InputTap.Proofs.Post.Captured
import InputTap.Proofs.Desktop.Axis
import InputTap.Proofs.Desktop.Pixels
import InputTap.Proofs.Post.Wheel
import InputTap.Proofs.Post.Motion
import InputTap.Proofs.Words
import InputTap.Proofs.Routing
import InputTap.Proofs.Key.Names
import InputTap.Proofs.Text.Spelling
import InputTap.Proofs.Event.Line

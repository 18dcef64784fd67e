import LogFollow.Channel
import LogFollow.Scanner
import LogFollow.Main
import LogFollow.Proofs.Header
import LogFollow.Proofs.Scanner.Lines
import LogFollow.Proofs.Scanner.CodeUnits
import LogFollow.Proofs.Scanner.LiteralCuts
import LogFollow.Proofs.Scanner.Pieces
import LogFollow.Proofs.Scanner.Places
import LogFollow.Proofs.Scanner.Safe
import LogFollow.Proofs.Scanner.Stable
import LogFollow.Proofs.Reader.Delivery
import LogFollow.Proofs.Reader.File
import LogFollow.Proofs.Reader.Oversized
import LogFollow.Proofs.Reader.Faults
import LogFollow.Proofs.Reader.Tiling
import LogFollow.Proofs.Reader.Excerpts
import LogFollow.Proofs.Reader.Frame
import LogFollow.Proofs.Reader.Growing
import LogFollow.Proofs.Reader.HeaderLines
import LogFollow.Proofs.Text.Utf8
import LogFollow.Proofs.Text.Breaks
import LogFollow.Proofs.Checkpoint.Form
import LogFollow.Proofs.Checkpoint.Store
import LogFollow.Proofs.Registry.Conservation
import LogFollow.Proofs.Registry.Match
import LogFollow.Proofs.Registry.Choice
import LogFollow.Proofs.Registry.Unambiguous
import LogFollow.Proofs.Follower.Poll
import LogFollow.Proofs.Follower.Files
import LogFollow.Proofs.Follower.Following
import LogFollow.Proofs.Follower.Rotation
import LogFollow.Proofs.Follower.FixedPaths
import LogFollow.Proofs.Follower.Reachable
import LogFollow.Proofs.Follower.Restart
import LogFollow.Proofs.Follower.Paths
import LogFollow.Proofs.Follower.Apart
import LogFollow.Proofs.Follower.Measured
import LogFollow.Proofs.Follower.Emptying
import LogFollow.Proofs.Follower.Kept
import LogFollow.Proofs.Scanner.Progress
import LogFollow.Proofs.Reader.Rebuilt
import LogFollow.Proofs.Reader.Truncated
import LogFollow.Proofs.Reader.Draining
import LogFollow.Proofs.Follower.OldContent
import LogFollow.Proofs.Source.Completion
import LogFollow.Proofs.Reader.Retiring
import LogFollow.Proofs.Finder.Listing
import LogFollow.Proofs.Source.Faithful
import LogFollow.Proofs.Decoder
import LogFollow.Proofs.Config.Running
import LogFollow.Proofs.Event.Record

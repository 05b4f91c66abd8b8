import Linework.CommandLine
import Linework.Config
import Linework.Conversion
import Linework.Document
import Linework.Drawing.Library
import Linework.Expansion.Commons
import Linework.Expansion.Desk
import Linework.Expansion.Machine
import Linework.Expansion.Rehearsal
import Linework.Expansion.Stack
import Linework.Expansion.Strict
import Linework.Expansion.Trace
import Linework.Main
import Linework.Proofs.Assoc
import Linework.Proofs.Conversion
import Linework.Proofs.Decimal.Range
import Linework.Proofs.Drawing.Arrows
import Linework.Proofs.Drawing.Grid
import Linework.Proofs.Drawing.Library
import Linework.Proofs.Drawing.Window
import Linework.Proofs.Expansion.Apart
import Linework.Proofs.Expansion.Budgets
import Linework.Proofs.Expansion.Commons
import Linework.Proofs.Expansion.Course
import Linework.Proofs.Expansion.Cursors
import Linework.Proofs.Expansion.Definition
import Linework.Proofs.Expansion.Desk
import Linework.Proofs.Expansion.Dispatch
import Linework.Proofs.Expansion.Enclosed
import Linework.Proofs.Expansion.Folding
import Linework.Proofs.Expansion.Fragments
import Linework.Proofs.Expansion.Frames
import Linework.Proofs.Expansion.Identifier
import Linework.Proofs.Expansion.Inline
import Linework.Proofs.Expansion.Invariant
import Linework.Proofs.Expansion.Marker
import Linework.Proofs.Expansion.Moves
import Linework.Proofs.Expansion.Opening
import Linework.Proofs.Expansion.Paired
import Linework.Proofs.Expansion.Printed
import Linework.Proofs.Expansion.Reading
import Linework.Proofs.Expansion.Relabelling
import Linework.Proofs.Expansion.Repeats
import Linework.Proofs.Expansion.Runs
import Linework.Proofs.Expansion.Seen
import Linework.Proofs.Expansion.Separator
import Linework.Proofs.Expansion.Stack
import Linework.Proofs.Expansion.Standing
import Linework.Proofs.Expansion.Straight
import Linework.Proofs.Expansion.Strict
import Linework.Proofs.Expansion.Substitution
import Linework.Proofs.Expansion.Termination
import Linework.Proofs.Expansion.Together
import Linework.Proofs.Expansion.Unrolling
import Linework.Proofs.Expansion.Walk
import Linework.Proofs.Fault
import Linework.Proofs.Independence
import Linework.Proofs.Script.Agreement
import Linework.Proofs.Script.Language
import Linework.Proofs.Script.Reference
import Linework.Proofs.Script.Session
import Linework.Proofs.Token.Body
import Linework.Proofs.Token.Closing
import Linework.Proofs.Token.Concatenation
import Linework.Proofs.Token.Delimiter
import Linework.Proofs.Token.Enclosed
import Linework.Proofs.Token.Extraction
import Linework.Proofs.Token.Fused
import Linework.Proofs.Token.Keeping
import Linework.Proofs.Token.Lexical
import Linework.Proofs.Token.Linked
import Linework.Proofs.Token.Nesting
import Linework.Proofs.Token.Passage
import Linework.Proofs.Token.Range
import Linework.Proofs.Token.RoundTrip
import Linework.Proofs.Token.Scan
import Linework.Proofs.Token.Separated
import Linework.Proofs.Token.Shape
import Linework.Proofs.Token.Shelf
import Linework.Proofs.Token.Spelling
import Linework.Proofs.Token.Splice
import Linework.Proofs.Token.Strict
import Linework.Proofs.Token.Workbench
import Linework.Script.Language
import Linework.Script.Session
import Linework.Token.Linked
import Linework.Token.Print
import Linework.Token.Scan
import Linework.Token.Store

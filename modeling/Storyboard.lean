import Storyboard.Number.Writing
import Storyboard.Easing.Lookup
import Storyboard.IntervalMap
import Storyboard.Argument.Reading
import Storyboard.Command.Construction
import Storyboard.Command.Sampling
import Storyboard.Sprite.State
import Storyboard.Board.Step
import Storyboard.Preview.Frame
import Storyboard.Preview.Listing
import Storyboard.Output.Format
import Storyboard.CommandLine.Run
import Storyboard.Sample
import Storyboard.Main
import Storyboard.Proofs.IntervalMap.Breakpoints
import Storyboard.Proofs.IntervalMap.History
import Storyboard.Proofs.FirstAppearance
import Storyboard.Proofs.IntervalMap.Values
import Storyboard.Proofs.Command.Line
import Storyboard.Proofs.Sprite.History
import Storyboard.Proofs.Sprite.Text
import Storyboard.Proofs.Sprite.Span
import Storyboard.Proofs.Command.Agreement
import Storyboard.Proofs.Sprite.Governing
import Storyboard.Proofs.Sprite.Reading
import Storyboard.Proofs.Sprite.StateFromText
import Storyboard.Proofs.Text.Blocks
import Storyboard.Proofs.Command.Display
import Storyboard.Proofs.Sprite.Header
import Storyboard.Proofs.Board.Sections
import Storyboard.Proofs.Sprite.AdditionOrder
import Storyboard.Proofs.Board.DeclarationOrder
import Storyboard.Proofs.Command.Shift
import Storyboard.Proofs.IntervalMap.Rekeying
import Storyboard.Proofs.Sprite.Shift
import Storyboard.Proofs.Board.Shift
import Storyboard.Proofs.Sprite.Lifetime
import Storyboard.Proofs.Board.Chronicle
import Storyboard.Proofs.Board.SectionLayers
import Storyboard.Proofs.Board.Rebuilding
import Storyboard.Proofs.Sprite.Holding
import Storyboard.Proofs.Binary.Magnitude
import Storyboard.Proofs.Preview.Drawing
import Storyboard.Proofs.CommandLine.Outcomes
import Storyboard.Proofs.Binary.Rounding
import Storyboard.Proofs.Binary.Bounds
import Storyboard.Proofs.Easing.Totality
import Storyboard.Proofs.Easing.Eased
import Storyboard.Proofs.Command.Acceptance
import Storyboard.Proofs.Command.ComponentForm
import Storyboard.Board.Call
import Storyboard.Proofs.Board.Refusals
import Storyboard.Proofs.Binary.Order
import Storyboard.Proofs.Command.Channels
import Storyboard.Proofs.Binary.Monotone
import Storyboard.Proofs.Decimal.Reading
import Storyboard.Proofs.Decimal.Search
import Storyboard.Proofs.Decimal.Shortest
import Storyboard.Proofs.Decimal.Numerals
import Storyboard.Proofs.Decimal.Display
import Storyboard.Proofs.Sprite.Independence
import Storyboard.Proofs.Command.Requests
import Storyboard.Proofs.Command.WellFormed
import Storyboard.Proofs.Board.Reindentation
import Storyboard.Proofs.Number.Sums
import Storyboard.Proofs.Easing.Ends
import Storyboard.Proofs.Easing.Names

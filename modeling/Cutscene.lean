import Cutscene.Main
import Cutscene.Reading.Session
import Cutscene.Proofs.LineNumbers
import Cutscene.Proofs.Loading
import Cutscene.Proofs.Concatenation
import Cutscene.Proofs.Numerals
import Cutscene.Proofs.Soundness
import Cutscene.Proofs.Written
import Cutscene.Proofs.ReadBack
import Cutscene.Proofs.RoundTrip
import Cutscene.Proofs.Commands
import Cutscene.Proofs.LineEnds
import Cutscene.Proofs.Failures
import Cutscene.Proofs.Location
import Cutscene.Proofs.Conservation
import Cutscene.Proofs.Nesting
import Cutscene.Proofs.Completion
import Cutscene.Proofs.Insertion
import Cutscene.Proofs.Blocks
import Cutscene.Proofs.Numbers
import Cutscene.Proofs.Outcomes
import Cutscene.Proofs.LookAhead
import Cutscene.Proofs.PageSplit
import Cutscene.Proofs.Progress
import Cutscene.Proofs.Termination
import Cutscene.Proofs.Escapes
import Cutscene.Proofs.JsonReading
import Cutscene.Proofs.Lossless
import Cutscene.Proofs.Delivery
import Cutscene.Proofs.Drawings
import Cutscene.Proofs.Sprites
import Cutscene.Proofs.BoxLines
import Cutscene.Proofs.Sharing
import Cutscene.Proofs.Positions
import Cutscene.Proofs.Tiling
import Cutscene.Proofs.Descriptions
import Cutscene.Proofs.Listings
import Cutscene.Proofs.Skipping
import Cutscene.Proofs.Integers
import Cutscene.Proofs.CheckBoxes
import Cutscene.Proofs.Legibility

import Accessors.Proofs.Command.History
import Accessors.Proofs.CommandLine.RoundTrip
import Accessors.Proofs.Declaration.Below
import Accessors.Proofs.Declaration.Blank
import Accessors.Proofs.Declaration.Clean
import Accessors.Proofs.Declaration.Pattern
import Accessors.Proofs.Declaration.Stem
import Accessors.Proofs.Declaration.Written
import Accessors.Proofs.Editor.Fragment
import Accessors.Proofs.Editor.Neighbours
import Accessors.Proofs.Layout.Reading
import Accessors.Proofs.Plan.Repeat
import Accessors.Proofs.Plan.Words
import Accessors.Proofs.Program.Document
import Accessors.Proofs.Program.Ending
import Accessors.Proofs.Settings.Affix
import Accessors.Proofs.Settings.Partial
import Accessors.Proofs.Text.PositionOrder

import LiveRange.FileTree
import LiveRange.Main
import LiveRange.Proofs.LocationList.Window
import LiveRange.Proofs.Numeral
import LiveRange.Proofs.Text.Lines
import LiveRange.Proofs.Text.Marks
import LiveRange.Proofs.Text.Words
import LiveRange.Proofs.LocationList.Printed
import LiveRange.Proofs.LocationList.PlainLayout
import LiveRange.Proofs.LocationList.ViewPairs
import LiveRange.Proofs.LocationList.LineWindow
import LiveRange.Proofs.Entry.Pairing
import LiveRange.Proofs.SourceTable.Printed
import LiveRange.Proofs.SourceTable.RoundTrip
import LiveRange.Proofs.Told
import LiveRange.Proofs.Entry.Printed
import LiveRange.Proofs.Entry.RoundTrip
import LiveRange.Proofs.Finding
import LiveRange.Proofs.SourceTable.Append
import LiveRange.Proofs.SourceTable.LastRow
import LiveRange.Proofs.SourceTable.Positions
import LiveRange.Proofs.Entry.FirstMatch
import LiveRange.Proofs.Entry.Append
import LiveRange.Proofs.Entry.LocationPlace
import LiveRange.Proofs.SourceTable.Layouts
import LiveRange.Proofs.LocationList.ReusedOffsets
import LiveRange.Proofs.Query
import LiveRange.Proofs.Utf8
import LiveRange.Proofs.Dump.Replay
import LiveRange.Proofs.CommandLine.Request
import LiveRange.Proofs.CommandLine.Outcome
import LiveRange.Proofs.Numeral.Spelling
import LiveRange.Proofs.Text.Standing
import LiveRange.Proofs.SourceTable.Respelled
import LiveRange.Proofs.Entry.Respelled
import LiveRange.Proofs.LocationList.Respelled
import LiveRange.Proofs.Respelled
import LiveRange.Proofs.Entry.TargetSource
import LiveRange.Proofs.Entry.UntrackedValue
import LiveRange.Proofs.Text.Margins
import LiveRange.Proofs.Text.Fields
import LiveRange.Proofs.Text.Relaid
import LiveRange.Proofs.SourceTable.Relaid
import LiveRange.Proofs.Entry.Relaid
import LiveRange.Proofs.LocationList.Relaid
import LiveRange.Proofs.Relaid
import LiveRange.Proofs.Dump.Rendered
import LiveRange.Proofs.Numeral.Reading
import LiveRange.Proofs.UnitName
import LiveRange.Proofs.CommandLine.Items
import LiveRange.Proofs.Entry.LeftmostName

import LineEditor.Main
import LineEditor.Proofs.Command.CarriedSubstitutions
import LineEditor.Proofs.Command.ChosenMatches
import LineEditor.Proofs.Command.MoveDestinations
import LineEditor.Proofs.Command.NumericAddresses
import LineEditor.Proofs.Command.RefusedOperations
import LineEditor.Proofs.Command.RememberedOperations
import LineEditor.Proofs.Command.SearchAddresses
import LineEditor.Proofs.Command.SingleLines
import LineEditor.Proofs.Command.WrittenRanges
import LineEditor.Proofs.CommandLine.LoggedRuns
import LineEditor.Proofs.CommandLine.RepairedSettings
import LineEditor.Proofs.CommandLine.ShownSettings
import LineEditor.Proofs.Execution.MovedLines
import LineEditor.Proofs.Execution.SelectedSubstitutions
import LineEditor.Proofs.Execution.SingleLines
import LineEditor.Proofs.Execution.UndoneSplices
import LineEditor.Proofs.Files.WrittenFiles
import LineEditor.Proofs.Session.CurrentLine
import LineEditor.Proofs.Session.FileUses
import LineEditor.Proofs.Session.LineReaders
import LineEditor.Proofs.Session.OutsideAddresses
import LineEditor.Proofs.Session.ReadingAndRunning
import LineEditor.Proofs.Session.SavedLines
import LineEditor.Proofs.Session.SingleLines
import LineEditor.Proofs.Session.TakenLines
import LineEditor.Proofs.Session.TypedText
import LineEditor.Proofs.Text.EscapedDelimiters

import NameTables.Main
import NameTables.Script.Process
import NameTables.Script.Builtin
import NameTables.Script.Tools
import NameTables.Proofs.Definition.Grammar
import NameTables.Proofs.Artefact.Edits
import NameTables.Proofs.Artefact.Records
import NameTables.Proofs.Artefact.Comment
import NameTables.Proofs.Artefact.Columns
import NameTables.Proofs.Artefact.Slots
import NameTables.Proofs.Literal.Words
import NameTables.Proofs.Table.Stem
import NameTables.Proofs.Table.Contents
import NameTables.Proofs.Table.Interleaving
import NameTables.Proofs.Table.Growth
import NameTables.Proofs.Table.Counts
import NameTables.Proofs.Table.Aliases
import NameTables.Proofs.Table.Finding
import NameTables.Proofs.Artefact.Outcome
import NameTables.Proofs.Artefact.Agreement
import NameTables.Proofs.Artefact.Precedence
import NameTables.Proofs.Artefact.Vector
import NameTables.Proofs.Table.Reported
import NameTables.Proofs.Header.Rule
import NameTables.Proofs.Header.Layout
import NameTables.Proofs.Header.Choice
import NameTables.Proofs.Header.Listed
import NameTables.Proofs.Tool.Processes
import NameTables.Proofs.Header.Resolution
import NameTables.Proofs.Header.SearchList
import NameTables.Proofs.Settings.RoundTrip
import NameTables.Proofs.Settings.Faults
import NameTables.Proofs.Run.Prediction
import NameTables.Proofs.Run.Frame
import NameTables.Proofs.Run.InTurn
import NameTables.Proofs.Run.Delivered
import NameTables.Proofs.Artefact.IndexColumn
import NameTables.Proofs.Literal.Spelling
import NameTables.Proofs.Tool.Detection
import NameTables.Proofs.Tool.Waiting

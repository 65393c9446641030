import LatheGloss.Main
import LatheGloss.Program.Highlight
import LatheGloss.Proofs.Annotator.Columns
import LatheGloss.Proofs.Annotator.CommentSpans
import LatheGloss.Proofs.Annotator.Concatenation
import LatheGloss.Proofs.Annotator.LetterCase
import LatheGloss.Proofs.CodeBook.Commutation
import LatheGloss.Proofs.CodeBook.Offences
import LatheGloss.Proofs.CodeBook.Resolution
import LatheGloss.Proofs.IssueLog
import LatheGloss.Proofs.Launch
import LatheGloss.Proofs.LogSetup
import LatheGloss.Proofs.Program.Ending
import LatheGloss.Proofs.Program.Interleaving
import LatheGloss.Proofs.Program.Rules
import LatheGloss.Proofs.Program.Spans
import LatheGloss.Proofs.Program.WordMarks
import LatheGloss.Proofs.Program.WrittenLine
import LatheGloss.Proofs.Settings.RoundTrip
import LatheGloss.Proofs.Workbench.Agreement
import LatheGloss.Proofs.Workbench.Import
import LatheGloss.Proofs.Workbench.Selection

import LetLens.Main
import LetLens.Proofs.Layout
import LetLens.Proofs.Reading
import LetLens.Proofs.Encoding
import LetLens.Proofs.Grammar
import LetLens.Proofs.Check
import LetLens.Proofs.Extension
import LetLens.Proofs.Relocation
import LetLens.Proofs.Spacing
import LetLens.Proofs.Pending
import LetLens.Proofs.Composition
import LetLens.Proofs.ErrorLines
import LetLens.Proofs.Account
import LetLens.Proofs.Lines
import LetLens.Proofs.Session
import LetLens.Proofs.Transcript
import LetLens.Proofs.Settling
import LetLens.Proofs.Inspection
import LetLens.Proofs.Highlight
import LetLens.Proofs.Drawing
import LetLens.Proofs.Markers
import LetLens.Proofs.Marking
import LetLens.Proofs.Polling
import LetLens.Proofs.Tiling
import LetLens.Proofs.Focus
import LetLens.Proofs.ReadBack
import LetLens.Proofs.Outline
import LetLens.Proofs.Report
import LetLens.Proofs.Scrolling
import LetLens.Proofs.Paging
import LetLens.Proofs.PageKeys
import LetLens.Proofs.Quoting
import LetLens.Proofs.Resumption
import LetLens.Proofs.Runs
import LetLens.Proofs.Slicing
import LetLens.Proofs.TokenRows

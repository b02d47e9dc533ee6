import ThreeAddress.Main
import ThreeAddress.Offsets
import ThreeAddress.Proofs.Line
import ThreeAddress.Proofs.Text.Lines
import ThreeAddress.Xml.Reading
import ThreeAddress.Xml.Sink
import ThreeAddress.Proofs.Operand.Spelling
import ThreeAddress.Proofs.Operand.Reading
import ThreeAddress.Proofs.Instruction
import ThreeAddress.Proofs.Draft.Step
import ThreeAddress.Proofs.Draft.Run
import ThreeAddress.Proofs.Program.Language
import ThreeAddress.Proofs.Draft.Invariant
import ThreeAddress.Proofs.Program.FirstFault
import ThreeAddress.Proofs.Operand.Value
import ThreeAddress.Proofs.Xml.Escape
import ThreeAddress.Proofs.Xml.RoundTrip
import ThreeAddress.Proofs.Draft.Offset
import ThreeAddress.Proofs.Draft.InPlace
import ThreeAddress.Proofs.Draft.ReadingOn
import ThreeAddress.Proofs.Offsets
import ThreeAddress.Proofs.Program.Concatenation
import ThreeAddress.Proofs.Program.Source
import ThreeAddress.Proofs.Program.Internal
import ThreeAddress.Proofs.Line.Layout
import ThreeAddress.Proofs.Draft.SameWords
import ThreeAddress.Proofs.Program.Layout
import ThreeAddress.Xml.WellFormed
import ThreeAddress.Proofs.Xml.WellFormed
import ThreeAddress.Proofs.CommandLine
import ThreeAddress.Proofs.Instruction.Log
import ThreeAddress.Proofs.Draft.Log
import ThreeAddress.Proofs.Program.Log
import ThreeAddress.Proofs.Numeral.Spelling
import ThreeAddress.Proofs.Numeral.Choice
import ThreeAddress.Proofs.Numeral.Value
import ThreeAddress.Proofs.Instruction.Verdict
import ThreeAddress.Proofs.Operand.Expected
import ThreeAddress.Proofs.Operand.Recognition
import ThreeAddress.Proofs.Operand.Recovery
import ThreeAddress.Proofs.Text.CaseImage
import ThreeAddress.Proofs.LetterCase
import ThreeAddress.Proofs.Line.Tiling
import ThreeAddress.Proofs.Text.Joined
import ThreeAddress.Proofs.Program.LineByLine
import ThreeAddress.Proofs.Xml.Sink
import ThreeAddress.Proofs.Diagnostic.Message
import ThreeAddress.Proofs.Diagnostic.Marked
import ThreeAddress.Proofs.Diagnostic.Title
import ThreeAddress.Proofs.Diagnostic.Rows
import ThreeAddress.Proofs.Diagnostic.Excerpt
import ThreeAddress.Proofs.Diagnostic.Frame
import ThreeAddress.Proofs.Diagnostic.Underline
import ThreeAddress.Proofs.Diagnostic.Unpainted
import ThreeAddress.Proofs.Diagnostic.Colour
import ThreeAddress.Proofs.Diagnostic.Range

import ClassroomC.Measure
import ClassroomC.Unicode.Ranges
import ClassroomC.Unicode.Space
import ClassroomC.Unicode.Digit
import ClassroomC.Unicode.WordChar
import ClassroomC.Unicode.Printable
import ClassroomC.Arith
import ClassroomC.Error
import ClassroomC.Text.Quoted
import ClassroomC.Lexer
import ClassroomC.Literal
import ClassroomC.Printf.Escape
import ClassroomC.Verdict
import ClassroomC.Parser.Cursor
import ClassroomC.Syntax
import ClassroomC.Parser.Expr
import ClassroomC.Parser.Stmt
import ClassroomC.Parser.Program
import ClassroomC.Store
import ClassroomC.Eval
import ClassroomC.Printf.Spec
import ClassroomC.Printf.Layout
import ClassroomC.Printf.Render
import ClassroomC.Binding
import ClassroomC.Input.Binary64
import ClassroomC.Input.Raw
import ClassroomC.Limits
import ClassroomC.Machine
import ClassroomC.Exec
import ClassroomC.Validation
import ClassroomC.Exercise
import ClassroomC.Submission
import ClassroomC.CommandLine.Arguments
import ClassroomC.CommandLine.Invocation
import ClassroomC.Main
import ClassroomC.Proofs.Runs
import ClassroomC.Proofs.Pipeline
import ClassroomC.Proofs.Steps
import ClassroomC.Proofs.Cutoff
import ClassroomC.Proofs.Frame
import ClassroomC.Proofs.Marks
import ClassroomC.Proofs.Unmarked
import ClassroomC.Proofs.Layout
import ClassroomC.Proofs.Folding
import ClassroomC.Proofs.Representation
import ClassroomC.Proofs.References
import ClassroomC.Proofs.Brackets
import ClassroomC.Proofs.Pieces
import ClassroomC.Proofs.Masking
import ClassroomC.Proofs.Gate
import ClassroomC.Proofs.Words
import ClassroomC.Proofs.Ring
import ClassroomC.Proofs.Compound
import ClassroomC.Proofs.Precedence
import ClassroomC.Proofs.Numerals
import ClassroomC.Proofs.Jumps
import ClassroomC.Proofs.Refusals
import ClassroomC.Proofs.Printing
import ClassroomC.Proofs.NormalForm
import ClassroomC.Proofs.PrintedLiterals
import ClassroomC.Proofs.EscapeOrder
import ClassroomC.Proofs.StandardFields
import ClassroomC.Proofs.WordValues
import ClassroomC.Proofs.ForWhile
import ClassroomC.Proofs.Termination
import ClassroomC.Proofs.TokenLines
import ClassroomC.Proofs.ClockedReader
import ClassroomC.Proofs.ClockAgreement
import ClassroomC.Proofs.EndOfInput

import PartialCnf.Literal
import PartialCnf.Status
import PartialCnf.Cnf
import PartialCnf.Files
import PartialCnf.Text.Blank
import PartialCnf.Text.Numeral
import PartialCnf.Text.Alphabet
import PartialCnf.Dimacs.Error
import PartialCnf.Dimacs.Lines
import PartialCnf.Dimacs.Reader
import PartialCnf.Dimacs.Writer
import PartialCnf.Dimacs.File
import PartialCnf.Log
import PartialCnf.World
import PartialCnf.Incidence
import PartialCnf.Formula
import PartialCnf.Formula.Report
import PartialCnf.Random.Source
import PartialCnf.Random.Pcg
import PartialCnf.Random.ChaCha
import PartialCnf.Generate
import PartialCnf.Regex.Ast
import PartialCnf.Regex.Error
import PartialCnf.Regex.CharSet
import PartialCnf.Regex.Reader
import PartialCnf.Regex.Parse
import PartialCnf.Regex.Expr
import PartialCnf.Regex.Utf8
import PartialCnf.Regex.Footprint
import PartialCnf.Regex.Automaton
import PartialCnf.Log.Filter
import PartialCnf.Cli.Grammar
import PartialCnf.Cli.Similarity
import PartialCnf.Cli.Usage
import PartialCnf.Cli.Parse
import PartialCnf.Cli.Failure
import PartialCnf.Cli.Program
import PartialCnf.Main
import PartialCnf.Proofs.StatusLoops
import PartialCnf.Proofs.Table
import PartialCnf.Proofs.Evaluation
import PartialCnf.Proofs.Editing
import PartialCnf.Proofs.Numerals
import PartialCnf.Proofs.Lines
import PartialCnf.Proofs.Tokens
import PartialCnf.Proofs.Reader
import PartialCnf.Proofs.RoundTrip
import PartialCnf.Proofs.Backtracking
import PartialCnf.Proofs.Extension
import PartialCnf.Proofs.EvalCommand
import PartialCnf.Proofs.Generation
import PartialCnf.Proofs.LineEndings
import PartialCnf.Proofs.LineByLine
import PartialCnf.Proofs.Kleene
import PartialCnf.Proofs.Bounds

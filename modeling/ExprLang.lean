import ExprLang.Main
import ExprLang.Proofs.Evaluation.StackMachine
import ExprLang.Proofs.Evaluation.Types
import ExprLang.Proofs.Parser.ErrorPlace
import ExprLang.Proofs.Scan.FirstRegistration
import ExprLang.Proofs.Scan.Rejected
import ExprLang.Proofs.Scan.Respacing
import ExprLang.Proofs.Scan.Rounds
import ExprLang.Proofs.Scan.StringContent
import ExprLang.Proofs.SingleExpression
import ExprLang.Proofs.Evaluation.Supported
import ExprLang.Proofs.Parser.Sessions
import ExprLang.Proofs.Parser.Parentheses
import ExprLang.Proofs.Scan.Loops
import ExprLang.Proofs.Scan.Progress
import ExprLang.Proofs.Number.Decimal
import ExprLang.Proofs.Number.Nearest
import ExprLang.Proofs.Number.Bits
import ExprLang.Proofs.Scan.Numerals
import ExprLang.Proofs.PrintedValues
import ExprLang.Proofs.Automaton.Frontiers
import ExprLang.Proofs.Moves
import ExprLang.Proofs.Parser.Moments
import ExprLang.Proofs.Terminators
import ExprLang.Proofs.Parser.Calls
import ExprLang.Proofs.Automaton.Shape
import ExprLang.Proofs.Automaton.Graph
import ExprLang.Proofs.Number.Constants
import ExprLang.Proofs.Scan.OneLiteral
import ExprLang.Proofs.Scan.LiteralLoops
import ExprLang.Proofs.PrintedTrees
import ExprLang.Proofs.CommandLine.Invocations
import ExprLang.Proofs.CommandLine.Jobs
import ExprLang.Proofs.CommandLine.Runs

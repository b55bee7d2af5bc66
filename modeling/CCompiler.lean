import CCompiler.Analysis.Encoding
import CCompiler.Build.Encoding
import CCompiler.Fixtures.Sync
import CCompiler.Main
import CCompiler.Supervisor.Basic
import CCompiler.Syntax.Decoding
import CCompiler.Text.Base64
import CCompiler.World.HostHeaders
import CCompiler.Proofs.Analysis.Evaluators
import CCompiler.Proofs.Analysis.Operands
import CCompiler.Proofs.Analysis.Positions
import CCompiler.Proofs.Build.Tools
import CCompiler.Proofs.Codegen.Discipline
import CCompiler.Proofs.Codegen.Labels
import CCompiler.Proofs.Codegen.Values
import CCompiler.Proofs.Condition.Choices
import CCompiler.Proofs.Condition.Range
import CCompiler.Proofs.Grammar.Grouping
import CCompiler.Proofs.Grammar.RoundTrip
import CCompiler.Proofs.Grammar.Termination
import CCompiler.Proofs.Macro.Arguments
import CCompiler.Proofs.Macro.Pasting
import CCompiler.Proofs.Macro.Quoting
import CCompiler.Proofs.Preprocess.Alignment
import CCompiler.Proofs.Preprocess.Nesting
import CCompiler.Proofs.Preprocess.Search
import CCompiler.Proofs.Queue.Refinement
import CCompiler.Proofs.Types.Limit

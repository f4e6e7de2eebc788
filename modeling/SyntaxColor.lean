import SyntaxColor.Session
import SyntaxColor.CommandLine.Directory
import SyntaxColor.Main
import SyntaxColor.Proofs.Fragment
import SyntaxColor.Proofs.Nesting.Assignment
import SyntaxColor.Proofs.Brackets.Simulation
import SyntaxColor.Proofs.Session
import SyntaxColor.Proofs.Terminal.Painting
import SyntaxColor.Proofs.Operand.Name
import SyntaxColor.Proofs.Operand.Literal
import SyntaxColor.Proofs.Operand.Update
import SyntaxColor.Proofs.Brackets.Hole
import SyntaxColor.Proofs.Token.Alone
import SyntaxColor.Proofs.Token.Lockstep
import SyntaxColor.Proofs.LineBreak
import SyntaxColor.Proofs.Palette.Replacement
import SyntaxColor.Proofs.Listing
import SyntaxColor.Proofs.Grammar.Number
import SyntaxColor.Proofs.Grammar.Regex
import SyntaxColor.Proofs.Grammar.Name
import SyntaxColor.Proofs.Token.Stray
import SyntaxColor.Proofs.Fragment.Empty
import SyntaxColor.Proofs.Brackets.Depth

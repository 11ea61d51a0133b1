import ScopedFormula.Session
import ScopedFormula.Main
import ScopedFormula.Value.Ask
import ScopedFormula.Proofs.Height
import ScopedFormula.Proofs.Evaluation.Order
import ScopedFormula.Proofs.Scopes.Resolution
import ScopedFormula.Proofs.Grammar.Viable
import ScopedFormula.Proofs.Scanning.Reading
import ScopedFormula.Proofs.Scanning.Tiling
import ScopedFormula.Proofs.Scanning.Lossless
import ScopedFormula.Proofs.Scanning.Munch
import ScopedFormula.Proofs.Scanning.Composition
import ScopedFormula.Proofs.Evaluation.Plain
import ScopedFormula.Proofs.Evaluation.Substitution
import ScopedFormula.Proofs.Scopes.Flattening
import ScopedFormula.Proofs.Dialogue
import ScopedFormula.Proofs.IntegerText
import ScopedFormula.Proofs.Scanning.Calls
import ScopedFormula.Proofs.Evaluation.Owners
import ScopedFormula.Proofs.Grammar.Safety
import ScopedFormula.Proofs.Scanning.Faults
import ScopedFormula.Proofs.Value.Exact
import ScopedFormula.Proofs.Value.Integers
import ScopedFormula.Proofs.Value.Dates
import ScopedFormula.Proofs.Value.Extremes
import ScopedFormula.Proofs.Value.Dispatch
import ScopedFormula.Proofs.Value.Equality
import ScopedFormula.Proofs.Value.Mixed
import ScopedFormula.Proofs.Value.Powers
import ScopedFormula.Proofs.Grammar.Agreement
import ScopedFormula.Proofs.Scopes.Definitions

import TagGrammar.Command
import TagGrammar.Main
import TagGrammar.Proofs.Statement
import TagGrammar.Proofs.Declarations
import TagGrammar.Proofs.Flatten
import TagGrammar.Proofs.Acceptance
import TagGrammar.Proofs.Rendering
import TagGrammar.Proofs.Registry.Answers
import TagGrammar.Proofs.Registry.Lookup
import TagGrammar.Proofs.Registry.Lineage
import TagGrammar.Proofs.Registry.Invariant
import TagGrammar.Proofs.Collection
import TagGrammar.Proofs.Compilation
import TagGrammar.Proofs.RoundTrip
import TagGrammar.Proofs.Completions
import TagGrammar.Proofs.Definitions
import TagGrammar.Proofs.Files
import TagGrammar.Proofs.Builtin
import TagGrammar.Proofs.Registry.Standard
import TagGrammar.Proofs.Inputs
import TagGrammar.Proofs.Legibility
import TagGrammar.Proofs.ReadBack
import TagGrammar.Proofs.Registry.Operations
import TagGrammar.Proofs.Registry.Reference
import TagGrammar.Proofs.Registry.History
import TagGrammar.Proofs.Command.Compile
import TagGrammar.Proofs.Command.Outcome
import TagGrammar.Proofs.Caret
import TagGrammar.Proofs.Layout
import TagGrammar.Proofs.Dependence
import TagGrammar.Proofs.Extension
import TagGrammar.Proofs.Registry.Trail
import TagGrammar.Proofs.Ancestors
import TagGrammar.Proofs.SearchPath
import TagGrammar.Proofs.Faults
import TagGrammar.Proofs.Typing
import TagGrammar.Proofs.Suggestions
import TagGrammar.Proofs.Registry.Subtypes
import TagGrammar.Proofs.Describe
import TagGrammar.Proofs.Distribution
import TagGrammar.Proofs.BindingsFile
import TagGrammar.Proofs.Rebinding
import TagGrammar.Proofs.Walk
import TagGrammar.Proofs.Encoding
import TagGrammar.Proofs.Path
import TagGrammar.Proofs.Command.Destination

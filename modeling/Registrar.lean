import Registrar.CommandLine.Program
import Registrar.Bootstrap.Initialization
import Registrar.Gate.Loop
import Registrar.Gate.Rendering
import Registrar.Proofs.Gate.Readiness
import Registrar.Proofs.Container.Dependencies
import Registrar.Proofs.Container.Soundness
import Registrar.Proofs.Container.Agreement
import Registrar.Proofs.Container.Handover
import Registrar.Proofs.Script.Evaluation
import Registrar.Proofs.Script.Isolation
import Registrar.Proofs.Files.Tree
import Registrar.Proofs.Files.Skeleton
import Registrar.Proofs.Files.Places
import Registrar.Proofs.Files.Following
import Registrar.Proofs.Files.Writing
import Registrar.Proofs.Files.Touching
import Registrar.Proofs.Files.Resolving
import Registrar.Proofs.Selection.Expansion
import Registrar.Proofs.Project.Text
import Registrar.Proofs.Project.Work
import Registrar.Proofs.Project.Generation
import Registrar.Proofs.Project.Aftermath
import Registrar.Proofs.Project.Frame
import Registrar.Proofs.Project.Checking
import Registrar.Proofs.Project.Independence
import Registrar.Proofs.Project.Runtime
import Registrar.Proofs.Files.Spelling
import Registrar.Proofs.Selection.Cutting
import Registrar.Proofs.Files.Linkless
import Registrar.Proofs.Selection.Segments
import Registrar.Proofs.Selection.Globbing
import Registrar.Proofs.Selection.Watching
import Registrar.Proofs.Container.Request
import Registrar.Proofs.Container.Steady
import Registrar.Proofs.Script.Following
import Registrar.Proofs.Container.History
import Registrar.Proofs.Container.Resolution
import Registrar.Proofs.Script.Registry
import Registrar.Proofs.Script.Invoking
import Registrar.Bootstrap.Family
import Registrar.Proofs.Bootstrap.Importing
import Registrar.Proofs.Bootstrap.Turn
import Registrar.Proofs.Bootstrap.Family
import Registrar.Proofs.Catalogue.Literals
import Registrar.Proofs.Catalogue.Lines
import Registrar.Proofs.Catalogue.Sections
import Registrar.Proofs.Catalogue.Naming
import Registrar.Proofs.Catalogue.Contributing
import Registrar.Proofs.Catalogue.Collisions
import Registrar.Registration.Execution
import Registrar.Proofs.Registration.Storing
import Registrar.Proofs.Registration.Entering
import Registrar.Proofs.Registration.Forms
import Registrar.Proofs.Registration.Executing
import Registrar.Proofs.Registration.Scanning
import Registrar.Proofs.Registration.Constants
import Registrar.Proofs.Registration.Sites
import Registrar.Proofs.Registration.Exported
import Registrar.Proofs.Registration.Grammar
import Registrar.Proofs.Project.Octets
import Registrar.Proofs.Catalogue.Table
import Registrar.Proofs.Registration.Agreeing
import Registrar.Proofs.Catalogue.Aliases
import Registrar.Proofs.Catalogue.Apart
import Registrar.Proofs.Catalogue.Meaning
import Registrar.Proofs.Catalogue.Evaluating
import Registrar.Proofs.Catalogue.Latest
import Registrar.Proofs.Catalogue.Bindings
import Registrar.Proofs.Text.Composing
import Registrar.Proofs.Parser.Compound
import Registrar.Proofs.Selection.Spellings
import Registrar.Proofs.Selection.Canonical
import Registrar.Proofs.Selection.Rooting
import Registrar.Proofs.Catalogue.Preserving
import Registrar.Proofs.Container.Calm
import Registrar.Proofs.Container.Sharing
import Registrar.Proofs.Script.Arguments
import Registrar.Proofs.Script.Sharing
import Registrar.Proofs.Gate.Bootstraps
import Registrar.Proofs.Gate.Failures
import Registrar.Proofs.CommandLine.Telling
import Registrar.Proofs.Selection.Matching
import Registrar.Proofs.Catalogue.Form
import Registrar.Proofs.Registration.Manners

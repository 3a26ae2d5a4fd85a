import Conform.Attribute
import Conform.Check
import Conform.FileTree
import Conform.Operation
import Conform.Proofs.Channel.Requests
import Conform.Proofs.Check.Agreement
import Conform.Proofs.Check.Substitution
import Conform.Proofs.Number.RoundTrip
import Conform.Proofs.Registry.Commands
import Conform.Proofs.Settings.Application
import Conform.Proofs.Settings.Loading
import Conform.Settings.Application
import Conform.Settings.Catalogue
import Conform.Settings.Environment
import Conform.Settings.File
import Conform.Proofs.Check.Rules
import Conform.Proofs.Registry.Ordering
import Conform.Proofs.Settings.Merging
import Conform.Proofs.Settings.Keys
import Conform.Proofs.Number.CanonicalForm
import Conform.Proofs.Number.Reading
import Conform.Proofs.Number.Integers
import Conform.Proofs.Settings.Inspection
import Conform.Proofs.Settings.FunctionPath
import Conform.Proofs.Registry.Labels
import Conform.Proofs.Check.TypeRules
import Conform.Proofs.Settings.Files
import Conform.Proofs.Settings.Rereading

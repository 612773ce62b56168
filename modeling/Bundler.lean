import Bundler.Path
import Bundler.Files
import Bundler.Literal
import Bundler.Patch
import Bundler.Error
import Bundler.Requires
import Bundler.Text.Shown
import Bundler.Text.Decimal
import Bundler.Json.Printer
import Bundler.Json.Reader
import Bundler.Options.Reader
import Bundler.Options.Printer
import Bundler.Resolver
import Bundler.Extract
import Bundler.Regex.Basic
import Bundler.Loader
import Bundler.Bundle
import Bundler.Graph.Walk
import Bundler.Compilation
import Bundler.Run
import Bundler.Stats
import Bundler.Cli.Command
import Bundler.Main
import Bundler.Proofs.Compilation.Entries
import Bundler.Proofs.Compilation.Linking
import Bundler.Proofs.Graph.Recursion
import Bundler.Proofs.Graph.History
import Bundler.Proofs.Graph.Settled
import Bundler.Proofs.Run
import Bundler.Proofs.Closure
import Bundler.Proofs.Emission
import Bundler.Proofs.Loading.Once
import Bundler.Proofs.Splicing
import Bundler.Proofs.Probing
import Bundler.Proofs.Rewriting
import Bundler.Proofs.Path.Joined
import Bundler.Proofs.Path.Relative
import Bundler.Proofs.Graph.Identity
import Bundler.Proofs.Graph.Reads
import Bundler.Proofs.Graph.Rounds
import Bundler.Proofs.Filenames
import Bundler.Proofs.Data
import Bundler.Proofs.Pipeline

import CrossShell.Main
import CrossShell.Proofs.Catalog.Edits
import CrossShell.Proofs.Catalog.Roles
import CrossShell.Proofs.Command.Agreement
import CrossShell.Proofs.Command.Refusal
import CrossShell.Proofs.Descriptor.Warnings
import CrossShell.Proofs.Nix.Blame
import CrossShell.Proofs.Nix.Colours
import CrossShell.Proofs.Nix.ImportArgument
import CrossShell.Proofs.Nix.Quoting
import CrossShell.Proofs.Nix.ReadBack
import CrossShell.Proofs.Nix.Scope
import CrossShell.Proofs.Nix.Store
import CrossShell.Proofs.Shell.Fish
import CrossShell.Proofs.Shell.Posix
import CrossShell.Proofs.Shell.PowerShell
import CrossShell.Proofs.Starter.Force
import CrossShell.Proofs.Starter.Load
import CrossShell.Proofs.Target.Language
import CrossShell.Proofs.Text.Search
import CrossShell.Proofs.Catalog.Extension
import CrossShell.Proofs.Config.Validation
import CrossShell.Proofs.Script.Border
import CrossShell.Proofs.Target.Combination
import CrossShell.Proofs.Config.Lists
import CrossShell.Proofs.Nix.StoreName
import CrossShell.Proofs.Text.Offset

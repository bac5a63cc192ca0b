import EntitySchema.Main
import EntitySchema.Registry.Written
import EntitySchema.Proofs.Registry.Reachable
import EntitySchema.Proofs.Json.RoundTrip
import EntitySchema.Proofs.Registry.RoundTrip
import EntitySchema.Proofs.Schema.Duplicates
import EntitySchema.Proofs.Schema.Definitions
import EntitySchema.Proofs.Schema.References
import EntitySchema.Proofs.Sdl.Unambiguous
import EntitySchema.Proofs.Sdl.Wrappers
import EntitySchema.Proofs.Registry.Invariant
import EntitySchema.Proofs.Schema.Issues
import EntitySchema.Proofs.Schema.UniqueNames
import EntitySchema.Proofs.Schema.Confinement
import EntitySchema.Proofs.Schema.Exposure
import EntitySchema.Proofs.CommandLine.Directory
import EntitySchema.Proofs.CommandLine.Runs
import EntitySchema.Proofs.CommandLine.Reports
import EntitySchema.Proofs.CommandLine.Verdict
import EntitySchema.Proofs.CommandLine.Warnings
import EntitySchema.Proofs.CommandLine.AllOrNothing
import EntitySchema.Proofs.Json.Respelling
import EntitySchema.Proofs.Json.Spelling
import EntitySchema.Proofs.Registry.Respelling
import EntitySchema.Proofs.Schema.RowFilters
import EntitySchema.Proofs.Schema.Growth
import EntitySchema.Proofs.Filling
import EntitySchema.Proofs.Json.Entries
import EntitySchema.Proofs.Registry.Repetition
import EntitySchema.Proofs.Schema.RegistrationOrder
import EntitySchema.Proofs.Naming
import EntitySchema.Proofs.Schema.Searches
import EntitySchema.Proofs.Schema.TypeNames
import EntitySchema.Proofs.Schema.ValidNames
import EntitySchema.Proofs.Schema.Plurals
import EntitySchema.Proofs.Schema.Splicing
import EntitySchema.Proofs.Schema.KeyFields
import EntitySchema.Proofs.Json.Truncation
import EntitySchema.Proofs.Json.EarlyEnd
import EntitySchema.Proofs.Registry.Truncation

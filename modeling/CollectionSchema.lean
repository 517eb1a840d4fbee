import CollectionSchema.Conformance.Json
import CollectionSchema.Hook.Edit
import CollectionSchema.Json.Parser
import CollectionSchema.Json.Render
import CollectionSchema.Model.Json
import CollectionSchema.Model.TypeText
import CollectionSchema.Proofs.CanonicalNames
import CollectionSchema.Proofs.Conformance.AfterMigration
import CollectionSchema.Proofs.Conformance.Rearrangement
import CollectionSchema.Proofs.DefaultNames
import CollectionSchema.Proofs.Documents.Changes
import CollectionSchema.Proofs.Documents.Tolerance
import CollectionSchema.Proofs.Hooks
import CollectionSchema.Proofs.KindInference
import CollectionSchema.Proofs.Migration.Rollback
import CollectionSchema.Proofs.Migration.Survival
import CollectionSchema.Proofs.Migration.Underway
import CollectionSchema.Proofs.Migration.Verdict
import CollectionSchema.Proofs.Recursion
import CollectionSchema.Proofs.Store
import CollectionSchema.Proofs.Synthesis.Contexts
import CollectionSchema.Proofs.Synthesis.Deepening
import CollectionSchema.Proofs.Synthesis.Indexes
import CollectionSchema.Proofs.Synthesis.Interleaving
import CollectionSchema.Proofs.Synthesis.Parameters
import CollectionSchema.Proofs.Synthesis.Settings
import CollectionSchema.Session
import CollectionSchema.Settings.Environment
import CollectionSchema.Settings.File

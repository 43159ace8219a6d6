import BackupOperator.Api.Types
import BackupOperator.Text.GoPath
import BackupOperator.Api.Names
import BackupOperator.Resolve.StorageLocation
import BackupOperator.Dispatcher.Job
import BackupOperator.Archive.TarGz
import BackupOperator.Storage.Artifact
import BackupOperator.Dispatcher.Reconcile
import BackupOperator.Worker.Run
import BackupOperator.Storage.Files
import BackupOperator.System.Step
import BackupOperator.System.Lifecycle
import BackupOperator.System.StorageAgreement
import BackupOperator.Json.Value
import BackupOperator.Export.Resources
import BackupOperator.Export.Sanitize
import BackupOperator.Export.Documents
import BackupOperator.Export.Snapshots
import BackupOperator.Restore.Apply
import BackupOperator.Restore.Converge
import BackupOperator.Restore.Mapper
import BackupOperator.Restore.Keeps
import BackupOperator.Restore.Namespaces
import BackupOperator.Worker.Pipeline
import BackupOperator.Dispatcher.Validation
import BackupOperator.System.BackupRestore

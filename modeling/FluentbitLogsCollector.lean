import FluentbitLogsCollector.Program.Basic
import FluentbitLogsCollector.Program.Trace
import FluentbitLogsCollector.Model.Objects
import FluentbitLogsCollector.Model.Requests
import FluentbitLogsCollector.Model.Resources
import FluentbitLogsCollector.Model.Wait
import FluentbitLogsCollector.Model.CreateAndStart
import FluentbitLogsCollector.Model.Clean
import FluentbitLogsCollector.Proofs.Wait
import FluentbitLogsCollector.Proofs.Steps
import FluentbitLogsCollector.Proofs.Report
import FluentbitLogsCollector.Proofs.Saga
import FluentbitLogsCollector.Proofs.CreateAndStart
import FluentbitLogsCollector.Proofs.Cluster
import FluentbitLogsCollector.Proofs.Clean
import FluentbitLogsCollector.Proofs.Eviction
import FluentbitLogsCollector.Proofs.PodFiles
import FluentbitLogsCollector.Proofs.Provenance
import FluentbitLogsCollector.Proofs.Lifecycle

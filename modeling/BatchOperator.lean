import BatchOperator.Cluster.Run
import BatchOperator.Config.Document
import BatchOperator.Crd.Registration
import BatchOperator.Main
import BatchOperator.Proofs.Backoff
import BatchOperator.Proofs.Cache.Mutation
import BatchOperator.Proofs.Cache.Replay
import BatchOperator.Proofs.Cache.Resync
import BatchOperator.Proofs.Child.Partition
import BatchOperator.Proofs.Config.Acceptance
import BatchOperator.Proofs.Crd.Registration
import BatchOperator.Proofs.Notification
import BatchOperator.Proofs.Object.Wire
import BatchOperator.Proofs.Polling.Schedule
import BatchOperator.Proofs.Queue.Wakeups
import BatchOperator.Proofs.Reconcile.Budget
import BatchOperator.Proofs.Reconcile.Chronicle
import BatchOperator.Proofs.Reconcile.Cleanup
import BatchOperator.Proofs.Reconcile.Completion
import BatchOperator.Proofs.Reconcile.Convergence
import BatchOperator.Proofs.Reconcile.Failure
import BatchOperator.Proofs.Reconcile.Homecoming
import BatchOperator.Proofs.Reconcile.Independence
import BatchOperator.Proofs.Reconcile.Leftovers
import BatchOperator.Proofs.Reconcile.Outlook
import BatchOperator.Proofs.Reconcile.Quota
import BatchOperator.Proofs.Reconcile.Threshold
import BatchOperator.Proofs.Reconcile.Turns
import BatchOperator.Proofs.Reconcile.Waiting
import BatchOperator.Proofs.Selector.Query
import BatchOperator.Proofs.Worker.Announcements
import BatchOperator.Proofs.Worker.Ledger
import BatchOperator.Proofs.Worker.Relist
import BatchOperator.Proofs.Worker.Retries
import BatchOperator.Simulation.Run

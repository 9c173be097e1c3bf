import Testbed.Proofs.Placement.Document
import Testbed.Provision.Run

/-!
Provisioned runs are read back from their documents, and with them everything that a run leaves behind.
-/

namespace Testbed

open Arrangement

variable {f : Arrangement}

/-! ### Networks and deployments -/

theorem Target.reads (t : Target) : f.Reads ofDocument? t.toDocument t := reads_name t.ofName?_name

theorem Identifier.reads (i : Identifier) : f.Reads ofDocument? i.toDocument i := by
  refine Gets.reads ?_ (by simp)
  refine .field (by simp) (reads_text i.id) ?_
  refine .field (by simp) (reads_text i.name) ?_
  refine .field (by simp) i.target.reads ?_
  exact .pure

theorem Network.reads (n : Network) : f.Reads ofDocument? n.toDocument n := by
  refine Gets.reads ?_ (by simp)
  refine .field (by simp) n.identifier.reads ?_
  refine .field (by simp) (reads_text n.cidr) ?_
  refine .field (by simp) (.list Address.reads n.ips) ?_
  exact .pure

theorem Config.MachineUser.reads (u : MachineUser) : f.Reads ofDocument? u.toDocument u := by
  refine Gets.reads ?_ (by simp)
  refine .field (by simp) (reads_text u.name) ?_
  refine .field (by simp) (reads_texts u.groups) ?_
  refine .field (by simp) (reads_texts u.sshAuthorizedKeys) ?_
  refine .field (by simp) (reads_bool u.mayBeRoot) ?_
  exact .pure

/-- The template of a machine is read back, with the user and the hardware in it. -/
theorem VmTemplate.reads (t : VmTemplate) : f.Reads ofDocument? t.toDocument t := by
  refine Gets.reads ?_ (by simp)
  refine .field (by simp) t.identifier.reads ?_
  refine .field (by simp) t.hardware.reads ?_
  refine .field (by simp) (reads_text t.baseImageId) ?_
  refine .field (by simp) (reads_bool t.hasPublicAddress) ?_
  refine .field (by simp) t.user.reads ?_
  refine .field (by simp) t.address.reads ?_
  refine .field (by simp) (reads_entries t.environment) ?_
  refine .field (by simp) (reads_entries t.labels) ?_
  exact .pure

theorem DeploymentTemplate.reads (t : DeploymentTemplate) : f.Reads ofDocument? t.toDocument t := by
  refine Gets.reads ?_ (by simp)
  refine .field (by simp) t.identifier.reads ?_
  refine .field (by simp) t.network.reads ?_
  refine .field (by simp) (.list VmTemplate.reads t.vms) ?_
  refine .field (by simp) (reads_entries t.metadata) ?_
  exact .pure

theorem ResourceStatus.reads (s : ResourceStatus) : f.Reads ofDocument? s.toDocument s :=
  reads_name s.ofName?_name

theorem Resource.reads (r : Resource) : f.Reads ofDocument? r.toDocument r := by
  refine Gets.reads ?_ (by simp)
  refine .field (by simp) (reads_text r.id) ?_
  refine .field (by simp) (reads_text r.name) ?_
  refine .field (by simp) r.status.reads ?_
  refine .field (by simp) (reads_bool r.ready) ?_
  refine .field (by simp) (reads_bool r.synced) ?_
  refine .nullableField (by simp) (.optional reads_text rfl r.externalId) ?_
  refine .field (by simp) (reads_uint64 r.createdAt) ?_
  refine .field (by simp) (reads_uint64 r.updatedAt) ?_
  exact .pure

/-- A machine is read back from one table with its resource. -/
theorem Vm.reads (v : Vm) : f.Reads ofDocument? v.toDocument v := by
  refine Gets.reads ?_ (by simp)
  refine .field (by simp) v.template.reads ?_
  refine .field (by simp) v.resource.reads ?_
  exact .pure

/-- A deployment is read back with its network and its machines. -/
theorem Deployment.reads (d : Deployment) : f.Reads ofDocument? d.toDocument d := by
  refine Gets.reads ?_ (by simp)
  refine .field (by simp) d.template.reads ?_
  refine .field (by simp) d.network.reads ?_
  refine .field (by simp) (.list Vm.reads d.vms) ?_
  exact .pure

/-! ### Runs -/

/-- The kind of a task is read back from its name. -/
theorem TaskKind.ofName?_name (k : TaskKind) : ofName? k.name = some k := by cases k <;> rfl

theorem TaskKind.reads (k : TaskKind) : f.Reads ofDocument? k.toDocument k := reads_name k.ofName?_name

theorem Task.reads (t : Task) : f.Reads ofDocument? t.toDocument t := by
  refine Gets.reads ?_ (by simp)
  refine .field (by simp) t.kind.reads ?_
  refine .field (by simp) (reads_text t.runId) ?_
  refine .field (by simp) (reads_text t.taskId) ?_
  exact .pure

theorem Worker.reads (w : Worker) : f.Reads ofDocument? w.toDocument w := by
  refine Gets.reads ?_ (by simp)
  refine .field (by simp) (reads_text w.name) ?_
  refine .field (by simp) (.list Task.reads w.acceptableTasks) ?_
  refine .field (by simp) (reads_entries w.metadata) ?_
  exact .pure

theorem PlacedItem.reads (i : PlacedItem) : f.Reads ofDocument? i.toDocument i := by
  refine Gets.reads ?_ (by simp)
  refine .field (by simp) (reads_text i.name) ?_
  refine .field (by simp) (.list Container.reads i.containers) ?_
  refine .field (by simp) i.vmTemplate.reads ?_
  refine .field (by simp) i.worker.reads ?_
  refine .field (by simp) (reads_entries i.metadata) ?_
  exact .pure

theorem DeployedItem.reads (i : DeployedItem) : f.Reads ofDocument? i.toDocument i := by
  refine Gets.reads ?_ (by simp)
  refine .field (by simp) i.item.reads ?_
  refine .field (by simp) i.vm.reads ?_
  exact .pure

/-- A deployed placement is read back with its deployment. -/
theorem DeployedPlacement.reads (p : DeployedPlacement) : f.Reads ofDocument? p.toDocument p := by
  refine Gets.reads ?_ (by simp)
  refine .field (by simp) (.list DeployedItem.reads p.items) ?_
  refine .field (by simp) p.deployment.reads ?_
  refine .field (by simp) p.network.reads ?_
  refine .field (by simp) (reads_text p.connectionString) ?_
  exact .pure

theorem RunContext.reads (r : RunContext) : f.Reads ofDocument? r.toDocument r := by
  refine Gets.reads ?_ (by simp)
  refine .field (by simp) (reads_text r.runId) ?_
  refine .field (by simp) r.target.reads ?_
  exact .pure

theorem QuotaKind.reads (k : QuotaKind) : f.Reads ofDocument? k.toDocument k := reads_name k.ofName?_name

theorem Quota.reads (q : Quota) : f.Reads ofDocument? q.toDocument q := by
  refine Gets.reads ?_ (by simp)
  refine .field (by simp) q.scope.reads ?_
  refine .field (by simp) q.kind.reads ?_
  refine .field (by simp) (reads_int64 q.amount) ?_
  exact .pure

/-- A run is read back, with what of it was given back. -/
theorem ProvisionedRun.reads (r : ProvisionedRun) : f.Reads ofDocument? r.toDocument r := by
  refine Gets.reads ?_ (by simp)
  refine .field (by simp) r.run.reads ?_
  refine .field (by simp) (.list Quota.reads r.quotas) ?_
  refine .field (by simp) r.placement.reads ?_
  refine .field (by simp) (reads_bool r.destroyed) ?_
  refine .field (by simp) (reads_bool r.networkFreed) ?_
  refine .field (by simp) (reads_bool r.quotasFreed) ?_
  exact .pure

/-- Templates, items and runs are read back from their documents, with the fields in the order in which they
are written as well as in the order of their names. -/
theorem written_state_reads_back :
    (∀ t : DatabaseTemplate, DatabaseTemplate.ofDocument? t.toDocument = some t ∧
      DatabaseTemplate.ofDocument? t.toDocument.sorted = some t) ∧
    (∀ i : Item, Item.ofDocument? i.toDocument = some i ∧ Item.ofDocument? i.toDocument.sorted = some i) ∧
    ∀ r : ProvisionedRun, ProvisionedRun.ofDocument? r.toDocument = some r ∧
      ProvisionedRun.ofDocument? r.toDocument.sorted = some r := by
  have template (f : Arrangement) (t : DatabaseTemplate) : f.Reads DatabaseTemplate.ofDocument? _ t := t.reads
  have item (f : Arrangement) (i : Item) : f.Reads Item.ofDocument? _ i := i.reads
  have run (f : Arrangement) (r : ProvisionedRun) : f.Reads ProvisionedRun.ofDocument? _ r := r.reads
  exact ⟨fun t => ⟨template asWritten t, template byName t⟩, fun i => ⟨item asWritten i, item byName i⟩,
    fun r => ⟨run asWritten r, run byName r⟩⟩

end Testbed

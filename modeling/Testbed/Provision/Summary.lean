import Testbed.Provision.Run

/-!
Short documents about runs: what somebody who watches them wants to know, without the templates and
containers that their full documents hold.
-/

namespace Testbed

/-- A short document about a deployment. -/
def Deployment.summary (d : Deployment) : Document :=
  .table [("id", .text d.id), ("ready", .bool d.isReady), ("destroyed", .bool d.isDestroyed),
    ("degraded", .optional (fun r => .text r.name) d.degraded?),
    ("resources", .list (d.resources.map Resource.toDocument))]

/-- A short document about an item of a placement. -/
def PlacedItem.summary (i : PlacedItem) : Document :=
  .table [("name", .text i.name), ("role", .optional .text i.role?),
    ("ip", i.vmTemplate.address.toDocument),
    ("tasks", .texts (i.worker.acceptableTasks.map (·.kind.text))),
    ("public", .bool i.vmTemplate.hasPublicAddress)]

/-- A short document about a placement. -/
def Placement.summary (p : Placement) : Document :=
  .table [("items", .list (p.items.map PlacedItem.summary)),
    ("database", .texts (p.databaseItems.map (·.name))),
    ("stroppy", .optional (fun i => .text i.worker.name) p.loadItem?),
    ("connection_string", .text p.connectionString)]

/-- A short document about a deployed item. -/
def DeployedItem.summary (i : DeployedItem) : Document :=
  .table [("name", .text i.item.name), ("ip", i.vm.template.address.toDocument),
    ("status", i.vm.resource.status.toDocument),
    ("external_id", .optional .text i.vm.resource.externalId)]

/-- A short document about a deployed placement. -/
def DeployedPlacement.summary (p : DeployedPlacement) : Document :=
  .table [("items", .list (p.items.map DeployedItem.summary)),
    ("database", .nat p.databaseItems.length),
    ("stroppy", .optional (fun i => .text i.item.worker.name) p.loadItem?),
    ("cidr", .text p.network.cidr), ("connection_string", .text p.connectionString),
    ("deployment", p.deployment.summary)]

/-- A short document about a run. -/
def ProvisionedRun.summary (r : ProvisionedRun) : Document :=
  .table [("run", r.run.toDocument), ("quotas", .list (r.quotas.map Quota.toDocument)),
    ("placement", r.placement.summary), ("released", .bool r.isReleased)]

end Testbed

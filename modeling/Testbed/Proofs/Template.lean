import Testbed.Proofs.Document
import Testbed.Template

/-!
Templates are read back from their documents.  Each type has one lemma, which goes through the fields in the
order of the reader.  Every field is written, also those that may be left out, so no default is taken.
-/

namespace Testbed

open Arrangement

variable {f : Arrangement}

theorem Hardware.reads (h : Hardware) : f.Reads ofDocument? h.toDocument h := by
  refine Gets.reads ?_ (by simp)
  refine .field (by simp) (reads_uint32 h.cores) ?_
  refine .field (by simp) (reads_uint32 h.memoryGb) ?_
  refine .field (by simp) (reads_uint32 h.diskGb) ?_
  exact .pure

/-- A machine size that may be absent. -/
theorem Hardware.reads_optional (o : Option Hardware) :
    f.Reads (Document.nullable? ofDocument?) (.optional toDocument o) o :=
  .optional reads rfl o

/-! ### Backups -/

/-- A backup tool is read back from its name. -/
theorem BackupTool.ofName?_name (t : BackupTool) : ofName? t.name = some t := by cases t <;> rfl

/-- The place of a backup is read back, whichever it is. -/
theorem BackupStorage.reads (s : BackupStorage) : f.Reads ofDocument? s.toDocument s := by
  cases s with
  | localDirectory path =>
      refine Gets.readsFields ?_ |>.tagged rfl (by simp)
      refine .field (by simp) (reads_text path) ?_
      exact .pure
  | objectStore bucket endpoint folder =>
      refine Gets.readsFields ?_ |>.tagged rfl (by simp)
      refine .field (by simp) (reads_text bucket) ?_
      refine .field (by simp) (reads_text endpoint) ?_
      refine .field (by simp) (reads_text folder) ?_
      exact .pure

/-- How a backup is made is read back from among other fields. -/
theorem BackupConfig.readsFields (c : BackupConfig) : f.ReadsFields ofDocument? c.fields c := by
  refine Gets.readsFields ?_
  refine .field (by simp [fields]) (reads_text c.schedule) ?_
  refine .field (by simp [fields]) (reads_uint32 c.retention) ?_
  refine .field (by simp [fields]) (reads_innerName c.tool.ofName?_name) ?_
  refine .field (by simp [fields]) c.storage.reads ?_
  exact .pure

theorem BackupConfig.reads (c : BackupConfig) : f.Reads ofDocument? c.toDocument c :=
  c.readsFields.reads (by simp [fields])

/-! ### Picodata -/

theorem PicodataSettings.reads (s : PicodataSettings) : f.Reads ofDocument? s.toDocument s := by
  refine Gets.reads ?_ (by simp)
  refine .field (by simp [Table.toDocument]) (reads_entries s.conf) ?_
  exact .pure

theorem PicodataSidecar.reads (s : PicodataSidecar) : f.Reads ofDocument? s.toDocument s := by
  cases s with
  | nodeExporter port =>
      refine Gets.readsFields ?_ |>.tagged rfl (by simp)
      refine .field (by simp) (reads_optional_uint16 port) ?_
      exact .pure
  | httpMetrics port =>
      refine Gets.readsFields ?_ |>.tagged rfl (by simp)
      refine .field (by simp) (reads_optional_uint16 port) ?_
      exact .pure
  | backup config =>
      exact config.readsFields.map _ |>.tagged rfl (by simp [BackupConfig.fields])

/-- A single node is read back from among other fields. -/
theorem PicodataInstance.readsFields (t : PicodataInstance) : f.ReadsFields ofDocument? t.fields t := by
  refine Gets.readsFields ?_
  refine .field (by simp [fields]) t.settings.reads ?_
  refine .field (by simp [fields]) (Hardware.reads_optional t.hardware) ?_
  refine .field (by simp [fields]) (.list PicodataSidecar.reads t.sidecars) ?_
  exact .pure

theorem PicodataTopology.reads (t : PicodataTopology) : f.Reads ofDocument? t.toDocument t := by
  refine Gets.reads ?_ (by simp)
  refine .field (by simp) (reads_uint32 t.nodesCount) ?_
  refine .field (by simp) (Hardware.reads_optional t.nodeHardware) ?_
  refine .field (by simp) t.settings.reads ?_
  refine .field (by simp) (reads_bool t.monitor) ?_
  exact .pure

theorem NodeOverride.reads (o : NodeOverride) : f.Reads ofDocument? o.toDocument o := by
  refine Gets.reads ?_ (by simp)
  refine .field (by simp) (reads_uint32 o.nodeIndex) ?_
  refine .field (by simp) (Hardware.reads_optional o.hardware) ?_
  refine .field (by simp) (.optional PicodataSettings.reads rfl o.settings) ?_
  exact .pure

/-- The scope of a backup of nodes is read back from its name. -/
theorem PicodataScope.ofName?_name (s : PicodataScope) : ofName? s.name = some s := by cases s <;> rfl

theorem PicodataBackupAddon.reads (a : PicodataBackupAddon) : f.Reads ofDocument? a.toDocument a := by
  refine Gets.reads ?_ (by simp)
  refine .field (by simp) (reads_bool a.enabled) ?_
  refine .field (by simp) (.optional (fun s => reads_innerName s.ofName?_name) rfl a.scope) ?_
  refine .field (by simp) (reads_optional_uint32 a.nodeIndex) ?_
  refine .field (by simp) (.optional BackupConfig.reads rfl a.config) ?_
  exact .pure

/-- A cluster of nodes is read back from among other fields. -/
theorem PicodataCluster.readsFields (t : PicodataCluster) : f.ReadsFields ofDocument? t.fields t := by
  have addons : f.Reads (Document.record? (Record.maybe "backup" PicodataBackupAddon.ofDocument?))
      (.table [("backup", .optional PicodataBackupAddon.toDocument t.backup)]) t.backup :=
    Gets.reads (.one (by simp) (.optional PicodataBackupAddon.reads rfl t.backup)) (by simp)
  refine Gets.readsFields ?_
  refine .field (by simp [fields]) (.optional PicodataTopology.reads rfl t.topology) ?_
  refine .field (by simp [fields]) (.list NodeOverride.reads t.nodeOverrides) ?_
  refine .field (by simp [fields]) addons ?_
  exact .pure

/-! ### Postgres -/

/-- A scope is read back from its name. -/
theorem PlacementScope.ofName?_name (s : PlacementScope) : ofName? s.name = some s := by cases s <;> rfl

/-- Where an addon runs is read back, on nodes or on items of its own. -/
theorem AddonPlacement.reads (p : AddonPlacement) : f.Reads ofDocument? p.toDocument p := by
  cases p with
  | colocate scope replicaIndex =>
      refine Gets.readsFields ?_ |>.tagged rfl (by simp)
      refine .field (by simp) (reads_innerName scope.ofName?_name) ?_
      refine .field (by simp) (reads_optional_uint32 replicaIndex) ?_
      exact .pure
  | dedicated instancesCount hardware =>
      refine Gets.readsFields ?_ |>.tagged rfl (by simp)
      refine .field (by simp) (reads_uint32 instancesCount) ?_
      refine .field (by simp) (Hardware.reads_optional hardware) ?_
      exact .pure

/-- A storage engine is read back from its name. -/
theorem StorageEngine.ofName?_name (e : StorageEngine) : ofName? e.name = some e := by cases e <;> rfl

theorem PostgresSettings.reads (s : PostgresSettings) : f.Reads ofDocument? s.toDocument s := by
  have patroni : f.Reads (Document.record? (Record.fieldWith false "enabled" Document.bool?))
      (.table [("enabled", .bool s.patroni)]) s.patroni :=
    Gets.reads (.one (by simp) (reads_bool s.patroni)) (by simp)
  refine Gets.reads ?_ (by simp)
  refine .field (by simp) (reads_uint32 s.version) ?_
  refine .field (by simp) (reads_innerName s.storageEngine.ofName?_name) ?_
  refine .field (by simp) patroni ?_
  refine .field (by simp [Table.toDocument]) (reads_entries s.conf) ?_
  exact .pure

theorem PostgresSidecar.reads (s : PostgresSidecar) : f.Reads ofDocument? s.toDocument s := by
  cases s with
  | nodeExporter port =>
      refine Gets.readsFields ?_ |>.tagged rfl (by simp)
      refine .field (by simp) (reads_optional_uint16 port) ?_
      exact .pure
  | postgresExporter port paths =>
      refine Gets.readsFields ?_ |>.tagged rfl (by simp)
      refine .field (by simp) (reads_optional_uint16 port) ?_
      refine .field (by simp) (reads_texts paths) ?_
      exact .pure
  | backup config =>
      exact config.readsFields.map _ |>.tagged rfl (by simp [BackupConfig.fields])

/-- A single server is read back from among other fields. -/
theorem PostgresInstance.readsFields (t : PostgresInstance) : f.ReadsFields ofDocument? t.fields t := by
  refine Gets.readsFields ?_
  refine .field (by simp [fields]) t.settings.reads ?_
  refine .field (by simp [fields]) (Hardware.reads_optional t.hardware) ?_
  refine .field (by simp [fields]) (.list PostgresSidecar.reads t.sidecars) ?_
  exact .pure

theorem PostgresTopology.reads (t : PostgresTopology) : f.Reads ofDocument? t.toDocument t := by
  refine Gets.reads ?_ (by simp)
  refine .field (by simp) t.settings.reads ?_
  refine .field (by simp) (Hardware.reads_optional t.masterHardware) ?_
  refine .field (by simp) (Hardware.reads_optional t.replicaHardware) ?_
  refine .field (by simp) (reads_uint32 t.replicasCount) ?_
  refine .field (by simp) (reads_bool t.monitor) ?_
  exact .pure

theorem ReplicaOverride.reads (o : ReplicaOverride) : f.Reads ofDocument? o.toDocument o := by
  refine Gets.reads ?_ (by simp)
  refine .field (by simp) (reads_uint32 o.replicaIndex) ?_
  refine .field (by simp) (Hardware.reads_optional o.hardware) ?_
  refine .field (by simp) (.optional PostgresSettings.reads rfl o.settings) ?_
  exact .pure

theorem EtcdAddon.reads (a : EtcdAddon) : f.Reads ofDocument? a.toDocument a := by
  refine Gets.reads ?_ (by simp)
  refine .field (by simp) (reads_uint32 a.size) ?_
  refine .field (by simp) (.optional AddonPlacement.reads rfl a.placement) ?_
  refine .field (by simp) (reads_optional_uint16 a.clientPort) ?_
  refine .field (by simp) (reads_bool a.monitor) ?_
  exact .pure

/-- The mode of a pooler is read back from its name. -/
theorem PoolMode.ofName?_name (m : PoolMode) : ofName? m.name = some m := by cases m <;> rfl

theorem PgbouncerAddon.reads (a : PgbouncerAddon) : f.Reads ofDocument? a.toDocument a := by
  refine Gets.reads ?_ (by simp)
  refine .field (by simp) (reads_bool a.enabled) ?_
  refine .field (by simp) (reads_uint32 a.poolSize) ?_
  refine .field (by simp) (reads_innerName a.poolMode.ofName?_name) ?_
  refine .field (by simp) (reads_optional_uint32 a.maxClientConn) ?_
  refine .field (by simp) (reads_optional_uint16 a.port) ?_
  refine .field (by simp) (.optional AddonPlacement.reads rfl a.placement) ?_
  refine .field (by simp) (reads_bool a.monitor) ?_
  exact .pure

theorem BackupAddon.reads (a : BackupAddon) : f.Reads ofDocument? a.toDocument a := by
  refine Gets.reads ?_ (by simp)
  refine .field (by simp) (reads_bool a.enabled) ?_
  refine .field (by simp) (.optional (fun s => reads_innerName s.ofName?_name) rfl a.scope) ?_
  refine .field (by simp) (reads_optional_uint32 a.replicaIndex) ?_
  refine .field (by simp) (.optional BackupConfig.reads rfl a.config) ?_
  exact .pure

/-- The addons of a cluster are read back, with those that are absent. -/
theorem PostgresAddons.reads (a : PostgresAddons) : f.Reads ofDocument? a.toDocument a := by
  refine Gets.reads ?_ (by simp)
  refine .field (by simp) (.optional EtcdAddon.reads rfl a.etcd) ?_
  refine .field (by simp) (.optional PgbouncerAddon.reads rfl a.pgbouncer) ?_
  refine .field (by simp) (.optional BackupAddon.reads rfl a.backup) ?_
  exact .pure

/-- A cluster of servers is read back from among other fields. -/
theorem PostgresCluster.readsFields (t : PostgresCluster) : f.ReadsFields ofDocument? t.fields t := by
  refine Gets.readsFields ?_
  refine .field (by simp [fields]) (.optional PostgresTopology.reads rfl t.topology) ?_
  refine .field (by simp [fields]) (.list ReplicaOverride.reads t.replicaOverrides) ?_
  refine .field (by simp [fields]) t.addons.reads ?_
  exact .pure

/-! ### Databases -/

/-- A template is read back, whichever kind it is. -/
theorem DatabaseTemplate.reads (t : DatabaseTemplate) : f.Reads ofDocument? t.toDocument t := by
  cases t with
  | postgresInstance t =>
      exact t.readsFields.map _ |>.tagged rfl (by simp [PostgresInstance.fields])
  | postgresCluster t =>
      exact t.readsFields.map _ |>.tagged rfl (by simp [PostgresCluster.fields])
  | picodataInstance t =>
      exact t.readsFields.map _ |>.tagged rfl (by simp [PicodataInstance.fields])
  | picodataCluster t =>
      exact t.readsFields.map _ |>.tagged rfl (by simp [PicodataCluster.fields])

end Testbed

import Testbed.Placement.Item
import Testbed.Proofs.Block
import Testbed.Proofs.Template

/-!
Items are read back from their documents, with everything that runs on them.
-/

namespace Testbed

open Arrangement

variable {f : Arrangement}

/-- An address is read back from its text. -/
theorem Address.parse?_text (a : Address) : parse? a.text = some a := by
  have read : AddressText.dotted? false (a.text.toList ++ []) = some (a, []) :=
    a.dotted?_text false (by simp)
  rw [List.append_nil] at read
  rw [parse?, read]

theorem Address.reads (a : Address) : f.Reads ofDocument? a.toDocument a := by
  rw [Reads, toDocument, f.leaf rfl, ofDocument?, Document.text?, Option.bind_some, parse?_text]

theorem ContainerPort.reads (p : ContainerPort) : f.Reads ofDocument? p.toDocument p := by
  refine Gets.reads ?_ (by simp)
  refine .field (by simp) (reads_text p.name) ?_
  refine .field (by simp) (reads_uint16 p.containerPort) ?_
  exact .pure

theorem VolumeMount.reads (v : VolumeMount) : f.Reads ofDocument? v.toDocument v := by
  refine Gets.reads ?_ (by simp)
  refine .field (by simp) (reads_text v.name) ?_
  refine .field (by simp) (reads_text v.mountPath) ?_
  exact .pure

/-- The role of a server is read back from its name. -/
theorem PostgresRole.ofName?_name (r : PostgresRole) : ofName? r.name = some r := by cases r <;> rfl

/-- The kind of an exporter is read back from its name. -/
theorem ExporterKind.ofName?_name (k : ExporterKind) : ofName? k.name = some k := by cases k <;> rfl

/-- What a container runs is read back, whichever case it is. -/
theorem Runtime.reads (r : Runtime) : f.Reads ofDocument? r.toDocument r := by
  cases r with
  | postgres role replicaIndex settings =>
      refine Gets.readsFields ?_ |>.tagged rfl (by simp)
      refine .field (by simp) (reads_innerName role.ofName?_name) ?_
      refine .field (by simp) (reads_uint32 replicaIndex) ?_
      refine .field (by simp) settings.reads ?_
      exact .pure
  | picodata nodeIndex settings =>
      refine Gets.readsFields ?_ |>.tagged rfl (by simp)
      refine .field (by simp) (reads_uint32 nodeIndex) ?_
      refine .field (by simp) settings.reads ?_
      exact .pure
  | etcd memberIndex clusterSize clientPort peerPort =>
      refine Gets.readsFields ?_ |>.tagged rfl (by simp)
      refine .field (by simp) (reads_uint32 memberIndex) ?_
      refine .field (by simp) (reads_uint32 clusterSize) ?_
      refine .field (by simp) (reads_uint16 clientPort) ?_
      refine .field (by simp) (reads_uint16 peerPort) ?_
      exact .pure
  | pgbouncer poolSize poolMode maxClientConn port =>
      refine Gets.readsFields ?_ |>.tagged rfl (by simp)
      refine .field (by simp) (reads_uint32 poolSize) ?_
      refine .field (by simp) (reads_innerName poolMode.ofName?_name) ?_
      refine .nullableField (by simp) (reads_optional_uint32 maxClientConn) ?_
      refine .field (by simp) (reads_uint16 port) ?_
      exact .pure
  | exporter kind port paths =>
      refine Gets.readsFields ?_ |>.tagged rfl (by simp)
      refine .field (by simp) (reads_innerName kind.ofName?_name) ?_
      refine .field (by simp) (reads_uint16 port) ?_
      refine .field (by simp) (reads_texts paths) ?_
      exact .pure
  | backup config =>
      refine Gets.readsFields ?_ |>.tagged rfl (by simp)
      refine .field (by simp) config.reads ?_
      exact .pure

/-- A container is read back with all that it runs. -/
theorem Container.reads (c : Container) : f.Reads ofDocument? c.toDocument c := by
  refine Gets.reads ?_ (by simp)
  refine .field (by simp) (reads_text c.id) ?_
  refine .field (by simp) (reads_text c.name) ?_
  refine .field (by simp) (reads_text c.image) ?_
  refine .field (by simp) (reads_texts c.command) ?_
  refine .field (by simp) (reads_texts c.args) ?_
  refine .field (by simp) (reads_entries c.env) ?_
  refine .field (by simp) (.list ContainerPort.reads c.ports) ?_
  refine .field (by simp) (.list VolumeMount.reads c.volumes) ?_
  refine .field (by simp) (reads_entries c.metadata) ?_
  refine .field (by simp) (reads_bool c.monitor) ?_
  refine .field (by simp) c.runtime.reads ?_
  exact .pure

/-- An item is read back with all its containers. -/
theorem Item.reads (i : Item) : f.Reads ofDocument? i.toDocument i := by
  refine Gets.reads ?_ (by simp)
  refine .field (by simp) (reads_text i.name) ?_
  refine .field (by simp) i.hardware.reads ?_
  refine .nullableField (by simp) (.optional Address.reads rfl i.address) ?_
  refine .field (by simp) (.list Container.reads i.containers) ?_
  refine .field (by simp) (reads_entries i.metadata) ?_
  exact .pure

end Testbed

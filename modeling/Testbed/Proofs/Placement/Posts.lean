import Testbed.Proofs.Placement.Layout

/-!
What the containers of a placement are there for, and how they are called after it.

The passes of planning name their containers on their own: after the item, after the number of a member or
of a pooler, or after a count of backups.  A post says what a container is for.  The names of containers
and of volumes are written from posts, with a front and a back that tell the kind of the post, and with at
most one number between them, so containers of different posts share neither a name nor a volume.

An item is staffed if its containers fill different posts.  `Staff` keeps the posts that have been given
out in a predicate, and a container may join as long as it fills a post that nobody holds.
-/

namespace Testbed

/-! ### Written names -/

namespace Text

/-- The characters of a text that are no digits. -/
def letters (text : String) : List Char := text.toList.filter fun c => !c.isDigit

/-- The digits of a text. -/
def digits (text : String) : List Char := text.toList.filter fun c => c.isDigit

/-- The letters of two texts are the letters of both together. -/
theorem letters_append (a b : String) : letters (a ++ b) = letters a ++ letters b := by
  simp [letters]

/-- The digits of two texts are the digits of both together. -/
theorem digits_append (a b : String) : digits (a ++ b) = digits a ++ digits b := by
  simp [digits]

/-- A text without digits is all letters. -/
theorem letters_of_plain {text : String} (plain : digits text = []) : letters text = text.toList := by
  apply List.filter_eq_self.2
  intro c mem
  simpa using List.filter_eq_nil_iff.1 plain c mem

/-- A number, where there is one. -/
def ofNumber (number : Option Nat) : String := number.elim "" toString

/-- A name with a number in it, or without. -/
def numbered (front : String) (number : Option Nat) (back : String) : String :=
  front ++ ofNumber number ++ back

/-- A number is written in digits only. -/
theorem isDigit_of_mem_ofNumber {number : Option Nat} {c : Char} (mem : c ∈ (ofNumber number).toList) :
    c.isDigit = true := by
  cases number with
  | none => cases mem
  | some n =>
      have digit : c ∈ Nat.toDigits 10 n := by simpa [ofNumber, ToString.toString] using mem
      exact Nat.isDigit_of_mem_toDigits (by decide) (by decide) digit

/-- There is no letter in a number. -/
theorem letters_ofNumber (number : Option Nat) : letters (ofNumber number) = [] := by
  apply List.filter_eq_nil_iff.2
  intro c mem
  simp [isDigit_of_mem_ofNumber mem]

/-- A number is all digits. -/
theorem digits_ofNumber (number : Option Nat) : digits (ofNumber number) = (ofNumber number).toList :=
  List.filter_eq_self.2 fun _ => isDigit_of_mem_ofNumber

/-- A number that may be absent is known by how it is written. -/
theorem ofNumber_injective {m n : Option Nat} (same : ofNumber m = ofNumber n) : m = n := by
  have written : ∀ k : Nat, toString k ≠ "" := by
    intro k
    simp [← String.toList_inj, ToString.toString]
  cases m with
  | none =>
      cases n with
      | none => rfl
      | some n => exact absurd same.symm (written n)
  | some m =>
      cases n with
      | none => exact absurd same (written m)
      | some n => simpa [ofNumber] using same

/-- A name without further digits is read back: what is written around the number, and the number. -/
theorem numbered_injective {front back front' back' : String} {number number' : Option Nat}
    (plain : digits (front ++ back) = []) (plain' : digits (front' ++ back') = [])
    (same : numbered front number back = numbered front' number' back') :
    front ++ back = front' ++ back' ∧ number = number' := by
  have letters_same := congrArg letters same
  have digits_same := congrArg digits same
  simp only [numbered, letters_append, letters_ofNumber, List.append_nil] at letters_same
  rw [← letters_append, ← letters_append, letters_of_plain plain, letters_of_plain plain',
    String.toList_inj] at letters_same
  rw [digits_append, List.append_eq_nil_iff] at plain plain'
  simp only [numbered, digits_append, digits_ofNumber, plain, plain', List.nil_append, List.append_nil,
    String.toList_inj] at digits_same
  exact ⟨letters_same, ofNumber_injective digits_same⟩

end Text

/-! ### Posts -/

/-- The kinds of items. -/
inductive SeatKind where
  | master
  | replica
  | node
  | dedicated (addon : Addon)
deriving DecidableEq

namespace SeatKind

/-- How the names of the items of a kind begin. -/
def front : SeatKind → String
  | .master => "postgres-master"
  | .replica => "postgres-replica-"
  | .node => "picodata-node-"
  | .dedicated addon => addon.name ++ "-dedicated-"

def all : List SeatKind :=
  [.master, .replica, .node, .dedicated .etcd, .dedicated .pgbouncer, .dedicated .backup]

/-- The list of all kinds of seats is complete. -/
theorem mem_all (k : SeatKind) : k ∈ all := by
  cases k with
  | dedicated addon => cases addon <;> decide
  | _ => decide

end SeatKind

/-- An item that a placement may have, by its kind and by the number in its name. -/
structure Seat where
  kind : SeatKind
  number : Option Nat

/-- The name of an item. -/
def Seat.name (s : Seat) : String := Text.numbered s.kind.front s.number ""

/-- The kinds of what containers are there for. -/
inductive PostKind where
  | engine (seat : SeatKind)
  | nodeExporter (seat : SeatKind)
  | serverExporter (seat : SeatKind)
  | agent (seat : SeatKind)
  | member
  | pooler
  | poolerExporter
  /-- An agent that is named after its number. -/
  | numberedAgent
deriving DecidableEq

namespace PostKind

/-- How the names of the containers of a kind begin. -/
def front : PostKind → String
  | .engine seat => seat.front
  | .nodeExporter seat => "node-exporter-" ++ seat.front
  | .serverExporter seat => "postgres-exporter-" ++ seat.front
  | .agent seat => "backup-" ++ seat.front
  | .member => "etcd-"
  | .pooler => "pgbouncer-"
  | .poolerExporter => "pgbouncer-exporter-"
  | .numberedAgent => "picodata-backup-"

/-- How the names of the containers of a kind end. -/
def back : PostKind → String
  | .engine _ => "-container"
  | _ => ""

/-- How the name of a volume ends, where there may be one. -/
def volumeBack : PostKind → Option String
  | .engine .node => some "-data"
  | .engine _ => some "-pgdata"
  | .agent _ => some "-data"
  | .member => some "-data"
  | .numberedAgent => some "-data"
  | _ => none

def all : List PostKind :=
  SeatKind.all.map engine ++ SeatKind.all.map nodeExporter ++ SeatKind.all.map serverExporter ++
    SeatKind.all.map agent ++ [member, pooler, poolerExporter, numberedAgent]

/-- The list of all kinds of posts is complete. -/
theorem mem_all (k : PostKind) : k ∈ all := by
  cases k <;> simp [all, SeatKind.mem_all]

/-- The names of a kind without their numbers. -/
def label (k : PostKind) : String := k.front ++ k.back

/-- The names of the volumes of a kind without their numbers. -/
def volumeLabel (k : PostKind) : Option String := k.volumeBack.map (k.front ++ ·)

/-- There is no digit in the label of a kind. -/
theorem digits_label (k : PostKind) : Text.digits k.label = [] := by
  have every : ∀ k ∈ all, Text.digits k.label = [] := by decide +kernel
  exact every k k.mem_all

/-- Kinds of posts are told apart by their labels. -/
theorem label_injective {a b : PostKind} (same : a.label = b.label) : a = b := by
  have distinct : (all.map label).Nodup := by decide +kernel
  exact List.inj_on_of_nodup_map distinct a.mem_all b.mem_all same

/-- There is no digit in the label of a volume. -/
theorem digits_volumeLabel {k : PostKind} {x : String} (h : k.volumeLabel = some x) : Text.digits x = [] := by
  have every : ∀ k ∈ all, ∀ x ∈ k.volumeLabel, Text.digits x = [] := by decide +kernel
  exact every k k.mem_all x h

/-- Kinds of posts are told apart by the labels of their volumes. -/
theorem volumeLabel_injective {a b : PostKind} {x : String} (ha : a.volumeLabel = some x)
    (hb : b.volumeLabel = some x) : a = b := by
  have distinct : ((all.filter (·.volumeLabel.isSome)).map volumeLabel).Nodup := by decide +kernel
  have listed : ∀ {k : PostKind}, k.volumeLabel = some x → k ∈ all.filter (·.volumeLabel.isSome) :=
    fun h => List.mem_filter.2 ⟨mem_all _, by rw [h]; rfl⟩
  exact List.inj_on_of_nodup_map distinct (listed ha) (listed hb) (ha.trans hb.symm)

end PostKind

/-- What a container is there for, by its kind and by the number in its name. -/
structure Post where
  kind : PostKind
  number : Option Nat
deriving DecidableEq

namespace Post

/-- The name of a container. -/
def name (p : Post) : String := Text.numbered p.kind.front p.number p.kind.back

/-- The name of the volume of a container. -/
def volume (p : Post) : Option String := p.kind.volumeBack.map (Text.numbered p.kind.front p.number)

/-- A post on a seat is its kind and its number. -/
theorem eq_of_kind {p q : Post} (kind : p.kind = q.kind) (number : p.number = q.number) : p = q := by
  cases p
  cases q
  cases kind
  cases number
  rfl

/-- Posts are told apart by their names, on all seats together. -/
theorem name_injective {p q : Post} (same : p.name = q.name) : p = q := by
  obtain ⟨label, number⟩ := Text.numbered_injective p.kind.digits_label q.kind.digits_label same
  exact eq_of_kind (PostKind.label_injective label) number

/-- Posts are told apart by their volumes, on all seats together. -/
theorem volume_injective {p q : Post} {v : String} (hp : p.volume = some v) (hq : q.volume = some v) :
    p = q := by
  obtain ⟨x, hx, rfl⟩ := Option.map_eq_some_iff.1 hp
  obtain ⟨y, hy, same⟩ := Option.map_eq_some_iff.1 hq
  have label_p : p.kind.volumeLabel = some (p.kind.front ++ x) := by rw [PostKind.volumeLabel, hx]; rfl
  have label_q : q.kind.volumeLabel = some (q.kind.front ++ y) := by rw [PostKind.volumeLabel, hy]; rfl
  obtain ⟨label, number⟩ := Text.numbered_injective (PostKind.digits_volumeLabel label_q)
    (PostKind.digits_volumeLabel label_p) same
  exact eq_of_kind (PostKind.volumeLabel_injective label_p (label ▸ label_q)) number.symm

end Post

/-! ### Containers and their posts -/

namespace Container

/-- Whether a container watches the machine that an item runs on. -/
def isNodeExporter (c : Container) : Bool :=
  match c.runtime with
  | .exporter .node _ _ => true
  | _ => false

/-- A container is there for a post: it has the name of the post, at most the volume of the post, and it
watches a machine if that is what the post is about. -/
structure Fills (c : Container) (p : Post) : Prop where
  name : c.name = p.name
  volumes : (c.volumes.map (·.name)).Sublist p.volume.toList
  watches : c.isNodeExporter = true ↔ ∃ seat, p.kind = .nodeExporter seat

/-- Two containers share neither a name nor a volume. -/
structure Apart (c d : Container) : Prop where
  names : c.name ≠ d.name
  volumes : (c.volumes.map (·.name)).Disjoint (d.volumes.map (·.name))

namespace Fills

variable {c d : Container} {p q : Post}

/-- A container that watches no machine, for a post that is not about that. -/
theorem of_other (name : c.name = p.name) (volumes : (c.volumes.map (·.name)).Sublist p.volume.toList)
    (watches : c.isNodeExporter = false) (kind : ∀ seat, p.kind ≠ .nodeExporter seat) : c.Fills p := by
  refine ⟨name, volumes, iff_of_false (by simp [watches]) ?_⟩
  rintro ⟨seat, same⟩
  exact kind seat same

/-- A container fills one post only. -/
theorem unique (h : c.Fills p) (h' : c.Fills q) : p = q := Post.name_injective (h.name.symm.trans h'.name)

/-- The volume of a container is that of its post. -/
theorem volume_of_mem (h : c.Fills p) {v : String} (mem : v ∈ c.volumes.map (·.name)) :
    p.volume = some v := Option.mem_toList.1 (h.volumes.subset mem)

/-- No container mounts a volume twice. -/
theorem nodup_volumes (h : c.Fills p) : (c.volumes.map (·.name)).Nodup := by
  apply h.volumes.nodup
  cases p.volume with
  | none => exact List.nodup_nil
  | some v => exact List.nodup_singleton v

/-- Containers that are there for different posts share nothing. -/
theorem apart (h : c.Fills p) (h' : d.Fills q) (different : p ≠ q) : c.Apart d := by
  constructor
  · intro same
    exact different (Post.name_injective (h.name.symm.trans (same.trans h'.name)))
  · intro v here there
    exact different (Post.volume_injective (h.volume_of_mem here) (h'.volume_of_mem there))

end Fills

end Container

namespace Text

/-- A text before a numbered one is part of its front. -/
theorem append_numbered (a front : String) (number : Option Nat) (back : String) :
    a ++ numbered front number back = numbered (a ++ front) number back := by
  simp only [numbered, String.append_assoc]

/-- A text behind a numbered one is part of its back. -/
theorem numbered_append (front : String) (number : Option Nat) (back b : String) :
    numbered front number back ++ b = numbered front number (back ++ b) := by
  simp only [numbered, String.append_assoc]

end Text

namespace Post

variable {p : Post}

/-- A volume that is named after its container. -/
theorem volume_of_back {x : String} (back : p.kind.back = "") (h : p.kind.volumeBack = some x) :
    p.volume = some (p.name ++ x) := by
  rw [volume, h, name, Text.numbered_append, back, String.empty_append]
  rfl

/-- A backup agent has at most one volume, which is named after it. -/
theorem fills_backupAgent (image : String) (config : BackupConfig) (back : p.kind.back = "")
    (volume : p.kind.volumeBack = some "-data") (kind : ∀ seat, p.kind ≠ .nodeExporter seat) :
    (Container.backupAgent p.name image config).Fills p := by
  have mounted : [p.name ++ "-data"].Sublist p.volume.toList := by
    rw [volume_of_back back volume]
    exact List.Sublist.refl _
  rw [Container.backupAgent]
  split
  · exact .of_other rfl mounted rfl kind
  · exact .of_other rfl (List.nil_sublist _) rfl kind

/-- What a numbered member of the configuration store is there for. -/
def member (n : Nat) : Post := ⟨.member, some n⟩

/-- What a numbered pooler is there for. -/
def pooler (n : Nat) : Post := ⟨.pooler, some n⟩

/-- What the exporter of a numbered pooler is there for. -/
def poolerExporter (n : Nat) : Post := ⟨.poolerExporter, some n⟩

/-- What a numbered backup agent is there for. -/
def numberedAgent (n : Nat) : Post := ⟨.numberedAgent, some n⟩

/-- A post whose label ends with its number has it at the end of its name. -/
theorem name_of_back (back : p.kind.back = "") {n : Nat} (number : p.number = some n) :
    p.name = p.kind.front ++ toString n := by
  rw [name, Text.numbered, back, number, String.append_empty]
  rfl

/-- A member of the configuration store fills the post of its number. -/
theorem fills_member (etcd : EtcdAddon) (n : Nat) (clusterSize : UInt32) :
    (Postgres.etcdContainer etcd n clusterSize).Fills (member n) := by
  have named : (member n).name = "etcd-" ++ toString n := name_of_back rfl rfl
  have mounted : [(member n).name ++ "-data"].Sublist (member n).volume.toList := by
    rw [volume_of_back (p := member n) rfl rfl]
    exact List.Sublist.refl _
  rw [named] at mounted
  exact .of_other named.symm mounted rfl nofun

theorem fills_pooler (pgbouncer : PgbouncerAddon) (n : Nat) :
    (Postgres.poolerContainer pgbouncer n).Fills (pooler n) := by
  have named : (pooler n).name = "pgbouncer-" ++ toString n := name_of_back rfl rfl
  rw [Postgres.poolerContainer]
  split
  · exact .of_other named.symm (List.Sublist.refl []) rfl nofun
  · exact .of_other named.symm (List.Sublist.refl []) rfl nofun

theorem fills_poolerExporter (n : Nat) :
    (Container.pgbouncerExporter (toString n)).Fills (poolerExporter n) :=
  .of_other (name_of_back (p := poolerExporter n) rfl rfl).symm (List.Sublist.refl []) rfl nofun

theorem fills_numberedAgent (n : Nat) (config : BackupConfig) :
    (Picodata.backupContainer n config).Fills (numberedAgent n) := by
  have named : (numberedAgent n).name = s!"picodata-backup-{n}" := name_of_back rfl rfl
  rw [Picodata.backupContainer, ← named]
  exact fills_backupAgent _ config rfl rfl nofun

end Post

namespace Seat

variable (s : Seat)

/-- What the engine of an item is there for. -/
def engine : Post := ⟨.engine s.kind, s.number⟩

/-- What the exporter of an item's machine is there for. -/
def nodeExporter : Post := ⟨.nodeExporter s.kind, s.number⟩

/-- What the exporter of an item's server is there for. -/
def serverExporter : Post := ⟨.serverExporter s.kind, s.number⟩

/-- What the backup agent of an item is there for. -/
def agent : Post := ⟨.agent s.kind, s.number⟩

/-- What a seat is there for is named after it. -/
theorem name_engine : s.engine.name = s.name ++ "-container" := by
  rw [name, Text.numbered_append]
  rfl

/-- What watches a seat is named after it. -/
theorem name_nodeExporter : s.nodeExporter.name = "node-exporter-" ++ s.name := by
  rw [name, Text.append_numbered]
  rfl

/-- What watches the server on a seat is named after the seat. -/
theorem name_serverExporter : s.serverExporter.name = "postgres-exporter-" ++ s.name := by
  rw [name, Text.append_numbered]
  rfl

/-- The backup agent on a seat is named after it. -/
theorem name_agent : s.agent.name = "backup-" ++ s.name := by
  rw [name, Text.append_numbered]
  rfl

/-- What watches a seat fills its post. -/
theorem fills_nodeExporter (port : Option UInt16) :
    (Container.nodeExporter s.name port).Fills s.nodeExporter :=
  ⟨s.name_nodeExporter.symm, List.Sublist.refl [], iff_of_true rfl ⟨s.kind, rfl⟩⟩

theorem fills_serverExporter (port : Option UInt16) (paths : List String) :
    (Container.postgresExporter s.name port paths).Fills s.serverExporter := by
  have named := s.name_serverExporter.symm
  rw [Container.postgresExporter]
  split
  · exact .of_other named (List.Sublist.refl []) rfl nofun
  · exact .of_other named (List.Sublist.refl []) rfl nofun

theorem fills_agent (image : String) (config : BackupConfig) :
    (Container.backupAgent s!"backup-{s.name}" image config).Fills s.agent := by
  have named : s.agent.name = s!"backup-{s.name}" := s.name_agent
  rw [← named]
  exact Post.fills_backupAgent image config rfl rfl nofun

/-- The volume of an engine. -/
theorem volume_engine {back : String} (h : s.engine.kind.volumeBack = some back) :
    s.engine.volume = some (s.name ++ back) := by
  rw [Post.volume, h, name, Text.numbered_append, String.empty_append]
  rfl

/-- A server fills the post of its seat. -/
theorem fills_server (server : s.engine.kind.volumeBack = some "-pgdata") (role : PostgresRole)
    (index : Nat) (settings : PostgresSettings) (monitor : Bool) :
    (Postgres.serverContainer s.name role index settings monitor).Fills s.engine := by
  have named := s.name_engine.symm
  have mounted : [s.name ++ "-pgdata"].Sublist s.engine.volume.toList := by
    rw [s.volume_engine server]
    exact List.Sublist.refl _
  rw [Postgres.serverContainer]
  split
  · exact .of_other named mounted rfl nofun
  · exact .of_other named mounted rfl nofun

/-- A node fills the post of its seat. -/
theorem fills_node (node : s.engine.kind.volumeBack = some "-data") (index : Nat)
    (settings : PicodataSettings) (monitor : Bool) :
    (Picodata.nodeContainer s.name index settings monitor).Fills s.engine := by
  have mounted : [s.name ++ "-data"].Sublist s.engine.volume.toList := by
    rw [s.volume_engine node]
    exact List.Sublist.refl _
  exact .of_other s.name_engine.symm mounted rfl nofun

end Seat

/-! ### Staffed items -/

namespace Item

/-- The containers of an item fill different posts, of those that have been given out. -/
structure Staff (item : Item) (Given : Post → Prop) : Prop where
  filled : ∀ c ∈ item.containers, ∃ p, Given p ∧ c.Fills p
  apart : item.containers.Pairwise Container.Apart

namespace Staff

variable {item : Item} {Given Given' : Post → Prop} {c : Container} {p : Post}

/-- An item on which nothing runs is staffed by whatever was given. -/
theorem of_empty (h : item.containers = []) : item.Staff Given := by
  constructor
  · rw [h]
    exact List.forall_mem_nil _
  · rw [h]
    exact .nil

/-- Staff that was given some posts was given more of them. -/
theorem mono (h : item.Staff Given) (more : ∀ p, Given p → Given' p) : item.Staff Given' := by
  refine ⟨fun c mem => ?_, h.apart⟩
  obtain ⟨p, given, fills⟩ := h.filled c mem
  exact ⟨p, more p given, fills⟩

/-- A container joins for a post that nobody fills. -/
theorem join (h : item.Staff Given) (fills : c.Fills p) (given : Given p)
    (vacant : ∀ d ∈ item.containers, ¬ d.Fills p) : (item.addContainer c).Staff Given := by
  constructor
  · intro d mem
    rcases List.mem_append.1 mem with old | new
    · exact h.filled d old
    · obtain rfl := List.mem_singleton.1 new
      exact ⟨p, given, fills⟩
  · apply List.pairwise_append.2
    refine ⟨h.apart, List.pairwise_singleton _ _, fun d mem e new => ?_⟩
    obtain rfl := List.mem_singleton.1 new
    obtain ⟨q, -, fills'⟩ := h.filled d mem
    refine fills'.apart fills ?_
    rintro rfl
    exact vacant d mem fills'

/-- A post that is given out with the container that fills it. -/
theorem join_new (h : item.Staff Given) (fills : c.Fills p) (fresh : ¬ Given p) (given : Given' p)
    (more : ∀ q, Given q → Given' q) : (item.addContainer c).Staff Given' := by
  refine (h.mono more).join fills given fun d mem fills' => ?_
  obtain ⟨q, given_q, fills_q⟩ := h.filled d mem
  exact fresh (fills'.unique fills_q ▸ given_q)

/-- A container whose name nobody has joins for its post. -/
theorem join_of_name (h : item.Staff Given) (fills : c.Fills p) (given : Given p)
    (unnamed : item.hasContainer c.name = false) : (item.addContainer c).Staff Given := by
  refine h.join fills given fun d mem fills' => ?_
  have other := List.any_eq_false.1 unnamed d mem
  exact other (decide_eq_true (fills'.name.trans fills.name.symm))

/-- A machine that is not watched yet gets an exporter. -/
theorem watch {s : Seat} (h : item.Staff Given) (named : item.name = s.name) (given : Given s.nodeExporter) :
    (Postgres.ensureNodeExporter item).Staff Given := by
  rw [Postgres.ensureNodeExporter]
  split
  · exact h
  · next unwatched =>
      rw [named]
      refine h.join (s.fills_nodeExporter none) given fun d mem fills => unwatched ?_
      exact List.any_eq_true.2 ⟨d, mem, fills.watches.2 ⟨_, rfl⟩⟩

/-- No item is watched twice, if the only machine to be watched on it is its own. -/
theorem watched_once (h : item.Staff Given) {watcher : String}
    (own : ∀ p, Given p → ∀ seat, p.kind = .nodeExporter seat → p.name = watcher) :
    (item.containers.filter Container.isNodeExporter).length ≤ 1 := by
  have apart := h.apart.sublist (List.filter_sublist (p := Container.isNodeExporter))
  have named : ∀ c ∈ item.containers.filter Container.isNodeExporter, c.name = watcher := by
    intro c mem
    obtain ⟨listed, watches⟩ := List.mem_filter.1 mem
    obtain ⟨p, given, fills⟩ := h.filled c listed
    obtain ⟨seat, kind⟩ := fills.watches.1 watches
    exact fills.name.trans (own p given seat kind)
  match watchers : item.containers.filter Container.isNodeExporter with
  | [] => exact Nat.zero_le _
  | [_] => exact Nat.le_refl _
  | c :: d :: rest =>
      rw [watchers] at apart named
      have different := (List.rel_of_pairwise_cons apart List.mem_cons_self).names
      exact absurd ((named c (by simp)).trans (named d (by simp)).symm) different

end Staff

end Item

/-- The containers of items that are staffed from different posts share nothing. -/
theorem containers_apart {items : List Item} {Given : String → Post → Prop}
    (distinct : (items.map Item.name).Nodup) (staffed : ∀ item ∈ items, item.Staff (Given item.name))
    (single : ∀ p x y, Given x p → Given y p → x = y) :
    (items.flatMap (·.containers)).Pairwise Container.Apart := by
  apply List.pairwise_flatMap.2
  refine ⟨fun item mem => (staffed item mem).apart, ?_⟩
  apply (List.pairwise_map.1 distinct).imp_of_mem
  intro i j mem_i mem_j different c mem_c d mem_d
  obtain ⟨p, given, fills⟩ := (staffed i mem_i).filled c mem_c
  obtain ⟨q, given', fills'⟩ := (staffed j mem_j).filled d mem_d
  refine fills.apart fills' ?_
  rintro rfl
  exact different (single p _ _ given given')

end Testbed

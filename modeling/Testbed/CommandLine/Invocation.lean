import Testbed.CommandLine.Arguments
import Testbed.Quota

/-!
The commands of the program and their options.
-/

namespace Testbed

/-- What the program is told to do. -/
inductive Command where
  /-- Place the template of a file on a network that is not reserved. -/
  | plan (template : String) (target : Target)
  /-- Reserve a network with some addresses. -/
  | reserveNetwork (target : Target) (count : Nat)
  /-- Give a network back. -/
  | freeNetwork (target : Target) (cidr : String)
  /-- Show what is left of all quotas. -/
  | showQuotas
  | reserveQuota (quota : Quota)
  | freeQuota (quota : Quota)
  /-- Provision the run of a file, and take it down. -/
  | provision (request : String) (target : Target) (dry : Bool)
deriving Repr, Inhabited, DecidableEq

/-- A command, and what it is to be run with. -/
structure Invocation where
  /-- The settings file, if there is one. -/
  config : Option String
  /-- Where state is kept, if not where the settings say. -/
  dataDir : Option String
  command : Command
deriving Repr, Inhabited, DecidableEq

namespace Invocation

/-- The name of a target on the command line. -/
def targetName : Target → String
  | .docker => "docker"
  | .yandexCloud => "yandex-cloud"

/-- The name of a quota kind on the command line. -/
def kindName : QuotaKind → String
  | .vm => "vm"
  | .subnet => "subnet"
  | .publicAddress => "public-ip"

/-- The options of every command. -/
def everywhere : List OptionForm :=
  [⟨"config", some 'c', some .path, false⟩, ⟨"data-dir", none, some .path, false⟩,
    ⟨"log-format", none, some (.oneOf ["text", "json"]), false⟩]

/-- The option that names a target. -/
def targetOption (required : Bool) : OptionForm :=
  ⟨"target", none, some (.oneOf (Target.all.map targetName)), required⟩

/-- The options that describe a quota. -/
def quotaOptions : List OptionForm :=
  [targetOption true, ⟨"kind", none, some (.oneOf (QuotaKind.all.map kindName)), true⟩,
    ⟨"amount", none, some .signed, false⟩]

/-- The commands of the program. -/
def form : CommandForm :=
  .mk "" []
    [.mk "plan" [⟨"template", some 't', some .path, true⟩, targetOption false] [],
     .mk "reserve-network" [targetOption false, ⟨"count", none, some .unsigned, false⟩] [],
     .mk "free-network" [targetOption false, ⟨"cidr", none, some .text, true⟩] [],
     .mk "quota" []
      [.mk "show" [] [], .mk "reserve" quotaOptions [], .mk "free" quotaOptions []],
     .mk "provision" [⟨"request", some 'r', some .path, true⟩, targetOption false,
      ⟨"dry-run", none, none, false⟩] []]

/-- The last value of an option. -/
def value? (options : List (String × String)) (name : String) : Option String :=
  (options.reverse.find? (·.1 = name)).map (·.2)

/-- The target that was named; nobody has to name the first one. -/
def target (options : List (String × String)) : Target :=
  (Target.all.find? fun t => value? options "target" = some (targetName t)).getD .docker

/-- The quota that was described; one unit, unless an amount was given. -/
def quota (options : List (String × String)) : Option Quota := do
  let kind ← QuotaKind.all.find? fun k => value? options "kind" = some (kindName k)
  let amount ← Text.readInt64? ((value? options "amount").getD "1").toList
  pure ⟨target options, kind, amount⟩

/-- The command of a path with its options. -/
def command? (options : List (String × String)) : List String → Option Command
  | ["plan"] => (value? options "template").map (.plan · (target options))
  | ["reserve-network"] =>
    (Text.readUnsigned? UInt64.size ((value? options "count").getD "3").toList).map
      (.reserveNetwork (target options))
  | ["free-network"] => (value? options "cidr").map (.freeNetwork (target options))
  | ["quota", "show"] => some .showQuotas
  | ["quota", "reserve"] => (quota options).map .reserveQuota
  | ["quota", "free"] => (quota options).map .freeQuota
  | ["provision"] =>
    (value? options "request").map
      (.provision · (target options) (value? options "dry-run").isSome)
  | _ => none

/-- What a command line tells the program to do, or what else it is. -/
def read (args : List String) : Arguments × Option Invocation :=
  match Arguments.read everywhere form args with
  | .command path options =>
    (.command path options, (command? options path).map fun command =>
      { config := value? options "config", dataDir := value? options "data-dir", command })
  | other => (other, none)

end Invocation

end Testbed

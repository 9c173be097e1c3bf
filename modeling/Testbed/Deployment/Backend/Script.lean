import Testbed.Deployment.Backend
import Testbed.Document.Record

/-!
A backend that answers from a script.  For every call and every name of a resource, the script has a list
of answers, which are given one after the other; the last one is given again and again.  A call that the
script does not mention succeeds, and observes nothing ready.
-/

namespace Testbed

/-- An answer of a script. -/
inductive ScriptedAnswer where
  | notFound
  | backendFails
  | pollFails
  | succeeds (observation : Observation)
deriving Repr, Inhabited, DecidableEq

/-- Read an answer.  What is not said about an observation does not hold. -/
def ScriptedAnswer.ofDocument? : Document → Option ScriptedAnswer := Document.record? do
  match ← Record.maybe "error" Document.text? with
  | some "not_found" => pure .notFound
  | some "backend" => pure .backendFails
  | some "join" => pure .pollFails
  | some _ => failure
  | none =>
    let ready ← Record.fieldWith false "ready" Document.bool?
    let synced ← Record.fieldWith false "synced" Document.bool?
    let externalId ← Record.maybe "external_id" Document.text?
    pure (.succeeds { ready, synced, externalId })

/-- The state of a scripted backend. -/
structure Script where
  /-- The answers that are left, by call and name. -/
  answers : Table (List ScriptedAnswer)
  /-- The calls that were made, in order. -/
  calls : List String
deriving Repr, DecidableEq

namespace Script

/-- A script that has not been used. -/
def new (answers : Table (List ScriptedAnswer)) : Script := ⟨answers, []⟩

/-- Read a script: a table from calls with names to answers. -/
def ofDocument? (d : Document) : Option Script :=
  (d.entries? (Document.list? ScriptedAnswer.ofDocument?)).map new

/-- The answers that are left after one was given. -/
def rest : List ScriptedAnswer → List ScriptedAnswer
  | _ :: next :: later => next :: later
  | last => last

/-- Give the next answer to a call. -/
def answer (call : String) (r : Resource) (s : Script) : Except DeployError Observation × Script :=
  let key := s!"{call} {r.name}"
  let list := (s.answers.get? key).getD []
  let s := { s with
    calls := s.calls ++ [key]
    answers := if list.isEmpty then s.answers else s.answers.insert key (rest list) }
  match list.head? with
  | none => (.ok ⟨false, false, none⟩, s)
  | some (.succeeds observation) => (.ok observation, s)
  | some .notFound => (.error (.notFound r.name), s)
  | some .backendFails => (.error (.backend s!"{key} failed"), s)
  | some .pollFails => (.error (.pollFailed s!"{key} failed"), s)

/-- Give the next answer to a call that observes nothing. -/
def acknowledge (call : String) (r : Resource) (s : Script) : Except DeployError Unit × Script :=
  let (answer, s) := s.answer call r
  (answer.map fun _ => (), s)

/-- The scripted backend. -/
def backend : Backend Script where
  create r s := s.acknowledge "create" r
  observe r s := s.answer "observe" r
  delete r s := s.acknowledge "delete" r

end Script

end Testbed

import Testbed.Deployment.Error
import Testbed.Deployment.Resource

/-!
Backends.  A backend creates, observes and deletes single resources.  It is given by its answers: for
every call and every state of the backend, an answer and the next state.  Nothing else is known about it,
except that it answers `notFound` for a resource that it does not keep.
-/

namespace Testbed

/-- What a backend says about a resource. -/
structure Observation where
  ready : Bool
  synced : Bool
  externalId : Option String
deriving Repr, Inhabited, DecidableEq

/-- A backend with states in `σ`. -/
structure Backend (σ : Type) where
  create : Resource → σ → Except DeployError Unit × σ
  observe : Resource → σ → Except DeployError Observation × σ
  delete : Resource → σ → Except DeployError Unit × σ

namespace Backend

variable {σ : Type}

/-- Delete a resource; one that the backend does not keep is deleted already. -/
def remove (b : Backend σ) (r : Resource) (s : σ) : Except DeployError Unit × σ :=
  match b.delete r s with
  | (.error (.notFound _), s) => (.ok (), s)
  | answer => answer

/-- Delete resources one after the other, whatever the answers. -/
def removeAll (b : Backend σ) (resources : List Resource) (s : σ) : σ :=
  resources.foldl (fun s r => (b.remove r s).2) s

/-- Answer as one of two backends does, whichever the state belongs to. -/
def either {τ : Type} (b : Backend σ) (c : Backend τ) : Backend (σ ⊕ τ) :=
  let choose {α : Type} (left : σ → Except DeployError α × σ) (right : τ → Except DeployError α × τ) :
      σ ⊕ τ → Except DeployError α × (σ ⊕ τ)
    | .inl s => let (answer, s) := left s; (answer, .inl s)
    | .inr t => let (answer, t) := right t; (answer, .inr t)
  { create := fun r => choose (b.create r) (c.create r)
    observe := fun r => choose (b.observe r) (c.observe r)
    delete := fun r => choose (b.delete r) (c.delete r) }

end Backend

end Testbed

import Kanban.Api

/-!
# Frameworks

Requests arrive in some form `ρ` at a web framework.  Of each it either makes a call of a handler,
with what the handler is told of the request, or it answers by a page of its own, such as that
there is nothing under an address.  `Api.serve` serves requests with a framework, of which only
`Framework.Documented` is relied upon.
-/

namespace Kanban.Api

/-- What a framework does with a request. -/
inductive Dispatch where
  /-- It calls the handler of an endpoint. -/
  | call (e : Endpoint) (r : Request)
  /-- It answers with a page of its own. -/
  | page (status : Nat)

/-- What stands between the handlers and the requests as they arrive. -/
structure Framework (ρ : Type) where
  method : ρ → Method
  dispatch : ρ → Dispatch

/-- What is known of a framework. -/
structure Framework.Documented {ρ : Type} (F : Framework ρ) : Prop where
  /-- A handler is called by the method of its endpoint; what can be got is also called for its
  head. -/
  method : ∀ x e r, F.dispatch x = .call e r →
    F.method x = e.method ∨ F.method x = .head ∧ e.method = .get
  /-- The pages of the framework are not those of a server at fault. -/
  page : ∀ x status, F.dispatch x = .page status → status < 500
  /-- The value that a handler is told is the one that some text writes, or `null`. -/
  value : ∀ x e r, F.dispatch x = .call e r → r.value = .null ∨ ∃ s, Json.read? s = some r.value

variable {ρ β : Type} [Backend β]

/-- Does what a request asks for.  The reply to a request for the head goes without its content. -/
def serve (F : Framework ρ) (k : Keeper β) (src : Source) (x : ρ) : Reply × Keeper β :=
  match F.dispatch x with
  | .call e r =>
    let (reply, k) := handle k src r e
    (if F.method x = .head then reply.head else reply, k)
  | .page status => (.page status, k)

end Kanban.Api

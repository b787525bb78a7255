import SchoolRegister.Http.Address
import SchoolRegister.Http.Exchange

/-! # Drafts of requests

A `Draft` is a request as a client writes it: with an address, perhaps a query of its own, and a body
of values that need not be sendable.  `Draft.request` makes the request out of it that reaches the
service, or tells why none can be sent. -/

namespace SchoolRegister.Http

/-- A request as a client writes it. -/
structure Draft where
  method : String
  address : String
  query : Option (List (String × String)) := none
  body : Body := .empty

/-- The body as it is sent, values as a JSON document. -/
def Body.sent : Body → Except Failure Body
  | .json v => v.asDocument?.elim (.error .badType) fun w => .ok (.json w)
  | body => .ok body

/-- The kind of content is told on one line. -/
def Body.isDescribed : Body → Bool
  | .text contentType _ => !contentType.toList.any fun c => c == '\r' || c == '\n'
  | _ => true

/-- The request of a draft, and whether it goes to where people log in; there is one query at most. -/
def Draft.request (d : Draft) : Except Failure (Request × Bool) := do
  let body ← d.body.sent
  let parts ← Parts.ofText d.address.toList
  if d.query.isSome && !parts.query.isEmpty then throw .badValue
  let address ← parts.address
  if !body.isDescribed then throw .badValue
  let request : Request := {
    method := d.method, path := String.ofList address.path
    query := d.query.getD (queryFields address.query), body := body
    isLasting := address.isLasting }
  return (request, ← address.isHome)

end SchoolRegister.Http

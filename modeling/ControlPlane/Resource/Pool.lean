import ControlPlane.Schema.Reader

/-!
# Backends and frontends

A backend of a load balancer holds the pool of servers that traffic goes to; a frontend is the port
that it comes in by.
-/

namespace ControlPlane

/-- A backend: a pool of servers and the port they are reached at. -/
structure Backend where
  id : String
  balancerId : String
  zone : String
  name : String
  forwardPort : Int
  pool : List String := []
  deriving DecidableEq, Repr

/-- A frontend: a port of a load balancer and the backend that it feeds. -/
structure Frontend where
  id : String
  balancerId : String
  zone : String
  name : String
  inboundPort : Int
  backendId : String
  deriving DecidableEq, Repr

/-- Reads a backend. -/
def Backend.ofValue : Schema.Reader Backend := Schema.table fun entries =>
  mk <$> Schema.required "id" Schema.text entries
    <*> Schema.required "lb_id" Schema.text entries
    <*> Schema.required "zone" Schema.text entries
    <*> Schema.required "name" Schema.text entries
    <*> Schema.required "forward_port" Schema.whole entries
    <*> Schema.withDefault "pool" (Schema.listOf Schema.text) [] entries

/-- A backend as plain data. -/
def Backend.toValue (b : Backend) : Value :=
  .record [("id", .text b.id), ("lb_id", .text b.balancerId), ("zone", .text b.zone),
    ("name", .text b.name), ("forward_port", .int b.forwardPort), ("pool", .texts b.pool)]

/-- Reads a frontend. -/
def Frontend.ofValue : Schema.Reader Frontend := Schema.table fun entries =>
  mk <$> Schema.required "id" Schema.text entries
    <*> Schema.required "lb_id" Schema.text entries
    <*> Schema.required "zone" Schema.text entries
    <*> Schema.required "name" Schema.text entries
    <*> Schema.required "inbound_port" Schema.whole entries
    <*> Schema.required "backend_id" Schema.text entries

/-- A frontend as plain data. -/
def Frontend.toValue (f : Frontend) : Value :=
  .record [("id", .text f.id), ("lb_id", .text f.balancerId), ("zone", .text f.zone),
    ("name", .text f.name), ("inbound_port", .int f.inboundPort),
    ("backend_id", .text f.backendId)]

end ControlPlane

import ControlPlane.Provider.Request
import ControlPlane.Failure

/-!
# Programs

A program is a reconciler's plan: it ends with a value or a failure, sends a request and goes on
with whatever comes back, or reports an event. It is a tree of data. What it does depends on nothing
but the answers, so a fact about every node of the tree is a fact about every run, against any
provider and whatever fails.
-/

namespace ControlPlane

/-- How much a line of the log matters. -/
inductive LogLevel
  | notice
  | warning
  | error
  deriving DecidableEq, Repr

/-- What a program reports on the way. -/
inductive Event
  | log (level : LogLevel) (line : String)
  | address (address : String)
  | secondaryAddresses (addresses : List String)
  | condition (type : String) (holds : Bool) (reason message : String)
  deriving DecidableEq, Repr

/-- A plan of requests that ends with a value of a type. -/
inductive Program (α : Type) : Type
  | done (value : α)
  | fail (failure : Failure)
  | send (request : Request) (next : Except Failure request.Reply → Program α)
  | report (event : Event) (next : Program α)

namespace Program

/-- Goes on with the value of a program. -/
def bind : Program α → (α → Program β) → Program β
  | done a, f => f a
  | fail e, _ => fail e
  | send r next, f => send r fun answer => (next answer).bind f
  | report e next, f => report e (next.bind f)

instance : Monad Program where
  pure := done
  bind := bind

/-- Goes on with another program where this one fails. -/
def handle : Program α → (Failure → Program α) → Program α
  | done a, _ => done a
  | fail e, f => f e
  | send r next, f => send r fun answer => (next answer).handle f
  | report e next, f => report e (next.handle f)

/-- A result known beforehand. -/
def ofExcept : Except Failure α → Program α
  | .ok a => done a
  | .error e => fail e

instance : MonadExcept Failure Program where
  throw := fail
  tryCatch := handle

/-- Sends a request and ends with the answer. -/
def request (r : Request) : Program r.Reply := send r ofExcept

/-- Reports an event. -/
def emit (e : Event) : Program Unit := report e (done ())

/-- The value of a program, or nothing where it fails because something was not found. -/
def orNone (p : Program α) : Program (Option α) :=
  (some <$> p).handle fun e => if e.isIgnored [.notFound] then done none else fail e

/-- The value or the failure of a program. -/
def attempt (p : Program α) : Program (Except Failure α) :=
  (Except.ok <$> p).handle fun e => done (.error e)

end Program

end ControlPlane

import Handin.Disk
import Handin.Exchange

/-! What an invocation acts on: the files it looks at, the service it sends requests to and the log
it keeps. -/

namespace Handin

inductive Level
  | debug
  | info
  | warn
  deriving DecidableEq, Repr

def Level.name : Level → String
  | debug => "DEBUG"
  | info => "INFO"
  | warn => "WARN"

structure World (m : Type → Type) where
  look : String → m Disk.Found
  send : Request → m Exchange
  note : Level → String → m Unit

inductive Event
  | looked (path : String) (found : Disk.Found)
  | sent (request : Request) (exchange : Exchange)
  | noted (level : Level) (text : String)
  deriving DecidableEq, Repr

structure Record (σ : Type) where
  service : σ
  events : List Event := []

namespace Record

variable {σ : Type}

def add (e : Event) (r : Record σ) : Record σ := { r with events := r.events ++ [e] }

end Record

/-- A world whose files do not change, whose service answers by its state, and which records every
event. -/
def World.recorded {σ : Type} (disk : Disk) (answer : Request → StateM σ Exchange) :
    World (StateM (Record σ)) where
  look path := do
    let found := disk.look path
    modify (Record.add (.looked path found))
    return found
  send request := do
    let exchange ← modifyGet fun r =>
      let (exchange, service) := answer request r.service
      (exchange, { r with service })
    modify (Record.add (.sent request exchange))
    return exchange
  note level text := modify (Record.add (.noted level text))

end Handin

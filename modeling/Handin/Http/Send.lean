import Handin.Http.Redirect

namespace Handin.Http

variable {m : Type → Type} [Monad m]

def maxHops : Nat := 9

/-- Sends a message and follows up to `hops` redirects. `call` sends one message over a connection
of its own. -/
def travel (call : Message → m (Except SendFault Wire)) : Nat → Message → m Exchange
  | hops, message => do
    match (← call message).bind Reply.ofWire with
    | .error why => return .failed why
    | .ok reply =>
      match message.redirected? reply.head, hops with
      | none, _ => return .answered reply.head.status reply.body
      | some _, 0 => return .failed .broken
      | some next, hops + 1 =>
        if next.url.isWeb then travel call hops next else return .failed .unsendable

def send (call : Message → m (Except SendFault Wire)) (r : Request) : m Exchange :=
  let message := Message.ofRequest r
  if message.url.isWeb && message.url.isCarried then travel call maxHops message
  else return .failed .unsendable

end Handin.Http

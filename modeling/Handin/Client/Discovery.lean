import Handin.Client
import Handin.Listing
import Handin.World

namespace Handin.Client

variable {m : Type → Type} [Monad m]

/-- Asks which files an assignment expects, in the order they are uploaded in; none if the query
fails in any way or lists nothing. -/
def discover (w : World m) (c : Client) (owner : String) (course assignment : Identifier) :
    m (Option (List String)) := do
  w.note .debug "querying file names"
  let exchange ← w.send (c.listingRequest owner course assignment)
  match Listing.ofExchange exchange with
  | .ok names =>
    w.note .debug "file names"
    return names
  | .error trouble =>
    w.note .warn trouble.message
    return none

end Handin.Client

import Handin.Calendar
import Handin.Digest.Sha512

namespace Handin.Token

open Text

/-- What is digested: the account's name, the day's stamp and the secret, one after the other. -/
def preimage (user : String) (day : Date) (secret : String) : Bytes :=
  utf8 user ++ utf8 day.stamp ++ utf8 secret

end Handin.Token

namespace Handin

def token (user : String) (day : Date) (secret : String) : String :=
  String.ofList (Text.hex (sha512 (Token.preimage user day secret)))

end Handin

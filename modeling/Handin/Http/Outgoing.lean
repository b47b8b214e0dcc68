import Handin.Http.Form
import Handin.Http.Message

namespace Handin.Http.Message

def headerLine (name value : String) : String := name ++ ": " ++ value ++ "\r\n"

def optionalLine (name : String) (value : Option String) : String :=
  value.elim "" (headerLine name)

def hostText (m : Message) : String := m.url.authority.elim "" (·.hostText)

def headText (m : Message) (boundary : String) (size : Nat) : String :=
  m.method ++ " " ++ m.url.target ++ " HTTP/1.1\r\n"
    ++ headerLine "host" m.hostText
    ++ headerLine "accept" "*/*"
    ++ headerLine "connection" "close"
    ++ optionalLine "authorization" m.authorization
    ++ optionalLine "referer" m.referer
    ++ (if m.form.isSome then
        headerLine "content-type" (Form.contentType boundary)
          ++ headerLine "content-length" (String.ofList (Text.decimal size))
      else "")
    ++ "\r\n"

def bytes? (m : Message) (boundary : String) : Option Bytes :=
  (m.form.elim (some []) (Form.bytes? boundary)).map fun body =>
    Text.utf8 (m.headText boundary body.length) ++ body

end Handin.Http.Message

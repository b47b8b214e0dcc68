import Handin.Request
import Handin.Url.Percent

namespace Handin.Http.Form

def nameField (name : String) : String :=
  let encoded := String.ofList (Url.percentEncode Url.inSegment name.toList)
  if encoded = name then "name=\"" ++ name ++ "\"" else "name*=utf-8''" ++ encoded

def quotedName (name : String) : String :=
  String.ofList (name.toList.flatMap fun c =>
    if ['\\', '"', '\r', '\n'].contains c then ['\\', c] else [c])

def partHead (boundary field file : String) : String :=
  "--" ++ boundary ++ "\r\nContent-Disposition: form-data; " ++ nameField field ++ "; filename=\""
    ++ quotedName file ++ "\"\r\n\r\n"

def partBytes? (boundary : String) (p : Part) : Option Bytes :=
  p.content.map fun b => Text.utf8 (partHead boundary p.field p.file) ++ b ++ Text.utf8 "\r\n"

/-- The bytes of a form, unless one of its parts cannot be read. A form without parts has none. -/
def bytes? (boundary : String) (parts : List Part) : Option Bytes :=
  if parts = [] then some []
  else (parts.mapM (partBytes? boundary)).map fun all =>
    all.flatten ++ Text.utf8 ("--" ++ boundary ++ "--\r\n")

def contentType (boundary : String) : String := "multipart/form-data; boundary=" ++ boundary

end Handin.Http.Form

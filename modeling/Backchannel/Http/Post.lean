/-
# Backchannel.Http.Post -- one request as one HTTP exchange

A plugin without a connection posts each request by itself: the line that a session
would write is the body, and the plugin session goes along in a header.
-/
import Backchannel.CallError
import Backchannel.Endpoint

namespace Backchannel.Http

set_option autoImplicit false

/-- What is posted. -/
structure Post where
  url : Url
  sessionHeader : Option String
  body : String
  deriving DecidableEq, Repr

namespace Post

def sessionHeaderName : String := "Dify-Plugin-Session-ID"

def contentType : String := "application/json"

/-- The headers that tell what is posted and on whose behalf. -/
def headers (p : Post) : List (String × String) :=
  ("Content-Type", contentType) ::
    (p.sessionHeader.map fun value => (sessionHeaderName, value)).toList

/-- May stand in the value of a header: no control but the tab. -/
def isHeaderChar (c : Char) : Bool := c == '\t' || (0x20 ≤ c.toNat && c.toNat != 0x7F)

/-- The address without the user, who goes along in a header of his own. -/
def withoutUser (url : Url) : Url := { url with user := "", password := none }

/-- The request to post, or why there is none. -/
def ofRequest (endpoint : Url) (sessionId : Option String) (r : Request) :
    Except HttpFailure Post :=
  let url := withoutUser endpoint
  if endpoint.hasHost = false then .error (.unsupported endpoint.write)
  else if (sessionId.getD "").toList.any (fun c => !isHeaderChar c) then .error .unwritable
  else if endpoint.scheme ≠ "http" ∧ endpoint.scheme ≠ "https" then
    .error (.unsupported url.write)
  else .ok ⟨url, sessionId, (OutboundFrame.invoke sessionId r).toLine⟩

end Post

end Backchannel.Http

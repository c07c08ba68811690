import Roster.Web.Host
import Roster.Web.Message

/-!
# Locations

A client that asks for a path with the wrong slashes is sent to another location. The location is
made of the host that the client named, or of the server's own when that is no proper host, and of
the path and the query.
-/

namespace Roster.Web.Location

def isLocationChar (c : Char) : Bool :=
  Host.isUnreserved c || Host.isDelimiter c || ":@/%#?[]".toList.contains c

/-- Characters of a path that stay as they are: those that do not end it. -/
def isPathChar (c : Char) : Bool :=
  isLocationChar c && c ≠ '?' && c ≠ '#'

def ofPath (serverHost : String) (request : Request) (path : String) : String :=
  let named := (request.header? "host").getD ""
  let host := if Host.isHost named.toList then named else serverHost
  let query := if request.query.isEmpty then "" else "?" ++ request.query
  percentEncode isLocationChar ("http://" ++ host ++ percentEncode isPathChar path ++ query)

end Roster.Web.Location

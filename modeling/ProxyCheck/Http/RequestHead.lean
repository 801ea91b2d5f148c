import ProxyCheck.Http.Uri
import ProxyCheck.Text.Base64
import ProxyCheck.Url.Percent

/-!
The head of a request to an HTTP proxy. Credentials stand in fields of their own and not in the
address.
-/
namespace ProxyCheck.Http

def agent : String :=
  "proxyprobe/0.1.0"

def lineEnd : List Char :=
  ['\r', '\n']

def userOf? (authority : List Char) : Option (List Char) :=
  if authority.contains '@' then
    some ((authority.reverse.dropWhile (· ≠ '@')).drop 1).reverse
  else none

/-- A user without a password has an empty one. -/
def basic (user : List Char) : List Char :=
  let bytes := Percent.decode (if user.contains ':' then user else user ++ [':'])
  "Basic ".toList ++ Base64.encode bytes

def credentialField (name : String) (u : Uri) : List (List Char) :=
  match u.authority.bind userOf? with
  | some user => [name.toList ++ ": ".toList ++ basic user]
  | none => []

def place (u : Uri) : List Char :=
  u.authority.elim [] Uri.placeOf

def queryText (u : Uri) : List Char :=
  u.query.elim [] ('?' :: ·)

def lines (all : List (List Char)) : List Char :=
  all.flatMap (· ++ lineEnd) ++ lineEnd

def field (name value : String) : List Char :=
  (name ++ ": " ++ value).toList

def getHead (proxy target : Uri) : List Char :=
  lines
    (["GET http://".toList ++ place target ++ target.path ++ queryText target ++ " HTTP/1.1".toList,
        "Host: ".toList ++ place target] ++
      credentialField "Proxy-Authorization" proxy ++ credentialField "Authorization" target ++
      [field "User-Agent" agent, field "Accept" "*/*", field "Connection" "close"])

end ProxyCheck.Http

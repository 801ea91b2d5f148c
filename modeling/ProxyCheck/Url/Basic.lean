import ProxyCheck.Url.Host

/-!
URLs as records, and their text.
-/
namespace ProxyCheck

inductive SchemeKind where
  | file
  /-- The schemes of the web: always an authority, `\` is as good as `/`. -/
  | special
  | other
  deriving DecidableEq, Repr

def SchemeKind.of (scheme : String) : SchemeKind :=
  if scheme = "file" then .file
  else if ["http", "https", "ws", "wss", "ftp"].contains scheme then .special
  else .other

def SchemeKind.isSpecial : SchemeKind → Bool
  | .other => false
  | _ => true

def defaultPort? (scheme : String) : Option UInt16 :=
  match scheme with
  | "http" | "ws" => some 80
  | "https" | "wss" => some 443
  | "ftp" => some 21
  | _ => none

inductive Path where
  /-- The path of a URL that names no place to be relative to. -/
  | opaqueText (text : String)
  /-- Each segment has a slash before it. -/
  | segments (all : List String)
  deriving DecidableEq, Repr

def Path.text : Path → String
  | .opaqueText t => t
  | .segments all => String.join (all.map ("/" ++ ·))

/-- The parts of a URL, each as it stands in the URL's text. A port that the scheme implies is left
out. -/
structure Url where
  scheme : String
  username : String
  password : Option String
  host : Option Host
  port : Option UInt16
  path : Path
  query : Option String
  fragment : Option String
  deriving DecidableEq, Repr

namespace Url

def credentials (username : String) (password : Option String) : String :=
  match password with
  | some password => username ++ ":" ++ password ++ "@"
  | none => if username.isEmpty then "" else username ++ "@"

def portText : Option UInt16 → String
  | some port => ":" ++ toString port.toNat
  | none => ""

/-- Without a host, a path must not look like one. -/
def pathText (u : Url) : String :=
  match u.host, u.path with
  | none, .segments ("" :: second :: rest) => "/." ++ (Path.segments ("" :: second :: rest)).text
  | _, path => path.text

def text (u : Url) : String :=
  let authority := match u.host with
    | some host => "//" ++ credentials u.username u.password ++ host.text ++ portText u.port
    | none => ""
  u.scheme ++ ":" ++ authority ++ u.pathText ++ (u.query.elim "" ("?" ++ ·)) ++
    (u.fragment.elim "" ("#" ++ ·))

def hostText? (u : Url) : Option String :=
  (u.host.map Host.text).filter fun name => !name.isEmpty

def portOrDefault? (u : Url) : Option UInt16 :=
  u.port <|> defaultPort? u.scheme

def withPassword (u : Url) (password : String) : Url :=
  { u with password := some password }

end Url

end ProxyCheck

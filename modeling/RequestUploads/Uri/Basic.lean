import RequestUploads.Text.Ascii
import RequestUploads.Text.Pieces

namespace RequestUploads

inductive Host
  | name (text : String)
  | ipv4 (address : Nat)
  | ipv6 (pieces : List Nat)
deriving DecidableEq, Repr

/-- The part of a URI after `//`: user and password as written, empty for none, a host and a port
other than the scheme's own. -/
structure Authority where
  user : String
  password : String
  host : Host
  port : Option Nat
deriving DecidableEq, Repr

/-- The path of a URI: segments each after a slash, or one text of no structure. -/
inductive UriPath
  | segments (names : List String)
  | rootless (text : String)
deriving DecidableEq, Repr

structure Uri where
  scheme : String
  authority : Option Authority
  path : UriPath
  query : Option String
  fragment : Option String
deriving DecidableEq, Repr

/-! ## Addresses -/

def Host.ipv4Text (address : Nat) : List Char :=
  Text.join '.' ([address / Nat.pow 256 3 % 256, address / Nat.pow 256 2 % 256, address / 256 % 256,
    address % 256].map Ascii.digits)

def Host.zeros : List Nat → Nat
  | 0 :: pieces => zeros pieces + 1
  | _ => 0

def Host.longestZeros : (place : Nat) → List Nat → Nat × Nat
  | _, [] => (0, 0)
  | place, piece :: pieces =>
      let here := zeros (piece :: pieces)
      let later := longestZeros (place + 1) pieces
      if later.2 ≤ here then (place, here) else later

/-- An address in hexadecimal numbers, with the longest run of two zeros or more left out. -/
def Host.ipv6Text (pieces : List Nat) : List Char :=
  let group := fun (part : List Nat) => Text.join ':' (part.map Ascii.hexDigits)
  let (place, length) := longestZeros 0 pieces
  if length < 2 then group pieces
  else group (pieces.take place) ++ [':', ':'] ++ group (pieces.drop (place + length))

def Host.text : Host → List Char
  | .name text => text.toList
  | .ipv4 address => ipv4Text address
  | .ipv6 pieces => '[' :: ipv6Text pieces ++ [']']

/-! ## The whole text -/

def Authority.text (a : Authority) : List Char :=
  let password := if a.password.isEmpty then [] else ':' :: a.password.toList
  let userinfo :=
    if a.user.isEmpty && a.password.isEmpty then [] else a.user.toList ++ password ++ ['@']
  let port := match a.port with
    | some port => ':' :: Ascii.digits port
    | none => []
  userinfo ++ a.host.text ++ port

def UriPath.text : UriPath → List Char
  | .segments names => names.flatMap fun name => '/' :: name.toList
  | .rootless text => text.toList

/-- The text after the scheme and its colon.  A path that begins with two slashes is kept apart
from an authority by `/.`. -/
def Uri.rest (u : Uri) : List Char :=
  let path := u.path.text
  let hierarchy := match u.authority with
    | some authority => ['/', '/'] ++ authority.text ++ path
    | none => if ['/', '/'].isPrefixOf path then ['/', '.'] ++ path else path
  let query := match u.query with
    | some query => '?' :: query.toList
    | none => []
  let fragment := match u.fragment with
    | some fragment => '#' :: fragment.toList
    | none => []
  hierarchy ++ query ++ fragment

def Uri.text (u : Uri) : String := String.ofList (u.scheme.toList ++ ':' :: u.rest)

theorem Uri.toList_text (u : Uri) : u.text.toList = u.scheme.toList ++ ':' :: u.rest := by
  simp [Uri.text]

end RequestUploads

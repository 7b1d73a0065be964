import RequestUploads.Domain.Name
import RequestUploads.Uri.Address
import RequestUploads.Uri.Basic
import RequestUploads.Uri.Failure
import RequestUploads.Uri.Path
import RequestUploads.Uri.Scheme

/-!
# Reading URIs

`Uri.parse` reads an absolute URI and brings it into normal form.  The scheme decides how the rest
is divided: special schemes have an authority whatever the slashes, `file` a host and a path of
its own kind, and the others an authority only after two slashes.
-/

namespace RequestUploads.Uri

/-! ## Hosts -/

def bracketed (s : List Char) : Except Failure Host :=
  if s.getLast? = some ']' then
    match ipv6? (s.drop 1).dropLast with
    | some pieces => .ok (.ipv6 pieces)
    | none => .error .badIpv6
  else .error .badIpv6

def domainHost (s : List Char) : Except Failure Host :=
  if s.head? = some '[' then bracketed s
  else match Domain.toAscii? (Percent.decode s) with
    | none => .error .badDomain
    | some [] => .error .emptyHost
    | some domain =>
        if endsInNumber domain then
          match ipv4? domain with
          | some address => .ok (.ipv4 address)
          | none => .error .badIpv4
        else .ok (.name (String.ofList domain))

def isForbiddenInHost (c : Char) : Bool := "\x00\t\n\r #/:<>?@[\\]^|".toList.contains c

def plainHost (s : List Char) : Except Failure Host :=
  if s.head? = some '[' then bracketed s
  else if s.any isForbiddenInHost then .error .badHostCharacter
  else .ok (.name (String.ofList (Percent.encode isControl s)))

/-! ## Authorities -/

def defaultPort (scheme : List Char) : Option Nat :=
  match String.ofList scheme with
  | "http" | "ws" => some 80
  | "https" | "wss" => some 443
  | "ftp" => some 21
  | _ => none

/-- A port and what follows it; the scheme's own port and no digits at all are no port. -/
def readPort (scheme : List Char) (s : List Char) : Except Failure (Option Nat × List Char) :=
  let digits := s.takeWhile Char.isDigit
  let rest := s.dropWhile Char.isDigit
  if rest ≠ [] ∧ rest.head? ≠ some '\\' then .error .badPort
  else match Ascii.number? digits with
    | none => .ok (none, rest)
    | some n =>
        if 65535 < n then .error .badPort
        else .ok (if defaultPort scheme = some n then none else some n, rest)

def spanHost : (inside : Bool) → List Char → List Char × List Char
  | _, [] => ([], [])
  | inside, c :: s =>
      if c = ':' ∧ ¬inside then ([], c :: s)
      else
        let inside := if c = '[' then true else if c = ']' then false else inside
        let (host, rest) := spanHost inside s
        (c :: host, rest)

def splitUserinfo? (s : List Char) : Option (List Char × List Char) :=
  (Text.cut? '@' s.reverse).map fun (after, before) => (before.reverse, after.reverse)

def userinfo (s : List Char) : List Char × List Char :=
  let (user, password) := (Text.cut? ':' s).getD (s, [])
  (Percent.encode inUserinfo user, Percent.encode inUserinfo password)

/-- The authority that a text holds and what is left of it; `final` says that nothing comes after
the text. -/
def readAuthority (kind : SchemeKind) (scheme : List Char) (final : Bool) (s : List Char) :
    Except Failure (Authority × List Char) := do
  let (info, s) := (splitUserinfo? s).map (fun (info, s) => (some info, s)) |>.getD (none, s)
  if info = some [] ∧ s = [] ∧ ¬final then throw .emptyHost
  let (user, password) := userinfo (info.getD [])
  let (hostText, rest) := spanHost false s
  if kind ≠ .plain ∧ hostText = [] then throw .emptyHost
  let host ← if kind = .plain then plainHost hostText else domainHost hostText
  if host = .name "" ∧ rest ≠ [] then throw .emptyHost
  let (port, rest) ← if rest = [] then pure (none, []) else readPort scheme (rest.drop 1)
  if host = .name "" ∧ (user ≠ [] ∨ password ≠ []) then throw .emptyHost
  return (⟨String.ofList user, String.ofList password, host, port⟩, rest)

/-! ## What follows the scheme -/

abbrev Hierarchy := Option Authority × UriPath

private def pathOf (segments : List (List Char)) : UriPath :=
  .segments (segments.map String.ofList)

def specialHierarchy (scheme : List Char) (final : Bool) (s : List Char) :
    Except Failure Hierarchy := do
  let s := s.dropWhile (isSlash .special)
  let path := s.dropWhile (!isSlash .special ·)
  let (authority, _) ←
    readAuthority .special scheme (final && path.isEmpty) (s.takeWhile (!isSlash .special ·))
  return (some authority, pathOf (segments .special (path.drop 1)).1)

/-- The hierarchy of a plain scheme: an authority after two slashes, segments after one, and else
a text of no structure. -/
def plainHierarchy (scheme : List Char) (final : Bool) (s : List Char) :
    Except Failure Hierarchy :=
  match s with
  | '/' :: '/' :: s => do
      let path := s.dropWhile (!isSlash .plain ·)
      let (authority, rest) ←
        readAuthority .plain scheme (final && path.isEmpty) (s.takeWhile (!isSlash .plain ·))
      let found := match rest ++ path with
        | [] => []
        | '/' :: path => (segments .plain path).1
        | path => (segments .plain path).1
      return (some authority, pathOf found)
  | '/' :: s => .ok (none, pathOf (segments .plain s).1)
  | s => .ok (none, .rootless (String.ofList (Percent.encode isControl s)))

def fileHost (s : List Char) : Except Failure Host :=
  if s = [] then .ok (.name "")
  else do
    let host ← domainHost s
    return if host = .name "localhost" then .name "" else host

def fileHierarchy (s : List Char) : Except Failure Hierarchy := do
  let hosted := fun (host : Host) (path : List Char) =>
    let (found, drive) := segments .file path
    (some ⟨"", "", if drive then .name "" else host, none⟩, pathOf found)
  match s with
  | a :: b :: s =>
      if isSlash .file a && isSlash .file b then
        let hostText := s.takeWhile (!isSlash .file ·)
        if isDrive hostText then return hosted (.name "") s
        else
          let host ← fileHost hostText
          return hosted host ((s.dropWhile (!isSlash .file ·)).drop 1)
      else if isSlash .file a then return hosted (.name "") (b :: s)
      else return hosted (.name "") (a :: b :: s)
  | [a] => return hosted (.name "") (if isSlash .file a then [] else [a])
  | [] => return hosted (.name "") []

/-! ## Whole URIs -/

def isTrimmed (c : Char) : Bool := decide (c.toNat ≤ 0x20)

def clean (s : List Char) : List Char :=
  (((s.dropWhile isTrimmed).reverse.dropWhile isTrimmed).reverse).filter
    fun c => !(['\t', '\n', '\r'].contains c)

def divide (s : List Char) : List Char × Option (List Char) × Option (List Char) :=
  let (s, fragment) := match Text.cut? '#' s with
    | some (s, fragment) => (s, some fragment)
    | none => (s, none)
  match Text.cut? '?' s with
  | some (s, query) => (s, some query, fragment)
  | none => (s, none, fragment)

def hierarchy (scheme : List Char) (final : Bool) (s : List Char) : Except Failure Hierarchy :=
  match SchemeKind.of scheme with
  | .plain => plainHierarchy scheme final s
  | .special => specialHierarchy scheme final s
  | .file => fileHierarchy s

def parse (s : List Char) : Except Failure Uri :=
  match Scheme.split? (clean s) with
  | none => .error .noScheme
  | some (name, s) => do
      let scheme := Ascii.lower name
      let (s, query, fragment) := divide s
      let (authority, path) ← hierarchy scheme (query.isNone && fragment.isNone) s
      return {
        scheme := String.ofList scheme
        authority := authority
        path := path
        query := query.map fun query =>
          String.ofList (Percent.encode (inQuery (SchemeKind.of scheme ≠ .plain)) query)
        fragment := fragment.map fun fragment =>
          String.ofList (Percent.encode inFragment fragment) }

end RequestUploads.Uri

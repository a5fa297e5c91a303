import HandControl.ByteEncoding

/-!
# Two readers of URLs

The parser of the URL Standard repairs what it reads: it drops white space, takes any slashes,
resolves dot segments and normalizes the host. A reader of URIs takes its text as it is.
-/

namespace HandControl.UrlSyntax

open ByteEncoding PositionalNotation

def decimalValue (digits : List Char) : Nat :=
  positional 10 (digits.map fun digit => digit.toNat - 0x30)

def portNumber (digits : List Char) : Option Nat :=
  if digits ≠ [] ∧ digits.all Char.isDigit = true ∧ decimalValue digits < 65536 then
    some (decimalValue digits)
  else none

/-- What the parser does with a host, a path, a query with a fragment, and the text behind a scheme
without a port of its own; and what the reader accepts as a scheme, an authority, in a path and
in a query, and up to which length. -/
structure UrlRules where
  parseHost : List Char → Option (List Char)
  readPath : List Char → List (List Char)
  readTail : List Char → Option (List Char) × Option (List Char)
  readOther : List Char → List Char → Option (Option (List Char) × Option Nat)
  acceptsScheme : List Char → Bool
  acceptsAuthority : List Char → Bool
  acceptsInPath : Char → Bool
  acceptsInQuery : Char → Bool
  longest : Nat

structure Url where
  scheme : List Char
  host : List Char
  port : Option Nat
  path : List (List Char)
  query : Option (List Char)
  fragment : Option (List Char)
  deriving DecidableEq

inductive ParsedUrl where
  | web (url : Url)
  | other (scheme : List Char) (host : Option (List Char)) (port : Option Nat)
  deriving DecidableEq

def ParsedUrl.hostStr : ParsedUrl → Option String
  | .web url => some (String.ofList url.host)
  | .other _ host _ => host.map String.ofList

def ParsedUrl.port : ParsedUrl → Option Nat
  | .web url => url.port
  | .other _ _ port => port

/-- The text of a path with these segments. -/
def joined (segments : List (List Char)) : List Char :=
  segments.flatMap fun segment => '/' :: segment

def Url.pathText (url : Url) : List Char := joined url.path

def stripEnds (strip : Char → Bool) (text : List Char) : List Char :=
  ((text.dropWhile strip).reverse.dropWhile strip).reverse

/-- Control characters and spaces at both ends, and tabs and line ends anywhere, are ignored. -/
def cleaned (text : List Char) : List Char :=
  (stripEnds (fun symbol => decide (symbol.toNat ≤ 0x20)) text).filter fun symbol =>
    !(symbol == '\t' || symbol == '\n' || symbol == '\r')

def isSchemeChar (symbol : Char) : Bool :=
  symbol.isAlphanum || symbol == '+' || symbol == '-' || symbol == '.'

def readScheme (text : List Char) : Option (List Char × List Char) :=
  if text.head?.any Char.isAlpha then
    match text.dropWhile isSchemeChar with
    | ':' :: rest => some ((text.takeWhile isSchemeChar).map Char.toLower, rest)
    | _ => none
  else none

def defaultPort (scheme : List Char) : Option Nat :=
  if scheme = "http".toList ∨ scheme = "ws".toList then some 80
  else if scheme = "https".toList ∨ scheme = "wss".toList then some 443
  else none

def isSlash (symbol : Char) : Bool := symbol == '/' || symbol == '\\'

def isPathEnd (symbol : Char) : Bool := symbol == '?' || symbol == '#'

def dropCredentials (authority : List Char) : List Char :=
  (authority.reverse.takeWhile fun symbol => symbol != '@').reverse

/-- The host ends at the first colon outside brackets. -/
def splitHost : Bool → List Char → List Char × Option (List Char)
  | _, [] => ([], none)
  | inside, symbol :: rest =>
    if symbol = ':' ∧ inside = false then ([], some rest)
    else
      let inside := if symbol = '[' then true else if symbol = ']' then false else inside
      let (host, port) := splitHost inside rest
      (symbol :: host, port)

def readPort (scheme : List Char) : Option (List Char) → Option (Option Nat)
  | none => some none
  | some [] => some none
  | some digits => (portNumber digits).map fun port =>
    if defaultPort scheme = some port then none else some port

def readWebUrl (rules : UrlRules) (scheme rest : List Char) : Option Url := do
  let rest := rest.dropWhile isSlash
  let authority := rest.takeWhile fun symbol => !(isSlash symbol || isPathEnd symbol)
  let rest := rest.drop authority.length
  let (hostText, portText) := splitHost false (dropCredentials authority)
  if hostText = [] then none
  else
    let host ← rules.parseHost hostText
    let port ← readPort scheme portText
    let pathText := rest.takeWhile fun symbol => !isPathEnd symbol
    let (query, fragment) := rules.readTail (rest.drop pathText.length)
    some
      { scheme := scheme
        host := host
        port := port
        path := rules.readPath pathText
        query := query
        fragment := fragment }

/-- Set the scheme. A port that is now the default is left out. -/
def Url.setScheme (url : Url) (scheme : List Char) : Url :=
  { url with
    scheme := scheme
    port := if defaultPort scheme = url.port then none else url.port }

def popIfEmpty (path : List (List Char)) : List (List Char) :=
  if 1 < path.length ∧ path.getLast? = some [] then path.dropLast else path

def pushSegment (path : List (List Char)) (segment : List Char) : List (List Char) :=
  if path = [[]] then [segment] else path ++ [segment]

def parseUrl (rules : UrlRules) (text : List Char) : Option ParsedUrl := do
  let (scheme, rest) ← readScheme (cleaned text)
  if (defaultPort scheme).isSome then (readWebUrl rules scheme rest).map .web
  else (rules.readOther scheme rest).map fun (host, port) => .other scheme host port

structure Uri where
  scheme : List Char
  authority : List Char
  path : List Char
  deriving DecidableEq

def isAuthorityEnd (symbol : Char) : Bool := symbol == '/' || isPathEnd symbol

/-- A URI with a scheme and an authority, of the length that is accepted. -/
def readUri (rules : UrlRules) (text : List Char) : Option Uri :=
  if rules.longest < (String.ofList text).utf8ByteSize then none
  else
    match text.dropWhile isSchemeChar with
    | ':' :: '/' :: '/' :: rest =>
      let authority := rest.takeWhile fun symbol => !isAuthorityEnd symbol
      let rest := rest.drop authority.length
      let path := rest.takeWhile fun symbol => !isPathEnd symbol
      let rest := rest.drop path.length
      if rules.acceptsScheme (text.takeWhile isSchemeChar) = true ∧ authority ≠ [] ∧
          rules.acceptsAuthority authority = true ∧ path.all rules.acceptsInPath = true ∧
          (rest.head? = some '?' →
            (rest.tail.takeWhile fun symbol => symbol != '#').all rules.acceptsInQuery = true) then
        some
          { scheme := text.takeWhile isSchemeChar
            authority := authority
            path := if path = [] then ['/'] else path }
      else none
    | _ => none

def Uri.host (uri : Uri) : List Char :=
  let hostPort := dropCredentials uri.authority
  if hostPort.head? = some '[' then (hostPort.takeWhile fun symbol => symbol != ']') ++ [']']
  else hostPort.takeWhile fun symbol => symbol != ':'

def Uri.port (uri : Uri) : Option Nat :=
  if ':' ∈ uri.authority then
    let text := (uri.authority.reverse.takeWhile fun symbol => symbol != ':').reverse
    portNumber (if text.head? = some '+' then text.tail else text)
  else none

def isFormUnchanged (byte : UInt8) : Bool :=
  let code := byte.toNat
  code == 0x2A || code == 0x2D || code == 0x2E || code == 0x5F || (0x30 ≤ code && code ≤ 0x39) ||
    (0x41 ≤ code && code ≤ 0x5A) || (0x61 ≤ code && code ≤ 0x7A)

def percentEncoded (byte : UInt8) : List Char :=
  ['%', (Nat.digitChar (byte.toNat / 16)).toUpper, (Nat.digitChar (byte.toNat % 16)).toUpper]

/-- A byte in a form: most bytes take three characters. -/
def formEncoded (byte : UInt8) : List Char :=
  if isFormUnchanged byte then [Char.ofNat byte.toNat]
  else if byte = 0x20 then ['+']
  else percentEncoded byte

/-- The libraries that read URLs and URIs and write forms: `Url::parse`, the `Uri` of a request and
`byte_serialize`. -/
structure UrlLibraries where
  parseUrl : String → Option ParsedUrl
  readUri : String → Option Uri
  byteSerialize : Bytes → String

structure Follows (libraries : UrlLibraries) (rules : UrlRules) : Prop where
  parses : ∀ text, libraries.parseUrl text = parseUrl rules text.toList
  reads : ∀ text, libraries.readUri text = readUri rules text.toList
  serializes : ∀ bytes, libraries.byteSerialize bytes = String.ofList (bytes.flatMap formEncoded)

/-- The libraries that do what the rules say. -/
def UrlRules.libraries (rules : UrlRules) : UrlLibraries where
  parseUrl text := parseUrl rules text.toList
  readUri text := readUri rules text.toList
  byteSerialize bytes := String.ofList (bytes.flatMap formEncoded)

theorem UrlRules.libraries_follow (rules : UrlRules) : Follows rules.libraries rules :=
  ⟨fun _ => rfl, fun _ => rfl, fun _ => rfl⟩

end HandControl.UrlSyntax

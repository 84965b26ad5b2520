import DocumentClient.Endpoint.DomainName
import DocumentClient.Text.Numeral

/-!
# DocumentClient.Endpoint

**Which texts are absolute addresses of a service.** An address is a scheme and what the scheme
makes of the rest: web schemes need a host, after any number of slashes; files may name one; any
other scheme has a host only after two slashes, and may go without.

* Reading goes the way a browser reads: blanks and controls at both ends are dropped, tabs and
  line breaks anywhere (`significantChars`), and a backslash is a slash except after other
  schemes.
* An authority is made of credentials, a host and a port. It ends at the first character that
  cannot be in it (`endsAuthority`), and what of it is a host is found from its ends: credentials
  go up to the last at-sign, and a colon in brackets starts no port (`splitHost`).
* Whether a text is a host is another question, with an answer for each kind of scheme: for web
  schemes domain names are looked up, and so have to be names that can be; for other schemes nearly
  any text will do (`DocumentClient.Endpoint.DomainName`).
* Only whether a text is an address matters to the client. Nothing of the parts is kept.
-/

namespace DocumentClient.Endpoint

/-- How the rest of an address is read. -/
inductive SchemeKind where
  /-- A service on a host, which must be named. -/
  | web
  /-- A file, on a host that may be named. -/
  | file
  /-- Anything else. -/
  | other
  deriving DecidableEq, Repr

/-- The schemes of services on a host. -/
def webSchemes : List String := ["http", "https", "ws", "wss", "ftp"]

/-- How a scheme in small letters reads its addresses. -/
def SchemeKind.ofName (scheme : String) : SchemeKind :=
  if webSchemes.contains scheme then .web
  else if scheme = "file" then .file
  else .other

/-- May the character occur in a scheme after its first letter? -/
def isSchemeChar (c : Char) : Bool :=
  c.isAlphanum || c == '+' || c == '-' || c == '.'

/-- The scheme of an address, in small letters, and what follows its colon. -/
def splitScheme? (address : List Char) : Option (String × List Char) :=
  match address.head?, address.dropWhile isSchemeChar with
  | some first, ':' :: rest =>
    if first.isAlpha then
      some (String.ofList ((address.takeWhile isSchemeChar).map Char.toLower), rest)
    else none
  | _, _ => none

/-! ## Authorities -/

/-- Does the character end the authority, the part of an address that names the host? -/
def endsAuthority (kind : SchemeKind) (c : Char) : Bool :=
  c == '/' || c == '?' || c == '#' || (kind != .other && c == '\\')

/-- The host of an authority without credentials, up to a colon outside brackets, and the rest. -/
def splitHost : Bool → List Char → List Char × List Char
  | _, [] => ([], [])
  | bracketed, c :: cs =>
    if c = ':' ∧ !bracketed then ([], c :: cs)
    else
      let inside := if c = '[' then true else if c = ']' then false else bracketed
      let (host, rest) := splitHost inside cs
      (c :: host, rest)

/-- Is the text the number of a port, up to a backslash if there is one? It may be left out. -/
def isPortNumber (text : List Char) : Bool :=
  let digits := text.takeWhile Char.isDigit
  let rest := text.dropWhile Char.isDigit
  numberOf 10 digits ≤ Word.max16 && (rest.isEmpty || rest.head? == some '\\')

/-- Is an authority without a host acceptable? It has nothing after the host and no credentials;
an at-sign at the very end, or one after a lone colon, does not count as credentials. -/
def isHostless (credentials : Option (List Char)) (afterHost : List Char) (isLast : Bool) : Bool :=
  afterHost.isEmpty && credentials.all fun text => (text.isEmpty && isLast) || text == [':']

/-- Is the text an authority: credentials up to the last at-sign, a host, and the number of a
port after a colon? `isLast` tells that nothing follows the authority. -/
def isAuthority (kind : SchemeKind) (authority : List Char) (isLast : Bool) : Bool :=
  let (credentials, hostAndMore) :=
    match Text.splitLast? '@' authority with
    | some (credentials, rest) => (some credentials, rest)
    | none => (none, authority)
  let (host, afterHost) := splitHost false hostAndMore
  if host.isEmpty then kind == .other && isHostless credentials afterHost isLast
  else
    (if kind = .other then isOpaqueHost host else isWebHost host) &&
      (afterHost.isEmpty || isPortNumber (afterHost.drop 1))

/-- Is the text a letter of a drive, in place of a host? -/
def isDriveLetter (host : List Char) : Bool :=
  match host with
  | [letter, mark] => letter.isAlpha && (mark == ':' || mark == '|')
  | _ => false

/-- Is what the text starts with, up to the character that ends it, an authority? -/
def startsWithAuthority (kind : SchemeKind) (rest : List Char) : Bool :=
  let authority := rest.takeWhile fun c => !endsAuthority kind c
  isAuthority kind authority (rest.length == authority.length)

/-! ## Addresses -/

/-- Can what follows the colon of a scheme be read? -/
def isReadable (kind : SchemeKind) (rest : List Char) : Bool :=
  let isSlash := fun c => c == '/' || c == '\\'
  match kind with
  | .web => startsWithAuthority .web (rest.dropWhile isSlash)
  | .file =>
    match rest with
    | a :: b :: rest =>
      if isSlash a && isSlash b then
        let host := rest.takeWhile fun c => !endsAuthority .file c
        host.isEmpty || isDriveLetter host || isWebHost host
      else true
    | _ => true
  | .other =>
    match rest with
    | '/' :: '/' :: rest => startsWithAuthority .other rest
    | _ => true

/-- The characters of an address that count: controls and blanks at both ends do not, and
neither do tabs and line breaks anywhere. -/
def significantChars (address : String) : List Char :=
  let isEdge := fun (c : Char) => c.toNat ≤ 0x20
  let trimmed := ((address.toList.dropWhile isEdge).reverse.dropWhile isEdge).reverse
  trimmed.filter fun c => c != '\t' && c != '\n' && c != '\r'

/-- Is the text the absolute address of a service? -/
def isValid (address : String) : Bool :=
  match splitScheme? (significantChars address) with
  | none => false
  | some (scheme, rest) => isReadable (SchemeKind.ofName scheme) rest

end DocumentClient.Endpoint

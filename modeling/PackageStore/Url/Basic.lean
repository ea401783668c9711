import PackageStore.Hostname.Name
import PackageStore.Text.Quoted
import PackageStore.Url.Escape
import PackageStore.Url.Numeric

/-!
Contract: where a request goes.

Owns: the parts of a URL, what is wrong with one, and whether a URL names a server. A URL that does
not is read as a path from the root.

Does not own: the request.
-/

set_option autoImplicit false

namespace PackageStore.Url

/-! ## Faults -/

/-- What is wrong with a URL. -/
inductive Fault where
  | tooLong
  /-- A control character, by its position. -/
  | control (c : Char) (position : Nat)
  | badQuad (host : String)
  | badGroups (host : String)
  | badName (host : String)
  /-- A host whose labels are spelled in ASCII. -/
  | badSpelling (fault : Hostname.NameFault)
  | badPort (port : String)
  /-- Without a server a path starts with no more than one slash. -/
  | doubleSlash
  | leadingColon
  /-- A part that became too long by its escapes. -/
  | partTooLong (name : String)
deriving DecidableEq, Repr, Inhabited

def Fault.message : Fault → String
  | .tooLong => "URL too long"
  | .control c position =>
      s!"Invalid non-printable ASCII character in URL, {Text.quoted (String.singleton c)} "
        ++ s!"at position {position}."
  | .badQuad host => s!"Invalid IPv4 address: {Text.quoted host}"
  | .badGroups host => s!"Invalid IPv6 address: {Text.quoted host}"
  | .badName host => s!"Invalid IDNA hostname: {Text.quoted host}"
  | .badSpelling fault => fault.message
  | .badPort port => s!"Invalid port: {Text.quoted port}"
  | .doubleSlash => "Relative URLs cannot have a path starting with '//'"
  | .leadingColon => "Relative URLs cannot have a path starting with ':'"
  | .partTooLong name => s!"URL component '{name}' too long"

/-- The most characters of a URL or of one of its parts. -/
def maxLength : Nat := 65536

/-! ## Parts -/

/-- The text of a URL in parts, without its fragment. -/
structure Parts where
  scheme : List Char
  /-- What stands between two slashes and the path. -/
  authority : List Char
  path : List Char
  query : Option (List Char)
deriving DecidableEq, Repr

def isAsciiLetter (c : Char) : Bool :=
  ('a' ≤ c && c ≤ 'z') || ('A' ≤ c && c ≤ 'Z')

def isSchemeCharacter (c : Char) : Bool :=
  isAsciiLetter c || Number.isAsciiDigit c || ['+', '.', '-'].contains c

/-- The scheme, which a colon ends, and the rest. -/
def splitScheme (text : List Char) : List Char × List Char :=
  let scheme :=
    if text.head?.any isAsciiLetter then text.takeWhile isSchemeCharacter else []
  match text.drop scheme.length with
  | ':' :: rest => (scheme, rest)
  | _ => ([], text)

/-- The authority, which two slashes start, and the rest. -/
def splitAuthority : List Char → List Char × List Char
  | '/' :: '/' :: rest =>
      let isInside := fun c => c != '/' && c != '?' && c != '#'
      (rest.takeWhile isInside, rest.dropWhile isInside)
  | text => ([], text)

def parts (text : List Char) : Parts :=
  let (scheme, afterScheme) := splitScheme text
  let (authority, afterAuthority) := splitAuthority afterScheme
  let isPath := fun c => c != '?' && c != '#'
  let query := match afterAuthority.dropWhile isPath with
    | '?' :: rest => some (rest.takeWhile (· != '#'))
    | _ => none
  ⟨scheme, authority, afterAuthority.takeWhile isPath, query⟩

/-! ## Authority -/

/-- The parts of an authority: what stands in front of its last at-sign, the host, and what stands
behind the host. -/
structure Authority where
  user : List Char
  host : List Char
  port : List Char
deriving DecidableEq, Repr

/-- A host in brackets, as far as the last closing one, and the rest. -/
def splitBrackets (text : List Char) : Option (List Char × List Char) :=
  if text.head? == some '[' && text.contains ']' then
    let rest := (text.reverse.takeWhile (· != ']')).reverse
    some (text.take (text.length - rest.length), rest)
  else none

/-- The parts of the text of an authority. -/
def Authority.ofText (text : List Char) : Authority :=
  let isMarked := text.contains '@'
  let located := if isMarked then (text.reverse.takeWhile (· != '@')).reverse else text
  let user := if isMarked then text.take (text.length - located.length - 1) else []
  let (host, rest) :=
    (splitBrackets located).getD (located.takeWhile (· != ':'), located.dropWhile (· != ':'))
  match rest with
  | ':' :: port => ⟨user, host, port⟩
  | port => ⟨user, host, port⟩

/-- What is wrong with a host. -/
def hostFault? (host : List Char) : Option Fault :=
  let named := String.ofList host
  if host.isEmpty then none
  else if looksQuad host then
    if isQuad host then none else some (.badQuad named)
  else if host.head? == some '[' && host.getLast? == some ']' then
    if isGrouped ((host.drop 1).dropLast) then none else some (.badGroups named)
  else if host.all (·.toNat < 128) then none
  else if Hostname.isInternational host then none
  else some (.badName named)

/-- What is wrong with the spelling of a host that a request goes to. -/
def spellingFault? (host : List Char) : Option Fault :=
  if host.all (·.toNat < 128) then
    (Hostname.spelledFault? ((escape isHostCharacter host).map Char.toLower)).map .badSpelling
  else none

/-- The port that requests of a scheme go to. -/
def usualPort? (scheme : String) : Option Int :=
  if scheme = "http" || scheme = "ws" then some 80
  else if scheme = "https" || scheme = "wss" then some 443
  else if scheme = "ftp" then some 21
  else none

/-- The port that a text names, if it is another one than the usual. -/
def readPort (scheme : String) (text : List Char) : Except Fault (Option Int) :=
  if text.isEmpty then .ok none
  else
    match Number.readInteger text with
    | none => .error (.badPort (String.ofList text))
    | some port => .ok (if usualPort? scheme = some port then none else some port)

/-! ## Paths -/

/-- Takes one more segment of a path, given from its end: a dot stays where it is, and two dots go
back. -/
def takeSegment (kept : List (List Char)) (segment : List Char) : List (List Char) :=
  if segment = ['.'] then kept
  else if segment = ['.', '.'] then if kept = [[]] then kept else kept.tail
  else segment :: kept

/-- The path without segments of dots. -/
def withoutDots (path : List Char) : List Char :=
  List.intercalate ['/'] ((path.splitOnP (· == '/')).foldl takeSegment []).reverse

/-- A path from the root with its query. Both are escaped. -/
def fromRoot (path : List Char) (query : Option (List Char)) : Except Fault String :=
  let path := '/' :: (escape isPathCharacter path).dropWhile (· == '/')
  let query := query.map (escape isQueryCharacter)
  if maxLength < path.length then .error (.partTooLong "path")
  else if query.any (maxLength < ·.length) then .error (.partTooLong "query")
  else .ok (String.ofList (path ++ query.elim [] ('?' :: ·)))

/-! ## Targets -/

/-- Where a request goes: to a server, or to a path of no server. -/
inductive Target where
  | server
  | path (path : String)
deriving DecidableEq, Repr, Inhabited

/-- The target of the parts of a URL. A server needs both a scheme and a host. -/
def targetOf (parts : Parts) : Except Fault Target :=
  let authority := Authority.ofText parts.authority
  match hostFault? authority.host with
  | some fault => .error fault
  | none =>
      match readPort (String.ofList parts.scheme) authority.port with
      | .error fault => .error fault
      | .ok port =>
          let isPlaced := !parts.scheme.isEmpty || !authority.user.isEmpty
            || !authority.host.isEmpty || port.isSome
          if !isPlaced && ['/', '/'].isPrefixOf parts.path then .error .doubleSlash
          else if !isPlaced && parts.path.head? == some ':' then .error .leadingColon
          else if !parts.scheme.isEmpty && !authority.host.isEmpty then
            match spellingFault? authority.host with
            | some fault => .error fault
            | none => .ok .server
          else
            let path := if isPlaced then withoutDots parts.path else parts.path
            (fromRoot path parts.query).map .path

/-- The first control character of a text, with its position. -/
def control? (text : List Char) : Option Fault :=
  let front := text.takeWhile fun c => 32 ≤ c.toNat && c.toNat != 127
  text[front.length]?.map (.control · front.length)

/-- The target of a request for a URL. -/
def target (url : String) : Except Fault Target :=
  if maxLength < url.length then .error .tooLong
  else
    match control? url.toList with
    | some fault => .error fault
    | none => targetOf (parts url.toList)

end PackageStore.Url

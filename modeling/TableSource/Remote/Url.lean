import TableSource.Text.Blank
import TableSource.Text.Digit

/-!
# Joining addresses

A relative path is resolved against a base address: the scheme and the authority of the base stay,
the query and the fragment go, and the path takes the place of what follows the last slash of the
base's path.  An authority that is not well formed is refused.
-/

namespace TableSource.Url

/-- Why an address is not well formed. -/
inductive UrlError where
  /-- A bracket of the authority has no partner. -/
  | unpairedBracket
  /-- A character of the authority stands for one that ends authorities. -/
  | hiddenDelimiter (authority : String)
  deriving DecidableEq, Repr

/-- The report of an address that is not well formed. -/
def UrlError.message : UrlError → String
  | .unpairedBracket => "Invalid IPv6 URL"
  | .hiddenDelimiter authority =>
    "netloc '" ++ authority ++ "' contains invalid characters under NFKC normalization"

/-- The parts of an address that a resolved address can take over. -/
structure Parts where
  scheme : List Char
  authority : List Char
  path : List Char
  deriving DecidableEq, Repr

/-! ## Taking an address apart -/

/-- Whether a character is an ASCII letter. -/
def isLetter (c : Char) : Bool :=
  ('a' ≤ c && c ≤ 'z') || ('A' ≤ c && c ≤ 'Z')

/-- Whether a character may stand in a scheme. -/
def isSchemeChar (c : Char) : Bool :=
  isLetter c || Text.isAsciiDigit c || c == '+' || c == '-' || c == '.'

/-- The scheme of an address in lower case, and what follows its colon; without a scheme the
address stays whole. -/
def splitScheme (cs : List Char) : List Char × List Char :=
  let start := cs.takeWhile (· != ':')
  match cs.dropWhile (· != ':'), start with
  | ':' :: rest, first :: _ =>
    if isLetter first && start.all isSchemeChar then (start.map Char.toLower, rest) else ([], cs)
  | _, _ => ([], cs)

def endsAuthority (c : Char) : Bool :=
  c == '/' || c == '?' || c == '#'

/-- The authority after two slashes, and what follows it. -/
def splitAuthority : List Char → List Char × List Char
  | '/' :: '/' :: rest =>
    (rest.takeWhile fun c => !endsAuthority c, rest.dropWhile fun c => !endsAuthority c)
  | cs => ([], cs)

/-- The compatibility characters that stand for a character which ends or divides authorities. -/
def hiddenDelimiters : List Nat :=
  [0x2047, 0x2048, 0x2049, 0x2100, 0x2101, 0x2105, 0x2106, 0x2A74, 0xFE13, 0xFE16, 0xFE55, 0xFE56,
    0xFE5F, 0xFE6B, 0xFF03, 0xFF0F, 0xFF1A, 0xFF1F, 0xFF20]

/-- Refuses an authority that is not well formed. -/
def checkAuthority (authority : List Char) : Except UrlError Unit :=
  if authority.contains '[' != authority.contains ']' then .error .unpairedBracket
  else if authority.any fun c => hiddenDelimiters.contains c.toNat then
    .error (.hiddenDelimiter (String.ofList authority))
  else .ok ()

/-- The schemes whose paths may end in parameters. -/
def parameterSchemes : List String :=
  ["", "ftp", "hdl", "prospero", "http", "imap", "https", "shttp", "rtsp", "rtspu", "sip", "sips",
    "mms", "sftp", "tel"]

/-- A path without the parameters of its last segment. -/
def dropParameters (scheme path : List Char) : List Char :=
  if parameterSchemes.contains (String.ofList scheme) then
    let last := (path.reverse.takeWhile (· != '/')).reverse
    path.take (path.length - last.length) ++ last.takeWhile (· != ';')
  else path

/-- The parts of an address.  Tabs and line ends anywhere in it do not count. -/
def split (address : String) : Except UrlError Parts := do
  let cs := address.toList.filter fun c => c != '\t' && c != '\r' && c != '\n'
  let (scheme, afterScheme) := splitScheme cs
  let (authority, afterAuthority) := splitAuthority afterScheme
  checkAuthority authority
  let path := afterAuthority.takeWhile fun c => c != '?' && c != '#'
  return { scheme, authority, path := dropParameters scheme path }

/-! ## Putting an address together -/

/-- The schemes against which relative paths are resolved. -/
def relativeSchemes : List String :=
  ["", "ftp", "http", "gopher", "nntp", "imap", "wais", "file", "https", "shttp", "mms",
    "prospero", "rtsp", "rtspu", "sftp", "svn", "svn+ssh", "ws", "wss"]

/-- The schemes whose addresses have an authority. -/
def authoritySchemes : List String :=
  ["", "ftp", "http", "gopher", "nntp", "telnet", "imap", "wais", "file", "mms", "https", "shttp",
    "snews", "prospero", "rtsp", "rtspu", "rsync", "svn", "svn+ssh", "sftp", "nfs", "git",
    "git+ssh", "ws", "wss"]

/-- The segments of a directory, the last segment of its path left out unless it is empty. -/
def directory (segments : List (List Char)) : List (List Char) :=
  if segments.getLast? == some [] then segments else segments.dropLast

/-- Leaves out the empty segments between the first and the last. -/
def dropEmptyInside : List (List Char) → List (List Char)
  | [] => []
  | [segment] => [segment]
  | first :: rest => first :: (rest.dropLast.filter (!·.isEmpty) ++ rest.getLast?.toList)

/-- Resolves the segments that stand for the same or the parent directory, the result being kept
in reverse order. -/
def resolveDots : List (List Char) → List (List Char) → List (List Char)
  | resolved, [] => resolved.reverse
  | resolved, segment :: rest =>
    if segment = ['.', '.'] then resolveDots resolved.tail rest
    else if segment = ['.'] then resolveDots resolved rest
    else resolveDots (segment :: resolved) rest

/-- Segments with slashes between them. -/
def joinSegments (segments : List (List Char)) : List Char :=
  List.intercalate ['/'] segments

/-- The path of segments resolved against the directory of a path. -/
def resolvePath (base : List Char) (segments : List (List Char)) : List Char :=
  let all := directory (Text.splitChars '/' base) ++ segments
  let resolved := joinSegments (resolveDots [] (dropEmptyInside all))
  if resolved.isEmpty then ['/'] else resolved

def unsplit (parts : Parts) : String :=
  let scheme := String.ofList parts.scheme
  let hasAuthority := !parts.authority.isEmpty ||
    (!parts.scheme.isEmpty && authoritySchemes.contains scheme && parts.path.take 2 != ['/', '/'])
  let path :=
    if hasAuthority then
      let rooted :=
        if !parts.path.isEmpty && parts.path.head? != some '/' then '/' :: parts.path
        else parts.path
      '/' :: '/' :: (parts.authority ++ rooted)
    else parts.path
  String.ofList (if parts.scheme.isEmpty then path else parts.scheme ++ ':' :: path)

/-- The address of a relative path, given by its segments, resolved against a base. -/
def join (base : String) (segments : List String) : Except UrlError String := do
  let parts ← split base
  let relative := segments.map String.toList
  if relativeSchemes.contains (String.ofList parts.scheme) then
    return unsplit { parts with path := resolvePath parts.path relative }
  else return String.ofList (joinSegments relative)

end TableSource.Url

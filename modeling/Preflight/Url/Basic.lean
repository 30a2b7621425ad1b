import Preflight.Mishap
import Preflight.Url.Address

/-!
# URLs

Taking a URL apart and joining a reference to a base. A scheme is what stands before the first colon
if it begins with a letter and holds letters, digits, `+`, `-` and `.` only.
-/

namespace Preflight.Url

open Text

structure Parts where
  scheme : List Char
  authority : List Char
  path : List Char
  query : List Char
  fragment : List Char
  deriving DecidableEq, Repr

def isSchemeChar (c : Char) : Bool := c.isAlphanum || c == '+' || c == '-' || c == '.'

/-- A text up to the first character of a kind, and the rest from that character on. -/
def cutBefore (p : Char → Bool) (s : List Char) : List Char × List Char :=
  (s.takeWhile (!p ·), s.dropWhile (!p ·))

/-- A text up to the first occurrence of a character, and what follows it if there is one. -/
def cutAt (c : Char) (s : List Char) : List Char × Option (List Char) :=
  match cutBefore (· == c) s with
  | (before, _ :: after) => (before, some after)
  | (before, []) => (before, none)

/-- The lower-case scheme at the head of a text, if any, and the rest. -/
def takeScheme (s : List Char) : List Char × List Char :=
  match cutAt ':' s with
  | (before, some after) =>
    if (before.head?.map Char.isAlpha).getD false && before.all isSchemeChar then
      (before.map Char.toLower, after)
    else ([], s)
  | (_, none) => ([], s)

/-- Characters that become a delimiter of the authority once compatibility forms are replaced. -/
def confusables : List Nat := [0x2047, 0x2048, 0x2049, 0x2100, 0x2101, 0x2105, 0x2106, 0x2a74,
  0xfe13, 0xfe16, 0xfe55, 0xfe56, 0xfe5f, 0xfe6b, 0xff03, 0xff0f, 0xff1a, 0xff1f, 0xff20]

def authorityFault? (authority : List Char) : Option UrlFault :=
  let opening := authority.contains '['
  let closing := authority.contains ']'
  if opening != closing then some .unbalancedBrackets
  else
    let host := (cutAt ']' ((cutAt '[' authority).2.getD [])).1
    let bracketed : Option UrlFault :=
      if !opening then none
      else if host.head? == some 'v' then
        if isLaterVersion host then none else some .futureAddress
      else if isV4 host then some .shortAddressInBrackets
      else if isV6 host then none
      else some (.notAnAddress (String.ofList host))
    bracketed.or
      (if authority.any (confusables.contains ·.toNat) then
        some (.confusableAuthority (String.ofList authority))
      else none)

/-- A text as URLs are read: without control characters and blanks at its head, without tabs and
line breaks anywhere. -/
def clean (s : List Char) : List Char :=
  (s.dropWhile (·.toNat ≤ 32)).filter fun c => !(c == '\t' || c == '\r' || c == '\n')

/-- The authority at the head of a text that starts with two slashes, and the rest. -/
def takeAuthority : List Char → List Char × List Char
  | '/' :: '/' :: s => cutBefore (fun c => c == '/' || c == '?' || c == '#') s
  | s => ([], s)

def splitUrl (url : List Char) : Except UrlFault Parts :=
  let (scheme, rest) := takeScheme (clean url)
  let (authority, rest) := takeAuthority rest
  match authorityFault? authority with
  | some fault => .error fault
  | none =>
    let (rest, fragment) := cutAt '#' rest
    let (path, query) := cutAt '?' rest
    .ok ⟨scheme, authority, path, query.getD [], fragment.getD []⟩

/-- A text comes apart if its authority is one. -/
theorem exists_parts {url scheme authority rest behind : List Char}
    (hs : takeScheme (clean url) = (scheme, rest)) (ha : takeAuthority rest = (authority, behind))
    (hf : authorityFault? authority = none) :
    ∃ parts, splitUrl url = .ok parts ∧ parts.scheme = scheme := by
  unfold splitUrl
  rw [hs]
  dsimp only
  rw [ha]
  dsimp only
  rw [hf]
  exact ⟨_, rfl, rfl⟩

def hierarchical : List String :=
  ["", "ftp", "http", "gopher", "nntp", "telnet", "imap", "wais", "file", "mms", "https", "shttp",
    "snews", "prospero", "rtsp", "rtsps", "rtspu", "rsync", "svn", "svn+ssh", "sftp", "nfs", "git",
    "git+ssh", "ws", "wss"]

def withRelative : List String :=
  ["", "ftp", "http", "gopher", "nntp", "imap", "wais", "file", "https", "shttp", "mms",
    "prospero", "rtsp", "rtsps", "rtspu", "sftp", "svn", "svn+ssh", "ws", "wss"]

/-- Schemes whose last path segment may have parameters after a semicolon. -/
def withParameters : List String :=
  ["", "ftp", "hdl", "prospero", "http", "imap", "https", "shttp", "rtsp", "rtsps", "rtspu", "sip",
    "sips", "mms", "sftp", "tel"]

def schemeIn (schemes : List String) (scheme : List Char) : Bool :=
  schemes.contains (String.ofList scheme)

def Parts.text (u : Parts) : List Char :=
  let path :=
    if !u.authority.isEmpty || (!u.scheme.isEmpty && schemeIn hierarchical u.scheme) ||
        u.path.take 2 == ['/', '/'] then
      '/' :: '/' :: (u.authority ++
        if !u.path.isEmpty && u.path.head? != some '/' then '/' :: u.path else u.path)
    else u.path
  (if u.scheme.isEmpty then path else u.scheme ++ ':' :: path) ++
    (if u.query.isEmpty then [] else '?' :: u.query) ++
    (if u.fragment.isEmpty then [] else '#' :: u.fragment)

/-- A URL in its usual spelling: what taking it apart and putting it together gives. -/
def normalize (url : String) : Except UrlFault String :=
  (splitUrl url.toList).map fun u => String.ofList u.text

def takeParameters (path : List Char) : List Char × List Char :=
  let lastSegment := (path.reverse.takeWhile (· != '/')).reverse
  let earlier := path.take (path.length - lastSegment.length)
  match cutAt ';' lastSegment with
  | (segment, some parameters) => (earlier ++ segment, parameters)
  | (_, none) => (path, [])

/-- The parameters of the last segment, cut off for the schemes that have any. -/
def parameters (scheme path : List Char) : List Char × List Char :=
  if schemeIn withParameters scheme && path.contains ';' then takeParameters path else (path, [])

def withParameter (path parameter : List Char) : List Char :=
  if parameter.isEmpty then path else path ++ ';' :: parameter

/-- Follows the segments of a path: one dot stays, two dots go up, at the top nowhere. -/
def followDots (segments : List (List Char)) : List (List Char) :=
  segments.foldl (fun resolved segment =>
    if segment == ['.', '.'] then resolved.dropLast
    else if segment == ['.'] then resolved
    else resolved ++ [segment]) []

/-- The path of a reference with path `path` from a document at `base`. -/
def joinPaths (base path : List Char) : List Char :=
  let segments :=
    if path.head? == some '/' then split '/' path
    else
      let parts := split '/' base
      let parts := if parts.getLast? == some [] then parts else parts.dropLast
      let all := parts ++ split '/' path
      match all with
      | first :: rest => first :: (rest.dropLast.filter (!·.isEmpty) ++ rest.getLast?.toList)
      | [] => []
  let resolved := followDots segments
  let dotted := segments.getLast? == some ['.'] || segments.getLast? == some ['.', '.']
  let joined := joinWith '/' (if dotted then resolved ++ [[]] else resolved)
  if joined.isEmpty then ['/'] else joined

def join (base ref : String) : Except UrlFault String :=
  if base == "" then .ok ref
  else if ref == "" then .ok base
  else do
    let b ← splitUrl base.toList
    let r ← splitUrl ref.toList
    let scheme := if r.scheme.isEmpty then b.scheme else r.scheme
    let (path, parameter) := parameters scheme r.path
    let (basePath, baseParameter) := parameters b.scheme b.path
    if scheme != b.scheme || !schemeIn withRelative scheme then pure ref
    else if schemeIn hierarchical scheme && !r.authority.isEmpty then
      pure (String.ofList
        (Parts.text ⟨scheme, r.authority, withParameter path parameter, r.query, r.fragment⟩))
    else
      let authority := if schemeIn hierarchical scheme then b.authority else r.authority
      if path.isEmpty && parameter.isEmpty then
        let query := if r.query.isEmpty then b.query else r.query
        pure (String.ofList
          (Parts.text ⟨scheme, authority, withParameter basePath baseParameter, query, r.fragment⟩))
      else
        pure (String.ofList
          (Parts.text
            ⟨scheme, authority, withParameter (joinPaths basePath path) parameter, r.query,
              r.fragment⟩))

def cutFragment (url : String) : Except UrlFault (String × String) :=
  if url.toList.contains '#' then
    (splitUrl url.toList).map fun u =>
      let (path, parameter) := parameters u.scheme u.path
      (String.ofList (Parts.text { u with path := withParameter path parameter, fragment := [] }),
        String.ofList u.fragment)
  else .ok (url, "")

end Preflight.Url

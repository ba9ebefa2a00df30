import Walkthrough.Url.Host

/-! Addresses of pages, and the address that a reference stands for as seen from a page. -/
namespace Walkthrough

/-- An address in its parts, of which any may be empty. -/
structure Url where
  scheme : String
  host : String
  path : String
  params : String
  query : String
  fragment : String
  deriving DecidableEq, Repr, Inhabited

namespace Url

/-- Schemes whose addresses can be relative. -/
def relativeSchemes : List String :=
  ["", "ftp", "http", "gopher", "nntp", "imap", "wais", "file", "https", "shttp", "mms",
    "prospero", "rtsp", "rtsps", "rtspu", "sftp", "svn", "svn+ssh", "ws", "wss"]

/-- Schemes whose addresses name a host. -/
def hostSchemes : List String :=
  ["", "ftp", "http", "gopher", "nntp", "telnet", "imap", "wais", "file", "mms", "https", "shttp",
    "snews", "prospero", "rtsp", "rtsps", "rtspu", "rsync", "svn", "svn+ssh", "sftp", "nfs", "git",
    "git+ssh", "ws", "wss"]

/-- Schemes whose paths can carry parameters. -/
def paramSchemes : List String :=
  ["", "ftp", "hdl", "prospero", "http", "imap", "https", "shttp", "rtsp", "rtsps", "rtspu", "sip",
    "sips", "mms", "sftp", "tel"]

def isSchemeChar (c : Char) : Bool := c.isAlphanum || c = '+' || c = '-' || c = '.'

/-- The scheme in front of a colon, in small letters, and the rest. -/
def cutScheme (default : String) (cs : List Char) : String × List Char :=
  match Text.cutAt? [':'] cs with
  | some (c :: before, rest) =>
    if c.isAlpha && before.all isSchemeChar then
      (String.ofList ((c :: before).map Char.toLower), rest)
    else (default, cs)
  | _ => (default, cs)

/-- The text before a mark and after it; without the mark nothing comes after. -/
def cutOptional (mark : Char) (cs : List Char) : List Char × List Char :=
  (Text.cutAt? [mark] cs).getD (cs, [])

/-- Parameters stand behind a semicolon in the last segment of a path. -/
def cutParams (cs : List Char) : List Char × List Char :=
  let last := (cs.reverse.takeWhile (· != '/')).reverse
  match Text.cutAt? [';'] last with
  | some (before, params) => (cs.take (cs.length - last.length) ++ before, params)
  | none => (cs, [])

/-- The text without what browsers overlook: blanks and controls in front, tabs and line ends. -/
def cleaned (cs : List Char) : List Char :=
  (cs.dropWhile fun c => c.toNat ≤ 32).filter fun c => c != '\t' && c != '\r' && c != '\n'

/-- An address in its parts; `default` is the scheme where none is written. -/
def parse (default : String) (s : String) : Except HostFault Url := do
  let (scheme, rest) := cutScheme default (cleaned s.toList)
  let isHost := fun c => c != '/' && c != '?' && c != '#'
  let (host, rest) := match rest with
    | '/' :: '/' :: more => (more.takeWhile isHost, more.dropWhile isHost)
    | _ => ([], rest)
  checkBrackets host
  let (rest, fragment) := cutOptional '#' rest
  let (path, query) := cutOptional '?' rest
  checkPlain host
  let (path, params) := if paramSchemes.contains scheme then cutParams path else (path, [])
  return {
    scheme
    host := String.ofList host
    path := String.ofList path
    params := String.ofList params
    query := String.ofList query
    fragment := String.ofList fragment }

def startsWith (mark : String) (s : String) : Bool := mark.toList.isPrefixOf s.toList

/-- The path behind its host. -/
def hostAndPath (u : Url) (path : String) : String :=
  if u.host != "" || (u.scheme != "" && hostSchemes.contains u.scheme) || startsWith "//" path then
    "//" ++ u.host ++ (if path != "" && !startsWith "/" path then "/" ++ path else path)
  else path

/-- An address as text. -/
def text (u : Url) : String :=
  let path := if u.params = "" then u.path else u.path ++ ";" ++ u.params
  (if u.scheme = "" then "" else u.scheme ++ ":") ++ u.hostAndPath path ++
    (if u.query = "" then "" else "?" ++ u.query) ++
    (if u.fragment = "" then "" else "#" ++ u.fragment)

def segments (path : String) : List String :=
  (Text.splitBy (· == '/') path.toList).map String.ofList

/-- Segments without the empty ones between the first and the last. -/
def withoutInnerBlanks : List String → List String
  | [] => []
  | [s] => [s]
  | first :: rest => first :: (rest.dropLast.filter (· ≠ "") ++ rest.getLast?.toList)

/-- Segments without dots: two of them take away the segment before, if there is one. -/
def withoutDots (ss : List String) : List String :=
  let done := (ss.foldl (fun done s =>
    if s = ".." then done.drop 1 else if s = "." then done else s :: done) []).reverse
  match ss.getLast? with
  | some last => if last = "." ∨ last = ".." then done ++ [""] else done
  | none => done

/-- The path that a path stands for as seen from another. -/
def joinPath (base path : String) : String :=
  let ss :=
    if startsWith "/" path then segments path
    else
      let before := segments base
      let directory := if before.getLast? = some "" then before else before.dropLast
      withoutInnerBlanks (directory ++ segments path)
  let joined := "/".intercalate (withoutDots ss)
  if joined = "" then "/" else joined

/-- The address that a reference stands for as seen from a base. -/
def resolve (base reference : String) : Except HostFault String :=
  if base = "" then .ok reference
  else if reference = "" then .ok base
  else do
    let b ← parse "" base
    let r ← parse b.scheme reference
    if r.scheme ≠ b.scheme ∨ !relativeSchemes.contains r.scheme then return reference
    else if hostSchemes.contains r.scheme && r.host != "" then return r.text
    else
      let host := if hostSchemes.contains r.scheme then b.host else r.host
      if r.path = "" ∧ r.params = "" then
        return ({ r with
          host
          path := b.path
          params := b.params
          query := if r.query = "" then b.query else r.query } : Url).text
      else return ({ r with host, path := joinPath b.path r.path } : Url).text

end Url
end Walkthrough

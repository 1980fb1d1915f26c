import JudgeRelay.Net.Address

/-!
# URLs with a non-special scheme

The store is named by a URL such as `redis://host:6379/0`. Its scheme is none of the
special schemes of the URL standard (http, https, ws, wss, ftp, file), so its host is
opaque text, its path is split at `/` only, and no scheme has a default port. This
module reads such URLs as the standard's basic parser does with no base URL.

Components are kept as written. The standard percent-encodes some characters on the
way in; decoding the written text gives the same bytes, and that is all a reader of
a store address does with them. Tabs and line breaks are dropped first, and control
characters and spaces at either end.

A URL is refused when

1. it has no scheme (text before a colon: a letter, then letters, digits, `+`, `-`
   or `.`);
2. its host is empty while a user name, a password or a port is given;
3. its host is bracketed but not an IPv6 address, or holds a character no host may
   hold;
4. its port is not all digits, or exceeds 65535.
-/

namespace JudgeRelay

/-- The host of a URL with a non-special scheme. -/
inductive UrlHost where
  /-- Opaque text. -/
  | name (text : String)
  /-- A bracketed IPv6 address. -/
  | ipv6 (a : Ipv6)
  deriving Repr

/-- The path of a URL. -/
inductive UrlPath where
  /-- Segments; the written path is each one after a slash. -/
  | segments (list : List String)
  /-- The text after the scheme of a URL that cannot serve as a base. -/
  | unsplit (text : String)
  deriving Repr

/-- A URL with a non-special scheme, its components as written. -/
structure Url where
  /-- The scheme, in lower case. -/
  scheme : String
  username : String := ""
  /-- Present when the URL gives a nonempty password. -/
  password : Option String := none
  /-- Absent when the URL has no authority or an empty host. -/
  host : Option UrlHost := none
  port : Option Nat := none
  path : UrlPath := .segments []
  query : Option String := none
  fragment : Option String := none
  deriving Repr

namespace Url

/-- The schemes the standard treats specially. -/
def specialSchemes : List String := ["http", "https", "ws", "wss", "ftp", "file"]

/-- The text with tabs and line breaks removed, and control characters and spaces
trimmed from both ends. -/
def cleaned (s : String) : List Char :=
  let edge (c : Char) : Bool := c.toNat ≤ 0x20
  let trimmed := ((s.toList.dropWhile edge).reverse.dropWhile edge).reverse
  trimmed.filter fun c => c != '\t' && c != '\n' && c != '\r'

/-- The scheme in lower case and the text after its colon. -/
def scheme? : List Char → Option (String × List Char)
  | c :: rest =>
    if c.isAlpha then
      let body := rest.takeWhile fun d => d.isAlphanum || d == '+' || d == '-' || d == '.'
      match rest.drop body.length with
      | ':' :: after => some ((String.ofList (c :: body)).toLower, after)
      | _ => none
    else none
  | [] => none

/-- Whether a path segment is `.`, possibly written `%2e`. -/
def isSingleDot (seg : String) : Bool := seg == "." || seg.toLower == "%2e"

/-- Whether a path segment is `..`, possibly with its dots written `%2e`. -/
def isDoubleDot (seg : String) : Bool :=
  [".." , ".%2e", "%2e.", "%2e%2e"].contains seg.toLower

/-- Appends path segments, resolving `.` and `..`; a dot segment at the end leaves an
empty last segment. -/
def pushSegments (acc : List String) : List String → List String
  | [] => acc
  | [seg] =>
    if isDoubleDot seg then acc.dropLast ++ [""]
    else if isSingleDot seg then acc ++ [""]
    else acc ++ [seg]
  | seg :: rest =>
    pushSegments (if isDoubleDot seg then acc.dropLast else if isSingleDot seg then acc
      else acc ++ [seg]) rest

/-- The segments of a path written after an authority or a scheme: one leading slash
is dropped, the rest split at slashes. -/
def segmentsOf : List Char → List String
  | [] => []
  | '/' :: rest => pushSegments [] ((String.ofList rest).splitOn "/")
  | cs => pushSegments [] ((String.ofList cs).splitOn "/")

/-- The path, query and fragment of the text after the host and port. -/
def withTail (u : Url) (cs : List Char) (unsplit : Bool) : Url :=
  let pathPart := cs.takeWhile fun c => c != '?' && c != '#'
  let afterPath := cs.drop pathPart.length
  let path := if unsplit then UrlPath.unsplit (String.ofList pathPart) else .segments (segmentsOf pathPart)
  match afterPath with
  | '?' :: q =>
    let queryPart := q.takeWhile (· != '#')
    let fragment := match q.drop queryPart.length with
      | '#' :: f => some (String.ofList f)
      | _ => none
    { u with path, query := some (String.ofList queryPart), fragment }
  | '#' :: f => { u with path, fragment := some (String.ofList f) }
  | _ => { u with path }

/-- Splits host text from what follows it at the first colon outside brackets. -/
def hostEnd (inside : Bool) : List Char → List Char × List Char
  | [] => ([], [])
  | c :: rest =>
    if c == ':' && !inside then ([], c :: rest)
    else
      let (h, t) := hostEnd (if c == '[' then true else if c == ']' then false else inside) rest
      (c :: h, t)

/-- Characters no opaque host may hold. -/
def forbiddenInHost (c : Char) : Bool :=
  "\x00\t\n\r #/:<>?@[\\]^|".toList.contains c

/-- Reads a nonempty host. -/
def host? (text : List Char) : Option UrlHost :=
  match text with
  | '[' :: inner =>
    match inner.reverse with
    | ']' :: body => UrlHost.ipv6 <$> Ipv6.parse? (String.ofList body.reverse)
    | _ => none
  | _ => if text.any forbiddenInHost then none else some (.name (String.ofList text))

/-- Reads port digits; the value must stay within 65535 at every digit. -/
def portValue (acc : Nat) : List Char → Option Nat
  | [] => some acc
  | d :: rest =>
    let v := acc * 10 + (d.toNat - '0'.toNat)
    if v > 65535 then none else portValue v rest

/-- The user name and password of the text before the last `@` of an authority, and
whether either was given. -/
def credentials (info : List Char) : String × Option String × Bool :=
  let user := info.takeWhile (· != ':')
  let password := match info.drop user.length with
    | ':' :: pw => pw
    | _ => []
  (String.ofList user, (if password.isEmpty then none else some (String.ofList password)),
    !user.isEmpty || !password.isEmpty)

/-- Reads what follows `scheme://`. -/
def afterSlashes (scheme : String) (input : List Char) : Option Url := do
  let authority := input.takeWhile fun c => c != '/' && c != '?' && c != '#'
  let rest := input.drop authority.length
  let lastAt := (authority.zipIdx.filter (·.1 == '@')).getLast?.map (·.2)
  let (username, password, given, hostPort) ← match lastAt with
    | none => some ("", none, false, authority)
    | some 0 =>
      if authority.length == 1 && !rest.isEmpty then none
      else some ("", none, false, authority.drop 1)
    | some k =>
      let (u, p, g) := credentials (authority.take k)
      some (u, p, g, authority.drop (k + 1))
  let (hostText, afterHost) := hostEnd false hostPort
  let (port, pathStart) ← match afterHost with
    | ':' :: portText =>
      let digits := portText.takeWhile Char.isDigit
      let after := portText.drop digits.length
      if !(after.isEmpty || after.head? == some '\\') then none
      else do
        let p ← portValue 0 digits
        some ((if digits.isEmpty then none else some p), after ++ rest)
    | _ => some (none, rest)
  let host ← if hostText.isEmpty then
      if given || afterHost.head? == some ':' then none else some none
    else some <$> host? hostText
  some (withTail { scheme, username, password, host, port } pathStart false)

/-- Reads a URL whose scheme is not special; none when it is refused or its scheme is
special. -/
def parse? (text : String) : Option Url := do
  let (scheme, rest) ← scheme? (cleaned text)
  if specialSchemes.contains scheme then none
  else match rest with
    | '/' :: '/' :: after => afterSlashes scheme after
    | '/' :: _ => some (withTail { scheme } rest false)
    | _ => some (withTail { scheme } rest true)

/-- The path as the URL writes it. -/
def pathText (u : Url) : String :=
  match u.path with
  | .segments list => String.join (list.map ("/" ++ ·))
  | .unsplit text => text

end Url

/-! ## Percent-decoding and form data -/

namespace Url

/-- The value of a hexadecimal digit. -/
def hexValue? (b : UInt8) : Option Nat :=
  if 48 ≤ b && b ≤ 57 then some (b.toNat - 48)
  else if 65 ≤ b && b ≤ 70 then some (b.toNat - 55)
  else if 97 ≤ b && b ≤ 102 then some (b.toNat - 87)
  else none

/-- Bytes with each `%` that is followed by two hexadecimal digits replaced by the
byte they name. -/
def decodeBytes : List UInt8 → List UInt8
  | [] => []
  | 37 :: h :: l :: rest =>
    match hexValue? h, hexValue? l with
    | some a, some b => (a * 16 + b).toUInt8 :: decodeBytes rest
    | _, _ => 37 :: decodeBytes (h :: l :: rest)
  | b :: rest => b :: decodeBytes rest

/-- The bytes a percent-encoded text stands for. -/
def percentDecode (s : String) : ByteArray := ⟨(decodeBytes s.toUTF8.toList).toArray⟩

/-- Bytes as text: as UTF-8 when they are valid, otherwise each byte outside ASCII is
a replacement character. -/
def lossyText (b : ByteArray) : String :=
  match String.fromUTF8? b with
  | some s => s
  | none => String.ofList (b.toList.map fun x => if x < 128 then Char.ofNat x.toNat else '\uFFFD')

/-- A form-encoded component: `+` is a space, then percent-decoding. -/
def formDecode (s : String) : String :=
  lossyText (percentDecode (s.map fun c => if c == '+' then ' ' else c))

/-- The name and value pairs of a form-encoded query, empty items skipped. -/
def formPairs (query : String) : List (String × String) :=
  ((query.splitOn "&").filter (· != "")).map fun item =>
    let cs := item.toList
    let name := cs.takeWhile (· != '=')
    let value := (cs.drop name.length).drop 1
    (formDecode (String.ofList name), formDecode (String.ofList value))

/-- The query's pairs, none when there is no query. -/
def queryPairs (u : Url) : List (String × String) :=
  match u.query with
  | some q => formPairs q
  | none => []

end Url

end JudgeRelay

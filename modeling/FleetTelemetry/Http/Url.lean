import FleetTelemetry.Http.Domain

/-!
# URLs

A URL as the URL Standard reads it: a scheme, for special schemes (`http`, `https`, `ws`,
`wss`, `ftp`, `file`) an authority with a host and an optional port, a path of segments, an
optional query and an optional fragment. A scheme that is not special may instead have an opaque
path (`mailto:someone`).

Reading follows the standard's rules that matter for requests:

* leading and trailing C0 controls and spaces are dropped, tabs and line breaks removed;
* a special scheme needs a host; backslashes count as slashes; the default port is dropped;
* a domain is brought to ASCII as internationalized domain names are;
* a host ending in a number is an IPv4 address in any of its written forms; `[...]` is IPv6;
* `.` and `..` segments are resolved; characters outside each part's allowed set are
  percent-encoded as UTF-8.

Joining a reference to a base URL resolves scheme-relative, path-absolute, path-relative,
query-only and fragment-only references.
-/

namespace FleetTelemetry.Http

inductive UrlError where
  | relativeWithoutBase
  | emptyHost
  | invalidPort
  | invalidIpv4
  | invalidIpv6
  | forbiddenHostCharacter
  | invalidDomain
  deriving BEq, Repr

inductive Host where
  | domain (name : String)
  | ipv4 (address : Nat)
  | ipv6 (pieces : List Nat)
  | opaqueHost (text : String)
  deriving BEq, Repr

/-- A URL's path: segments joined by `/`, or an opaque text. -/
inductive UrlPath where
  | segments (parts : List String)
  | opaquePath (text : String)
  deriving BEq, Repr

structure Url where
  scheme : String
  username : String := ""
  password : String := ""
  host : Option Host := none
  port : Option Nat := none
  path : UrlPath := .segments []
  query : Option String := none
  fragment : Option String := none
  deriving BEq, Repr

/-! ### Character sets and percent-encoding -/

/-- The special schemes and their default ports (`file` has none). -/
def specialPort? : String → Option (Option Nat)
  | "http" => some (some 80)
  | "https" => some (some 443)
  | "ws" => some (some 80)
  | "wss" => some (some 443)
  | "ftp" => some (some 21)
  | "file" => some none
  | _ => none

def isSpecialScheme (s : String) : Bool := (specialPort? s).isSome

def inC0Set (b : Nat) : Bool := b < 0x20 || b > 0x7E

def inFragmentSet (b : Nat) : Bool :=
  inC0Set b || b == 0x20 || b == 0x22 || b == 0x3C || b == 0x3E || b == 0x60

def inQuerySet (b : Nat) : Bool :=
  inC0Set b || b == 0x20 || b == 0x22 || b == 0x23 || b == 0x3C || b == 0x3E

/-- Bytes encoded in the query of a URL with a special scheme: the query set and `'`. -/
def inSpecialQuerySet (b : Nat) : Bool := inQuerySet b || b == 0x27

def inPathSet (b : Nat) : Bool :=
  inQuerySet b || b == 0x3F || b == 0x60 || b == 0x7B || b == 0x7D

def inUserinfoSet (b : Nat) : Bool :=
  inPathSet b || b == 0x2F || b == 0x3A || b == 0x3B || b == 0x3D || b == 0x40 ||
    b == 0x5B || b == 0x5C || b == 0x5D || b == 0x5E || b == 0x7C

def hexUpper (n : Nat) : Char := if n < 10 then Char.ofNat (48 + n) else Char.ofNat (55 + n)

def encodeByte (inSet : Nat → Bool) (b : UInt8) : List Char :=
  if inSet b.toNat then ['%', hexUpper (b.toNat / 16), hexUpper (b.toNat % 16)]
  else [Char.ofNat b.toNat]

def percentEncode (inSet : Nat → Bool) (s : String) : String :=
  String.ofList (s.toUTF8.toList.flatMap (encodeByte inSet))

/-- Percent-decodes bytes: `%` and two hexadecimal digits is one byte, anything else stays. -/
def percentDecodeBytes : List UInt8 → List UInt8
  | [] => []
  | b :: h :: l :: tail =>
    if b == 37 then
      match Text.hexDigitValue? (Char.ofNat h.toNat), Text.hexDigitValue? (Char.ofNat l.toNat) with
      | some x, some y => UInt8.ofNat (16 * x + y) :: percentDecodeBytes tail
      | _, _ => b :: percentDecodeBytes (h :: l :: tail)
    else b :: percentDecodeBytes (h :: l :: tail)
  | b :: rest => b :: percentDecodeBytes rest

/-- Bytes read as UTF-8, each malformed sequence read as U+FFFD. -/
def utf8Lossy (bs : List UInt8) : String :=
  go bs [] (bs.length + 1)
where
  cont (b : UInt8) : Option Nat := if b.toNat &&& 0xC0 == 0x80 then some (b.toNat &&& 0x3F) else none
  go : List UInt8 → List Char → Nat → String
  | [], acc, _ => String.ofList acc.reverse
  | _, acc, 0 => String.ofList acc.reverse
  | b :: rest, acc, fuel + 1 =>
    let n := b.toNat
    if n < 0x80 then go rest (Char.ofNat n :: acc) fuel
    else if 0xC2 ≤ n && n < 0xE0 then
      match rest with
      | c1 :: r =>
        match cont c1 with
        | some x => go r (Char.ofNat (((n &&& 0x1F) <<< 6) + x) :: acc) fuel
        | none => go rest ('�' :: acc) fuel
      | [] => go rest ('�' :: acc) fuel
    else if 0xE0 ≤ n && n < 0xF0 then
      match rest with
      | c1 :: c2 :: r =>
        match cont c1, cont c2 with
        | some x, some y =>
          let cp := ((n &&& 0x0F) <<< 12) + (x <<< 6) + y
          if cp < 0x800 || (0xD800 ≤ cp && cp < 0xE000) then go rest ('�' :: acc) fuel
          else go r (Char.ofNat cp :: acc) fuel
        | _, _ => go rest ('�' :: acc) fuel
      | _ => go rest ('�' :: acc) fuel
    else if 0xF0 ≤ n && n < 0xF5 then
      match rest with
      | c1 :: c2 :: c3 :: r =>
        match cont c1, cont c2, cont c3 with
        | some x, some y, some z =>
          let cp := ((n &&& 0x07) <<< 18) + (x <<< 12) + (y <<< 6) + z
          if cp < 0x10000 || cp > 0x10FFFF then go rest ('�' :: acc) fuel
          else go r (Char.ofNat cp :: acc) fuel
        | _, _, _ => go rest ('�' :: acc) fuel
      | _ => go rest ('�' :: acc) fuel
    else go rest ('�' :: acc) fuel

/-- Percent-decodes a text and reads the bytes as UTF-8. -/
def percentDecode (s : String) : String := utf8Lossy (percentDecodeBytes s.toUTF8.toList)

/-! ### Hosts -/

/-- Reads a decimal, octal (leading `0`) or hexadecimal (`0x`) IPv4 part. -/
def ipv4Number? (s : String) : Option Nat :=
  let cs := s.toList
  let (digits, radix) := match cs with
    | '0' :: 'x' :: rest => (rest, 16)
    | '0' :: 'X' :: rest => (rest, 16)
    | '0' :: rest@(_ :: _) => (rest, 8)
    | _ => (cs, 10)
  if digits.isEmpty then (if radix == 16 then some 0 else none)
  else digits.foldl (fun acc c => acc.bind fun a =>
    (Text.hexDigitValue? c).bind fun d => if d < radix then some (a * radix + d) else none) (some 0)

/-- Whether a host ends in a number, so that it must be read as IPv4. -/
def endsInNumber (s : String) : Bool :=
  let parts := s.splitOn "."
  let parts := if parts.getLast? == some "" && parts.length > 1 then parts.dropLast else parts
  match parts.getLast? with
  | some last =>
    (last ≠ "" && last.toList.all Char.isDigit) || (ipv4Number? last).isSome && (last.startsWith "0x" || last.startsWith "0X")
  | none => false

def parseIpv4 (s : String) : Except UrlError Nat := do
  let parts := s.splitOn "."
  let parts := if parts.getLast? == some "" && parts.length > 1 then parts.dropLast else parts
  if parts.length > 4 then throw .invalidIpv4
  let numbers ← parts.mapM fun p => match ipv4Number? p with
    | some n => pure n
    | none => throw UrlError.invalidIpv4
  match numbers.reverse with
  | [] => throw .invalidIpv4
  | last :: earlier =>
    if earlier.any (· > 255) then throw .invalidIpv4
    if last ≥ Nat.pow 256 (5 - numbers.length) then throw .invalidIpv4
    let high := (earlier.reverse.zipIdx).foldl (fun acc (n, i) => acc + n * Nat.pow 256 (3 - i)) 0
    pure (high + last)

/-- Reads up to four hexadecimal digits of an IPv6 piece. -/
def hexPiece (cs : List Char) : Nat × Nat × List Char :=
  go cs 0 0
where
  go : List Char → Nat → Nat → Nat × Nat × List Char
  | c :: rest, v, n =>
    match Text.hexDigitValue? c with
    | some d => if n < 4 then go rest (v * 16 + d) (n + 1) else (v, n, c :: rest)
    | none => (v, n, c :: rest)
  | [], v, n => (v, n, [])

/-- Reads the dotted IPv4 tail of an IPv6 address into two pieces. -/
def ipv6Tail (cs : List Char) : Except UrlError (List Nat) := do
  let parts := (String.ofList cs).splitOn "."
  if parts.length ≠ 4 then throw .invalidIpv6
  let numbers ← parts.mapM fun p =>
    if p.isEmpty || !p.toList.all Char.isDigit || (p.length > 1 && p.startsWith "0") then
      throw UrlError.invalidIpv6
    else
      let v := p.toNat!
      if v > 255 then throw UrlError.invalidIpv6 else pure v
  match numbers with
  | [a, b, c, d] => pure [a * 256 + b, c * 256 + d]
  | _ => throw .invalidIpv6

/-- Reads the pieces of an IPv6 address (without brackets): groups of up to four hexadecimal
digits separated by `:`, at most one `::`, and an optional dotted IPv4 tail. -/
def parseIpv6 (s : String) : Except UrlError (List Nat) := do
  let (front, back, compressed) ← split (s.toList)
  let total := front.length + back.length
  if compressed then
    if total > 7 then throw .invalidIpv6
    pure (front ++ List.replicate (8 - total) 0 ++ back)
  else if total == 8 then pure front
  else throw .invalidIpv6
where
  pieces : List Char → Nat → Except UrlError (List Nat)
  | [], _ => pure []
  | _, 0 => throw .invalidIpv6
  | cs, fuel + 1 => do
    let (v, n, rest) := hexPiece cs
    match rest with
    | '.' :: _ => if n = 0 then throw .invalidIpv6 else ipv6Tail cs
    | [] => if n = 0 then throw .invalidIpv6 else pure [v]
    | ':' :: [] => throw .invalidIpv6
    | ':' :: more => if n = 0 then throw .invalidIpv6 else do pure (v :: (← pieces more fuel))
    | _ => throw .invalidIpv6
  /-- The pieces before and after a `::`, and whether there was one. -/
  split (cs : List Char) : Except UrlError (List Nat × List Nat × Bool) := do
    let text := String.ofList cs
    match text.splitOn "::" with
    | [whole] => pure (← pieces whole.toList (whole.length + 1), [], false)
    | [a, b] =>
      let front ← pieces a.toList (a.length + 1)
      let back ← pieces b.toList (b.length + 1)
      pure (front, back, true)
    | _ => throw .invalidIpv6

def parseSpecialHost (s : String) : Except UrlError Host := do
  if s.startsWith "[" then
    if !s.endsWith "]" then throw .invalidIpv6
    return .ipv6 (← parseIpv6 ((s.drop 1).dropEnd 1).toString)
  let some ascii := domainToAscii (percentDecode s) | throw .invalidDomain
  if ascii.isEmpty then throw .emptyHost
  if endsInNumber ascii then return .ipv4 (← parseIpv4 ascii)
  pure (.domain ascii)

def parseOpaqueHost (s : String) : Except UrlError Host := do
  if s.startsWith "[" then
    if !s.endsWith "]" then throw .invalidIpv6
    return .ipv6 (← parseIpv6 ((s.drop 1).dropEnd 1).toString)
  if s.toList.any (fun c => isForbiddenHostChar c) then throw .forbiddenHostCharacter
  pure (.opaqueHost (percentEncode inC0Set s))

/-- The text of an IPv6 address: lower-case pieces, the first longest run of two or more zero
pieces written `::`. -/
def ipv6Text (pieces : List Nat) : String :=
  let hex (n : Nat) := String.ofList (Nat.toDigits 16 n)
  let runs := (List.range 8).map fun i => (i, ((pieces.drop i).takeWhile (· == 0)).length)
  let best := runs.foldl (fun (bi, bl) (i, l) => if l > bl then (i, l) else (bi, bl)) (0, 0)
  if best.2 < 2 then ":".intercalate (pieces.map hex)
  else
    let before := (pieces.take best.1).map hex
    let after := (pieces.drop (best.1 + best.2)).map hex
    ":".intercalate before ++ "::" ++ ":".intercalate after

def Host.text : Host → String
  | .domain d => d
  | .ipv4 a => s!"{a / 16777216}.{a / 65536 % 256}.{a / 256 % 256}.{a % 256}"
  | .ipv6 p => "[" ++ ipv6Text p ++ "]"
  | .opaqueHost t => t

/-! ### Paths -/

def isSingleDot (s : String) : Bool := s == "." || s.toLower == "%2e"

/-- Whether a segment is `..` in any of its written forms. -/
def isDoubleDot (s : String) : Bool :=
  let l := s.toLower
  l == ".." || l == ".%2e" || l == "%2e." || l == "%2e%2e"

/-- Adds the raw segments of a path to a segment list, resolving dot segments: `..` drops the
last segment, `.` is skipped, and either at the end of the path leaves an empty last segment. -/
def pushSegments (encode : String → String) : List String → List String → List String
  | acc, [] => acc
  | acc, [s] =>
    if isDoubleDot s then acc.dropLast ++ [""]
    else if isSingleDot s then acc ++ [""]
    else acc ++ [encode s]
  | acc, s :: rest =>
    if isDoubleDot s then pushSegments encode acc.dropLast rest
    else if isSingleDot s then pushSegments encode acc rest
    else pushSegments encode (acc ++ [encode s]) rest

def splitPath (special : Bool) (s : String) : List String :=
  let parts := s.toList.foldr (fun c (cur, done) =>
    if c = '/' || (special && c = '\\') then ([], cur :: done) else (c :: cur, done)) ([], [])
  (parts.1 :: parts.2).map String.ofList

/-! ### Reading -/

/-- Drops leading and trailing C0 controls and spaces and removes tabs and line breaks. -/
def cleanInput (s : String) : List Char :=
  let trimmed := (s.toList.dropWhile (·.toNat ≤ 0x20)).reverse.dropWhile (·.toNat ≤ 0x20) |>.reverse
  trimmed.filter fun c => c ≠ '\t' && c ≠ '\n' && c ≠ '\r'

/-- Reads a scheme: an ASCII letter, then letters, digits, `+`, `-` or `.`, then `:`. -/
def schemeOf? (cs : List Char) : Option (String × List Char) :=
  match cs with
  | c :: _ =>
    if !c.isAlpha then none
    else
      let name := cs.takeWhile fun x => x.isAlphanum || x = '+' || x = '-' || x = '.'
      match cs.drop name.length with
      | ':' :: rest => some (String.ofList (name.map Char.toLower), rest)
      | _ => none
  | [] => none

def splitTail (cs : List Char) : List Char × Option (List Char) × Option (List Char) :=
  let (beforeHash, fragment) := match cs.idxOf? '#' with
    | some i => (cs.take i, some (cs.drop (i + 1)))
    | none => (cs, none)
  let (path, query) := match beforeHash.idxOf? '?' with
    | some i => (beforeHash.take i, some (beforeHash.drop (i + 1)))
    | none => (beforeHash, none)
  (path, query, fragment)

def encodeQueryFragment (special : Bool) (query fragment : Option (List Char)) :
    Option String × Option String :=
  (query.map fun q => percentEncode (if special then inSpecialQuerySet else inQuerySet) (String.ofList q),
   fragment.map fun f => percentEncode inFragmentSet (String.ofList f))

/-- The segments of a path text that starts after the authority or at a path-absolute
reference, resolved on top of earlier segments. -/
def pathSegments (special : Bool) (base : List String) (text : List Char) : List String :=
  let raw := splitPath special (String.ofList text)
  -- a path text starts with its separator; the part before it is empty
  let raw := match raw with
    | "" :: rest => rest
    | other => other
  let raw := if raw.isEmpty then [""] else raw
  pushSegments (percentEncode inPathSet) base raw

/-- The place of the first colon outside brackets, which starts the port. -/
def portColon : List Char → Bool → Nat → Option Nat
  | [], _, _ => none
  | c :: rest, inside, i =>
    if c = '[' then portColon rest true (i + 1)
    else if c = ']' then portColon rest false (i + 1)
    else if c = ':' && !inside then some i
    else portColon rest inside (i + 1)

/-- Reads an authority: user information, host and port. -/
def parseAuthority (scheme : String) (auth : List Char) :
    Except UrlError (String × String × Option Host × Option Nat) := do
  let special := isSpecialScheme scheme
  let (userinfo, hostPort) := match auth.reverse.idxOf? '@' with
    | some i => (some (auth.take (auth.length - 1 - i)), auth.drop (auth.length - i))
    | none => (none, auth)
  let (user, pass) := match userinfo with
    | some u => match u.idxOf? ':' with
      | some j => (percentEncode inUserinfoSet (String.ofList (u.take j)),
                   percentEncode inUserinfoSet (String.ofList (u.drop (j + 1))))
      | none => (percentEncode inUserinfoSet (String.ofList u), "")
    | none => ("", "")
  if userinfo.isSome && hostPort.isEmpty then throw .emptyHost
  let (hostText, portText) := match portColon hostPort false 0 with
    | some i => (hostPort.take i, some (hostPort.drop (i + 1)))
    | none => (hostPort, none)
  let port ← match portText with
    | none | some [] => pure none
    | some ds =>
      if !ds.all Char.isDigit then throw .invalidPort
      let v := (String.ofList ds).toNat!
      if v > 65535 then throw .invalidPort
      pure (if (specialPort? scheme).join == some v then none else some v)
  if hostText.isEmpty then
    if special && scheme ≠ "file" then throw .emptyHost
    if port.isSome || userinfo.isSome then throw .emptyHost
    return (user, pass, none, port)
  let host ← if special then parseSpecialHost (String.ofList hostText)
    else parseOpaqueHost (String.ofList hostText)
  let host := if scheme == "file" && host == .domain "localhost" then none else some host
  pure (user, pass, host, port)

/-- Splits what follows `//` into the authority and the rest. -/
def splitAuthority (special : Bool) (cs : List Char) : List Char × List Char :=
  let stop (c : Char) := c = '/' || c = '?' || c = '#' || (special && c = '\\')
  (cs.takeWhile (fun c => !stop c), cs.dropWhile (fun c => !stop c))

def withAuthority (scheme : String) (auth rest : List Char) : Except UrlError Url := do
  let special := isSpecialScheme scheme
  let (username, password, host, port) ← parseAuthority scheme auth
  let (pathText, query, fragment) := splitTail rest
  let (query, fragment) := encodeQueryFragment special query fragment
  let path := if pathText.isEmpty && !special then .segments []
    else .segments (pathSegments special [] pathText)
  pure { scheme, username, password, host, port, path, query, fragment }

def isSlash (special : Bool) (c : Char) : Bool := c = '/' || (special && c = '\\')

def parseWithScheme (scheme : String) (rest : List Char) (base : Option Url) : Except UrlError Url := do
  let special := isSpecialScheme scheme
  if special then
    match base with
    | some b =>
      -- a special URL of the base's scheme without two slashes is relative to the base
      if b.scheme == scheme then
        match rest with
        | c1 :: c2 :: _ => if !(isSlash true c1 && isSlash true c2) then return ← resolveRelative b rest
        | _ => return ← resolveRelative b rest
    | none => pure ()
    let afterSlashes := rest.dropWhile (isSlash true)
    if scheme == "file" then
      match rest with
      | c1 :: c2 :: more =>
        if isSlash true c1 && isSlash true c2 then
          let (auth, tail) := splitAuthority true more
          return ← withAuthority scheme auth tail
      | _ => pure ()
      let (pathText, query, fragment) := splitTail rest
      let (query, fragment) := encodeQueryFragment true query fragment
      return { scheme, path := .segments (pathSegments true [] pathText), query, fragment }
    let (auth, tail) := splitAuthority true afterSlashes
    withAuthority scheme auth tail
  else
    match rest with
    | '/' :: '/' :: more =>
      let (auth, tail) := splitAuthority false more
      withAuthority scheme auth tail
    | '/' :: _ =>
      let (pathText, query, fragment) := splitTail rest
      let (query, fragment) := encodeQueryFragment false query fragment
      pure { scheme, path := .segments (pathSegments false [] pathText), query, fragment }
    | _ =>
      let (pathText, query, fragment) := splitTail rest
      let (query, fragment) := encodeQueryFragment false query fragment
      pure { scheme, path := .opaquePath (percentEncode inC0Set (String.ofList pathText)), query, fragment }
where
  /-- Resolves a reference without a scheme against a base. -/
  resolveRelative (b : Url) (cs : List Char) : Except UrlError Url := do
    let special := isSpecialScheme b.scheme
    match cs with
    | c1 :: c2 :: more =>
      if isSlash special c1 && isSlash special c2 then
        let (auth, tail) := splitAuthority special more
        return ← withAuthority b.scheme auth tail
    | _ => pure ()
    let (pathText, query, fragment) := splitTail cs
    let (query', fragment) := encodeQueryFragment special query fragment
    match pathText with
    | c :: _ =>
      if isSlash special c then
        return { b with path := .segments (pathSegments special [] pathText), query := query', fragment }
      let baseSegments := match b.path with
        | .segments s => s.dropLast
        | .opaquePath _ => []
      let raw := splitPath special (String.ofList pathText)
      return { b with path := .segments (pushSegments (percentEncode inPathSet) baseSegments raw),
                      query := query', fragment }
    | [] =>
      match query with
      | some _ => pure { b with query := query', fragment }
      | none => pure { b with fragment := if fragment.isSome then fragment else none }

def Url.parse (s : String) : Except UrlError Url :=
  let cs := cleanInput s
  match schemeOf? cs with
  | some (scheme, rest) => parseWithScheme scheme rest none
  | none => .error .relativeWithoutBase

def Url.join (base : Url) (s : String) : Except UrlError Url :=
  let cs := cleanInput s
  match schemeOf? cs with
  | some (scheme, rest) => parseWithScheme scheme rest (some base)
  | none =>
    match base.path with
    | .opaquePath _ => if cs.head? == some '#' then parseWithScheme.resolveRelative base cs
        else .error .relativeWithoutBase
    | _ => parseWithScheme.resolveRelative base cs

namespace Url

def hasHost (u : Url) : Bool := u.host.isSome

def pathText (u : Url) : String :=
  match u.path with
  | .opaquePath t => t
  | .segments s => String.join (s.map ("/" ++ ·))

def target (u : Url) : String :=
  let p := u.pathText
  (if p.isEmpty then "/" else p) ++ (match u.query with | some q => "?" ++ q | none => "")

def text (u : Url) : String :=
  let authority := match u.host with
    | some h =>
      let userinfo := if u.username.isEmpty && u.password.isEmpty then ""
        else u.username ++ (if u.password.isEmpty then "" else ":" ++ u.password) ++ "@"
      "//" ++ userinfo ++ h.text ++ (match u.port with | some p => ":" ++ toString p | none => "")
    | none => if u.scheme == "file" then "//" else ""
  let path := u.pathText
  -- a path that starts with an empty segment would read as an authority
  let path := if u.host.isNone && u.scheme != "file" && path.startsWith "//" then "/." ++ path else path
  u.scheme ++ ":" ++ authority ++ path ++
    (match u.query with | some q => "?" ++ q | none => "") ++
    (match u.fragment with | some f => "#" ++ f | none => "")

def portOrDefault (u : Url) : Option Nat := u.port.orElse fun _ => (specialPort? u.scheme).join

end Url

end FleetTelemetry.Http

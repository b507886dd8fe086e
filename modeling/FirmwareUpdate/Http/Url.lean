import FirmwareUpdate.Http.Domain
import FirmwareUpdate.Text.Blank
import FirmwareUpdate.Text.Utf8

/-! Absolute URLs in their normal form: the scheme and the host in lower case and in ASCII, numeric
hosts written in one way, the usual socket left out, dots in the path resolved, and all that a URL
may not hold written as percent and two digits. -/

namespace FirmwareUpdate.Http

inductive UrlError
  | relative
  | emptyHost
  | socket
  | ipv4
  | ipv6
  | domain
  | domainCharacter

def UrlError.message : UrlError → String
  | .relative => "relative URL without a base"
  | .emptyHost => "empty host"
  | .socket => "invalid port number"
  | .ipv4 => "invalid IPv4 address"
  | .ipv6 => "invalid IPv6 address"
  | .domain => "invalid international domain name"
  | .domainCharacter => "invalid domain character"

structure User where
  name : List Char
  password : Option (List Char)
  deriving DecidableEq

structure Authority where
  user : User
  host : List Char
  socket : Option Nat

structure Url where
  scheme : List Char
  authority : Option Authority
  tail : List Char

def User.nobody : User := ⟨[], none⟩

def User.text (u : User) : List Char :=
  if u = .nobody then []
  else u.name ++ (u.password.elim [] fun (p : List Char) => ':' :: p) ++ ['@']

def Authority.text (a : Authority) : List Char :=
  a.user.text ++ a.host ++ a.socket.elim [] fun (n : Nat) => ':' :: Nat.toDigits 10 n

namespace Url

def text (u : Url) : String :=
  let authority := u.authority.elim [] fun (a : Authority) => '/' :: '/' :: a.text
  String.ofList (u.scheme ++ ':' :: authority ++ u.tail)

def isHttp (u : Url) : Bool :=
  u.scheme == "http".toList || u.scheme == "https".toList

inductive Kind
  | web (usualSocket : Nat)
  | file
  | other
  deriving DecidableEq

def kind (scheme : List Char) : Kind :=
  match String.ofList scheme with
  | "http" | "ws" => .web 80
  | "https" | "wss" => .web 443
  | "ftp" => .web 21
  | "file" => .file
  | _ => .other

def Kind.isLenient (k : Kind) : Bool := k ≠ .other

def Kind.isSlash (k : Kind) (c : Char) : Bool := c == '/' || (k.isLenient && c == '\\')

def upperHex (n : Nat) : Char := (Nat.digitChar n).toUpper

def percent (b : UInt8) : List Char :=
  ['%', upperHex (b.toNat / 16), upperHex (b.toNat % 16)]

def encodeChar (escaped : List Char) (c : Char) : List Char :=
  if c.toNat < 0x20 ∨ 0x7E < c.toNat ∨ c ∈ escaped then
    (String.singleton c).toUTF8.toList.flatMap percent
  else [c]

def pathEscapes : List Char := [' ', '"', '#', '<', '>', '?', '\x60', '\x7b', '\x7d']

def queryEscapes (k : Kind) : List Char :=
  [' ', '"', '#', '<', '>'] ++ if k.isLenient then ['\''] else []

def fragmentEscapes : List Char := [' ', '"', '<', '>', '\x60']

def userEscapes : List Char :=
  pathEscapes ++ ['/', ':', ';', '=', '@', '[', '\\', ']', '^', '|']

def percentDecode : List Char → List UInt8
  | [] => []
  | '%' :: a :: b :: cs =>
      match Text.hexValue? a, Text.hexValue? b with
      | some x, some y => .ofNat (x * 16 + y) :: percentDecode cs
      | _, _ => '%'.toUInt8 :: percentDecode (a :: b :: cs)
  | c :: cs => (String.singleton c).toUTF8.toList ++ percentDecode cs
termination_by cs => cs.length

def splitAt (sep : Char → Bool) (cs : List Char) : List Char × List Char :=
  (cs.takeWhile (!sep ·), cs.dropWhile (!sep ·))

def hostNumber? (cs : List Char) : Option Nat :=
  let digits (base : Nat) (cs : List Char) : Option Nat :=
    cs.foldl (fun n c => n.bind fun (n : Nat) => (Text.hexValue? c).bind fun (d : Nat) =>
      if d < base then some (n * base + d) else none) (some 0)
  match cs with
  | [] => none
  | '0' :: 'x' :: cs => digits 16 cs
  | '0' :: 'X' :: cs => digits 16 cs
  | '0' :: c :: cs => digits 8 (c :: cs)
  | cs => digits 10 cs

def hostParts (cs : List Char) : List (List Char) :=
  let ps := Text.parts '.' cs
  if 1 < ps.length ∧ ps.getLast? = some [] then ps.dropLast else ps

def endsInNumber (cs : List Char) : Bool :=
  match (hostParts cs).getLast? with
  | none => false
  | some p => (p ≠ [] && p.all Char.isDigit) ||
      (("0x".toList.isPrefixOf p || "0X".toList.isPrefixOf p) && (hostNumber? p).isSome)

def dotted (n : Nat) : List Char :=
  Nat.toDigits 10 (n / 0x1000000 % 256) ++ '.' :: Nat.toDigits 10 (n / 0x10000 % 256) ++
    '.' :: Nat.toDigits 10 (n / 0x100 % 256) ++ '.' :: Nat.toDigits 10 (n % 256)

def ipv4? (cs : List Char) : Option Nat :=
  let ps := hostParts cs
  match ps.mapM hostNumber? with
  | none => none
  | some ns =>
      match ns.getLast? with
      | none => none
      | some last =>
          let front := ns.dropLast
          if 4 < ns.length ∨ front.any (255 < ·) ∨ Nat.pow 256 (5 - ns.length) ≤ last then none
          else some (front.zipIdx.foldl (fun m (n, i) => m + n * Nat.pow 256 (3 - i)) last)

def ipv6Groups? (cs : List Char) : Option (List Nat) :=
  if cs = [] then some []
  else
    let ps := Text.parts ':' cs
    let group? (p : List Char) : Option Nat :=
      if p = [] ∨ 4 < p.length then none
      else p.foldl (fun n c => n.bind fun (n : Nat) => (Text.hexValue? c).map (n * 16 + ·)) (some 0)
    let octet? (p : List Char) : Option Nat :=
      if p = [] ∨ 3 < p.length ∨ !p.all Char.isDigit ∨ (1 < p.length ∧ p.head? = some '0') then none
      else
        let n := p.foldl (fun n c => n * 10 + (c.toNat - 48)) 0
        if n ≤ 255 then some n else none
    match ps.getLast? with
    | none => none
    | some last =>
        if '.' ∈ last then
          match ps.dropLast.mapM group?, (Text.parts '.' last).mapM octet? with
          | some gs, some [a, b, c, d] => some (gs ++ [a * 256 + b, c * 256 + d])
          | _, _ => none
        else ps.mapM group?

def splitDouble : List Char → Option (List Char × List Char)
  | [] => none
  | ':' :: ':' :: cs => some ([], cs)
  | c :: cs => (splitDouble cs).map fun (a, b) => (c :: a, b)

def ipv6? (cs : List Char) : Option (List Nat) :=
  match splitDouble cs with
  | none => (ipv6Groups? cs).filter (·.length == 8)
  | some (a, b) =>
      match ipv6Groups? a, ipv6Groups? b with
      | some xs, some ys =>
          if xs.length + ys.length ≤ 7 ∧ '.' ∉ a then
            some (xs ++ List.replicate (8 - xs.length - ys.length) 0 ++ ys)
          else none
      | _, _ => none

def longestZeros : Nat → List Nat → Nat × Nat
  | _, [] => (0, 0)
  | i, n :: ns =>
      let here := ((n :: ns).takeWhile (· == 0)).length
      let (j, later) := longestZeros (i + 1) ns
      if later ≤ here then (i, here) else (j, later)

def colons (ns : List Nat) : List Char :=
  ((ns.map (Nat.toDigits 16)).intersperse [':']).flatten

def writeIpv6 (ns : List Nat) : List Char :=
  let (start, length) := longestZeros 0 ns
  let body :=
    if length < 2 then colons ns
    else colons (ns.take start) ++ [':', ':'] ++ colons (ns.drop (start + length))
  '[' :: body ++ [']']

def forbiddenInHost : List Char :=
  [' ', '#', '/', ':', '<', '>', '?', '@', '[', '\\', ']', '^', '|']

def parseBracketed (cs : List Char) : Except UrlError (List Char) :=
  if cs.getLast? = some ']' then
    match ipv6? cs.dropLast with
    | some ns => .ok (writeIpv6 ns)
    | none => .error .ipv6
  else .error .ipv6

def parseDomain (cs : List Char) : Except UrlError (List Char) :=
  match Domain.toAscii? (Text.Utf8.decodeLossy (percentDecode cs)) with
  | none => .error .domain
  | some [] => .error .emptyHost
  | some domain =>
      if endsInNumber domain then
        match ipv4? domain with
        | some n => .ok (dotted n)
        | none => .error .ipv4
      else .ok domain

def parseHost : List Char → Except UrlError (List Char)
  | [] => .error .emptyHost
  | '[' :: cs => parseBracketed cs
  | cs => parseDomain cs

def parseOpaqueHost : List Char → Except UrlError (List Char)
  | '[' :: cs => parseBracketed cs
  | cs =>
      if cs.any fun (c : Char) => c = '\x00' ∨ c ∈ forbiddenInHost then .error .domainCharacter
      else .ok (cs.flatMap (encodeChar []))

def localhost : List Char := "localhost".toList

def parseFileHost (cs : List Char) : Except UrlError (List Char) :=
  if cs = [] then .ok []
  else (parseHost cs).map fun (h : List Char) => if h = localhost then [] else h

def parseSocket (usualSocket : Option Nat) : List Char → Except UrlError (Option Nat × List Char)
  | ':' :: cs =>
      let digits := cs.takeWhile Char.isDigit
      let rest := cs.dropWhile Char.isDigit
      let n := digits.foldl (fun n c => n * 10 + (c.toNat - 48)) 0
      if 65535 < n ∨ (rest ≠ [] ∧ rest.head? ≠ some '\\') then .error .socket
      else .ok (if digits = [] ∨ some n = usualSocket then none else some n, rest)
  | rest => .ok (none, rest)

def hostLength (inBrackets : Bool) : List Char → Nat
  | [] => 0
  | c :: cs =>
      if c = ':' ∧ !inBrackets then 0
      else hostLength (if c = '[' then true else if c = ']' then false else inBrackets) cs + 1

def parseUser (cs : List Char) : User :=
  let (name, rest) := splitAt (· == ':') cs
  let written : List Char → List Char := (·.flatMap (encodeChar userEscapes))
  ⟨written name, if rest.length ≤ 1 then none else some (written rest.tail)⟩

def splitUser (cs : List Char) : Option (List Char) × List Char :=
  match cs.reverse.dropWhile (· != '@') with
  | [] => (none, cs)
  | _ :: user => (some user.reverse, (cs.reverse.takeWhile (· != '@')).reverse)

def isDot (p : List Char) : Bool :=
  p.map Char.toLower ∈ [".".toList, "%2e".toList]

def isDoubleDot (p : List Char) : Bool :=
  p.map Char.toLower ∈ ["..".toList, ".%2e".toList, "%2e.".toList, "%2e%2e".toList]

def isDrive : List Char → Bool
  | [c, d] => c.isAlpha && (d == ':' || d == '|')
  | _ => false

def back : List (List Char) → List (List Char)
  | [] => []
  | p :: ps => if isDrive p then p :: ps else ps

def forth (k : Kind) (done : List (List Char)) (p : List Char) : List (List Char) :=
  if k = .file ∧ done = [] ∧ isDrive p then [p.take 1 ++ [':']] else p :: done

def resolveDots (k : Kind) (done : List (List Char)) : List (List Char) → List (List Char)
  | [] => done.reverse
  | [p] =>
      if isDoubleDot p then ([] :: back done).reverse
      else if isDot p then ([] :: done).reverse
      else (forth k done p).reverse
  | p :: ps =>
      if isDoubleDot p then resolveDots k (back done) ps
      else if isDot p then resolveDots k done ps
      else resolveDots k (forth k done p) ps

def pathParts (k : Kind) (cs : List Char) : List (List Char) :=
  resolveDots k [] (Text.parts '/' (cs.map fun c => if k.isSlash c then '/' else c))

def joined (ps : List (List Char)) : List Char :=
  ps.flatMap fun p => '/' :: p.flatMap (encodeChar pathEscapes)

def withoutSlash (k : Kind) : List Char → List Char
  | [] => []
  | c :: cs => if k.isSlash c then cs else c :: cs

def writePath (k : Kind) (cs : List Char) : List Char :=
  joined (pathParts k (withoutSlash k cs))

def writeTail (k : Kind) (path : List Char → List Char) (cs : List Char) : List Char :=
  let (front, fragment) := splitAt (· == '#') cs
  let (front, query) := splitAt (· == '?') front
  path front ++
    (match query with
    | [] => []
    | _ :: q => '?' :: q.flatMap (encodeChar (queryEscapes k))) ++
    match fragment with
    | [] => []
    | _ :: f => '#' :: f.flatMap (encodeChar fragmentEscapes)

def endsAuthority (k : Kind) (c : Char) : Bool := k.isSlash c || c == '?' || c == '#'

def parseWeb (scheme : List Char) (usualSocket : Nat) (cs : List Char) : Except UrlError Url := do
  let k := Kind.web usualSocket
  let (authority, tail) := splitAt (endsAuthority k) cs
  let (user, place) := splitUser authority
  let n := hostLength false place
  let host ← parseHost (place.take n)
  let (socket, _) ← parseSocket (some usualSocket) (place.drop n)
  let user := user.elim .nobody parseUser
  return ⟨scheme, some ⟨user, host, socket⟩, writeTail k (writePath k) tail⟩

def writeFilePath (ps : List (List Char)) : List Char :=
  '/' :: (joined ps).dropWhile (· == '/')

def fileUrl (scheme host : List Char) (path : List Char → List (List Char)) (tail : List Char) :
    Url :=
  ⟨scheme, some ⟨.nobody, host, none⟩,
    writeTail .file (fun front => writeFilePath (path front)) tail⟩

def filePath (front : List Char) : List (List Char) :=
  pathParts .file (withoutSlash .file front)

def isOnDrive (tail : List Char) : Bool :=
  (filePath (tail.takeWhile fun c => c != '?' && c != '#')).head?.any isDrive

def parseFilePlace (scheme cs : List Char) : Except UrlError Url := do
  let (place, tail) := splitAt (endsAuthority .file) cs
  if isDrive place then return fileUrl scheme [] (pathParts .file) cs
  else
    let host ← parseFileHost place
    if host = [] then return fileUrl scheme [] (pathParts .file) tail
    else return fileUrl scheme (if isOnDrive tail then [] else host) filePath tail

def parseFile (scheme : List Char) : List Char → Except UrlError Url
  | a :: b :: cs =>
      if Kind.file.isSlash a && Kind.file.isSlash b then parseFilePlace scheme cs
      else .ok (fileUrl scheme [] filePath (a :: b :: cs))
  | cs => .ok (fileUrl scheme [] filePath cs)

def parseOther (scheme : List Char) : List Char → Except UrlError Url
  | '/' :: '/' :: cs => do
      let (authority, tail) := splitAt (endsAuthority .other) cs
      let (user, place) := splitUser authority
      let n := hostLength false place
      let name := user.elim .nobody parseUser
      if n = 0 ∧ (place ≠ [] ∨ user = some [] ∨ name ≠ .nobody) then .error .emptyHost
      else
        let host ← parseOpaqueHost (place.take n)
        let (socket, rest) ← parseSocket none (place.drop n)
        let path (front : List Char) : List Char :=
          if front = [] then [] else writePath .other front
        let tail := if rest = [] then tail else '/' :: rest ++ tail
        return ⟨scheme, some ⟨name, host, socket⟩, writeTail .other path tail⟩
  | '/' :: cs =>
      let path (front : List Char) : List Char :=
        let path := writePath .other front
        if ['/', '/'].isPrefixOf path then '/' :: '.' :: path else path
      .ok ⟨scheme, none, writeTail .other path ('/' :: cs)⟩
  | cs =>
      let path (front : List Char) : List Char := front.flatMap (encodeChar [])
      .ok ⟨scheme, none, writeTail .other path cs⟩

def isSchemeChar (c : Char) : Bool :=
  c.isAlphanum || c == '+' || c == '-' || c == '.'

def isEdge (c : Char) : Bool := c.toNat ≤ 0x20

def strip (cs : List Char) : List Char :=
  (Text.trimEnd isEdge (cs.dropWhile isEdge)).filter fun c => c != '\t' && c != '\n' && c != '\r'

def parse (s : String) : Except UrlError Url :=
  let (scheme, rest) := splitAt (!isSchemeChar ·) (strip s.toList)
  match scheme.head?.any Char.isAlpha, rest with
  | true, ':' :: rest =>
      let scheme := scheme.map Char.toLower
      match kind scheme with
      | .web socket =>
          parseWeb scheme socket (rest.dropWhile (Kind.web socket).isSlash)
      | .file => parseFile scheme rest
      | .other => parseOther scheme rest
  | _, _ => .error .relative

def isReadable (cs : List Char) : Bool := (Text.Utf8.decode (percentDecode cs)).isSome

def isKnown (u : User) : Bool :=
  isReadable u.name && (u.name != [] || u.password.any isReadable)

def anonymous (u : Url) : Url :=
  match u.authority with
  | none => u
  | some a => if isKnown a.user then { u with authority := some { a with user := .nobody } } else u

def greatestLength : Nat := 65534

def isSendable (u : Url) : Bool :=
  let strange : List Char := ['"', '\x60', '\x7b', '\x7d']
  u.authority.all (fun (a : Authority) => a.host.all (!strange.contains ·)) &&
    u.text.length ≤ greatestLength

end Url

end FirmwareUpdate.Http

import Polyglot.Text.Utf8

/-!
# Addresses on the web

The parts of an address that a request needs: the scheme, which is `http` or `https`, who is asked,
the path with its dots resolved, and the query. Fragments are dropped. Characters that may not stand
in a request are written as their bytes in hexadecimal.

An authority stays as it was written, with the credentials in it. It is checked for a host and a
port; whether that host is there, and also whether its name can be one, is up to the transport.
-/

namespace Polyglot

inductive Scheme where
  | http
  | https
deriving DecidableEq, Repr

structure Url where
  scheme : Scheme := .http
  /-- Who is asked, as it was written. -/
  authority : String
  path : String
  query : Option String
deriving DecidableEq, Repr

namespace Url

/-! ## Percent encoding -/

def upperHex (n : Nat) : Char :=
  if n < 10 then Char.ofNat (48 + n) else Char.ofNat (55 + n)

def percentByte (byte : UInt8) : List Char :=
  ['%', upperHex (byte.toNat / 16), upperHex (byte.toNat % 16)]

/-- Blanks, controls and everything outside ASCII are encoded everywhere. -/
def isAlwaysEncoded (c : Char) : Bool :=
  c.toNat ≤ 0x20 || 0x7F ≤ c.toNat

def pathSpecials : List Char :=
  ['"', '#', '<', '>', '?', '\x60', '\x7b', '\x7d']

def querySpecials : List Char :=
  ['"', '#', '\'', '<', '>']

def percentEncode (specials : List Char) (cs : List Char) : List Char :=
  cs.flatMap fun c =>
    if isAlwaysEncoded c || specials.contains c then
      (Text.Utf8.encodeChar c).flatMap percentByte
    else [c]

/-! ## Paths -/

/-- A segment in lowercase with encoded dots decoded. -/
def undot : List Char → List Char
  | '%' :: '2' :: 'e' :: rest => '.' :: undot rest
  | '%' :: '2' :: 'E' :: rest => '.' :: undot rest
  | c :: rest => c :: undot rest
  | [] => []

def isSlash (c : Char) : Bool :=
  c == '/' || c == '\\'

/-- Segments between slashes of either kind. -/
def segments : List Char → List (List Char)
  | [] => [[]]
  | c :: rest =>
    if isSlash c then [] :: segments rest
    else match segments rest with
      | [] => [[c]]
      | first :: others => (c :: first) :: others

/-- Resolve dots: one stays, two go up. `done` are the segments so far, latest first; dots at the
end leave an empty segment behind. -/
def resolve (done : List (List Char)) : List (List Char) → List (List Char)
  | [] => done.reverse
  | [last] =>
    if undot last = ['.', '.'] then ([] :: done.tail).reverse
    else if undot last = ['.'] then ([] :: done).reverse
    else (last :: done).reverse
  | segment :: rest =>
    if undot segment = ['.', '.'] then resolve done.tail rest
    else if undot segment = ['.'] then resolve done rest
    else resolve (segment :: done) rest

/-- The path of an address, from its first slash on. -/
def pathOf (cs : List Char) : String :=
  let written := match cs with
    | [] => []
    | c :: rest => if isSlash c then rest else c :: rest
  let resolved := (resolve [] (segments written)).map (percentEncode pathSpecials)
  String.ofList (resolved.flatMap ('/' :: ·))

/-! ## Authorities -/

/-- May the character stand in the name of a host? -/
def isHostChar (c : Char) : Bool :=
  0x20 < c.toNat && c.toNat != 0x7F && !"#/:<>?@[\\]^|".toList.contains c

/-- May the character stand in the address of a host, between brackets? -/
def isHostAddressChar (c : Char) : Bool :=
  c.isDigit || 'a' ≤ c.toLower && c.toLower ≤ 'f' || c == ':' || c == '.'

/-- Is it a number that a port can have? It may be missing behind the colon. -/
def isPort (cs : List Char) : Bool :=
  cs.all Char.isDigit && cs.foldl (fun n c => n * 10 + (c.toNat - '0'.toNat)) 0 < 65536

/-- Is it a host, with a colon and a port or without? -/
def isHostAndPort : List Char → Bool
  | '[' :: rest =>
    let address := rest.takeWhile (· != ']')
    address.contains ':' && address.all isHostAddressChar &&
      match rest.dropWhile (· != ']') with
      | [']'] => true
      | ']' :: ':' :: port => isPort port
      | _ => false
  | cs =>
    let host := cs.takeWhile (· != ':')
    !host.isEmpty && host.all isHostChar && isPort ((cs.dropWhile (· != ':')).drop 1)

/-- Is there somebody to ask? Credentials stand before the last at sign. -/
def isAuthority (cs : List Char) : Bool :=
  isHostAndPort (cs.reverse.takeWhile (· != '@')).reverse

/-! ## Reading -/

/-- Characters that are passed over at both ends. -/
def isControlOrSpace (c : Char) : Bool :=
  c.toNat ≤ 0x20

/-- Characters that are passed over everywhere. -/
def isTabOrBreak (c : Char) : Bool :=
  c == '\t' || c == '\n' || c == '\r'

def strip (cs : List Char) : List Char :=
  let trimmed := ((cs.dropWhile isControlOrSpace).reverse.dropWhile isControlOrSpace).reverse
  trimmed.filter (!isTabOrBreak ·)

/-- What follows a prefix, which is in lowercase, in a text of any case. -/
def afterPrefix? : List Char → List Char → Option (List Char)
  | [], rest => some rest
  | _ :: _, [] => none
  | c :: front, d :: rest => if c = d.toLower then afterPrefix? front rest else none

/-- The scheme of an address and what follows it. -/
def scheme? (cs : List Char) : Option (Scheme × List Char) :=
  match afterPrefix? "https:".toList cs with
  | some rest => some (.https, rest)
  | none => (afterPrefix? "http:".toList cs).map fun rest => (.http, rest)

/-- Read an address; there must be somebody to ask. -/
def read? (text : String) : Option Url :=
  match scheme? (strip text.toList) with
  | none => none
  | some (scheme, rest) =>
    let rest := rest.dropWhile isSlash
    let endsAuthority (c : Char) := isSlash c || c == '?' || c == '#'
    let authority := rest.takeWhile (!endsAuthority ·)
    if !isAuthority authority then none
    else
      let rest := (rest.dropWhile (!endsAuthority ·)).takeWhile (· != '#')
      let path := rest.takeWhile (· != '?')
      let query := match rest.dropWhile (· != '?') with
        | [] => none
        | _ :: query => some (String.ofList (percentEncode querySpecials query))
      some { scheme, authority := String.ofList authority, path := pathOf path, query }

/-- Add a parameter at the end of the query. -/
def withParameter (url : Url) (name value : String) : Url :=
  let pair := name ++ "=" ++ value
  match url.query with
  | none => { url with query := some pair }
  | some "" => { url with query := some pair }
  | some query => { url with query := some (query ++ "&" ++ pair) }

/-- Path and query, as a request names them. -/
def target (url : Url) : String :=
  match url.query with
  | none => url.path
  | some query => url.path ++ "?" ++ query

end Url

end Polyglot

import GranuleRecall.Url.Address
import GranuleRecall.Url.Domain

/-! # Absolute URLs

Whether a text is an absolute URL, and if not, why. Only the scheme, the host and the port can be
wrong: user information, paths, queries and fragments are always accepted.

This and the modules below it belong to the outer layer: they stand for the behaviour of a parser
library. Settings and commands take the check of URLs as a parameter, what is proved of them holds
for every such check, and only the program itself fills in this one. -/
set_option autoImplicit false

namespace GranuleRecall.Url

open Decimal

inductive Fault
  | relative
  | emptyHost
  | invalidPort
  | invalidAddress4
  | invalidAddress6
  | invalidHostCharacter
  | invalidDomain
deriving DecidableEq, Repr

def Fault.message : Fault → String
  | .relative => "relative URL without a base"
  | .emptyHost => "empty host"
  | .invalidPort => "invalid port number"
  | .invalidAddress4 => "invalid IPv4 address"
  | .invalidAddress6 => "invalid IPv6 address"
  | .invalidHostCharacter => "invalid domain character"
  | .invalidDomain => "invalid international domain name"

inductive SchemeKind
  | file
  /-- The other schemes of the web: their URLs always have a host. -/
  | known
  | other
deriving DecidableEq, Repr

/-- The kind of a scheme in lower case. -/
def SchemeKind.of (scheme : String) : SchemeKind :=
  if scheme = "file" then .file
  else if ["http", "https", "ws", "wss", "ftp"].contains scheme then .known
  else .other

def SchemeKind.foldsBackslash (kind : SchemeKind) : Bool :=
  kind != .other

/-- Without control characters and spaces at both ends, and without tabs and line ends
anywhere. -/
def stripped (characters : List Char) : List Char :=
  let isOuter := fun (character : Char) => character.toNat ≤ 0x20
  let inner := ((characters.dropWhile isOuter).reverse.dropWhile isOuter).reverse
  inner.filter fun character => character != '\t' && character != '\n' && character != '\r'

/-- The scheme in lower case and what follows its colon: a letter, then letters, digits, plus,
hyphen or point. -/
def splitScheme (characters : List Char) : Option (String × List Char) :=
  match characters with
  | [] => none
  | first :: _ =>
    if first.isAlpha then
      let isSchemeCharacter := fun (character : Char) =>
        character.isAlphanum || character == '+' || character == '-' || character == '.'
      let scheme := characters.takeWhile isSchemeCharacter
      match characters.drop scheme.length with
      | ':' :: remaining => some (String.ofList (scheme.map Char.toLower), remaining)
      | _ => none
    else none

/-! ## Hosts -/

/-- The bytes of a text with each percent sign and two hexadecimal digits decoded. -/
def percentDecoded : List UInt8 → List UInt8
  | [] => []
  | 0x25 :: high :: low :: remaining =>
    match hexValue? (Char.ofNat high.toNat), hexValue? (Char.ofNat low.toNat) with
    | some highValue, some lowValue =>
      UInt8.ofNat (highValue * 16 + lowValue) :: percentDecoded remaining
    | _, _ => 0x25 :: percentDecoded (high :: low :: remaining)
  | byte :: remaining => byte :: percentDecoded remaining

def checkBracketed (characters : List Char) : Except Fault Unit :=
  match characters.reverse with
  | ']' :: inner =>
    if isAddress6 (inner.reverse.drop 1) then .ok () else .error .invalidAddress6
  | _ => .error .invalidAddress6

/-- Checks a host of a scheme of the web: an address or a domain name. -/
def checkHost (characters : List Char) : Except Fault Unit :=
  match characters with
  | '[' :: _ => checkBracketed characters
  | _ =>
    let bytes := percentDecoded (String.ofList characters).toUTF8.toList
    match String.fromUTF8? (ByteArray.mk bytes.toArray) with
    | none => .error .invalidDomain
    | some decoded =>
      match domainLabels decoded.toList with
      | none => .error .invalidDomain
      | some labels =>
        if labels == [[]] then .error .emptyHost
        else if endsInNumber labels && !isAddress4 labels then .error .invalidAddress4
        else .ok ()

/-- Checks a host of another scheme: an address in brackets, or any text without the characters
that would end a host or be taken for something else. -/
def checkOtherHost (characters : List Char) : Except Fault Unit :=
  match characters with
  | '[' :: _ => checkBracketed characters
  | _ =>
    if characters.any ("\x00\t\n\r #/:<>?@[\\]^|".toList.contains ·) then
      .error .invalidHostCharacter
    else .ok ()

/-! ## Authorities -/

def endsAuthority (kind : SchemeKind) (character : Char) : Bool :=
  character == '/' || character == '?' || character == '#' ||
    (character == '\\' && kind.foldsBackslash)

def takeHost (bracketed : Bool) : List Char → List Char × List Char
  | [] => ([], [])
  | character :: remaining =>
    if character = ':' ∧ ¬ bracketed then ([], character :: remaining)
    else
      let inside := if character = '[' then true else if character = ']' then false else bracketed
      let (host, following) := takeHost inside remaining
      (character :: host, following)

/-- Checks the digits of a port up to the first backslash: a number below `2 ^ 16`, or
nothing. -/
def checkPort (number : Nat) : List Char → Except Fault Unit
  | [] => .ok ()
  | character :: remaining =>
    match digitValue? character with
    | some value =>
      let extended := number * 10 + value
      if 65535 < extended then .error .invalidPort else checkPort extended remaining
    | none => if character = '\\' then .ok () else .error .invalidPort

/-- The user information before the last `@` of an authority, if there is one, and the rest. -/
def splitUser (authority : List Char) : Option (List Char) × List Char :=
  let reversed := authority.reverse
  let host := (reversed.takeWhile (· != '@')).reverse
  match reversed.dropWhile (· != '@') with
  | [] => (none, host)
  | _ :: user => (some user.reverse, host)

def checkAuthority (kind : SchemeKind) (characters : List Char) : Except Fault Unit := do
  let authority := characters.takeWhile (!endsAuthority kind ·)
  let following := characters.drop authority.length
  let (user?, location) := splitUser authority
  if user? == some [] && location.isEmpty && !following.isEmpty then throw .emptyHost
  let (host, port) := takeHost false location
  if kind == .known && host.isEmpty then throw .emptyHost
  if kind == .other then checkOtherHost host else checkHost host
  match host, port with
  | [], ':' :: _ => throw .emptyHost
  | _, ':' :: digits => checkPort 0 digits
  | _, _ => pure ()
  let hasUser := match user? with
    | none | some [] | some [':'] => false
    | some _ => true
  if host.isEmpty && hasUser then throw .emptyHost

/-- Checks what follows the scheme `file`. Only after two slashes there is a host, and a drive
letter is none. -/
def checkFile (characters : List Char) : Except Fault Unit :=
  let isSlash := fun (character : Char) => character == '/' || character == '\\'
  match characters with
  | first :: second :: remaining =>
    if isSlash first && isSlash second then
      let host := remaining.takeWhile (!endsAuthority .file ·)
      let isDrive := match host with
        | [letter, mark] => letter.isAlpha && (mark == ':' || mark == '|')
        | _ => false
      if host.isEmpty || isDrive then .ok () else checkHost host
    else .ok ()
  | _ => .ok ()

def check (text : String) : Except Fault Unit :=
  match splitScheme (stripped text.toList) with
  | none => .error .relative
  | some (scheme, remaining) =>
    match SchemeKind.of scheme with
    | .file => checkFile remaining
    | .known => checkAuthority .known (remaining.dropWhile fun character =>
        character == '/' || character == '\\')
    | .other =>
      match remaining with
      | '/' :: '/' :: authority => checkAuthority .other authority
      | _ => .ok ()

/-- The check as settings ask for it. -/
def checkText (text : String) : Except String Unit :=
  (check text).mapError Fault.message

end GranuleRecall.Url

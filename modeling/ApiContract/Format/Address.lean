import ApiContract.Format.HostName
import ApiContract.Text.Segments
import ApiContract.Unicode.Classes

/-!
Network addresses: IPv4 and IPv6 addresses and mail addresses.
-/

namespace ApiContract.Format

def isHexDigit (c : Char) : Bool :=
  c.isDigit || ('a' ≤ c && c ≤ 'f') || ('A' ≤ c && c ≤ 'F')

/-- A decimal number up to 255 without leading zeros. -/
def isOctet (text : List Char) : Bool :=
  text != [] && text.length ≤ 3 && text.all Char.isDigit
    && (text.length == 1 || text.head? != some '0')
    && text.foldl (fun total c => 10 * total + (c.toNat - 48)) 0 ≤ 255

def isIPv4 (text : List Char) : Bool :=
  let parts := Text.split '.' text
  parts.length == 4 && parts.all isOctet

/-- One to four hexadecimal digits. -/
def isHexGroup (text : List Char) : Bool :=
  text != [] && text.length ≤ 4 && text.all isHexDigit

/-- The number of 16-bit groups that colon-separated text spells; an IPv4 address may end it and counts twice. -/
def groupCount? (allowIPv4 : Bool) (text : List Char) : Option Nat :=
  if text = [] then some 0
  else
    let parts := Text.split ':' text
    match parts.getLast? with
    | none => none
    | some last =>
        if !parts.dropLast.all isHexGroup then none
        else if isHexGroup last then some parts.length
        else if allowIPv4 && isIPv4 last then some (parts.length + 1)
        else none

/-- Eight groups, or fewer with one pair of colons in place of the missing ones. -/
def isIPv6 (text : List Char) : Bool :=
  match Text.cutAt? [':', ':'] text with
  | none => groupCount? true text == some 8
  | some (head, tail) =>
      match groupCount? false head, groupCount? true tail with
      | some front, some back => front + back ≤ 7
      | _, _ => false

/-! ## Mail addresses -/

def isAtomChar (c : Char) : Bool :=
  Unicode.isAlphanumeric c || "!#$%&'*+-/=?^_`\x7b|\x7d~".toList.contains c

def isAtom (text : List Char) : Bool := text != [] && text.all isAtomChar

def isDotAtom (text : List Char) : Bool := (Text.split '.' text).all isAtom

/-- The inside of a quoted name: printable ASCII characters, blanks, and escaped ones. -/
def isQuotedContent : List Char → Bool
  | [] => true
  | '\\' :: c :: rest => (33 ≤ c.toNat && c.toNat ≤ 126) && isQuotedContent rest
  | c :: rest =>
      (c == ' ' || c == '\t' || c.toNat == 33 || (35 ≤ c.toNat && c.toNat ≤ 91)
        || (93 ≤ c.toNat && c.toNat ≤ 126)) && isQuotedContent rest

def byteLength (text : List Char) : Nat := (String.ofList text).utf8ByteSize

def isLocalPart (text : List Char) : Bool :=
  if text = [] ∨ byteLength text > 64 then false
  else if text.head? = some '"' ∧ text.getLast? = some '"' then
    text.length > 2 && isQuotedContent (text.drop 1).dropLast
  else isDotAtom text

/-- A label of a mail domain: an atom that starts and ends with a letter or digit. -/
def isMailLabel (text : List Char) : Bool :=
  isAtom text && byteLength text ≤ 63
    && text.head?.any Unicode.isAlphanumeric && text.getLast?.any Unicode.isAlphanumeric

/-- The text between brackets that enclose the whole. -/
def bracketed? (text : List Char) : Option (List Char) :=
  if text.length ≥ 2 ∧ text.head? = some '[' ∧ text.getLast? = some ']' then
    some (text.drop 1).dropLast
  else none

/-- A host name, or an IP address between brackets. -/
def isMailDomain (isHost : List Char → Bool) (text : List Char) : Bool :=
  if text = [] ∨ byteLength text > 254 then false
  else match bracketed? text with
    | some literal =>
        if "IPv6:".toList.isPrefixOf literal then isIPv6 (literal.drop 5) else isIPv4 literal
    | none => (Text.split '.' text).all isMailLabel && isHost text

/-- The text before and after the last occurrence of a mark. -/
def cutAtLast? (mark text : List Char) : Option (List Char × List Char) :=
  (Text.cutAt? mark.reverse text.reverse).map fun (after, before) => (before.reverse, after.reverse)

def isPlainEmail (isHost : List Char → Bool) (text : List Char) : Bool :=
  match cutAtLast? ['@'] text with
  | some (name, domain) => isLocalPart name && isMailDomain isHost domain
  | none => false

/-- A mail address, possibly in angle brackets after a display name, at a host with some form of name. -/
def isEmailAt (isHost : List Char → Bool) (text : List Char) : Bool :=
  match cutAtLast? [' ', '<'] text with
  | none => isPlainEmail isHost text
  | some (_, right) =>
      let right := (Unicode.trim (String.ofList right)).toList
      right.getLast? == some '>' && isPlainEmail isHost right.dropLast

def isEmail : List Char → Bool := isEmailAt isHostname

def isInternationalEmail : List Char → Bool := isEmailAt isInternationalHostname

end ApiContract.Format

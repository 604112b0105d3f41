import ApiContract.Format.Address

/-!
Absolute URIs: a scheme, an optional authority, a path, and optionally a query and a fragment.
-/

namespace ApiContract.Format

def isUnreserved (c : Char) : Bool := c.isAlphanum || "-._~".toList.contains c

def isSubDelimiter (c : Char) : Bool := "!$&'()*+,;=".toList.contains c

/-- Characters of a class and percent escapes of two hexadecimal digits. -/
def isEscapedText (allowed : Char → Bool) : List Char → Bool
  | [] => true
  | '%' :: a :: b :: rest => isHexDigit a && isHexDigit b && isEscapedText allowed rest
  | c :: rest => allowed c && isEscapedText allowed rest

def isNameChar (c : Char) : Bool := isUnreserved c || isSubDelimiter c

def isPathChar (c : Char) : Bool := isNameChar c || c == ':' || c == '@' || c == '/'

def isQueryChar (c : Char) : Bool := isPathChar c || c == '?'

def isScheme (text : List Char) : Bool :=
  match text with
  | [] => false
  | c :: rest => c.isAlpha && rest.all fun c => c.isAlphanum || "+-.".toList.contains c

/-- A future kind of address: `v`, a hexadecimal version, a point and some text. -/
def isFutureAddress (text : List Char) : Bool :=
  match text with
  | v :: rest =>
      let version := rest.takeWhile isHexDigit
      match rest.dropWhile isHexDigit with
      | '.' :: address =>
          (v == 'v' || v == 'V') && version != [] && address != []
            && address.all fun c => isNameChar c || c == ':'
      | _ => false
  | [] => false

/-- A host with an optional port. -/
def isHostPort (text : List Char) : Bool :=
  match text with
  | '[' :: rest =>
      let address := rest.takeWhile (· ≠ ']')
      (isIPv6 address || isFutureAddress address) &&
        match rest.dropWhile (· ≠ ']') with
        | [_] => true
        | _ :: ':' :: port => port.all Char.isDigit
        | _ => false
  | text =>
      isEscapedText isNameChar (text.takeWhile (· ≠ ':'))
        && ((text.dropWhile (· ≠ ':')).drop 1).all Char.isDigit

def isAuthority (text : List Char) : Bool :=
  match cutAtLast? ['@'] text with
  | some (user, host) => isEscapedText (fun c => isNameChar c || c == ':') user && isHostPort host
  | none => isHostPort text

/-- What follows the scheme, up to the query. -/
def isHierarchy (text : List Char) : Bool :=
  match text with
  | '/' :: '/' :: rest =>
      isAuthority (rest.takeWhile (· ≠ '/')) && isEscapedText isPathChar (rest.dropWhile (· ≠ '/'))
  | text => isEscapedText isPathChar text

def isUri (text : List Char) : Bool :=
  let scheme := text.takeWhile (· ≠ ':')
  match text.dropWhile (· ≠ ':') with
  | _ :: rest =>
      let beforeFragment := rest.takeWhile (· ≠ '#')
      let fragment := (rest.dropWhile (· ≠ '#')).drop 1
      let hierarchy := beforeFragment.takeWhile (· ≠ '?')
      let query := (beforeFragment.dropWhile (· ≠ '?')).drop 1
      isScheme scheme && isHierarchy hierarchy
        && isEscapedText isQueryChar query && isEscapedText isQueryChar fragment
  | [] => false

end ApiContract.Format

import ApiContract.Yaml.Cursor

/-!
Tags: the names of types. A tag is written in ASCII, and escapes of two hexadecimal digits stand for
its other bytes. Each run of escapes has the shape of one encoded character, but need not be one, so a
tag is kept as bytes. It ends at a zero byte.
-/

namespace ApiContract.Yaml

structure Tag where
  bytes : List UInt8
deriving DecidableEq, Repr, Inhabited

namespace Tag

def ofText (text : String) : Tag := ⟨text.toUTF8.toList⟩

/-- A tag of the core schema. -/
def core (name : String) : Tag := ofText ("tag:yaml.org,2002:" ++ name)

def append (first second : Tag) : Tag := ⟨first.bytes ++ second.bytes⟩

def isEmpty (tag : Tag) : Bool := tag.bytes.isEmpty

/-- The tag before its first zero byte. -/
def cut (tag : Tag) : Tag := ⟨tag.bytes.takeWhile (· ≠ 0)⟩

/-- Starts with an exclamation mark. -/
def isLocal (tag : Tag) : Bool := tag.bytes.head? == some 33

/-- A local tag whose name is text; such a tag names a type that no value has. -/
def isForeign (tag : Tag) : Bool :=
  tag.isLocal && (ByteArray.mk (tag.bytes.drop 1).toArray).validateUTF8

end Tag

/-! ## Reading -/

/-- The byte of an escape and what follows it. -/
def escapedByte? : List Char → Option (Nat × List Char)
  | '%' :: high :: low :: rest => do return (16 * (← hexDigit? high) + (← hexDigit? low), rest)
  | _ => none

/-- How many bytes follow the first one of a character. -/
def bytesAfter? (byte : Nat) : Option Nat :=
  if byte < 0x80 then some 0
  else if 0xC0 ≤ byte ∧ byte < 0xE0 then some 1
  else if 0xE0 ≤ byte ∧ byte < 0xF0 then some 2
  else if 0xF0 ≤ byte ∧ byte < 0xF8 then some 3
  else none

/-- So many escaped bytes that go on a character. -/
def laterBytes? : Nat → List Char → Option (List UInt8 × List Char)
  | 0, text => some ([], text)
  | count + 1, text => do
      let (byte, rest) ← escapedByte? text
      if 0x80 ≤ byte ∧ byte < 0xC0 then
        let (bytes, rest) ← laterBytes? count rest
        return (UInt8.ofNat byte :: bytes, rest)
      else none

/-- The escaped bytes of one character. -/
def escapedChar? (text : List Char) : Option (List UInt8 × List Char) := do
  let (byte, rest) ← escapedByte? text
  let (bytes, rest) ← laterBytes? (← bytesAfter? byte) rest
  return (UInt8.ofNat byte :: bytes, rest)

/-- Characters of a tag; between angle brackets some more are allowed. -/
def isTagChar (verbatim : Bool) (c : Char) : Bool :=
  isNameChar c || ";/?:@&=+$.%!~*'()".toList.contains c || (verbatim && ",[]".toList.contains c)

/-- The tag at the start of a text, perhaps empty, and what follows it. -/
def takeTag (verbatim : Bool) : Nat → List Char → Option (Tag × List Char)
  | 0, text => some (⟨[]⟩, text)
  | fuel + 1, text =>
      match text with
      | [] => some (⟨[]⟩, [])
      | c :: rest =>
          if !isTagChar verbatim c then some (⟨[]⟩, text)
          else do
            let (bytes, rest) ←
              if c = '%' then escapedChar? text else some ([UInt8.ofNat c.toNat], rest)
            let (tag, rest) ← takeTag verbatim fuel rest
            return (⟨bytes ++ tag.bytes⟩, rest)

/-- The tag at a cursor and the cursor behind it. -/
def Cursor.readTag (cursor : Cursor) (verbatim : Bool) : Option (Tag × Cursor) := do
  let (tag, rest) ← takeTag verbatim (cursor.rest.length + 1) cursor.rest
  return (tag, cursor.advance (cursor.rest.length - rest.length))

end ApiContract.Yaml

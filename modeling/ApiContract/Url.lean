import ApiContract.Text.Segments

/-!
Document addresses: file paths and URLs, kept in one canonical spelling in which `.` and `..`
segments are resolved, and references, which name a document relative to another and a place in it.
-/

namespace ApiContract.Url

/-- A prefix that no segment leaves (scheme and authority, or the root slash), and the rest. -/
structure Parts where
  root : List Char
  path : List Char
deriving Repr

/-- None for a URL that ends with its authority. -/
def parts? (text : List Char) : Option Parts :=
  match Text.cutAt? "://".toList text with
  | some (scheme, after) =>
      let authority := after.takeWhile (· ≠ '/')
      match after.dropWhile (· ≠ '/') with
      | [] => none
      | _ :: path => some ⟨scheme ++ "://".toList ++ authority ++ ['/'], path⟩
  | none => match text with
      | '/' :: path => some ⟨['/'], path⟩
      | path => some ⟨[], path⟩

/-- Takes one more segment onto the resolved ones, which are in reverse. -/
def pushSegment (rooted : Bool) (reversed : List (List Char)) (segment : List Char) :
    List (List Char) :=
  if segment = [] ∨ segment = ['.'] then reversed
  else if segment = ['.', '.'] then
    match reversed with
    | last :: others =>
        if last ≠ ['.', '.'] then others
        else if rooted then reversed else segment :: reversed
    | [] => if rooted then [] else [segment]
  else segment :: reversed

def resolveSegments (rooted : Bool) (segments : List (List Char)) : List (List Char) :=
  (segments.foldl (pushSegment rooted) []).reverse

def normalizeChars (text : List Char) : List Char :=
  match parts? text with
  | none => text
  | some parts =>
      parts.root ++ Text.join '/' (resolveSegments (parts.root ≠ []) (Text.split '/' parts.path))

/-- The canonical spelling of a path or URL. -/
def normalize (path : String) : String := String.ofList (normalizeChars path.toList)

def isRemote (text : String) : Bool :=
  Text.startsWith text "http://" || Text.startsWith text "https://"

/-- The document part and the pointer part of a reference, cut at the first number sign. -/
def splitReference (reference : String) : String × String :=
  match Text.cutAt? ['#'] reference.toList with
  | some (document, pointer) => (String.ofList document, String.ofList pointer)
  | none => (reference, "")

/-- Everything up to the last slash, the slash included. -/
def directory (text : List Char) : List Char :=
  (text.reverse.dropWhile (· ≠ '/')).reverse

/-- The document that a reference names, as written inside the document at `base`. -/
def join (base reference : String) : String :=
  if reference = "" then base
  else if isRemote reference || Text.startsWith reference "/" then normalize reference
  else String.ofList (normalizeChars (directory base.toList ++ reference.toList))

/-- Whether a document's address, up to any query or fragment, ends like a YAML file. -/
def namesYaml (text : String) : Bool :=
  let path := String.ofList (text.toList.takeWhile fun c => c ≠ '?' ∧ c ≠ '#')
  Text.endsWith path ".yaml" || Text.endsWith path ".yml"

end ApiContract.Url

set_option autoImplicit false

namespace PatternLexer

inductive File where
  | directory
  | text (content : String)
  | binary
deriving DecidableEq

def File.ofBytes (bytes : ByteArray) : File :=
  match String.fromUTF8? bytes with
  | some s => .text s
  | none => .binary

-- The directories that lead to a member need not be listed.
structure Files where
  members : List (List String × File) := []
deriving DecidableEq

namespace Files

def names : List Char → List (List Char)
  | [] => [[]]
  | c :: cs =>
    match names cs with
    | [] => []
    | n :: ns => if c = '/' then [] :: n :: ns else (c :: n) :: ns

def pathNames (path : String) : List String := (names path.toList).map String.ofList

def ofList (members : List (String × File)) : Files :=
  ⟨members.map fun m => (pathNames m.1, m.2)⟩

def find? (fs : Files) (place : List String) : Option File :=
  (fs.members.find? fun m => m.1 == place).map (·.2)

def isDirectory (fs : Files) (place : List String) : Bool :=
  place.isEmpty || fs.find? place == some .directory ||
    fs.members.any fun m => place.isPrefixOf m.1 && m.1.length > place.length

-- Nothing lies above the top directory.
def resolve? (fs : Files) (place : List String) : List String → Option (List String)
  | [] => some place
  | name :: path =>
    if !fs.isDirectory place then none
    else if name = "" ∨ name = "." then fs.resolve? place path
    else if name = ".." then
      if place = [] then none else fs.resolve? place.dropLast path
    else fs.resolve? (place ++ [name]) path

def pathLimit : Nat := 4095

-- A path that starts at the root of the system leads to none.
def read? (fs : Files) (path : String) : Option String :=
  if pathLimit < path.utf8ByteSize then none
  else
    match pathNames path with
    | "" :: _ => none
    | names =>
      match (fs.resolve? [] names).bind fs.find? with
      | some (.text content) => some content
      | _ => none

end Files

end PatternLexer

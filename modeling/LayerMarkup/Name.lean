import LayerMarkup.Text.Basic
import LayerMarkup.Text.Lowercase

/-!
# Names of layers and keys of properties

Layer names are free text; tags are words of ASCII letters and digits.  A name is turned into a tag
by running its words together, each with a capital letter in front.  It is gone through more than
once: spaces take the place of whatever is neither letter nor digit (`spaceRuns`), and come between
a small letter and a capital behind it (`spaceCapitals`); then the name is taken apart (`tokens`).
-/

namespace LayerMarkup.Name

def isSmall (c : Char) : Bool := 'a' ≤ c && c ≤ 'z'

def isCapital (c : Char) : Bool := 'A' ≤ c && c ≤ 'Z'

def isNumeral (c : Char) : Bool := '0' ≤ c && c ≤ '9'

/-- The characters of which tags are made. -/
def isTagChar (c : Char) : Bool := isSmall c || isCapital c || isNumeral c

/-- Each run of characters that are no tag characters becomes one space.  The flag says whether the
character before belongs to such a run. -/
def spaceRuns (inRun : Bool) : List Char → List Char
  | [] => []
  | c :: rest =>
    if isTagChar c then c :: spaceRuns false rest
    else if inRun then spaceRuns true rest
    else ' ' :: spaceRuns true rest

/-- A space goes between a small letter and a capital behind it. -/
def spaceCapitals : List Char → List Char
  | a :: b :: rest =>
    if isSmall a && isCapital b then a :: ' ' :: b :: spaceCapitals rest
    else a :: spaceCapitals (b :: rest)
  | cs => cs

/-- What separates tokens: blanks, underscores and hyphens. -/
def isSeparator (c : Char) : Bool := Text.isBlank c || c == '_' || c == '-'

/-- The tokens between separators.  Those that are empty are left out. -/
def tokens (cs : List Char) : List (List Char) := (cs.splitOnP isSeparator).filter (!·.isEmpty)

/-- A token with its first letter large and the others small. -/
def capitalized : List Char → List Char
  | [] => []
  | c :: rest => c.toUpper :: rest.map Char.toLower

/-- The words of a name run together, each with its first letter large and the others small. -/
def pascalCase (name : String) : String :=
  String.ofList ((tokens (spaceCapitals (spaceRuns false name.toList))).flatMap capitalized)

/-- The tag of a component: the words of its name, after the common start of all tags unless they
begin with it, large and small letters being the same. -/
def tag (name start : String) : String :=
  let pascal := pascalCase name
  if Text.startsWith (Text.lower pascal) (Text.lower start) then pascal else start ++ pascal

/-- The key of a property without the mark that tells it from others of the same name: what comes
before the first number sign. -/
def stripKeySuffix (key : String) : String := String.ofList (key.toList.takeWhile (· != '#'))

/-- A name is private when it begins with one of the markers.  The empty marker marks nothing. -/
def isPrivate (name : String) (markers : List String) : Bool :=
  markers.any fun marker => !marker.isEmpty && Text.startsWith name marker

end LayerMarkup.Name

import LanguageClient.Text.ClusterClass

/-!
Texts as clusters: what readers take for one character, such as a letter with its accents or an
emoji made of several. Whether a character continues a cluster depends on how the cluster ends.
-/

namespace LanguageClient.Text

/-- How a cluster ends. -/
structure ClusterEnd where
  last : ClusterClass
  /-- It ends with a pictograph, which marks may follow. -/
  pictograph : Bool
  /-- It ends with a joiner behind a pictograph. -/
  joined : Bool
  /-- It ends with one half of a flag that has no other half. -/
  halfFlag : Bool
  /-- It ends with a consonant that a virama can join, which marks may follow. -/
  consonant : Bool
  /-- There is a virama among the marks behind that consonant. -/
  virama : Bool
deriving DecidableEq, Repr

namespace ClusterEnd

/-- The end of a cluster of one character. -/
def ofChar (char : Char) : ClusterEnd where
  last := clusterClass char
  pictograph := clusterClass char = .pictograph
  joined := false
  halfFlag := clusterClass char = .flagHalf
  consonant := isConjunctConsonant char
  virama := false

/-- Whether two classes stay together wherever they meet. -/
def staysTogether : ClusterClass → ClusterClass → Bool
  | .carriageReturn, next => next = .lineFeed
  | .lineFeed, _ | .standalone, _ => false
  | _, .carriageReturn | _, .lineFeed | _, .standalone => false
  | _, .extending | _, .joiner | _, .spacingMark => true
  | .leadingMark, _ => true
  | .syllableStart, next =>
    next = .syllableStart || next = .vowel || next = .openSyllable || next = .closedSyllable
  | .openSyllable, next | .vowel, next => next = .vowel || next = .syllableEnd
  | .closedSyllable, next | .syllableEnd, next => next = .syllableEnd
  | _, _ => false

/-- Whether a character continues a cluster. -/
def continues (ending : ClusterEnd) (char : Char) : Bool :=
  staysTogether ending.last (clusterClass char)
    || (ending.virama && isConjunctConsonant char)
    || (ending.joined && clusterClass char = .pictograph)
    || (ending.halfFlag && clusterClass char = .flagHalf)

/-- The end of a cluster that a character continues. -/
def extend (ending : ClusterEnd) (char : Char) : ClusterEnd :=
  let next := clusterClass char
  let mark := (next = .extending && char.toNat != 0x200C) || next = .joiner
  {
    last := next
    pictograph := next = .pictograph || (ending.pictograph && next = .extending)
    joined := ending.pictograph && next = .joiner
    halfFlag := next = .flagHalf && !ending.halfFlag
    consonant := isConjunctConsonant char || (ending.consonant && mark)
    virama :=
      ending.consonant && !isConjunctConsonant char && mark
        && (ending.virama || isConjunctVirama char)
  }

end ClusterEnd

/-- What continues a cluster with a given end, and the clusters after that. -/
def continueCluster : ClusterEnd → List Char → List Char × List (List Char)
  | _, [] => ([], [])
  | ending, char :: rest =>
    if ending.continues char then
      let (more, others) := continueCluster (ending.extend char) rest
      (char :: more, others)
    else
      let (more, others) := continueCluster (.ofChar char) rest
      ([], (char :: more) :: others)

/-- The clusters of a text. -/
def clusters : List Char → List (List Char)
  | [] => []
  | char :: rest =>
    let (more, others) := continueCluster (.ofChar char) rest
    (char :: more) :: others

end LanguageClient.Text

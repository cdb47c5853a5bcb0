import Augment.Text.Case
import Augment.Text.Grapheme

/-!
# Words and casing conventions

A name is cut into words at its grapheme clusters: a hyphen, an underscore or a space ends a word
and is dropped; a case change from lower to upper, a digit next to a letter, and the last capital
of an acronym before a lower-case letter (`HTTPServer` is `HTTP` and `Server`) start a new word.
Empty words are kept, so `_count` is the empty word and `count`.

A casing convention recases every word and joins them: `pascalCase` capitalises each word (its
first character upper-cased, the rest lower-cased) and joins them without a separator;
`snakeCase` lower-cases each word and joins them with `_`.

A cluster is upper-case when its upper and lower cases differ and it equals its upper case, and
lower-case likewise; a cluster is a digit when all its characters are ASCII digits.
-/

namespace Augment.Text

/-- A grapheme cluster, as its characters. -/
abbrev Cluster := List Char

/-- The upper case of a cluster. -/
def Cluster.upper (g : Cluster) : List Char := (upperString (String.ofList g)).toList

/-- The lower case of a cluster. -/
def Cluster.lower (g : Cluster) : List Char := (lowerString (String.ofList g)).toList

/-- Whether a cluster is upper-case: it has two cases and is its upper case. -/
def Cluster.isUpper (g : Cluster) : Bool := g.upper != g.lower && g == g.upper

/-- Whether a cluster is lower-case: it has two cases and is its lower case. -/
def Cluster.isLower (g : Cluster) : Bool := g.upper != g.lower && g == g.lower

/-- Whether a cluster is made of ASCII digits. -/
def Cluster.isDigit (g : Cluster) : Bool := g.all Char.isDigit

/-- Whether a cluster separates words: a hyphen, an underscore or a space. -/
def Cluster.isDelimiter (g : Cluster) : Bool := g == ['_'] || g == ['-'] || g == [' ']

/-- Whether a word ends between the cluster `a` and the clusters `rest` that follow it. -/
def endsWordBefore (a : Cluster) : List Cluster → Bool
  | [] => false
  | b :: more =>
    (a.isLower && b.isUpper) ||
    (a.isUpper && b.isUpper && (more.head?.map Cluster.isLower).getD false) ||
    ((a.isLower || a.isUpper) && b.isDigit) ||
    (a.isDigit && (b.isUpper || b.isLower))

/-- The words of the clusters `gs`, where `current` is the word they continue, read backwards. -/
def wordsFrom (current : List Cluster) : List Cluster → List (List Cluster)
  | [] => [current.reverse]
  | g :: rest =>
    if g.isDelimiter then current.reverse :: wordsFrom [] rest
    else if endsWordBefore g rest then (g :: current).reverse :: wordsFrom [] rest
    else wordsFrom (g :: current) rest

/-- The words of a name; the empty name has none. -/
def words (s : String) : List String :=
  match graphemeClusters s.toList with
  | [] => []
  | gs => (wordsFrom [] gs).map fun w => String.ofList w.flatten

/-- A word with its first character upper-cased and the rest lower-cased; marks that combine
with the first character are lower-cased with the rest. -/
def capitalize (w : String) : String :=
  match w.toList with
  | [] => ""
  | c :: rest => String.ofList (Cluster.upper [c]) ++ lowerString (String.ofList rest)

/-- The name in upper camel case: capitalised words joined without a separator. -/
def pascalCase (s : String) : String :=
  String.join ((words s).map capitalize)

/-- The name in snake case: lower-cased words joined with underscores. -/
def snakeCase (s : String) : String :=
  "_".intercalate ((words s).map lowerString)

end Augment.Text

/-!
# Searching and splitting

Plain searches in a text: whether a word occurs in it, what stands before the first character of a
kind, and what stands between separators.
-/

namespace ODataBrowser.Text

/-- Whether `word` occurs in the text as consecutive items. -/
def occurs {α : Type} [BEq α] (word : List α) : List α → Bool
  | [] => word.isEmpty
  | c :: rest => word.isPrefixOf (c :: rest) || occurs word rest

/-- The longest prefix of characters that satisfy `p`, and the rest. -/
def splitWhile (p : Char → Bool) (cs : List Char) : List Char × List Char :=
  (cs.takeWhile p, cs.dropWhile p)

/-- The first text that is not empty, if there is one. -/
def firstNonEmpty (texts : List (List Char)) : List Char :=
  (texts.find? fun cs => !cs.isEmpty).getD []

/-- The texts joined, with `separator` between neighbours. -/
def joinWith (separator : List Char) : List (List Char) → List Char
  | [] => []
  | [cs] => cs
  | cs :: rest => cs ++ separator ++ joinWith separator rest

/-- The parts of a text between the separators. -/
def splitAtEach (separator : Char) : List Char → List (List Char)
  | [] => [[]]
  | c :: rest =>
    match splitAtEach separator rest with
    | [] => [[c]]
    | part :: parts => if c = separator then [] :: part :: parts else (c :: part) :: parts

end ODataBrowser.Text

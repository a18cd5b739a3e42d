import ModelCatalog.Text.CombiningClass
import ModelCatalog.Text.Decomposition

/-! Compatibility normal form, and names without their accents. -/
namespace ModelCatalog.Text

/-- Puts a character before an ordered text: a mark moves behind the marks of a lower class. -/
def placeMark (c : Char) : List Char → List Char
  | [] => [c]
  | d :: rest =>
    if isMark d && combiningClass d < combiningClass c then d :: placeMark c rest
    else c :: d :: rest

/-- Sorts each run of marks by class and keeps the order inside a class. -/
def orderMarks (cs : List Char) : List Char := cs.foldr placeMark []

def normalForm (cs : List Char) : List Char := orderMarks (cs.flatMap decompose)

def removeAccents (s : String) : String :=
  String.ofList ((normalForm s.toList).filter fun c => !isMark c)

end ModelCatalog.Text

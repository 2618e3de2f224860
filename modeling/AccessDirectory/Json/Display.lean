import AccessDirectory.Json.Basic
import AccessDirectory.Number.Shortest
import AccessDirectory.Text.Quoted

/-! JSON values as error messages show them: absent and truth values by name, texts in quotes, lists in
brackets and objects in braces. -/

namespace AccessDirectory.Json
open Text

def displayWords : Binary64.SpecialWords := ⟨"nan", "inf"⟩

mutual
def display : Json → String
  | null => "None"
  | bool true => "True"
  | bool false => "False"
  | int n => toString n
  | real x => x.text displayWords
  | str s => Quoted.quoted s
  | arr items => "[" ++ displayItems items ++ "]"
  | obj members => "\x7b" ++ displayMembers members ++ "\x7d"

def displayItems : List Json → String
  | [] => ""
  | [v] => display v
  | v :: rest => display v ++ ", " ++ displayItems rest

def displayMembers : List (String × Json) → String
  | [] => ""
  | [(k, v)] => Quoted.quoted k ++ ": " ++ display v
  | (k, v) :: rest => Quoted.quoted k ++ ": " ++ display v ++ ", " ++ displayMembers rest
end

def plain : Json → String
  | str s => s
  | value => display value

end AccessDirectory.Json

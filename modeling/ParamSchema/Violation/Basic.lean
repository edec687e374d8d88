import ParamSchema.Violation.Code

/-!
# Violations

A flaw says what is wrong and which steps lead to it from the place where the
search began. A violation is a flaw seen from a named root; its path is written
`root.member[2]`.
-/

set_option autoImplicit false

namespace ParamSchema

inductive Step where
  | member (key : String)
  | item (index : Nat)
  deriving DecidableEq

structure Path where
  root : String
  steps : List Step := []
  deriving DecidableEq

def Step.text : Step → String
  | .member key => "." ++ key
  | .item index => "[" ++ toString index ++ "]"

namespace Path

def member (path : Path) (key : String) : Path := { path with steps := path.steps ++ [.member key] }

def item (path : Path) (index : Nat) : Path := { path with steps := path.steps ++ [.item index] }

def text (path : Path) : String := path.root ++ String.join (path.steps.map Step.text)

theorem text_append (place : Path) (steps : List Step) :
    ({ place with steps := place.steps ++ steps } : Path).text =
      place.text ++ String.join (steps.map Step.text) := by
  simp only [text, List.map_append, String.join_append, String.append_assoc]

end Path

structure Flaw where
  steps : List Step := []
  code : Code
  params : List (String × String) := []
  deriving DecidableEq

structure Violation where
  path : Path
  code : Code
  params : List (String × String) := []
  deriving DecidableEq

namespace Flaw

/-- The flaw as seen from one step further out. -/
def under (step : Step) (flaw : Flaw) : Flaw := { flaw with steps := step :: flaw.steps }

def seenFrom (root : Path) (flaw : Flaw) : Violation where
  path := { root with steps := root.steps ++ flaw.steps }
  code := flaw.code
  params := flaw.params

end Flaw

end ParamSchema

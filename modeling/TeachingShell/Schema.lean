import TeachingShell.Text.Basic

/-!
What a tool says of itself, and the help texts made of it.
-/

namespace TeachingShell

structure Example where
  description : String
  code : String
deriving DecidableEq, Repr

structure Schema where
  name : String
  description : String
  usage : String := name
  examples : List Example := []
deriving DecidableEq, Repr

namespace Schema

def usageWidth : Nat := 15

def summary (schema : Schema) : String :=
  "  " ++ Text.padRight usageWidth ' ' schema.usage ++ " - " ++ schema.description

def overview (schemas : List Schema) (newline : String) : String :=
  String.join (("Supported commands:" :: schemas.map summary).map (· ++ newline))

def exampleLines (shown : Example) : List String :=
  ["  # " ++ shown.description, "  " ++ shown.code]

def detailLines (schema : Schema) : List String :=
  (schema.usage ++ " - " ++ schema.description) ::
    if schema.examples.isEmpty then []
    else "" :: "Examples:" :: schema.examples.flatMap exampleLines

def detail (schema : Schema) (newline : String) : String :=
  newline.intercalate schema.detailLines

def find? (schemas : List Schema) (name : String) : Option Schema :=
  schemas.find? fun schema => schema.name == name

def topic? (schemas : List Schema) (name newline : String) : Option String :=
  (find? schemas name).map fun schema => schema.detail newline

end Schema

end TeachingShell

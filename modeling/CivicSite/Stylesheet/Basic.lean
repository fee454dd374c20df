/-!
# Style sheets

A style sheet is a list of rules, some under a remark of their own, and of rules that hold only
for certain screens. Rules stand apart by an empty line; what is inside braces is indented.
-/

namespace CivicSite

/-- A rule: what it applies to, and the properties that it sets. -/
structure StyleRule where
  selector : String
  properties : List (String × String)

/-- A part of a style sheet. -/
inductive StyleItem where
  | rule (r : StyleRule)
  | remark (text : String) (r : StyleRule)
  | media (text? : Option String) (query : String) (rules : List StyleRule)

abbrev Stylesheet := List StyleItem

/-- A head with a body in braces, at the given indentation. -/
def braced (margin head body : String) : String :=
  margin ++ head ++ " \x7b\n" ++ body ++ margin ++ "\x7d\n"

namespace StyleRule

/-- The text of a rule at the given indentation. -/
def text (margin : String) (r : StyleRule) : String :=
  braced margin r.selector <|
    String.join (r.properties.map fun p => margin ++ "    " ++ p.1 ++ ": " ++ p.2 ++ ";\n")

end StyleRule

namespace StyleItem

def remarkLine (text : String) : String := "/* " ++ text ++ " */\n"

def text : StyleItem → String
  | rule r => r.text ""
  | remark text r => remarkLine text ++ r.text ""
  | media text? query rules =>
    ((text?.map remarkLine).getD "") ++
      braced "" ("@media " ++ query)
        (String.intercalate "\n" (rules.map fun r => r.text "    "))

end StyleItem

def Stylesheet.text (s : Stylesheet) : String :=
  String.intercalate "\n" (s.map StyleItem.text)

end CivicSite

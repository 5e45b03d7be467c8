/-!
Identifiers of C and the reserved words of C++.
-/

namespace LuaBinder.Text

/-- An ASCII letter or an underscore. -/
def isIdentifierStart (c : Char) : Bool := c.isAlpha || c == '_'

/-- An ASCII letter, a digit or an underscore. -/
def isIdentifierRest (c : Char) : Bool := c.isAlphanum || c == '_'

/-- Whether the characters form an identifier of C. -/
def isIdentifierChars : List Char → Bool
  | [] => false
  | c :: cs => isIdentifierStart c && cs.all isIdentifierRest

/-- Whether a text is an identifier of C. -/
def isIdentifier (s : String) : Bool := isIdentifierChars s.toList

/-- The words of C++ that cannot name a namespace. -/
def reservedWords : List String :=
  ["auto", "bool", "break", "case", "catch", "char", "class", "const", "continue", "default",
   "delete", "do", "double", "else", "enum", "explicit", "extern", "false", "float", "for",
   "friend", "goto", "if", "inline", "int", "long", "namespace", "new", "operator", "private",
   "protected", "public", "return", "short", "signed", "sizeof", "static", "struct", "switch",
   "template", "this", "throw", "true", "try", "typedef", "typename", "union", "unsigned",
   "using", "virtual", "void", "volatile", "while"]

end LuaBinder.Text

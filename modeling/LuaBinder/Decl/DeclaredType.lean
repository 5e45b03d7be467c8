import LuaBinder.Text.Blank
import LuaBinder.Text.Search

/-!
Declared types of C++ as the text that a declaration gives them.

* `DeclaredType.ofText`: the text with its blanks collapsed.
* `DeclaredType.base`: the type without qualifiers, pointers and references.
* `DeclaredType.isNative`, `DeclaredType.isString`, `DeclaredType.isNativePointer`: the classes
  of types that the bridge to the target language tells apart.
-/

namespace LuaBinder

open Text

/-- The text of a type, words separated by single spaces. -/
structure DeclaredType where
  text : String
  deriving DecidableEq

namespace DeclaredType

/-- The scalar types of C and C++, each in its accepted spellings. -/
def nativeTypes : List String :=
  ["bool", "char", "signed char", "unsigned char", "short", "unsigned short", "int", "signed",
   "signed int", "unsigned", "unsigned int", "long", "unsigned long", "long long",
   "unsigned long long", "float", "double", "long double", "size_t", "int8_t", "int16_t",
   "int32_t", "int64_t", "uint8_t", "uint16_t", "uint32_t", "uint64_t"]

/-- The words that do not change what a type is. -/
def qualifiers : List String := ["const", "virtual", "static", "inline", "explicit", "volatile"]

/-- The words that belong to a declaration and not to a local variable. -/
def storageWords : List String := ["virtual", "static", "inline", "explicit"]

/-- A type from the text that declares it. -/
def ofText (raw : String) : DeclaredType := ⟨collapse raw⟩

/-- The last word is `void`. -/
def isVoid (t : DeclaredType) : Bool := (words t.text).getLast? == some "void"

/-- The type ends with a star. -/
def isPointer (t : DeclaredType) : Bool := endsWith '*' t.text

/-- The type ends with an ampersand. -/
def isReference (t : DeclaredType) : Bool := endsWith '&' t.text

/-- One of the words is `const`. -/
def isConst (t : DeclaredType) : Bool := (words t.text).contains "const"

/-- Number of stars in the type. -/
def stars (t : DeclaredType) : Nat := t.text.toList.count '*'

/-- Stars and ampersands read as blanks. -/
def withoutIndirection (cs : List Char) : List Char :=
  cs.map fun c => if c == '*' || c == '&' then ' ' else c

/-- The words of the type that are no qualifiers. -/
def baseWords (t : DeclaredType) : List String :=
  (words (String.ofList (withoutIndirection t.text.toList))).filter (! qualifiers.contains ·)

/-- The type without qualifiers, pointers and references. -/
def base (t : DeclaredType) : String := String.intercalate " " t.baseWords

/-- The base type is a scalar. -/
def isNative (t : DeclaredType) : Bool := nativeTypes.contains t.base

/-- One pointer to characters, which is passed as a string. -/
def isString (t : DeclaredType) : Bool := t.base == "char" && t.stars == 1

/-- A pointer to scalars that is not a string. -/
def isNativePointer (t : DeclaredType) : Bool := t.isPointer && t.isNative && ! t.isString

/-- The type as it declares a local variable. -/
def localText (t : DeclaredType) : String :=
  String.intercalate " " ((words t.text).filter (! storageWords.contains ·))

end DeclaredType

end LuaBinder

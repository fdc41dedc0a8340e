import ClassAtlas.Text.Segments

/-!
# Quoting of reserved names

Printed names share one language with keywords. A dotted segment that is a
reserved word, or opens with a minus sign, stands between apostrophes.
-/

namespace ClassAtlas.Quoting

def reservedWords : List String := [
  "newarray", "newmultiarray", "nop", "ret", "specialinvoke", "staticinvoke", "tableswitch",
  "virtualinvoke", "null_type", "unknown", "cmp", "cmpg", "cmpl", "entermonitor", "exitmonitor",
  "interfaceinvoke", "lengthof", "lookupswitch", "neg", "if", "abstract", "annotation",
  "boolean", "break", "byte", "case", "catch", "char", "class", "enum", "final", "native",
  "public", "protected", "private", "static", "synchronized", "transient", "volatile",
  "interface", "void", "short", "int", "long", "float", "double", "extends", "implements",
  "breakpoint", "default", "goto", "instanceof", "new", "return", "throw", "throws", "null",
  "from", "to", "with", "cls", "dynamicinvoke", "strictfp"]

def isReserved (word : String) : Bool :=
  reservedWords.contains word

def needsQuotes (segment : List Char) : Bool :=
  segment.head? == some '-' || isReserved (String.ofList segment)

def quoteSegment (segment : List Char) : List Char :=
  if needsQuotes segment then '\'' :: segment ++ ['\''] else segment

/-- The name with every segment that needs it between apostrophes. -/
def quote (name : String) : String :=
  String.ofList (Text.join '.' ((Text.split '.' name.toList).map quoteSegment))

end ClassAtlas.Quoting

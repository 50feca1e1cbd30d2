import ServiceLease.Xml.Element

/-! Writing a document whose names are in no namespace. Nothing is indented, and the
text of an element is written as it is but for the three characters of markup. -/
namespace ServiceLease.Xml

def writeChar (c : Char) : List Char :=
  if c == '&' then "&amp;".toList
  else if c == '<' then "&lt;".toList
  else if c == '>' then "&gt;".toList
  else [c]

def writeAttributeChar (c : Char) : List Char :=
  if c == '"' then "&quot;".toList
  else if c == '\r' then "&#13;".toList
  else if c == '\n' then "&#10;".toList
  else if c == '\t' then "&#09;".toList
  else writeChar c

def writeAttribute (a : Attribute) : List Char :=
  ' ' :: a.name.part.toList ++ '=' :: '"' :: a.value.toList.flatMap writeAttributeChar ++ ['"']

mutual

def writeNode : Node → List Char
  | .char c => writeChar c
  | .element name attributes content =>
    let head := name.part.toList ++ attributes.flatMap writeAttribute
    match content with
    | [] => '<' :: head ++ " />".toList
    | content =>
      '<' :: head ++ '>' :: writeContent content ++ '<' :: '/' :: name.part.toList ++ ['>']

def writeContent : List Node → List Char
  | [] => []
  | node :: rest => writeNode node ++ writeContent rest

end

def declaration : List Char := "<?xml version='1.0' encoding='utf-8'?>\n".toList

def write (root : Element) : List Char := declaration ++ writeNode root.node

def render (root : Element) : String := String.ofList (write root)

end ServiceLease.Xml

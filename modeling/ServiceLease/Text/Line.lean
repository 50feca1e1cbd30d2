/-! Ends of lines. A line may end with a line feed, a carriage return, or both in
that order. -/
namespace ServiceLease.Text

def unifyLineEnds : List Char → List Char
  | [] => []
  | '\r' :: '\n' :: rest => '\n' :: unifyLineEnds rest
  | c :: rest => (if c == '\r' then '\n' else c) :: unifyLineEnds rest

end ServiceLease.Text

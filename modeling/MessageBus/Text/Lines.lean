/-!
Line ends. Carriage return, line feed and the pair of them all end a line.
-/
namespace MessageBus.Text

/-- Text in which every line ends with a line feed alone. -/
def plainLines : List Char → List Char
  | [] => []
  | '\r' :: '\n' :: rest => '\n' :: plainLines rest
  | '\r' :: rest => '\n' :: plainLines rest
  | c :: rest => c :: plainLines rest

/-- Text without the line feed at its end, if it ends with one. -/
def dropLineFeed (cs : List Char) : List Char :=
  match cs.reverse with
  | '\n' :: rest => rest.reverse
  | _ => cs

end MessageBus.Text

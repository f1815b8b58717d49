/-! # String constants

`quote` writes any text as one SQL string constant.  A quote mark inside the
text is written twice; a text that holds a backslash becomes an escape constant
`E'...'` in which every backslash is written twice as well. -/
set_option autoImplicit false
namespace BoundSql.Text

def doubled (mark : Char) (s : List Char) : List Char :=
  s.flatMap fun c => if c = mark then [mark, mark] else [c]

@[simp]
theorem doubled_nil (mark : Char) : doubled mark [] = [] := rfl

theorem doubled_cons (mark c : Char) (s : List Char) :
    doubled mark (c :: s) = (if c = mark then [mark, mark] else [c]) ++ doubled mark s := rfl

def quoted (s : List Char) : List Char :=
  let body := doubled '\'' s
  if '\\' ∈ s then 'E' :: '\'' :: (doubled '\\' body ++ ['\''])
  else '\'' :: (body ++ ['\''])

/-- The SQL constant that stands for a text. -/
def quote (s : String) : String := String.ofList (quoted s.toList)

theorem toList_quote (s : String) : (quote s).toList = quoted s.toList := String.toList_ofList

end BoundSql.Text

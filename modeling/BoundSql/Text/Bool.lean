/-! # Truth values

SQL, JSON and the texts for inspection all spell truth values alike. -/
set_option autoImplicit false
namespace BoundSql.Text

def boolText (b : Bool) : String := if b then "true" else "false"

end BoundSql.Text

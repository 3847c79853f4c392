/-!
# Notices

What is said beside an answer: warnings about input that was passed over, and failures that a
fallback may still mend.
-/

set_option autoImplicit false

namespace UiSchema

inductive Notice where
  | warning (text : String)
  | failure (text : String)
deriving DecidableEq

def Notice.text : Notice → String
  | .warning text => "WARN " ++ text
  | .failure text => "ERROR " ++ text

end UiSchema

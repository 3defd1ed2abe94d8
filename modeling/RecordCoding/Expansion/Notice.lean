import RecordCoding.Diagnostic
import RecordCoding.Expansion.Phrase

/-!
# Notices

A diagnostic as a piece of generated code that makes the compiler show its message: an error stops
the compilation, and a warning makes use of something deprecated.
-/

namespace RecordCoding.Expansion

open Source

/-- Code that stops the compilation with a message. -/
def compileError (message : String) : List Token :=
  phrase ":: core :: compile_error !" ++ [braces [literal message]]

/-- Code that the compiler warns about with a message. -/
def compileWarning (message : String) : List Token :=
  phrase "const _ :" ++ [parens []] ++ phrase "=" ++
    [braces (
      attribution (phrase "deprecated" ++ [parens (phrase "note =" ++ [literal message])]) ++
        attribution (phrase "allow" ++ [parens (phrase "non_upper_case_globals")]) ++
        phrase "const codify_warning :" ++ [parens []] ++ phrase "=" ++ [parens []] ++
        phrase "; let _ = codify_warning ;")] ++
    phrase ";"

/-- The notice of a diagnostic. -/
def notice (d : Diagnostic) : List Token :=
  match d.severity with
  | .error => compileError d.message
  | .warning => compileWarning d.message

/-- The notices of several diagnostics. -/
def notices (found : List Diagnostic) : List Token := found.flatMap notice

@[simp] theorem notices_append (first second : List Diagnostic) :
    notices (first ++ second) = notices first ++ notices second := by
  simp [notices]

end RecordCoding.Expansion

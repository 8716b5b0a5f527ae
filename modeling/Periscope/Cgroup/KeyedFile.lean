import Periscope.IoError
import Periscope.Text.Blank
import Periscope.Text.Numeral

/-!
# Accounting files

An accounting file holds one number, a row of numbers, or a key and a number on each
line. A line whose second field is no number counts for nothing, and the last line of a
key wins. Error messages name the file.
-/

namespace Periscope

/-- The key and number of a line. -/
def keyedLine (line : List Char) : Option (String × UInt64) :=
  match fieldsOf line with
  | key :: value :: _ =>
    match Text.readWord (String.ofList value) with
    | .ok n => some (String.ofList key, n)
    | .error _ => none
  | _ => none

/-- The keys and numbers of a file, in the order of its lines. -/
def keyedLines (content : String) : List (String × UInt64) :=
  (linesOf content.toList).filterMap keyedLine

/-- The number of the last line with a key. -/
def keyedValue? (content key : String) : Option UInt64 :=
  ((keyedLines content).reverse.find? (·.1 = key)).map Prod.snd

namespace AccountingFile

/-- An error of the data in a file. -/
def invalid (path detail : String) : IoError := .described .invalidData (path ++ ": " ++ detail)

/-- An error of reading a file, with its path in front. -/
def unreadable (path : String) (e : IoError) : IoError :=
  .described e.kind (path ++ ": " ++ e.message)

/-- The number of a key that must be there. -/
def required (path content key : String) : Except IoError UInt64 :=
  match keyedValue? content key with
  | some n => .ok n
  | none => .error (invalid path ("missing key " ++ key))

/-- A number, with the file named in the error. -/
def number (path word : String) : Except IoError UInt64 :=
  (Text.readWord word).mapError fun e => invalid path e.message

/-- The one number of a file, with blanks around it. -/
def single (path content : String) : Except IoError UInt64 := number path (Text.trim content)

/-- All numbers of a file, with blanks between them. The first word that is no number
is the one reported. -/
def row (path content : String) : Except IoError (List UInt64) :=
  (Text.fields content).mapM (number path)

end AccountingFile

end Periscope

import LoadMonitor.Binary64.Shortest
import LoadMonitor.Json.Scanner
import LoadMonitor.Text.Quoted

/-!
# What is wrong with a JSON text

The wording of failures. Strings of the text are quoted, so that a message is always a single
line.
-/

namespace LoadMonitor.Json

def Found.text : Found → String
  | null => "null"
  | boolean true => "boolean \x60true\x60"
  | boolean false => "boolean \x60false\x60"
  | integer i => "integer \x60" ++ toString i ++ "\x60"
  | floating x => "floating point \x60" ++ x.shortestText ++ "\x60"
  | string s => "string " ++ Quoted.text s
  | sequence => "sequence"
  | map => "map"

def Mismatch.text : Mismatch → String
  | wrongType found expected => "invalid type: " ++ found.text ++ ", expected " ++ expected
  | missingField field => "missing field \x60" ++ field ++ "\x60"
  | duplicateField field => "duplicate field \x60" ++ field ++ "\x60"
  | tooShort length expected => "invalid length " ++ toString length ++ ", expected " ++ expected

/-- The failure, without the place at which it was found. -/
def DecodeError.text : DecodeError → String
  | truncated => "EOF while parsing a value"
  | malformed => "expected value"
  | mismatch reason => reason.text

end LoadMonitor.Json

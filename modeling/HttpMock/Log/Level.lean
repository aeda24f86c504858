import HttpMock.Text.Blank
import HttpMock.Text.Case
/-! Log levels and log formats, read from command-line text. -/
namespace HttpMock.Log

/-- The severity of a log record. -/
inductive Level where
  | debug
  | info
  | warn
  | error
  deriving DecidableEq, Repr, Inhabited

namespace Level

/-- The name of a level in records. -/
def name : Level → String
  | .debug => "DEBUG"
  | .info => "INFO"
  | .warn => "WARN"
  | .error => "ERROR"

/-- The rank of a level; a logger keeps records at or above its own level. -/
def rank : Level → Nat
  | .debug => 0
  | .info => 1
  | .warn => 2
  | .error => 3

/-- Reads a level name. -/
def parse (s : String) : Level :=
  match Text.lowerString (Text.trimString s) with
  | "debug" => .debug
  | "warn" | "warning" => .warn
  | "error" => .error
  | _ => .info

end Level

/-- How log records are written. -/
inductive Format where
  | text
  | json
  deriving DecidableEq, Repr, Inhabited

/-- The name of a format. -/
def Format.name : Format → String
  | .text => "text"
  | .json => "json"

/-- Reads a format name. -/
def Format.parse (s : String) : Format :=
  if Text.equalFold (Text.trimString s) "json" then .json else .text

end HttpMock.Log

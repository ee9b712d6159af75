import TagGrammar.Text.Blank
import TagGrammar.Text.Case

/-!
# Log records

Parts of the program report what they do. A record names the part, how important it is and what
happened; those below a threshold are not shown.
-/

namespace TagGrammar

/-- How important a record is. -/
inductive Level where
  | debug
  | info
  | warning
  | error
  deriving DecidableEq

def Level.rank : Level → Int
  | debug => 10
  | info => 20
  | warning => 30
  | error => 40

def Level.name : Level → String
  | debug => "DEBUG"
  | info => "INFO"
  | warning => "WARNING"
  | error => "ERROR"

/-- A part of the program, how important its report is and what it reports. -/
structure LogRecord where
  source : String
  level : Level
  message : String

def shownRecords (threshold : Int) (records : List LogRecord) : List LogRecord :=
  records.filter fun record => threshold ≤ record.level.rank

def thresholdNames : List (String × Int) :=
  [("CRITICAL", 50), ("FATAL", 50), ("ERROR", 40), ("WARNING", 30), ("WARN", 30), ("INFO", 20),
    ("DEBUG", 10), ("NOTSET", 0)]

/-- The threshold with a name, in any letter case and between blanks. Every other name stands for
that of `INFO`. -/
def thresholdOfName (name : String) : Int :=
  (thresholdNames.lookup (Text.upper (Text.trimString name))).getD Level.info.rank

/-- The name under which a part of the program reports. -/
def logSource (name : Option String) : String :=
  match name with
  | none | some "" => "markup-assist"
  | some name => name

end TagGrammar

import CqlWriter.Log.Logger
import CqlWriter.Settings.Store

/-!
# Settings about the log
-/

namespace CqlWriter.Settings.Logging

/-- The least level that is logged. -/
def level : Setting Text where
  key := "log-level"
  kind := .text
  default := "info"
  flag := "log-level"
  envNames := ["CQL_LOG_LEVEL"]

/-- The form of the lines of the log. -/
def format : Setting Text where
  key := "log-format"
  kind := .text
  default := "text"
  flag := "log-format"
  envNames := ["CQL_LOG_FORMAT"]

/-- Where the log goes. -/
def output : Setting Text where
  key := "log-output"
  kind := .text
  default := "stderr"
  flag := "log-output"
  envNames := ["CQL_LOG_OUTPUT"]

/-- Make the settings about the log known to a store. -/
def configure (s : Store) : Store :=
  output.configure (format.configure (level.configure s))

/-- The flags of the settings about the log. -/
def flags : FlagSet :=
  [level, format, output].map fun x => { name := x.flag, value := .text x.default }

/-- Let the flags give the values of the settings about the log. -/
def bind (fs : FlagSet) (s : Store) (h : Host) : Store × Host :=
  let (s, h) := level.bind fs s h
  let (s, h) := format.bind fs s h
  output.bind fs s h

/-- What a logger is to be set up with. -/
def options (s : Store) (h : Host) : Log.Options where
  level := level.get s h
  format := format.get s h
  output := output.get s h

end CqlWriter.Settings.Logging

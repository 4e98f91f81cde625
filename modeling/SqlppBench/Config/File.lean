import SqlppBench.Config.Properties
import SqlppBench.Config.Validation
import SqlppBench.Environment.Dotenv
import SqlppBench.Files

/-! # Configuration files

A configuration file is a YAML text with placeholders for variables of the environment. What comes
from a file is checked before it is used.
-/

namespace SqlppBench

/-- Where a program runs: its variables, a file with more of them, and the files it can read. -/
structure Setting where
  env : Variables := []
  dotenv : Option Bytes := none
  read : String → Except FileFault Bytes

/-- The variables of the program and of the file. -/
def Setting.environment (s : Setting) : Variables :=
  match s.dotenv with
  | some file => Dotenv.load s.env file
  | none => s.env

/-- The setting of a program in a directory. -/
def Setting.inDirectory (env : Variables) (files : Files) : Setting where
  env := env
  dotenv := (files.read ".env").toOption
  read := files.read

namespace ClientConfig

/-- The configuration that a YAML text with placeholders describes. -/
def ofTemplate (environment : Variables) (s : String) : Except Error ClientConfig :=
  (fillAll environment s).bind ofYamlText

/-- The configuration that a YAML text with placeholders describes, if it is allowed. -/
def ofTemplateChecked [Url.Idna] (environment : Variables) (s : String) :
    Except Error ClientConfig := do
  let c ← ofTemplate environment s
  c.validate
  return c

/-- The error of a file that cannot be read. -/
def fileError (path message : String) : Error :=
  .config ("Failed to read file '" ++ path ++ "': " ++ message)

/-- The configuration in a file. -/
def ofFile [Url.Idna] (s : Setting) (path : String) : Except Error ClientConfig :=
  match s.read path with
  | .error f => .error (fileError path f.message)
  | .ok content =>
    match Utf8.decode? content with
    | none => .error (fileError path "stream did not contain valid UTF-8")
    | some text => ofTemplateChecked s.environment text

/-- The configuration in a file, or the usual one where there is none. -/
def ofFileOrUsual [Url.Idna] (s : Setting) (path : String) : Except Error ClientConfig :=
  match s.read path with
  | .error .missing | .error .notDirectory | .error .nameTooLong | .error .badPath => .ok {}
  | _ => ofFile s path

end ClientConfig

end SqlppBench

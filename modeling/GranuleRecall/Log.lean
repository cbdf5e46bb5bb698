/-! # Log records

What is told to whoever watches: a level, the part of the program that speaks, a message, and
further fields. -/
set_option autoImplicit false

namespace GranuleRecall

/-- How urgent a record is, from least to most. -/
inductive LogLevel
  | debug
  | info
  | warn
  | error
deriving DecidableEq, Repr

def LogLevel.name : LogLevel → String
  | .debug => "DEBUG"
  | .info => "INFO"
  | .warn => "WARN"
  | .error => "ERROR"

inductive LogSource
  | command
  | settings
  | task
  | restores
  | delivery
  | archiveProbe
deriving DecidableEq, Repr

def LogSource.target : LogSource → String
  | .command => "request_files"
  | .settings => "request_files::config"
  | .task => "request_files::task"
  | .restores => "request_files::restore::logic"
  | .delivery => "request_files::status::publisher"
  | .archiveProbe => "request_files::restore::s3_probe"

inductive LogValue
  | number (value : Nat)
  | text (value : String)
deriving DecidableEq, Repr

structure LogRecord where
  level : LogLevel
  source : LogSource
  message : String
  fields : List (String × LogValue)
deriving DecidableEq, Repr

end GranuleRecall

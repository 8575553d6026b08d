/-!
# Log records

A record has a level, the part of the program it comes from, and a message.  A
filter decides which records are shown: it lists parts of the program by the
beginning of their names, each with the finest level shown, and of the parts that
fit the longest counts.
-/

namespace RoadTraffic

/-- How much a record matters, the gravest first. -/
inductive LogLevel where
  | error
  | warn
  | info
  | debug
  | trace
deriving DecidableEq

namespace LogLevel

/-- The place of a level among the levels, counted from 1. -/
def rank : LogLevel → Nat
  | error => 1
  | warn => 2
  | info => 3
  | debug => 4
  | trace => 5

/-- The name of a level in records. -/
def name : LogLevel → String
  | error => "ERROR"
  | warn => "WARN"
  | info => "INFO"
  | debug => "DEBUG"
  | trace => "TRACE"

/-- The level of that name, in capitals or not. -/
def ofName? (text : String) : Option LogLevel :=
  [error, warn, info, debug, trace].find? fun level => level.name = text.toUpper

end LogLevel

/-- A line of the log. -/
structure LogRecord where
  level : LogLevel
  /-- The part of the program that the record comes from. -/
  origin : String
  message : String
deriving DecidableEq

namespace LogRecord

/-- The record without its origin. -/
def short (record : LogRecord) : String := record.level.name ++ " " ++ record.message

/-- The record as shown on a terminal, the level padded to five characters. -/
def line (record : LogRecord) : String :=
  let level := record.level.name
  "[" ++ level ++ "".pushn ' ' (5 - level.length) ++ " " ++ record.origin ++ "] " ++
    record.message

end LogRecord

/-- The finest level shown of the parts whose names begin as given; the rank 0
shows nothing. -/
structure LogRule where
  origin : String
  rank : Nat
deriving DecidableEq

/-- Which records are shown. -/
structure LogFilter where
  rules : List LogRule
deriving DecidableEq

namespace LogFilter

/-- The rule for a part of the program: of those that fit the longest, and of
equally long ones the last. -/
def rule? (filter : LogFilter) (origin : String) : Option LogRule :=
  (filter.rules.filter (origin.startsWith ·.origin)).foldl
    (fun best rule =>
      match best with
      | some other => if rule.origin.length < other.origin.length then best else some rule
      | none => some rule)
    none

/-- Is the record shown? -/
def shows (filter : LogFilter) (record : LogRecord) : Bool :=
  match filter.rule? record.origin with
  | some rule => record.level.rank ≤ rule.rank
  | none => false

/-- Everything down to one level, or nothing. -/
def only (rank : Nat) : LogFilter := ⟨[⟨"", rank⟩]⟩

/-- Warnings from everywhere, and what the program itself finds worth telling. -/
def standard : LogFilter :=
  ⟨[⟨"", LogLevel.warn.rank⟩, ⟨"segment_sim", LogLevel.info.rank⟩]⟩

/-- The rank of a level's name, with `off` for none. -/
def rank? (text : String) : Option Nat :=
  if text.toLower = "off" then some 0 else (LogLevel.ofName? text).map LogLevel.rank

/-- A text without the blanks around it. -/
def trimmed (text : String) : String := text.trimAscii.toString

/-- One rule: a level for everything, `origin=level`, or the name of a part that is
shown in full, with or without an equals sign behind it. -/
def ruleOfText? (text : String) : Option LogRule :=
  match text.splitOn "=" with
  | [word] => some ((rank? word).elim ⟨word, LogLevel.trace.rank⟩ (⟨"", ·⟩))
  | [origin, level] =>
    if trimmed level = "" then some ⟨origin, LogLevel.trace.rank⟩
    else (rank? (trimmed level)).map (⟨origin, ·⟩)
  | _ => none

/-- The filter of a text of rules between commas, with any blanks around them.  Rules
that cannot be read are left out, and where none is left only errors are shown. -/
def ofText (text : String) : LogFilter :=
  match ((text.splitOn ",").map trimmed).filter (· ≠ "") |>.filterMap ruleOfText? with
  | [] => only LogLevel.error.rank
  | rules => ⟨rules⟩

end LogFilter

end RoadTraffic

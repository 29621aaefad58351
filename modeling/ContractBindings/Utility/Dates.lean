import ContractBindings.Text.Calendar
import ContractBindings.Utility.Lines
import ContractBindings.Utility.Making

/-!
# Dates

`date` says a time, and `touch` gives files a time, or makes them.
-/

namespace ContractBindings.Utility

open Process
open Text

/-- The time at which a disk is set up: nobody knows better. -/
def setUpTime : Int := dayNumber 2026 1 1 * dayLength

/-- The time. -/
def now : Act Int := return setUpTime + (← get).world.clock

/-- The time of the last change of a node. -/
def changeTime (node : Disk.Node) : Int := setUpTime + node.time

/-- The time in digits: perhaps a year, the month, the day, the hour and the minute, and perhaps the
second after a point. -/
def stampTime? (now : Int) (text : String) : Option Int :=
  let cs := text.toList
  let digits := cs.takeWhile Char.isDigit
  let second? : Option Int :=
    match cs.drop digits.length with
    | [] => some 0
    | ['.', a, b] => if a.isDigit && b.isDigit then some (Moment.valueOf [a, b]) else none
    | _ => none
  let part (first count : Nat) : Int := Moment.valueOf ((digits.drop first).take count)
  let yearLength := digits.length - 8
  let year? : Option Int :=
    match yearLength with
    | 0 => some (Date.ofDay (Moment.dayOf now)).year
    | 2 => some (Moment.fullYear (digits.take 2))
    | 4 => some (part 0 4)
    | _ => none
  match decide (digits.length < 8), second?, year? with
  | false, some second, some year =>
    let month := part yearLength 2
    let day := part (yearLength + 2) 2
    let hour := part (yearLength + 4) 2
    let minute := part (yearLength + 6) 2
    if month < 1 || 12 < month || day < 1 || monthDays year month.toNat < day || 23 < hour ||
        59 < minute || 60 < second then none
    else
      some (dayNumber year month day * dayLength +
        ((hour * 60 + minute) * 60 + second) * 1000)
  | _, _, _ => none

/-- Complains about a value that an option does not know, and says which it knows. -/
def unknownValue {α : Type} (c : Call) (value option : String) (valid : List (List String)) :
    Act α := do
  c.complain ("invalid argument " ++ textQuoted value ++ " for " ++ textQuoted option)
  Act.complain "Valid arguments are:"
  for group in valid do
    Act.complain ("  - " ++ String.intercalate ", " (group.map textQuoted))
  Act.giveUp 1 ("Try '" ++ c.name ++ " --help' for more information.")

/-- Makes empty files, and notes that files were changed. -/
def touch : Program := fun c => do
  let a ← understand c
    ([named 'c' "no-create", named 'd' "date" .something, named 'r' "reference" .something,
      named 'h' "no-dereference", word "time" .something] ++ letters "afm" ++ valued "t")
  if let some value := a.value? "time" then
    if !(["atime", "access", "use", "mtime", "modify"].any (·.startsWith value)) then
      unknownValue c value "--time" [["atime", "access", "use"], ["mtime", "modify"]]
  let today ← now
  let wrong {α : Type} (text : String) : Act α := do
    c.complain ("invalid date format " ++ textQuoted text)
    throw 1
  let reference? ←
    match a.value? "r" with
    | none => pure none
    | some path =>
      match ← Act.look path with
      | .ok (_, node) => pure (some (changeTime node))
      | .error fault =>
        c.complain ("failed to get attributes of " ++ shellQuoted path ++ ": " ++ fault.reason)
        throw 1
  if a.has "t" && (a.has "d" || a.has "r") then
    c.misuse 1 "cannot specify times from more than one source"
  let time ←
    match a.value? "t", a.value? "d" with
    | some text, _ =>
      match stampTime? today text with
      | some time => pure time
      | none => wrong text
    | none, some text =>
      match Moment.read? (reference?.getD today) text with
      | some time => pure time
      | none => wrong text
    | none, none => pure (reference?.getD today)
  if a.operands.isEmpty then c.misuse 1 "missing file operand"
  -- Only the time of the last change is kept.
  let changes := a.has "m" || !a.has "a"
  let note (place : List String) : Act Unit := do
    if changes then
      changeAttributes place fun attributes => { attributes with time := time - setUpTime }
  forEach (fun path => do
    match ← Act.look path (if a.has "h" then .stay else .follow) with
    | .ok (place, _) =>
      note place
      return 0
    | .error missing =>
      if a.has "c" then return 0
      if a.has "h" then
        c.complain ("setting times of " ++ shellQuoted path ++ ": " ++ missing.reason)
        return 1
      match ← Act.openPath { writes := true, creates := true } path with
      | .ok _ =>
        if let .ok (place, _) := ← Act.look path then note place
        return 0
      | .error .isDirectory =>
        c.complain ("setting times of " ++ shellQuoted path ++ ": " ++ missing.reason)
        return 1
      | .error fault =>
        c.complain ("cannot touch " ++ shellQuoted path ++ ": " ++ fault.reason)
        return 1) a.operands

/-- The texts that a time has by the standard form, up to a part of it. -/
def standardForms : List (String × String) :=
  [("hours", "%Y-%m-%dT%H%:z"), ("minutes", "%Y-%m-%dT%H:%M%:z"), ("date", "%Y-%m-%d"),
    ("seconds", "%Y-%m-%dT%H:%M:%S%:z"), ("ns", "%Y-%m-%dT%H:%M:%S,%N%:z")]

/-- The texts that a time has by the standard form with a blank in it. -/
def spacedForms : List (String × String) :=
  [("date", "%Y-%m-%d"), ("seconds", "%Y-%m-%d %H:%M:%S%:z"), ("ns", "%Y-%m-%d %H:%M:%S.%N%:z")]

/-- A time in digits with the year at the end, as one with the year at the start. -/
def yearFirst (text : String) : String :=
  let digits := text.toList.takeWhile Char.isDigit
  let rest := text.toList.drop digits.length
  String.ofList (digits.drop 8 ++ digits.take 8 ++ rest)

/-- The form in which times are said. -/
def usualForm : String := "%a %b %e %H:%M:%S %Z %Y"

/-- Nobody sets the clock: it is only said what time it would be. -/
def refuseTime {α : Type} (c : Call) (time : Int) : Act α := do
  c.complain "cannot set date: Operation not permitted"
  Act.sayLine (Moment.format usualForm time)
  throw 1

/-- Says a time. -/
def date : Program := fun c => do
  let a ← understand c
    [named 'd' "date" .something, named 'f' "file" .something, named 'I' "iso-8601" .perhaps,
      named 'R' "rfc-email", word "rfc-2822", word "rfc-822", word "rfc-3339" .something,
      named 'r' "reference" .something, named 's' "set" .something, named 'u' "utc",
      word "universal", word "uct", word "debug", word "resolution"]
  let ofOption (key option : String) (forms : List (String × String)) :
      Act (Option String) := do
    match a.value? key with
    | none => return none
    | some value =>
      let value := if value.isEmpty then "date" else value
      match forms.find? fun f => f.1.startsWith value with
      | some form => return some form.2
      | none => unknownValue c value option (forms.map fun f => [f.1])
  let standard ← ofOption "I" "--iso-8601" standardForms
  let spaced ← ofOption "rfc-3339" "--rfc-3339" spacedForms
  let mail :=
    if a.has "R" || a.has "rfc-2822" || a.has "rfc-822" then some "%a, %d %b %Y %H:%M:%S %z"
    else none
  let given :=
    match a.operands.head? with
    | some text => if text.startsWith "+" then some (String.ofList text.toList.tail) else none
    | none => none
  if let some extra := a.operands[1]? then extraOperand c extra
  if let some text := a.operands.head? then
    if !text.startsWith "+" then
      if a.has "d" || a.has "f" || a.has "r" then
        c.complain ("the argument " ++ textQuoted text ++ " lacks a leading '+';")
        Act.complain "when using an option to specify date(s), any non-option"
        Act.complain "argument must be a format string beginning with '+'"
        Act.giveUp 1 ("Try '" ++ c.name ++ " --help' for more information.")
      match stampTime? (← now) (yearFirst text) with
      | some time => refuseTime c time
      | none =>
        c.complain ("invalid date " ++ textQuoted text)
        throw 1
  let formats := [standard, spaced, mail, given].filterMap fun f => f
  if 1 < formats.length then
    c.complain "multiple output formats specified"
    throw 1
  let sources := ["d", "f", "r"].filter a.has
  if 1 < sources.length then
    c.misuse 1 "the options to specify dates for printing are mutually exclusive"
  let pattern := formats.head?.getD usualForm
  let today ← now
  let tell (text : String) : Act Nat := do
    match Moment.read? today text with
    | some time =>
      Act.sayLine (Moment.format pattern time)
      return 0
    | none =>
      c.complain ("invalid date " ++ textQuoted text)
      return 1
  if let some text := a.value? "s" then
    match Moment.read? today text with
    | some time => refuseTime c time
    | none =>
      c.complain ("invalid date " ++ textQuoted text)
      throw 1
  match a.value? "d", a.value? "f", a.value? "r" with
  | some text, _, _ => tell text
  | none, some path, _ =>
    match ← readInput path with
    | .ok text => forEach tell (plainLines text)
    | .error fault =>
      c.complain (shellText path ++ ": " ++ fault.reason)
      return 1
  | none, none, some path =>
    match ← Act.look path with
    | .ok (_, node) =>
      Act.sayLine (Moment.format pattern (changeTime node))
      return 0
    | .error fault =>
      c.complain (shellText path ++ ": " ++ fault.reason)
      return 1
  | none, none, none =>
    Act.sayLine (Moment.format pattern today)
    return 0

end ContractBindings.Utility

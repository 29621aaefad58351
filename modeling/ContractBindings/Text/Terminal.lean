/-!
# Control sequences

Text can hold sequences that steer a terminal: an escape character and what belongs to it, and
single control characters. `visible` is the text without them; only blanks stay. A control sequence
is followed character by character, in the states of a terminal that reads it.

A blank can stand in a sequence. In a message it ends the sequence (`visible`); when the message is
written it is only put before it, and the sequence goes on behind what is shown (`printed`).
-/

namespace ContractBindings.Text

/-- Where in a control sequence a terminal is. -/
inductive TerminalState where
  /-- Outside. -/
  | ground
  /-- After an escape character. -/
  | escape
  /-- After an escape character and other characters that end nothing. -/
  | escapeMiddle
  /-- At the start of a sequence of numbers. -/
  | sequence
  /-- In the numbers of a sequence. -/
  | numbers
  /-- After the numbers of a sequence. -/
  | sequenceMiddle
  /-- In a sequence that means nothing. -/
  | ignoredSequence
  /-- At the start of a device control. -/
  | device
  /-- In the numbers of a device control. -/
  | deviceNumbers
  /-- After the numbers of a device control. -/
  | deviceMiddle
  /-- In the text of a device control, or in one that means nothing. -/
  | deviceText
  /-- In a command of the operating system. -/
  | command
  /-- In another text that nobody sees. -/
  | hidden
  deriving DecidableEq, Repr

namespace TerminalState

/-- A byte of the character is the one that ends the texts of device controls and hidden texts. -/
def closes (c : Char) : Bool := (String.utf8EncodeChar c).contains 0x9C

/-- The state after a character of a control sequence. Most control characters, and those that are
not ASCII, change nothing. -/
def next (s : TerminalState) (c : Char) : TerminalState :=
  let b := c.toNat
  if b = 0x18 ∨ b = 0x1A then ground
  else if b = 0x1B then escape
  else if b = 0x07 ∧ s = command then ground
  else if closes c ∧ (s = deviceText ∨ s = hidden) then ground
  else if b < 0x20 ∨ 0x7F ≤ b then s
  else
    match s with
    | ground => ground
    | escape =>
      if b < 0x30 then escapeMiddle
      else if b = 0x5B then sequence
      else if b = 0x5D then command
      else if b = 0x50 then device
      else if b = 0x58 ∨ b = 0x5E ∨ b = 0x5F then hidden
      else ground
    | escapeMiddle => if b < 0x30 then escapeMiddle else ground
    | sequence => if b < 0x30 then sequenceMiddle else if b < 0x40 then numbers else ground
    | numbers =>
      if b < 0x30 then sequenceMiddle
      else if b < 0x3C then numbers
      else if b < 0x40 then ignoredSequence
      else ground
    | sequenceMiddle =>
      if b < 0x30 then sequenceMiddle else if b < 0x40 then ignoredSequence else ground
    | ignoredSequence => if b < 0x40 then ignoredSequence else ground
    | device => if b < 0x30 then deviceMiddle else if b < 0x40 then deviceNumbers else deviceText
    | deviceNumbers =>
      if b < 0x30 then deviceMiddle else if b < 0x3C then deviceNumbers else deviceText
    | deviceMiddle => if b < 0x30 then deviceMiddle else deviceText
    | deviceText => deviceText
    | command => command
    | hidden => hidden

/-- Blanks do not belong to the sequence in which they stand, unless it holds a text. -/
def yields : TerminalState → Bool
  | ground | escape | escapeMiddle | sequence | numbers | sequenceMiddle | ignoredSequence => true
  | _ => false

/-- A character is shown in a state. -/
def shows (s : TerminalState) (c : Char) : Bool :=
  (s = ground && 0x20 ≤ c.toNat && c.toNat ≠ 0x7F) ||
    (s.yields && (c = '\t' || c = '\n' || c = '\x0c' || c = '\r'))

end TerminalState

/-- The characters that are shown, from a state on. If `resumes`, a sequence in which something is
shown goes on behind that, and only characters that are not ASCII end it; `inRun` tells that such
are being shown. -/
def shownFrom (resumes : Bool) (inRun : Bool) (s : TerminalState) : List Char → List Char
  | [] => []
  | c :: rest =>
    if (if inRun then TerminalState.ground else s).shows c then
      c :: shownFrom resumes true (if resumes && c.toNat < 0x80 then s else .ground) rest
    else shownFrom resumes false (s.next c) rest

/-- The text without control sequences and control characters. -/
def visible (s : String) : String :=
  String.ofList (shownFrom false false .ground s.toList)

/-- What is left of a text that is written where no terminal is. -/
def printed (s : String) : String :=
  String.ofList (shownFrom true false .ground s.toList)

end ContractBindings.Text

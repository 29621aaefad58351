import ContractBindings.Json.Scan

/-!
# Skipping a value

The value of a field that a record does not know is skipped: its syntax is checked, but it is not
kept. Skipping is a little less strict than reading. Nesting is not limited, numbers have no
range, and halves of surrogate pairs may stand alone. A few faults also differ: a number that
breaks off is a bad number, and a control character in a quoted text is not part of the fault.
-/

namespace ContractBindings.Json

/-- Skips an escape after its backslash. -/
def skimEscape : List Char → Except Stop (List Char)
  | [] => stop .endInText [] 0
  | 'u' :: s => (readHex s).map (·.2)
  | c :: rest =>
    if c ∈ ['"', '\\', '/', 'b', 'f', 'n', 'r', 't'] then .ok rest
    else stop .badEscape (c :: rest) 1

theorem skimEscape_length {s rest : List Char} (h : skimEscape s = .ok rest) :
    rest.length < s.length := by
  unfold skimEscape at h
  split at h
  · simp [stop] at h
  · rename_i s'
    cases hr : readHex s' with
    | error e => simp [hr, Except.map] at h
    | ok p =>
      have := @readHex_length s' p.2 p.1 hr
      simp only [hr, Except.map, Except.ok.injEq] at h
      simp only [← h, List.length_cons]; omega
  · split at h
    · simp only [Except.ok.injEq] at h
      simp [← h]
    · simp [stop] at h

/-- Skips a quoted text after its opening quote. -/
def skimText : List Char → Except Stop (List Char)
  | [] => stop .endInText [] 0
  | '"' :: rest => .ok rest
  | '\\' :: s =>
    match _h : skimEscape s with
    | .error e => .error e
    | .ok rest => skimText rest
  | c :: rest =>
    if c.toNat < 0x20 then stop .controlCharacter (c :: rest) 0 else skimText rest
termination_by s => s.length
decreasing_by
  · have := skimEscape_length _h
    simp only [List.length_cons]; omega
  · simp

/-- Skips an exponent after its `e`. -/
def skimExponent (s : List Char) : Except Stop (List Char) :=
  let s : List Char :=
    match s with
    | '+' :: rest => rest
    | '-' :: rest => rest
    | _ => s
  if startsWithDigit s then .ok (s.dropWhile Char.isDigit) else stop .badNumber s 1

/-- Skips an exponent, if there is one. -/
def skimScale : List Char → Except Stop (List Char)
  | 'e' :: rest => skimExponent rest
  | 'E' :: rest => skimExponent rest
  | s => .ok s

/-- Skips what follows the integer digits of a number. -/
def skimTail : List Char → Except Stop (List Char)
  | '.' :: s =>
    if startsWithDigit s then skimScale (s.dropWhile Char.isDigit) else stop .badNumber s 1
  | s => skimScale s

/-- Skips a number after its sign. -/
def skimNumber : List Char → Except Stop (List Char)
  | '0' :: rest => if startsWithDigit rest then stop .badNumber rest 1 else skimTail rest
  | s => if startsWithDigit s then skimTail (s.dropWhile Char.isDigit) else stop .badNumber s 1

mutual

/-- Skips a value. The first argument bounds the steps; twice the length of the text is enough. -/
def skimValue : Nat → List Char → Except Stop (List Char)
  | 0, s => stop .endInValue s 0
  | fuel + 1, s =>
    match skipSpaces s with
    | [] => stop .endInValue [] 0
    | 'n' :: rest => readLiteral ['u', 'l', 'l'] rest
    | 't' :: rest => readLiteral ['r', 'u', 'e'] rest
    | 'f' :: rest => readLiteral ['a', 'l', 's', 'e'] rest
    | '-' :: rest => skimNumber rest
    | '"' :: rest => skimText rest
    | '[' :: rest =>
      match skipSpaces rest with
      | [] => stop .endInArray [] 0
      | ']' :: rest => .ok rest
      | s => skimElements fuel s
    | '{' :: rest =>
      match skipSpaces rest with
      | [] => stop .endInObject [] 0
      | '}' :: rest => .ok rest
      | s => skimMembers fuel s
    | c :: rest => if c.isDigit then skimNumber (c :: rest) else stop .missingValue (c :: rest) 1

/-- Skips an element, the elements after it and the closing bracket. -/
def skimElements : Nat → List Char → Except Stop (List Char)
  | 0, s => stop .endInValue s 0
  | fuel + 1, s =>
    match skimValue fuel s with
    | .error e => .error e
    | .ok s =>
      match skipSpaces s with
      | [] => stop .endInArray [] 0
      | ']' :: rest => .ok rest
      | ',' :: rest => skimElements fuel rest
      | s => stop .missingElementEnd s 1

/-- Skips a member, the members after it and the closing brace. -/
def skimMembers : Nat → List Char → Except Stop (List Char)
  | 0, s => stop .endInValue s 0
  | fuel + 1, s =>
    match skipSpaces s with
    | [] => stop .endInObject [] 0
    | '"' :: s =>
      match skimText s with
      | .error e => .error e
      | .ok s =>
        match skipSpaces s with
        | [] => stop .endInObject [] 0
        | ':' :: s =>
          match skimValue fuel s with
          | .error e => .error e
          | .ok s =>
            match skipSpaces s with
            | [] => stop .endInObject [] 0
            | '}' :: rest => .ok rest
            | ',' :: rest => skimMembers fuel rest
            | s => stop .missingMemberEnd s 1
        | s => stop .missingColon s 1
    | s => stop .badKey s 1

end

end ContractBindings.Json

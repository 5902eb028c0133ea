/-! # What a terminal shows of a text

A terminal shows printable characters and carries out white space. An escape character starts a
control sequence, of which nothing is shown; any other control character is left out. White space
inside a sequence is carried out too, and interrupts it: the characters after it are shown, until
the next control character resumes the sequence.
-/

namespace ReadoutCard.Text.Terminal

/-- Where in a control sequence a terminal is. -/
inductive Mode where
  /-- In no sequence. -/
  | ground
  /-- After an escape character. -/
  | escape
  /-- After an escape character and intermediate characters. -/
  | escapeIntermediate
  /-- In a sequence that the next letter ends. -/
  | control
  /-- At the start of a device control string. -/
  | device
  /-- In the parameters of a device control string. -/
  | deviceParameter
  /-- In the intermediate characters of a device control string. -/
  | deviceIntermediate
  /-- In a string that the byte 0x9c ends. -/
  | string
  /-- In a system command, which a bell ends. -/
  | command
  deriving DecidableEq, Repr

/-- White space that a terminal carries out. -/
def isLayout (c : Char) : Bool := ['\t', '\n', '\x0c', '\r'].contains c

/-- Whether a terminal shows a character outside of sequences. -/
def isShown (c : Char) : Bool := (0x20 ≤ c.toNat && c.toNat ≠ 0x7f) || isLayout c

namespace Mode

/-- Whether white space is carried out in this mode. -/
def carriesOut : Mode → Bool
  | ground | escape | escapeIntermediate | control => true
  | _ => false

/-- The mode after a character that is not shown. Two control characters cancel any sequence, and an
escape character starts a new one. -/
def after (mode : Mode) (c : Char) : Mode :=
  let isIn (first last : Nat) : Bool := first ≤ c.toNat && c.toNat ≤ last
  if c = '\x18' ∨ c = '\x1a' then ground
  else if c = '\x1b' then escape
  else match mode with
    | ground => ground
    | escape =>
      if isIn 0x20 0x2f then escapeIntermediate
      else if c = '[' then control
      else if c = 'P' then device
      else if c = ']' then command
      else if c = 'X' ∨ c = '^' ∨ c = '_' then string
      else if isIn 0x30 0x7e then ground
      else escape
    | escapeIntermediate => if isIn 0x30 0x7e then ground else escapeIntermediate
    | control => if isIn 0x40 0x7e then ground else control
    | device =>
      if isIn 0x20 0x2f then deviceIntermediate
      else if isIn 0x30 0x3f then deviceParameter
      else if isIn 0x40 0x7e then string
      else device
    | deviceParameter =>
      if isIn 0x20 0x2f then deviceIntermediate
      else if isIn 0x3c 0x7e then string
      else deviceParameter
    | deviceIntermediate => if isIn 0x30 0x7e then string else deviceIntermediate
    | string => if (String.utf8EncodeChar c).contains 0x9c then ground else string
    | command => if c = '\x07' then ground else command

end Mode

/-- What a terminal in a mode shows of a text. `showing` says that characters are shown: in no
sequence, or in one that white space interrupts. -/
def shownFrom (mode : Mode) (showing : Bool) : List Char → List Char
  | [] => []
  | c :: rest =>
    if (if showing then isShown c else isLayout c && mode.carriesOut) then
      c :: shownFrom (if c.toNat < 0x80 then mode else .ground) true rest
    else
      let mode := mode.after c
      shownFrom mode (mode = .ground) rest

/-- What a terminal shows of a text. -/
def shown (text : String) : String := String.ofList (shownFrom .ground true text.toList)

/-- Text without control characters is shown as it is. -/
theorem shownFrom_of_isShown {mode : Mode} {text : List Char}
    (h : ∀ c ∈ text, isShown c = true) : shownFrom mode true text = text := by
  induction text generalizing mode with
  | nil => rfl
  | cons c rest ih =>
    simp only [List.mem_cons, forall_eq_or_imp] at h
    simp [shownFrom, h.1, ih h.2]

end ReadoutCard.Text.Terminal

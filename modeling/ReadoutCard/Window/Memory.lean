import ReadoutCard.Register

/-! # Register windows in memory: an array of words -/

namespace ReadoutCard.Memory

/-- The failure of an index beyond the last word. -/
def outOfRange (bar words index : Nat) : Error :=
  .invalidAccess bar bar
    ("register index " ++ Text.hexMarked index ++ " beyond " ++ toString words ++ " words")

/-- The word at an index. -/
def read (bar : Nat) (words : Array UInt32) (index : Nat) : Except Error UInt32 :=
  match words[index]? with
  | some word => .ok word
  | none => .error (outOfRange bar words.size index)

/-- The words with one of them replaced. -/
def write (bar : Nat) (words : Array UInt32) (index : Nat) (value : UInt32) :
    Except Error (Array UInt32) :=
  if h : index < words.size then .ok (words.set index value)
  else .error (outOfRange bar words.size index)

/-- The words with several of them replaced, one after the other. -/
def presetAll (bar : Nat) (words : Array UInt32) : List (Nat × UInt32) → Except Error (Array UInt32)
  | [] => .ok words
  | (index, value) :: rest => do
    let words ← write bar words index value
    presetAll bar words rest

/-- The window onto an array of words that passes for BAR `bar`. -/
def window (bar : Nat) : Window (Array UInt32) where
  read index words := (read bar words index, words)
  write index value words :=
    if h : index < words.size then (.ok (), words.set index value)
    else (.error (outOfRange bar words.size index), words)

/-- Writing through the window is replacing a word. -/
theorem window_write (bar index : Nat) (value : UInt32) (words : Array UInt32) :
    (window bar).write index value words = match write bar words index value with
      | .ok changed => (.ok (), changed)
      | .error e => (.error e, words) := by
  by_cases h : index < words.size <;> simp [window, write, h]

end ReadoutCard.Memory

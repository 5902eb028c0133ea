import ReadoutCard.Dialogue
import ReadoutCard.Error

/-! # Registers and the programs that access them

A window onto a BAR answers reads and writes of 32-bit words by word index. An `Access` is a
program of such reads and writes that ends with a result or a failure; a failed access ends it with
that very failure.
-/

namespace ReadoutCard

/-- A register, by its byte address inside a BAR. -/
structure Register where
  address : Nat
  deriving DecidableEq, Repr

namespace Register

/-- The word index of a byte address; the two low bits are dropped. -/
def wordIndex (address : Nat) : Nat := address / 4

/-- The word index of a register. -/
def index (r : Register) : Nat := wordIndex r.address

/-- The register `bytes` further on. -/
def offset (r : Register) (bytes : Nat) : Register := ⟨r.address + bytes⟩

/-- One access to a window. -/
inductive Request where
  | read (index : Nat)
  | write (index : Nat) (value : UInt32)
  deriving DecidableEq, Repr

/-- What a window answers. -/
abbrev Answer : Request → Type
  | .read _ => Except Error UInt32
  | .write _ _ => Except Error Unit

end Register

/-- A program of register accesses that may fail. -/
abbrev Access (α : Type) := ExceptT Error (Dialogue Register.Request Register.Answer) α

namespace Access

/-- Reads the word at an index. -/
def read (index : Nat) : Access UInt32 :=
  ExceptT.mk (Dialogue.request (Register.Request.read index))

/-- Writes the word at an index. -/
def write (index : Nat) (value : UInt32) : Access Unit :=
  ExceptT.mk (Dialogue.request (Register.Request.write index value))

/-- A check that needs no access. -/
def ofExcept {α : Type} (result : Except Error α) : Access α := ExceptT.mk (.done result)

end Access

/-- How a register window with contents `σ` answers. -/
structure Window (σ : Type) where
  read : Nat → σ → Except Error UInt32 × σ
  write : Nat → UInt32 → σ → Except Error Unit × σ

namespace Window

variable {σ : Type}

/-- The answer to a request. -/
def answer (w : Window σ) : (q : Register.Request) → σ → Register.Answer q × σ
  | .read index, s => w.read index s
  | .write index value, s => w.write index value s

/-- Runs an access program over the window. -/
def run {α : Type} (w : Window σ) (p : Access α) (s : σ) : Except Error α × σ :=
  Dialogue.run w.answer (ExceptT.run p) s

/-- The accesses that a program makes, in order, with their answers. -/
def transcript {α : Type} (w : Window σ) (p : Access α) (s : σ) :
    List (Exchange Register.Request Register.Answer) :=
  Dialogue.transcript w.answer (ExceptT.run p) s

@[simp]
theorem run_read (w : Window σ) (index : Nat) (s : σ) :
    w.run (Access.read index) s = w.read index s := rfl

@[simp]
theorem run_write (w : Window σ) (index : Nat) (value : UInt32) (s : σ) :
    w.run (Access.write index value) s = w.write index value s := rfl

@[simp]
theorem run_pure {α : Type} (w : Window σ) (a : α) (s : σ) :
    w.run (pure a) s = (.ok a, s) := rfl

@[simp]
theorem run_throw {α : Type} (w : Window σ) (e : Error) (s : σ) :
    w.run (throw e : Access α) s = (.error e, s) := rfl

/-- A program stops at its first failure. -/
theorem run_bind {α β : Type} (w : Window σ) (p : Access α) (f : α → Access β) (s : σ) :
    w.run (p >>= f) s = match w.run p s with
      | (.ok a, s) => w.run (f a) s
      | (.error e, s) => (.error e, s) := by
  have step := Dialogue.run_except_bind w.answer p f s
  unfold run
  rw [step]
  rcases Dialogue.run w.answer (ExceptT.run p) s with ⟨_ | _, _⟩ <;> rfl

@[simp]
theorem transcript_read (w : Window σ) (index : Nat) (s : σ) :
    w.transcript (Access.read index) s = [⟨.read index, (w.read index s).1⟩] := rfl

@[simp]
theorem transcript_write (w : Window σ) (index : Nat) (value : UInt32) (s : σ) :
    w.transcript (Access.write index value) s =
      [⟨.write index value, (w.write index value s).1⟩] := rfl

@[simp]
theorem transcript_pure {α : Type} (w : Window σ) (a : α) (s : σ) :
    w.transcript (pure a) s = [] := rfl

@[simp]
theorem transcript_throw {α : Type} (w : Window σ) (e : Error) (s : σ) :
    w.transcript (throw e : Access α) s = [] := rfl

/-- The accesses of a program are those of its parts, up to its first failure. -/
theorem transcript_bind {α β : Type} (w : Window σ) (p : Access α) (f : α → Access β) (s : σ) :
    w.transcript (p >>= f) s = w.transcript p s ++ match w.run p s with
      | (.ok a, s) => w.transcript (f a) s
      | (.error _, _) => [] := by
  have step := Dialogue.transcript_except_bind w.answer p f s
  unfold transcript run
  rw [step]
  rcases Dialogue.run w.answer (ExceptT.run p) s with ⟨_ | _, _⟩ <;> rfl

end Window

end ReadoutCard

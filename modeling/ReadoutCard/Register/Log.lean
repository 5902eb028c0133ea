import ReadoutCard.Register

/-! # Logs of register accesses

An access is logged as `r` or `w`, its index and the value, in hexadecimal; one that failed ends in
an exclamation mark. Equal entries in a row are folded into one with their number. Logs are for
comparing runs; statements are about the accesses themselves.
-/

namespace ReadoutCard.Register

/-- The log entry of an access. -/
def logEntry : (q : Request) → Answer q → String
  | .read index, .ok value => "r" ++ Text.hex index ++ ":" ++ Text.hex value.toNat
  | .read index, .error _ => "r" ++ Text.hex index ++ "!"
  | .write index value, .ok _ => "w" ++ Text.hex index ++ ":" ++ Text.hex value.toNat
  | .write index value, .error _ => "w" ++ Text.hex index ++ ":" ++ Text.hex value.toNat ++ "!"

/-- Runs of equal entries with their lengths, the latest run first. -/
def addToRuns (runs : List (String × Nat)) (entry : String) : List (String × Nat) :=
  match runs with
  | [] => [(entry, 1)]
  | (last, count) :: earlier =>
    if entry = last then (last, count + 1) :: earlier else (entry, 1) :: runs

/-- The entries with equal ones in a row folded. -/
def foldLog (entries : List String) : List String :=
  (entries.foldl addToRuns []).reverse.map fun (entry, count) =>
    if count = 1 then entry else entry ++ "*" ++ toString count

example : foldLog ["r7b:1", "r7b:1", "r7b:0", "r7b:1"] = ["r7b:1*2", "r7b:0", "r7b:1"] := by cbv

end ReadoutCard.Register

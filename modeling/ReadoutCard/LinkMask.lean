import ReadoutCard.Bits
import ReadoutCard.Error
import ReadoutCard.Text.Blank
import ReadoutCard.Text.Numeral
import ReadoutCard.Text.Split

/-! # Sets of links

A mask lists its links in ascending order, each once. It is written as numbers and ascending ranges
between commas, and shown to the card as a word with one bit for each enabled link.
-/

namespace ReadoutCard

/-- A set of link numbers, in ascending order. -/
structure LinkMask where
  links : List Nat
  ascending : links.Pairwise (· < ·)
  deriving DecidableEq

namespace LinkMask

/-- The highest link that has a bit in the enable word. -/
def maxLink : Nat := 31

/-- Puts a number into its place in an ascending list, unless it is there. -/
def place (link : Nat) : List Nat → List Nat
  | [] => [link]
  | other :: rest =>
    if link < other then link :: other :: rest
    else if link = other then other :: rest
    else other :: place link rest

theorem mem_place {link n : Nat} {links : List Nat} :
    n ∈ place link links ↔ n = link ∨ n ∈ links := by
  induction links with
  | nil => simp [place]
  | cons other rest ih =>
    unfold place
    split
    · simp
    · split
      · rename_i h; simp [h]
      · simp only [List.mem_cons, ih]
        exact ⟨fun h => by rcases h with h | h | h <;> simp [h],
          fun h => by rcases h with h | h | h <;> simp [h]⟩

theorem ascending_place {link : Nat} {links : List Nat} (h : links.Pairwise (· < ·)) :
    (place link links).Pairwise (· < ·) := by
  induction links with
  | nil => simp [place]
  | cons other rest ih =>
    rw [List.pairwise_cons] at h
    unfold place
    split
    · rename_i hlt
      refine List.pairwise_cons.2 ⟨fun n hn => ?_, List.pairwise_cons.2 h⟩
      rcases List.mem_cons.1 hn with rfl | hn
      · exact hlt
      · exact Nat.lt_trans hlt (h.1 n hn)
    · split
      · exact List.pairwise_cons.2 h
      · refine List.pairwise_cons.2 ⟨fun n hn => ?_, ih h.2⟩
        rcases mem_place.1 hn with rfl | hn
        · omega
        · exact h.1 n hn

/-- The mask without links. -/
def empty : LinkMask := ⟨[], List.Pairwise.nil⟩

/-- The mask with one more link. -/
def insert (m : LinkMask) (link : Nat) : LinkMask :=
  ⟨place link m.links, ascending_place m.ascending⟩

/-- The mask with more links, in any order and with repetitions. -/
def insertAll (m : LinkMask) (links : List Nat) : LinkMask := links.foldl insert m

/-- The mask of the listed links. -/
def ofList (links : List Nat) : LinkMask := empty.insertAll links

instance : Membership Nat LinkMask := ⟨fun m link => link ∈ m.links⟩

theorem mem_insert {m : LinkMask} {link n : Nat} : n ∈ m.insert link ↔ n = link ∨ n ∈ m :=
  mem_place

theorem mem_insertAll {m : LinkMask} {links : List Nat} {n : Nat} :
    n ∈ m.insertAll links ↔ n ∈ links ∨ n ∈ m := by
  induction links generalizing m with
  | nil => simp [insertAll]
  | cons link rest ih =>
    rw [show m.insertAll (link :: rest) = (m.insert link).insertAll rest from rfl, ih, mem_insert,
      List.mem_cons]
    exact ⟨fun h => by rcases h with h | h | h <;> simp [h],
      fun h => by rcases h with (h | h) | h <;> simp [h]⟩

/-- The failure of a link that has no bit. -/
def outOfRange (link : Nat) : String :=
  "link " ++ toString link ++ " out of range (max " ++ toString maxLink ++ ")"

/-- One link number of the mask `input`. -/
def parseLink (input : String) (text : List Char) : Except Error Nat :=
  match Text.Numeral.natural 10 (Text.Numeral.unsignedLimit 32) (Text.trim text) with
  | .error e => .error (.parse input
      ("invalid link number " ++ Text.Quoted.quote (String.ofList text) ++ ": " ++ e.message))
  | .ok link => if link ≤ maxLink then .ok link else .error (.parse input (outOfRange link))

/-- The links of one piece between commas: a number, or a range up to a number not smaller. -/
def parsePiece (input : String) (piece : List Char) : Except Error (List Nat) :=
  match Text.splitOnce '-' piece with
  | none => (parseLink input piece).map fun link => [link]
  | some (first, last) => do
    let first ← parseLink input first
    let last ← parseLink input last
    if first ≤ last then return List.range' first (last - first + 1)
    else throw (.parse input ("link range " ++ toString first ++ "-" ++ toString last ++
      " is not ascending"))

/-- Adds the links of all pieces, from the first one on. -/
def parsePieces (input : String) (m : LinkMask) : List (List Char) → Except Error LinkMask
  | [] => .ok m
  | piece :: more => do
    let links ← parsePiece input piece
    parsePieces input (m.insertAll links) more

/-- Reads a mask such as `0-3,8`. -/
def parse (input : String) : Except Error LinkMask :=
  parsePieces input empty (Text.pieces ',' input.toList)

/-- Sets one bit for each link. -/
def setBits (word : UInt32) : List Nat → Except Error UInt32
  | [] => .ok word
  | link :: rest =>
    if link ≤ maxLink then setBits (word ||| (1 <<< UInt32.ofNat link)) rest
    else .error (.configuration "LinkMask" (outOfRange link))

/-- The enable word: bit `i` is set when link `i` is in the mask. The smallest link without a bit
is reported. -/
def enableWord (m : LinkMask) : Except Error UInt32 := setBits 0 m.links

end LinkMask

end ReadoutCard

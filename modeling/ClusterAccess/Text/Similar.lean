/-!
# Similar words

How much two words have in common: their longest common piece, the first of several, and then what the
parts before it and after it have in common. A word is near another when the common characters make up
at least three fifths of both.
-/
namespace ClusterAccess.Text

/-- The length of the common beginning. -/
def commonPrefix : List Char → List Char → Nat
  | a :: as, b :: bs => if a == b then commonPrefix as bs + 1 else 0
  | _, _ => 0

/-- A common piece: where it starts in both words, and its length. -/
structure Piece where
  left : Nat
  right : Nat
  length : Nat
  deriving DecidableEq, Repr

/-- The longest piece that starts in the first word at `left`. -/
def longestAt (left : Nat) (as : List Char) (right : Nat) : List Char → Piece
  | [] => ⟨left, right, 0⟩
  | b :: bs =>
    let here : Piece := ⟨left, right, commonPrefix as (b :: bs)⟩
    let later := longestAt left as (right + 1) bs
    if later.length ≤ here.length then here else later

def longestFrom (left : Nat) (bs : List Char) : List Char → Piece
  | [] => ⟨left, 0, 0⟩
  | a :: as =>
    let here := longestAt left (a :: as) 0 bs
    let later := longestFrom (left + 1) bs as
    if later.length ≤ here.length then here else later

/-- The longest common piece, and of several the first. -/
def longestPiece (as bs : List Char) : Piece := longestFrom 0 bs as

/-- The number of characters in common. A piece takes at least one character of the first word, so `fuel`
need not exceed that word's length. -/
def commonWithin : (fuel : Nat) → List Char → List Char → Nat
  | 0, _, _ => 0
  | fuel + 1, as, bs =>
    let p := longestPiece as bs
    if p.length = 0 then 0
    else
      commonWithin fuel (as.take p.left) (bs.take p.right) + p.length +
        commonWithin fuel (as.drop (p.left + p.length)) (bs.drop (p.right + p.length))

def common (as bs : List Char) : Nat := commonWithin as.length as bs

def isNear (word other : String) : Bool :=
  3 * (word.length + other.length) ≤ 10 * common other.toList word.toList

/-- The words near another, sorted. -/
def nearWords (words : List String) (word : String) : List String :=
  (words.filter (isNear word)).mergeSort fun a b => decide (a ≤ b)

example : common "--debug".toList "--bogus".toList = 4 ∧ nearWords ["view", "contexts"] "veiw" = ["view"] := by
  decide +kernel

end ClusterAccess.Text
